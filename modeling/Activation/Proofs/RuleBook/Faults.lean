import Activation.Proofs.Json.Oversized
import Activation.Proofs.Rule.FieldFaults
import Activation.Proofs.RuleBook.Acceptance
import Activation.Proofs.Text.Utf8Exact

/-!
# The Classes of Errors as which Files are Refused

A declaration can be refused with an error that is not the library's own: a channel that holds no
entries is refused as values that cannot be iterated are. In documents this does not happen, since
an entry is declared only after its fields have been checked, and the check lets nothing into a
channel that has no entries (`isOwn_of_ofEntry`). So whatever document is refused, it is refused
with an error of the library (`isOwn_of_ofJson`).

Files are another matter. A file whose bytes are no text, and one that holds an integer with too
many digits, are refused before there is a document, and with errors of other classes. These are
the only ones: a file **reports its faults** (`ReportsFaults`) exactly if its bytes are those of a
text and reading the text does not stop at such an integer.

## Main statements

* `isOwn_of_ofJson` — documents are refused with errors of the library.
* `reportsFaults_iff` — which files are, and what comes of the others.
-/

namespace Activation

/-! ### Entries -/

namespace Rule

/-- **An entry is refused with an error of the library.** -/
theorem isOwn_of_ofEntry {members : Entries Json} {fault : EntryFault}
    (h : ofEntry members = .error fault) : fault.errorClass.isOwn = true := by
  obtain ⟨-, hentry⟩ | ⟨-, ⟨r, hentry⟩ | ⟨refusal, hentry, hkinds⟩⟩ := ofEntry_cases members
  · rw [hentry] at h
    cases h
    rfl
  · rw [hentry] at h
    cases h
  · rw [hentry] at h
    cases h
    obtain rfl | rfl | ⟨channel, rfl⟩ := hkinds <;> rfl

end Rule

/-! ### Documents -/

namespace RuleBook

/-- **A document is refused with an error of the library.** -/
theorem isOwn_of_ofJson {document : Json} {fault : Fault} (h : ofJson document = .error fault) :
    fault.errorClass.isOwn = true := by
  rcases ofJson_eq_error_iff.mp h with ⟨_, rfl⟩ | ⟨_, _, _, rfl⟩ | ⟨_, _, _, _, hfirst⟩
  · rfl
  · rfl
  · obtain ⟨before, entry, after, book, -, -, -, hoffends⟩ := hfirst
    cases hoffends with
    | notAnObject | missingId | duplicateId => rfl
    | refused _ _ _ hrefused => exact Rule.isOwn_of_ofEntry hrefused

/-! ### Files -/

/-- Loading a regular file with some bytes **raises** an error of a class. -/
def Raises (path : String) (bytes : List UInt8) (kind : ErrorClass) : Prop :=
  ∃ fault, load path (.regular bytes) = .error fault ∧ fault.errorClass = kind

/-- Some bytes **hold JSON** if they are those of a text, and the text is read as a value. -/
def HoldJson (bytes : List UInt8) : Prop :=
  ∃ text document, bytes = Text.Utf8.encode text ∧
    Json.parse (Text.unifyLineBreaks text) = .ok document

/-- A file **reports its faults** if loading it raises nothing but errors of the library, and
raises a validation error if the file does not hold JSON. -/
def ReportsFaults (path : String) (bytes : List UInt8) : Prop :=
  (∀ kind, Raises path bytes kind → kind.isOwn = true) ∧
    (¬HoldJson bytes → Raises path bytes .validation)

/-- A file raises errors of one class at most. -/
theorem Raises.unique {path : String} {bytes : List UInt8} {a b : ErrorClass}
    (ha : Raises path bytes a) (hb : Raises path bytes b) : a = b := by
  obtain ⟨fault, hfault, rfl⟩ := ha
  obtain ⟨other, hother, rfl⟩ := hb
  cases hfault.symm.trans hother
  rfl

/-- Bytes that are not those of a text are refused by the decoder. -/
theorem raises_unicodeDecode (path : String) {bytes : List UInt8}
    (h : ∀ text, bytes ≠ Text.Utf8.encode text) : Raises path bytes .unicodeDecode := by
  cases hdecode : Text.Utf8.decode bytes with
  | ok text => exact absurd (Text.Utf8.decode_eq_ok_iff.mp hdecode) (h text)
  | error fault => exact ⟨.undecodable fault, by rw [load, ofBytes, hdecode], rfl⟩

/-- What comes of a file whose text has been read. -/
def ofParsed (path : String) : Except Json.Fault Json → Except LoadFault RuleBook
  | .error (.malformed problem position) => .error (.notJson path problem position)
  | .error (.oversized digits) => .error (.oversizedInteger digits)
  | .ok document => (ofJson document).mapError .document

/-- What is loaded from the bytes of a text is decided by what the text is read as. -/
theorem load_encode (path : String) (text : List Char) :
    load path (.regular (Text.Utf8.encode text))
      = ofParsed path (Json.parse (Text.unifyLineBreaks text)) := by
  rw [load, ofBytes, Text.Utf8.decode_encode]
  rfl

/-- A text that is no JSON is refused with a validation error. -/
theorem raises_validation (path : String) {text : List Char} {problem : Json.Problem}
    {position : Json.Position}
    (h : Json.parse (Text.unifyLineBreaks text) = .error (.malformed problem position)) :
    Raises path (Text.Utf8.encode text) .validation :=
  ⟨.notJson path problem position, by rw [load_encode, h, ofParsed], rfl⟩

/-- A text in which an integer has too many digits is refused as a wrong value. -/
theorem raises_value (path : String) {text : List Char} {digits : Nat}
    (h : Json.parse (Text.unifyLineBreaks text) = .error (.oversized digits)) :
    Raises path (Text.Utf8.encode text) .value :=
  ⟨.oversizedInteger digits, by rw [load_encode, h, ofParsed], rfl⟩

/-- A text that is read as a document is refused, if it is, with an error of the library. -/
theorem isOwn_of_raises {path : String} {text : List Char} {document : Json}
    (h : Json.parse (Text.unifyLineBreaks text) = .ok document) {kind : ErrorClass}
    (hraises : Raises path (Text.Utf8.encode text) kind) : kind.isOwn = true := by
  obtain ⟨fault, hfault, rfl⟩ := hraises
  rw [load_encode, h, ofParsed] at hfault
  cases hofJson : ofJson document with
  | ok book =>
      rw [hofJson] at hfault
      cases hfault
  | error refusal =>
      rw [hofJson] at hfault
      cases hfault
      exact isOwn_of_ofJson hofJson

/-- A text at which the reader does not stop for an integer reports its faults. -/
theorem reportsFaults_of_text (path : String) {text : List Char}
    (h : ∀ digits, Json.parse (Text.unifyLineBreaks text) ≠ .error (.oversized digits)) :
    ReportsFaults path (Text.Utf8.encode text) := by
  cases hparse : Json.parse (Text.unifyLineBreaks text) with
  | ok document =>
      have hholds : HoldJson (Text.Utf8.encode text) := ⟨text, document, rfl, hparse⟩
      exact ⟨fun _ => isOwn_of_raises hparse, fun hnone => absurd hholds hnone⟩
  | error stop =>
      cases stop with
      | oversized digits => exact absurd hparse (h digits)
      | malformed problem position =>
          have hraises := raises_validation path hparse
          exact ⟨fun kind hkind => hkind.unique hraises ▸ rfl, fun _ => hraises⟩

/-- **Which files report their faults.** Loading a file raises nothing but errors of the library,
and a validation error for what is not JSON, exactly if the bytes of the file are those of a text
and reading the text does not stop at an integer with too many digits. Bytes that are not those of a
text raise the error of the decoder instead. Where reading stops at an integer, the text holds as
many digits in a row as the fault says, which is more than are allowed, and the error is that of a
wrong value; and so it is for every numeral of too many digits that has no zero in front. -/
theorem reportsFaults_iff (path : String) (bytes : List UInt8) :
    (ReportsFaults path bytes ↔ ∃ text, bytes = Text.Utf8.encode text ∧
      ∀ digits, Json.parse (Text.unifyLineBreaks text) ≠ .error (.oversized digits)) ∧
    ((∀ text, bytes ≠ Text.Utf8.encode text) → Raises path bytes .unicodeDecode) ∧
    (∀ text digits, bytes = Text.Utf8.encode text →
      Json.parse (Text.unifyLineBreaks text) = .error (.oversized digits) →
        Raises path bytes .value ∧ Json.maxDigits < digits ∧
          ∃ numeral, numeral <:+: Text.unifyLineBreaks text ∧ numeral.length = digits ∧
            ∀ c ∈ numeral, c.isDigit = true) ∧
    (∀ c rest, c ≠ '0' → (∀ d ∈ c :: rest, d.isDigit = true) →
      Json.maxDigits < (c :: rest).length → bytes = Text.Utf8.encode (c :: rest) →
        Raises path bytes .value) := by
  refine ⟨⟨?_, ?_⟩, raises_unicodeDecode path, ?_, ?_⟩
  · rintro ⟨hown, -⟩
    by_cases htext : ∃ text, bytes = Text.Utf8.encode text
    · obtain ⟨text, rfl⟩ := htext
      refine ⟨text, rfl, fun digits hparse => ?_⟩
      exact absurd (hown _ (raises_value path hparse)) (by decide)
    · have hraises := raises_unicodeDecode path (not_exists.mp htext)
      exact absurd (hown _ hraises) (by decide)
  · rintro ⟨text, rfl, h⟩
    exact reportsFaults_of_text path h
  · rintro text digits rfl h
    exact ⟨raises_value path h, Json.exists_digits_of_parse h⟩
  · rintro c rest hc hdigits hlong rfl
    have hplain : Text.unifyLineBreaks (c :: rest) = c :: rest :=
      Text.unifyLineBreaks_of_not_mem fun hmem => absurd (hdigits _ hmem) (by decide)
    have hparse : Json.parse (Text.unifyLineBreaks (c :: rest))
        = .error (.oversized (c :: rest).length) := by
      rw [hplain]
      exact Json.parse_of_digits hc hdigits hlong
    exact raises_value path hparse

/-- A numeral with one digit too many is refused as a wrong value, although the bytes are those of a
text, while a file with an empty object is read as a book without rules. -/
theorem reportsFaults_iff_longNumeral :
    let numeral := '1' :: List.replicate 4300 '1'
    Raises "rules.json" (Text.Utf8.encode numeral) .value ∧
      ¬ReportsFaults "rules.json" (Text.Utf8.encode numeral) ∧
      ReportsFaults "rules.json" (Text.Utf8.encode ['\x7b', '\x7d']) := by
  intro numeral
  have hdigits : ∀ d ∈ numeral, d.isDigit = true := by
    intro d hd
    obtain rfl | hd := List.mem_cons.mp hd
    · rfl
    · rw [List.eq_of_mem_replicate hd]
      rfl
  have hlong : Json.maxDigits < numeral.length := by
    rw [List.length_cons, List.length_replicate]
    decide
  obtain ⟨-, -, -, hnumeral⟩ := reportsFaults_iff "rules.json" (Text.Utf8.encode numeral)
  have hraises := hnumeral '1' _ (by decide) hdigits hlong rfl
  refine ⟨hraises, fun h => absurd (h.1 _ hraises) (by decide), ?_⟩
  obtain ⟨hiff, -⟩ := reportsFaults_iff "rules.json" (Text.Utf8.encode ['\x7b', '\x7d'])
  refine hiff.mpr ⟨['\x7b', '\x7d'], rfl, fun digits hparse => ?_⟩
  have hportable : (Json.object []).Portable := .object List.nodup_nil nofun
  have hread : Json.parse (Text.unifyLineBreaks ['\x7b', '\x7d']) = .ok (.object []) :=
    Json.parse_write hportable
  cases hread.symm.trans hparse

/-- A file that holds a single byte which no text has does not report that it is not JSON. -/
theorem not_reportsFaults_badByte : ¬ReportsFaults "rules.json" [0xFF] := by
  rintro ⟨hown, -⟩
  have hraises : Raises "rules.json" [0xFF] .unicodeDecode := ⟨_, rfl, rfl⟩
  exact absurd (hown _ hraises) (by decide)

end RuleBook

end Activation
