import Activation.Proofs.Json.RoundTrip
import Activation.Proofs.RuleBook.Acceptance
import Activation.Proofs.Text.Utf8

/-!
# Rule Books Loaded from Files

A file is loaded in four stages: the bytes are decoded, the line breaks made uniform, the text read
as JSON, and the value read as a rule book. If the file holds the bytes of the compact text of a
portable value, then each of the first three gives back what the next one is about: the bytes are
those of the text, the text has no line breaks, and it is the text of the value. So loading the file
comes to reading the value, in every respect, and neither the path nor the shape of the text has any
part in it.

## Main statements

* `load_encode_write` — what comes of loading the bytes of a document.
* `readPath_encode_write` — loading a file that holds a document is reading the document.
-/

namespace Activation.RuleBook

/-- **Loading the bytes of a portable document** comes to the book of the document, or to its
fault. -/
theorem load_encode_write {document : Json} (h : Json.Portable document) (path : String) :
    load path (.regular (Text.Utf8.encode document.write))
      = (ofJson document).mapError .document := by
  rw [load, ofBytes, Text.Utf8.decode_encode]
  dsimp only
  rw [Json.unifyLineBreaks_write h, Json.parse_write h]

/-- A reading whose faults are told in another way has the same log. -/
theorem ofOutcome_mapError {ε δ : Type} (tell : ε → δ) (outcome : Except ε RuleBook) :
    Reading.ofOutcome (outcome.mapError tell)
      = ⟨(Reading.ofOutcome outcome).outcome.mapError tell, (Reading.ofOutcome outcome).log⟩ := by
  cases outcome with
  | ok book => rfl
  | error fault => rfl

/-- **Loading a file that holds a document is reading the document.** Let a file hold the bytes of
the compact text of a portable value. Loading it gives the same rules in the same order and the same
log as reading the value does, or it is refused for the fault for which the value is refused, with
an error of the same class, the same message and the same single faults. -/
theorem readPath_encode_write {document : Json} (h : Json.Portable document) (path : String) :
    let reading := read document
    let loading := readPath path (.regular (Text.Utf8.encode document.write))
    loading.outcome = reading.outcome.mapError .document ∧ loading.log = reading.log ∧
      ∀ fault : Fault, (LoadFault.document fault).errorClass = fault.errorClass ∧
        (LoadFault.document fault).message = fault.message ∧
        (LoadFault.document fault).details = fault.details := by
  intro reading loading
  have hloading : loading = ⟨reading.outcome.mapError .document, reading.log⟩ := by
    show readPath path _ = _
    rw [readPath, load_encode_write h, ofOutcome_mapError]
    rfl
  rw [hloading]
  exact ⟨rfl, rfl, fun fault => ⟨rfl, rfl, rfl⟩⟩

/-- A document with an accent and with characters that have to be escaped is loaded from its file up
to the second entry, which has a negative number for an identifier. -/
theorem readPath_encode_write_missingId :
    let first : Json := .object [("id", .text "caché"), ("name", .list [.text "a\"b\\c\x01"])]
    let second : Json := .object [("id", .integer (-12)), ("value", .null)]
    let document : Json := .object [("rules", .list [first, second])]
    let loading := readPath "rules.json" (.regular (Text.Utf8.encode document.write))
    document.Portable ∧ loading.log = [] ∧ ∃ fault, loading.outcome = .error fault ∧
      fault.errorClass = .validation ∧ fault.message = "Invalid rule at index 1: missing id" ∧
      fault.details = [entryDetail 1 (some "id") "required"] := by
  intro first second document loading
  have hfirst : first.Portable := .object (by decide) (List.forall_mem_cons.mpr
    ⟨.text _, List.forall_mem_singleton.mpr (.list (List.forall_mem_singleton.mpr (.text _)))⟩)
  have hsecond : second.Portable := .object (by decide) (List.forall_mem_cons.mpr
    ⟨.integer (by decide), List.forall_mem_singleton.mpr .null⟩)
  have hportable : document.Portable := .object (by decide) (List.forall_mem_singleton.mpr
    (.list (List.forall_mem_cons.mpr ⟨hfirst, List.forall_mem_singleton.mpr hsecond⟩)))
  have hread : read document = ⟨.error (.missingId 1), []⟩ := by
    have hfields : Rule.fieldFaults [("id", .text "caché"), ("name", .list [.text "a\"b\\c\x01"])]
        = [] := by decide +kernel
    have hadd : addEntry [] 0 first
        = .ok [("caché", ⟨["a\"b\\c\x01"], "", none, .bool false, .bool true⟩)] :=
      addEntry_eq_ok_iff.mpr ⟨_, ⟨_, rfl, rfl, by decide, by rw [Rule.ofEntry, hfields]; rfl⟩,
        List.not_mem_nil, rfl⟩
    have hofJson : ofJson document = .error (.missingId 1) := by
      change addEntries [] 0 [first, second] = _
      rw [addEntries, hadd]
      rfl
    rw [read, hofJson]
    rfl
  obtain ⟨houtcome, hlog, htold⟩ := readPath_encode_write hportable "rules.json"
  rw [hread] at houtcome hlog
  exact ⟨hportable, hlog, _, houtcome, htold (.missingId 1)⟩

end Activation.RuleBook
