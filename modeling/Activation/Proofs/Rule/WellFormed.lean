import Activation.Proofs.Rule.Scope
import Activation.Rule.Entry

/-!
# Which Rules can be Declared

A rule comes from a declaration, from names given by themselves, or from an entry of a document
(`Declared`). Whichever it is, its names have been stripped and are not empty, there is at least
one of them, its scope is in normal form, and its expected value is not the empty text
(`WellFormed`). Nothing is demanded of its flags.

The names of a declaration are read twice, the second time when the rule is built from them. Names
that have been read are names as they stand, so a declaration comes to the same with its names read
once (`validate_eq`), and this is the form in which declarations are taken apart below.

The conditions are exact. A well-formed rule is what its own parts declare, read once more
(`declare_attributes`), because stripping and bringing into normal form change nothing the second
time.

## Main statements

* `validate_eq` — a declaration with its names read once.
* `validate_attributesThrough` — a well-formed rule is declared by its own parts, through either
  channel.
* `declare_attributes` — a well-formed rule is declared by its own attributes.
* `declared_iff_wellFormed` — the rules that can be declared are the well-formed ones.
-/

namespace Activation.Rule

/-- A rule that is the outcome of a declaration, of names given by themselves, or of an entry. -/
inductive Declared : Rule → Prop
  | ofValidate {owner : String} {a : Attributes} {r : Rule} (h : validate owner a = .ok r) :
      Declared r
  | ofDeclare {a : Attributes} {r : Rule} (h : declare a = .ok r) : Declared r
  | ofNames {names : Json} {o : Options} {r : Rule} (h : ofNames names o = .ok r) : Declared r
  | ofEntry {members : Entries Json} {r : Rule} (h : ofEntry members = .ok r) : Declared r

/-- A text that is a property name as it stands: stripped, and not empty. -/
structure ProperName (name : String) : Prop where
  stripped : Text.stripped name = name
  ne_empty : name ≠ ""

/-- A rule whose parts are as a declaration leaves them. -/
structure WellFormed (r : Rule) : Prop where
  names_ne_nil : r.names ≠ []
  properName : ∀ name ∈ r.names, ProperName name
  scope : normalScope r.scope = r.scope
  expected : r.expected ≠ some ""

/-! ### What the readers accept -/

/-- A sequence of two steps succeeds exactly if the first does and the second does on its
outcome. -/
theorem bind_eq_ok {ε α β : Type} {x : Except ε α} {f : α → Except ε β} {b : β} :
    (x >>= f) = .ok b ↔ ∃ a, x = .ok a ∧ f a = .ok b := by
  cases x with
  | error e =>
      constructor
      · intro h
        cases h
      · rintro ⟨a, h, -⟩
        cases h
  | ok a =>
      constructor
      · intro h
        exact ⟨a, rfl, h⟩
      · rintro ⟨a', h, hf⟩
        cases h
        exact hf

/-- A sequence of two steps fails where the first does, or the second on its outcome. -/
theorem bind_eq_error {ε α β : Type} {x : Except ε α} {f : α → Except ε β} {e : ε} :
    (x >>= f) = .error e ↔ x = .error e ∨ ∃ a, x = .ok a ∧ f a = .error e := by
  cases x with
  | error e' =>
      constructor
      · intro h
        cases h
        exact .inl rfl
      · rintro (h | ⟨a, h, -⟩)
        · cases h
          rfl
        · cases h
  | ok a =>
      constructor
      · intro h
        exact .inr ⟨a, rfl, h⟩
      · rintro (h | ⟨a', h, hf⟩)
        · cases h
        · cases h
          exact hf

/-- An entry that is read as a name is a text, and the name is that text stripped. -/
theorem readName_eq_ok {channel : Channel} {entry : Json} {name : String} :
    readName channel entry = .ok name ↔
      ∃ s, entry = .text s ∧ Text.stripped s = name ∧ name ≠ "" := by
  constructor
  · intro h
    cases entry with
    | text s =>
        rw [readName] at h
        split at h
        · cases h
        · rename_i hs
          cases h
          exact ⟨s, rfl, rfl, hs⟩
    | null | bool b | integer n | real x | list items | object members => cases h
  · rintro ⟨s, rfl, rfl, hs⟩
    exact if_neg hs

/-- What is read as a name is a name as it stands. -/
theorem properName_of_readName {channel : Channel} {entry : Json} {name : String}
    (h : readName channel entry = .ok name) : ProperName name := by
  obtain ⟨s, -, rfl, hs⟩ := readName_eq_ok.mp h
  exact ⟨Text.stripped_stripped s, hs⟩

/-- What some entries are read as are names as they stand. -/
theorem properName_of_readNames {channel : Channel} {entries : List Json} {names : List String}
    (h : readNames channel entries = .ok names) : ∀ name ∈ names, ProperName name := by
  induction entries generalizing names with
  | nil =>
      cases h
      simp
  | cons entry rest ih =>
      obtain ⟨name, hname, h⟩ := bind_eq_ok.mp h
      obtain ⟨more, hmore, h⟩ := bind_eq_ok.mp h
      cases h
      rintro n (_ | ⟨_, hn⟩)
      · exact properName_of_readName hname
      · exact ih hmore n hn

/-- Where there are entries, there are names. -/
theorem ne_nil_of_readNames {channel : Channel} {entries : List Json} {names : List String}
    (hne : entries ≠ []) (h : readNames channel entries = .ok names) : names ≠ [] := by
  cases entries with
  | nil => exact absurd rfl hne
  | cons entry rest =>
      obtain ⟨name, -, h⟩ := bind_eq_ok.mp h
      obtain ⟨more, -, h⟩ := bind_eq_ok.mp h
      cases h
      exact List.cons_ne_nil name more

/-- Names that are names as they stand are read back. -/
theorem readNames_map_text (channel : Channel) {names : List String}
    (h : ∀ name ∈ names, ProperName name) :
    readNames channel (names.map .text) = .ok names := by
  induction names with
  | nil => rfl
  | cons name rest ih =>
      have hname : readName channel (.text name) = .ok name :=
        readName_eq_ok.mpr ⟨name, rfl, (h name List.mem_cons_self).stripped,
          (h name List.mem_cons_self).ne_empty⟩
      have hrest := ih fun n hn => h n (List.mem_cons_of_mem _ hn)
      rw [List.map_cons, readNames, hname, hrest]
      rfl

/-- The scope that a declaration gives is in normal form. -/
theorem normalScope_of_readScope {value : Json} {scope : String}
    (h : readScope value = .ok scope) : normalScope scope = scope := by
  cases value with
  | text s =>
      cases h
      exact normalScope_normalScope s
  | null | bool b | integer n | real x | list items | object members => cases h

/-- The expected value that a declaration gives is not the empty text. -/
theorem ne_empty_of_readExpected {value : Json} {expected : Option String}
    (h : readExpected value = .ok expected) : expected ≠ some "" := by
  cases value with
  | null =>
      cases h
      exact (Option.some_ne_none "").symm
  | text s =>
      rw [readExpected] at h
      cases h
      split
      · exact (Option.some_ne_none "").symm
      · rename_i hs
        exact fun heq => hs (Option.some.inj heq)
  | bool b | integer n | real x | list items | object members => cases h

/-- Names as they stand and options that are accepted make a well-formed rule with these names
and flags. -/
theorem wellFormed_of_withNames {names : List String} {o : Options} {r : Rule}
    (hne : names ≠ []) (hproper : ∀ name ∈ names, ProperName name)
    (h : withNames names o = .ok r) : WellFormed r := by
  obtain ⟨scope, hscope, h⟩ := bind_eq_ok.mp h
  obtain ⟨expected, hexpected, h⟩ := bind_eq_ok.mp h
  cases h
  exact ⟨hne, hproper, normalScope_of_readScope hscope, ne_empty_of_readExpected hexpected⟩

/-! ### Names that are read again -/

/-- **Names that have been read are read again as they are**, so the rule built from them has these
names. -/
theorem ofNames_of_readNames {channel : Channel} {entries : List Json} {names : List String}
    (hne : entries ≠ []) (h : readNames channel entries = .ok names) (o : Options) :
    ofNames (.list (names.map .text)) o = withNames names o := by
  rw [ofNames]
  change (readNames .name (names.map .text) >>= _) = _
  rw [readNames_map_text .name (properName_of_readNames h)]
  cases names with
  | nil => exact absurd rfl (ne_nil_of_readNames hne h)
  | cons name rest => rfl

/-- Reading entries as names and building a rule from these is reading them and adding the
options. -/
theorem readNames_bind_ofNames (channel : Channel) {entries : List Json} (hne : entries ≠ [])
    (o : Options) :
    (readNames channel entries >>= fun names => ofNames (.list (names.map .text)) o)
      = readNames channel entries >>= fun names => withNames names o := by
  cases hnames : readNames channel entries with
  | error fault => rfl
  | ok names => exact ofNames_of_readNames hne hnames o

/-- **A declaration with its names read once.** No fault is left for the second reading to find. -/
theorem validate_eq (owner : String) (a : Attributes) :
    validate owner a = (do
      let names ← entries a.name
      let values ← entries a.value
      match names, values with
      | _ :: _, _ :: _ => throw (.conflicting owner)
      | [], [] => throw (.missing owner)
      | _ :: _, [] => withNames (← readNames .name names) a.toOptions
      | [], _ :: _ => withNames (← readNames .value values) a.toOptions) := by
  rw [validate]
  congr 1
  funext names
  congr 1
  funext values
  rcases names with _ | ⟨name, names⟩ <;> rcases values with _ | ⟨value, values⟩
  · rfl
  · exact readNames_bind_ofNames .value (List.cons_ne_nil value values) a.toOptions
  · exact readNames_bind_ofNames .name (List.cons_ne_nil name names) a.toOptions
  · rfl

/-! ### The ways to a rule -/

/-- Names that are accepted by themselves make a well-formed rule. -/
theorem wellFormed_of_ofNames {names : Json} {o : Options} {r : Rule}
    (h : ofNames names o = .ok r) : WellFormed r := by
  obtain ⟨entries, -, h⟩ := bind_eq_ok.mp h
  obtain ⟨names, hnames, h⟩ := bind_eq_ok.mp h
  rcases names with _ | ⟨name, more⟩
  · cases h
  · exact wellFormed_of_withNames (List.cons_ne_nil name more) (properName_of_readNames hnames) h

/-- A declaration that is accepted makes a well-formed rule, since it builds it from names. -/
theorem wellFormed_of_validate {owner : String} {a : Attributes} {r : Rule}
    (h : validate owner a = .ok r) : WellFormed r := by
  obtain ⟨names, -, h⟩ := bind_eq_ok.mp h
  obtain ⟨values, -, h⟩ := bind_eq_ok.mp h
  rcases names with _ | ⟨name, names⟩ <;> rcases values with _ | ⟨value, values⟩
  · cases h
  · obtain ⟨found, -, h⟩ := bind_eq_ok.mp h
    exact wellFormed_of_ofNames h
  · obtain ⟨found, -, h⟩ := bind_eq_ok.mp h
    exact wellFormed_of_ofNames h
  · cases h

/-- An entry that is accepted has no faulty field and declares the rule. -/
theorem declare_of_ofEntry {members : Entries Json} {r : Rule} (h : ofEntry members = .ok r) :
    fieldFaults members = [] ∧ declare (entryAttributes members) = .ok r := by
  rw [ofEntry] at h
  split at h
  · rename_i hfaults
    refine ⟨hfaults, ?_⟩
    rcases hdeclare : declare (entryAttributes members) with fault | s
    · rw [hdeclare] at h
      cases h
    · rw [hdeclare] at h
      cases h
      rfl
  · cases h

/-- **Every rule that can be declared is well-formed.** -/
theorem wellFormed_of_declared {r : Rule} (h : Declared r) : WellFormed r := by
  cases h with
  | ofValidate h => exact wellFormed_of_validate h
  | ofDeclare h => exact wellFormed_of_validate h
  | ofNames h => exact wellFormed_of_ofNames h
  | ofEntry h => exact wellFormed_of_validate (declare_of_ofEntry h).2

/-! ### A rule as its own declaration -/

/-- The expected value of a rule as a value to declare. -/
def expectedJson (r : Rule) : Json :=
  r.expected.elim .null .text

/-- The declaration that the parts of a rule make up, with its names in a list. -/
def attributes (r : Rule) : Attributes where
  name := .list (r.names.map .text)
  value := .null
  scope := .text r.scope
  expected := r.expectedJson
  ifMissing := r.ifMissing
  relaxed := r.relaxed

/-- The expected value of a well-formed rule is read back. -/
theorem readExpected_expectedJson {r : Rule} (h : WellFormed r) :
    readExpected r.expectedJson = .ok r.expected := by
  rcases hexpected : r.expected with _ | s
  · rw [expectedJson, hexpected]
    rfl
  · have hs : s ≠ "" := fun hs => h.expected (by rw [hexpected, hs])
    rw [expectedJson, hexpected]
    change Except.ok (if s = "" then none else some s) = _
    rw [if_neg hs]

/-- The options that the parts of a rule make up. -/
def options (r : Rule) : Options where
  scope := .text r.scope
  expected := r.expectedJson
  ifMissing := r.ifMissing
  relaxed := r.relaxed

/-- The declaration that the parts of a rule make up, with its names in one channel and some other
value in the other one. -/
def attributesThrough (r : Rule) (channel : Channel) (other : Json) : Attributes :=
  match channel with
  | .name => { toOptions := r.options, name := .list (r.names.map .text), value := other }
  | .value => { toOptions := r.options, name := other, value := .list (r.names.map .text) }

/-- The names and the options of a well-formed rule make it up again. -/
theorem withNames_options {r : Rule} (h : WellFormed r) : withNames r.names r.options = .ok r := by
  refine bind_eq_ok.mpr ⟨r.scope, congrArg Except.ok h.scope, ?_⟩
  exact bind_eq_ok.mpr ⟨r.expected, readExpected_expectedJson h, rfl⟩

/-- **A well-formed rule is declared by its own parts**, through either channel, if nothing is
declared through the other. -/
theorem validate_attributesThrough {r : Rule} (h : WellFormed r) (owner : String)
    (channel : Channel) {other : Json} (hother : entries other = .ok []) :
    validate owner (r.attributesThrough channel other) = .ok r := by
  obtain ⟨name, more, hcons⟩ := List.exists_cons_of_ne_nil h.names_ne_nil
  have hlist : entries (.list (r.names.map .text)) = .ok (.text name :: more.map .text) := by
    rw [hcons]
    rfl
  have hnames : readNames channel (.text name :: more.map .text) = .ok r.names := by
    rw [← List.map_cons, ← hcons]
    exact readNames_map_text channel h.properName
  have hrule : (readNames channel (.text name :: more.map .text) >>= fun names =>
      withNames names r.options) = .ok r :=
    bind_eq_ok.mpr ⟨r.names, hnames, withNames_options h⟩
  rw [validate_eq]
  cases channel with
  | name => exact bind_eq_ok.mpr ⟨_, hlist, bind_eq_ok.mpr ⟨_, hother, hrule⟩⟩
  | value => exact bind_eq_ok.mpr ⟨_, hother, bind_eq_ok.mpr ⟨_, hlist, hrule⟩⟩

/-- **A well-formed rule is declared by its own attributes.** -/
theorem declare_attributes {r : Rule} (h : WellFormed r) : declare r.attributes = .ok r :=
  validate_attributesThrough h defaultOwner .name rfl

/-- **The rules that can be declared are the well-formed ones.** -/
theorem declared_iff_wellFormed {r : Rule} : Declared r ↔ WellFormed r :=
  ⟨wellFormed_of_declared, fun h => .ofDeclare (declare_attributes h)⟩

end Activation.Rule
