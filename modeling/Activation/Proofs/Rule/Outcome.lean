import Mathlib.Data.List.Forall2
import Activation.Proofs.Rule.WellFormed

/-!
# Outcomes of Declarations

A declaration can have several faults at once, and the first of them in a fixed order is what it is
refused for: a channel that is a single value and cannot hold entries, both channels populated,
neither of them, an entry that names nothing, the scope, the expected value. The **outcome** of a
declaration (`Outcome`) says this without running the declaration. Each of its cases is about
declarations to which the cases before it do not apply, and each says what it is charged with, or
which rule is declared.

Declaring is split over several readers, and each of them is accounted for by what it accepts and
what it refuses. The names that a declaration has read are read once more when the rule is built
from them. That changes nothing, because the names that have been read are names as they stand
(`ofNames_of_forall₂_names`); so a fault with another owner than that of the declaration cannot
arise there.

## Main statements

* `readNames_eq_ok_iff`, `readNames_eq_error_iff` — the entries of a channel.
* `withNames_eq_ok_iff`, `withNames_eq_error_iff` — the scope and the expected value.
* `validate_eq_iff` — a declaration and its outcome.
-/

namespace Activation.Rule

/-- A single value, which can hold no entries: a truth value or a number. -/
def Scalar (value : Json) : Prop :=
  value.kind = .bool ∨ value.kind = .integer ∨ value.kind = .real

/-- A channel is **populated** with some entries: a text that is not empty with itself, a list that
is not empty with its items, and an object that is not empty with its keys. -/
inductive Populated : Json → List Json → Prop
  | text {s : String} (h : s ≠ "") : Populated (.text s) [.text s]
  | list {items : List Json} (h : items ≠ []) : Populated (.list items) items
  | object {members : List (String × Json)} (h : members ≠ []) :
      Populated (.object members) (members.map fun m => .text m.1)

/-- A channel through which nothing is declared: null, or an empty text, list, or object. -/
def Unpopulated (value : Json) : Prop :=
  ¬Scalar value ∧ ∀ items, ¬Populated value items

/-- An entry **names** what it is when stripped, if that is not empty. -/
def Names (entry : Json) (name : String) : Prop :=
  ∃ s, entry = .text s ∧ Text.stripped s = name ∧ name ≠ ""

/-- An entry of a channel that names nothing, and the fault that it is charged with. -/
inductive NamesNothing (channel : Channel) : Json → Fault → Prop
  | notText {entry : Json} (h : entry.kind ≠ .text) :
      NamesNothing channel entry (.notText channel entry.kind)
  | blank {s : String} (h : Text.stripped s = "") :
      NamesNothing channel (.text s) (.blankName channel)

/-- The first entry of a channel that names nothing, and its fault. -/
def FirstNameless (channel : Channel) (items : List Json) (fault : Fault) : Prop :=
  ∃ before entry after names, items = before ++ entry :: after ∧
    List.Forall₂ Names before names ∧ NamesNothing channel entry fault

/-- What is declared through a channel. -/
def Attributes.through (a : Attributes) : Channel → Json
  | .name => a.name
  | .value => a.value

/-- The other one of the two channels. -/
def Channel.other : Channel → Channel
  | .name => .value
  | .value => .name

/-- A declaration **chooses** the channel that is populated if the other one is not. -/
def Chooses (a : Attributes) (channel : Channel) (items : List Json) : Prop :=
  Populated (a.through channel) items ∧ Unpopulated (a.through channel.other)

/-- An expected value: none if it is null or an empty text, and any other text itself. -/
def Expects (value : Json) (expected : Option String) : Prop :=
  value = .null ∧ expected = none ∨
    ∃ s, value = .text s ∧ expected = if s = "" then none else some s

/-- The **outcome** of a declaration with an owner. The cases stand in the order of precedence, and
no two of them apply to the same declaration. -/
inductive Outcome (owner : String) (a : Attributes) : Except Fault Rule → Prop
  | scalarName (h : Scalar a.name) : Outcome owner a (.error (.notIterable a.name.kind))
  | scalarValue (hname : ¬Scalar a.name) (h : Scalar a.value) :
      Outcome owner a (.error (.notIterable a.value.kind))
  | conflicting {names values : List Json} (hname : Populated a.name names)
      (hvalue : Populated a.value values) : Outcome owner a (.error (.conflicting owner))
  | missing (hname : Unpopulated a.name) (hvalue : Unpopulated a.value) :
      Outcome owner a (.error (.missing owner))
  | nameless {channel : Channel} {items : List Json} {fault : Fault}
      (hchannel : Chooses a channel items) (h : FirstNameless channel items fault) :
      Outcome owner a (.error fault)
  | badScope {channel : Channel} {items : List Json} {names : List String}
      (hchannel : Chooses a channel items) (hnames : List.Forall₂ Names items names)
      (h : a.scope.kind ≠ .text) : Outcome owner a (.error (.badScope a.scope))
  | badExpected {channel : Channel} {items : List Json} {names : List String} {scope : String}
      (hchannel : Chooses a channel items) (hnames : List.Forall₂ Names items names)
      (hscope : a.scope = .text scope) (h : a.expected.kind ≠ .null ∧ a.expected.kind ≠ .text) :
      Outcome owner a (.error (.badExpected a.expected))
  | rule {channel : Channel} {items : List Json} {names : List String} {scope : String}
      {expected : Option String} (hchannel : Chooses a channel items)
      (hnames : List.Forall₂ Names items names) (hscope : a.scope = .text scope)
      (hexpected : Expects a.expected expected) :
      Outcome owner a (.ok ⟨names, normalScope scope, expected, a.ifMissing, a.relaxed⟩)

/-! ### The entries of a channel -/

/-- A populated channel is not a single value. -/
theorem Populated.not_scalar {value : Json} {items : List Json} (h : Populated value items) :
    ¬Scalar value := by
  cases h <;> exact fun hscalar => by simp [Scalar, Json.kind] at hscalar

/-- Through null nothing is declared. -/
theorem unpopulated_null : Unpopulated .null :=
  ⟨fun h => by simp [Scalar, Json.kind] at h, nofun⟩

/-- A populated channel has an entry. -/
theorem Populated.ne_nil {value : Json} {items : List Json} (h : Populated value items) :
    items ≠ [] := by
  cases h with
  | text h => exact List.cons_ne_nil _ _
  | list h => exact h
  | object h => exact fun hnil => h (List.map_eq_nil_iff.mp hnil)

/-- A channel has no entries to give exactly if it is a single value. -/
theorem entries_eq_error_iff {value : Json} {fault : Fault} :
    entries value = .error fault ↔ Scalar value ∧ fault = .notIterable value.kind := by
  cases value with
  | null | text s | list items | object members =>
      exact iff_of_false nofun fun h => by simp [Scalar, Json.kind] at h
  | bool b | integer n | real x =>
      constructor
      · intro h
        cases h
        exact ⟨by simp [Scalar, Json.kind], rfl⟩
      · rintro ⟨-, rfl⟩
        rfl

/-- A channel gives the entries with which it is populated. -/
theorem entries_of_populated {value : Json} {items : List Json} (h : Populated value items) :
    entries value = .ok items := by
  cases h with
  | text h => exact congrArg Except.ok (if_neg h)
  | list h => rfl
  | object h => rfl

/-- A channel through which nothing is declared gives no entries. -/
theorem entries_of_unpopulated {value : Json} (h : Unpopulated value) :
    entries value = .ok [] := by
  cases value with
  | null => rfl
  | text s =>
      by_cases hs : s = ""
      · exact congrArg Except.ok (if_pos hs)
      · exact absurd (.text hs) (h.2 _)
  | list items =>
      by_cases hitems : items = []
      · rw [hitems]
        rfl
      · exact absurd (.list hitems) (h.2 _)
  | object members =>
      by_cases hmembers : members = []
      · rw [hmembers]
        rfl
      · exact absurd (.object hmembers) (h.2 _)
  | bool b | integer n | real x => exact absurd (by simp [Scalar, Json.kind]) h.1

/-- A channel is a single value, populated, or neither. -/
theorem channel_cases (value : Json) :
    Scalar value ∨ (∃ items, Populated value items) ∨ Unpopulated value := by
  by_cases hscalar : Scalar value
  · exact .inl hscalar
  · by_cases hpopulated : ∃ items, Populated value items
    · exact .inr (.inl hpopulated)
    · exact .inr (.inr ⟨hscalar, not_exists.mp hpopulated⟩)

/-! ### Names -/

/-- An entry is refused exactly if it names nothing. -/
theorem readName_eq_error_iff {channel : Channel} {entry : Json} {fault : Fault} :
    readName channel entry = .error fault ↔ NamesNothing channel entry fault := by
  constructor
  · intro h
    cases entry with
    | text s =>
        rw [readName] at h
        split at h
        · rename_i hs
          cases h
          exact .blank hs
        · cases h
    | null | bool b | integer n | real x | list items | object members =>
        cases h
        exact .notText (by simp [Json.kind])
  · intro h
    cases h with
    | notText h =>
        cases entry with
        | text s => exact absurd rfl h
        | null | bool b | integer n | real x | list items | object members => rfl
    | blank h => exact if_pos h

/-- Entries are read as what they name. -/
theorem readNames_eq_ok_iff {channel : Channel} {items : List Json} {names : List String} :
    readNames channel items = .ok names ↔ List.Forall₂ Names items names := by
  induction items generalizing names with
  | nil =>
      rw [List.forall₂_nil_left_iff]
      exact ⟨fun h => (Except.ok.inj h).symm, fun h => h ▸ rfl⟩
  | cons entry rest ih =>
      rw [List.forall₂_cons_left_iff]
      constructor
      · intro h
        obtain ⟨name, hname, h⟩ := bind_eq_ok.mp h
        obtain ⟨more, hmore, h⟩ := bind_eq_ok.mp h
        cases h
        exact ⟨name, more, readName_eq_ok.mp hname, ih.mp hmore, rfl⟩
      · rintro ⟨name, more, hname, hmore, rfl⟩
        exact bind_eq_ok.mpr ⟨name, readName_eq_ok.mpr hname,
          bind_eq_ok.mpr ⟨more, ih.mpr hmore, rfl⟩⟩

/-- **Entries are refused for the first of them that names nothing.** -/
theorem readNames_eq_error_iff {channel : Channel} {items : List Json} {fault : Fault} :
    readNames channel items = .error fault ↔ FirstNameless channel items fault := by
  induction items with
  | nil =>
      refine iff_of_false nofun ?_
      rintro ⟨before, entry, after, names, heq, -⟩
      exact List.append_ne_nil_of_right_ne_nil before (List.cons_ne_nil entry after) heq.symm
  | cons entry rest ih =>
      constructor
      · intro h
        obtain hname | ⟨name, hname, h⟩ := bind_eq_error.mp h
        · exact ⟨[], entry, rest, [], rfl, .nil, readName_eq_error_iff.mp hname⟩
        · obtain hrest | ⟨names, -, h⟩ := bind_eq_error.mp h
          · obtain ⟨before, nameless, after, names, rfl, hbefore, hfault⟩ := ih.mp hrest
            exact ⟨entry :: before, nameless, after, name :: names, rfl,
              .cons (readName_eq_ok.mp hname) hbefore, hfault⟩
          · cases h
      · rintro ⟨before, nameless, after, names, heq, hbefore, hfault⟩
        cases hbefore with
        | nil =>
            cases heq
            exact bind_eq_error.mpr (.inl (readName_eq_error_iff.mpr hfault))
        | cons hname hbefore =>
            cases heq
            refine bind_eq_error.mpr (.inr ⟨_, readName_eq_ok.mpr hname, ?_⟩)
            refine bind_eq_error.mpr (.inl (ih.mpr ?_))
            exact ⟨_, nameless, after, _, rfl, hbefore, hfault⟩

/-- A rule built from names that entries name has these names. -/
theorem ofNames_of_forall₂_names {items : List Json} {names : List String} (hne : items ≠ [])
    (h : List.Forall₂ Names items names) (o : Options) :
    ofNames (.list (names.map .text)) o = withNames names o := by
  have hread : readNames .name items = .ok names := readNames_eq_ok_iff.mpr h
  exact ofNames_of_readNames hne hread o

/-! ### The scope and the expected value -/

/-- A scope is accepted exactly if it is a text. -/
theorem readScope_eq_ok_iff {value : Json} {scope : String} :
    readScope value = .ok scope ↔ ∃ s, value = .text s ∧ scope = normalScope s := by
  cases value with
  | text s =>
      constructor
      · intro h
        exact ⟨s, rfl, (Except.ok.inj h).symm⟩
      · rintro ⟨t, heq, rfl⟩
        cases heq
        rfl
  | null | bool b | integer n | real x | list items | object members =>
      exact iff_of_false nofun fun ⟨_, heq, _⟩ => nomatch heq

/-- Anything else is refused as a scope. -/
theorem readScope_eq_error_iff {value : Json} {fault : Fault} :
    readScope value = .error fault ↔ value.kind ≠ .text ∧ fault = .badScope value := by
  cases value with
  | text s => exact iff_of_false nofun fun h => h.1 rfl
  | null | bool b | integer n | real x | list items | object members =>
      constructor
      · intro h
        cases h
        exact ⟨by simp [Json.kind], rfl⟩
      · rintro ⟨-, rfl⟩
        rfl

/-- An expected value is accepted exactly if it is null or a text. -/
theorem readExpected_eq_ok_iff {value : Json} {expected : Option String} :
    readExpected value = .ok expected ↔ Expects value expected := by
  cases value with
  | null =>
      constructor
      · intro h
        cases h
        exact .inl ⟨rfl, rfl⟩
      · rintro (⟨-, rfl⟩ | ⟨s, heq, -⟩)
        · rfl
        · cases heq
  | text s =>
      constructor
      · intro h
        exact .inr ⟨s, rfl, (Except.ok.inj h).symm⟩
      · rintro (⟨heq, -⟩ | ⟨t, heq, rfl⟩)
        · cases heq
        · cases heq
          rfl
  | bool b | integer n | real x | list items | object members =>
      refine iff_of_false nofun ?_
      rintro (⟨heq, -⟩ | ⟨s, heq, -⟩) <;> cases heq

/-- Anything else is refused as an expected value. -/
theorem readExpected_eq_error_iff {value : Json} {fault : Fault} :
    readExpected value = .error fault ↔
      (value.kind ≠ .null ∧ value.kind ≠ .text) ∧ fault = .badExpected value := by
  cases value with
  | null => exact iff_of_false nofun fun h => h.1.1 rfl
  | text s => exact iff_of_false nofun fun h => h.1.2 rfl
  | bool b | integer n | real x | list items | object members =>
      constructor
      · intro h
        cases h
        exact ⟨by simp [Json.kind], rfl⟩
      · rintro ⟨-, rfl⟩
        rfl

/-- Names make a rule with options whose scope and expected value are accepted. -/
theorem withNames_eq_ok_iff {names : List String} {o : Options} {r : Rule} :
    withNames names o = .ok r ↔
      ∃ scope expected, o.scope = .text scope ∧ Expects o.expected expected ∧
        r = ⟨names, normalScope scope, expected, o.ifMissing, o.relaxed⟩ := by
  constructor
  · intro h
    obtain ⟨scope, hscope, h⟩ := bind_eq_ok.mp h
    obtain ⟨expected, hexpected, h⟩ := bind_eq_ok.mp h
    obtain ⟨s, hs, rfl⟩ := readScope_eq_ok_iff.mp hscope
    cases h
    exact ⟨s, expected, hs, readExpected_eq_ok_iff.mp hexpected, rfl⟩
  · rintro ⟨scope, expected, hscope, hexpected, rfl⟩
    exact bind_eq_ok.mpr ⟨_, readScope_eq_ok_iff.mpr ⟨scope, hscope, rfl⟩,
      bind_eq_ok.mpr ⟨expected, readExpected_eq_ok_iff.mpr hexpected, rfl⟩⟩

/-- The scope is refused before the expected value. -/
theorem withNames_eq_error_iff {names : List String} {o : Options} {fault : Fault} :
    withNames names o = .error fault ↔
      (o.scope.kind ≠ .text ∧ fault = .badScope o.scope) ∨
        ∃ scope, o.scope = .text scope ∧ (o.expected.kind ≠ .null ∧ o.expected.kind ≠ .text) ∧
          fault = .badExpected o.expected := by
  constructor
  · intro h
    obtain h | ⟨scope, hscope, h⟩ := bind_eq_error.mp h
    · exact .inl (readScope_eq_error_iff.mp h)
    · obtain h | ⟨expected, -, h⟩ := bind_eq_error.mp h
      · obtain ⟨s, hs, -⟩ := readScope_eq_ok_iff.mp hscope
        exact .inr ⟨s, hs, readExpected_eq_error_iff.mp h⟩
      · cases h
  · rintro (h | ⟨scope, hscope, h⟩)
    · exact bind_eq_error.mpr (.inl (readScope_eq_error_iff.mpr h))
    · exact bind_eq_error.mpr (.inr ⟨_, readScope_eq_ok_iff.mpr ⟨scope, hscope, rfl⟩,
        bind_eq_error.mpr (.inl (readExpected_eq_error_iff.mpr h))⟩)

/-! ### Declarations -/

/-- A declaration that chooses a channel reads its entries and then the options. -/
theorem validate_of_chooses {a : Attributes} {channel : Channel} {items : List Json}
    (h : Chooses a channel items) (owner : String) :
    validate owner a
      = (readNames channel items >>= fun names => withNames names a.toOptions) := by
  obtain ⟨hitems, hother⟩ := h
  have hentries := entries_of_populated hitems
  have hempty := entries_of_unpopulated hother
  obtain ⟨entry, rest, rfl⟩ := List.exists_cons_of_ne_nil hitems.ne_nil
  cases channel with
  | name =>
      change entries a.name = _ at hentries
      change entries a.value = _ at hempty
      rw [validate_eq, hentries, hempty]
      rfl
  | value =>
      change entries a.value = _ at hentries
      change entries a.name = _ at hempty
      rw [validate_eq, hentries, hempty]
      rfl

/-- Every declaration has its outcome. -/
theorem outcome_validate (owner : String) (a : Attributes) :
    Outcome owner a (validate owner a) := by
  have hchosen : ∀ {channel items}, Chooses a channel items →
      Outcome owner a (validate owner a) := by
    intro channel items hchannel
    rw [validate_of_chooses hchannel]
    cases hnames : readNames channel items with
    | error fault => exact .nameless hchannel (readNames_eq_error_iff.mp hnames)
    | ok names =>
        have hnamed := readNames_eq_ok_iff.mp hnames
        change Outcome owner a (withNames names a.toOptions)
        cases hrule : withNames names a.toOptions with
        | error fault =>
            obtain ⟨hscope, rfl⟩ | ⟨scope, hscope, hexpected, rfl⟩ :=
              withNames_eq_error_iff.mp hrule
            · exact .badScope hchannel hnamed hscope
            · exact .badExpected hchannel hnamed hscope hexpected
        | ok r =>
            obtain ⟨scope, expected, hscope, hexpected, rfl⟩ := withNames_eq_ok_iff.mp hrule
            exact .rule hchannel hnamed hscope hexpected
  obtain hname | ⟨names, hnames⟩ | hname := channel_cases a.name
  · have hentries := entries_eq_error_iff.mpr ⟨hname, rfl⟩
    rw [validate, hentries]
    exact .scalarName hname
  · obtain hvalue | ⟨values, hvalues⟩ | hvalue := channel_cases a.value
    · rw [validate, entries_of_populated hnames, entries_eq_error_iff.mpr ⟨hvalue, rfl⟩]
      exact .scalarValue hnames.not_scalar hvalue
    · obtain ⟨name, more, hconsName⟩ := List.exists_cons_of_ne_nil hnames.ne_nil
      obtain ⟨value, others, hconsValue⟩ := List.exists_cons_of_ne_nil hvalues.ne_nil
      rw [validate, entries_of_populated hnames, entries_of_populated hvalues, hconsName,
        hconsValue]
      exact .conflicting hnames hvalues
    · have hchooses : Chooses a .name names := ⟨hnames, hvalue⟩
      exact hchosen hchooses
  · obtain hvalue | ⟨values, hvalues⟩ | hvalue := channel_cases a.value
    · rw [validate, entries_of_unpopulated hname, entries_eq_error_iff.mpr ⟨hvalue, rfl⟩]
      exact .scalarValue hname.1 hvalue
    · have hchooses : Chooses a .value values := ⟨hvalues, hname⟩
      exact hchosen hchooses
    · rw [validate, entries_of_unpopulated hname, entries_of_unpopulated hvalue]
      exact .missing hname hvalue

/-- A declaration has no other outcome. -/
theorem validate_of_outcome {owner : String} {a : Attributes} {result : Except Fault Rule}
    (h : Outcome owner a result) : validate owner a = result := by
  cases h with
  | scalarName h =>
      rw [validate, entries_eq_error_iff.mpr ⟨h, rfl⟩]
      rfl
  | scalarValue hname h =>
      have hentries : ∃ items, entries a.name = .ok items := by
        obtain hscalar | ⟨items, hitems⟩ | hempty := channel_cases a.name
        · exact absurd hscalar hname
        · exact ⟨items, entries_of_populated hitems⟩
        · exact ⟨[], entries_of_unpopulated hempty⟩
      obtain ⟨items, hitems⟩ := hentries
      rw [validate, hitems, entries_eq_error_iff.mpr ⟨h, rfl⟩]
      rfl
  | conflicting hname hvalue =>
      obtain ⟨name, more, hconsName⟩ := List.exists_cons_of_ne_nil hname.ne_nil
      obtain ⟨value, others, hconsValue⟩ := List.exists_cons_of_ne_nil hvalue.ne_nil
      rw [validate, entries_of_populated hname, entries_of_populated hvalue, hconsName, hconsValue]
      rfl
  | missing hname hvalue =>
      rw [validate, entries_of_unpopulated hname, entries_of_unpopulated hvalue]
      rfl
  | nameless hchannel h =>
      rw [validate_of_chooses hchannel, readNames_eq_error_iff.mpr h]
      rfl
  | badScope hchannel hnames h =>
      rw [validate_of_chooses hchannel, readNames_eq_ok_iff.mpr hnames]
      exact withNames_eq_error_iff.mpr (.inl ⟨h, rfl⟩)
  | badExpected hchannel hnames hscope h =>
      rw [validate_of_chooses hchannel, readNames_eq_ok_iff.mpr hnames]
      exact withNames_eq_error_iff.mpr (.inr ⟨_, hscope, h, rfl⟩)
  | rule hchannel hnames hscope hexpected =>
      rw [validate_of_chooses hchannel, readNames_eq_ok_iff.mpr hnames]
      exact withNames_eq_ok_iff.mpr ⟨_, _, hscope, hexpected, rfl⟩

/-- **A declaration comes to a result exactly if that is its outcome.** -/
theorem validate_eq_iff {owner : String} {a : Attributes} {result : Except Fault Rule} :
    validate owner a = result ↔ Outcome owner a result :=
  ⟨fun h => h ▸ outcome_validate owner a, validate_of_outcome⟩

end Activation.Rule
