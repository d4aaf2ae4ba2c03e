import Activation.Proofs.Rule.IdleSpellings
import Activation.Proofs.Rule.RoundTrip

/-!
# Fields that are Null

A field that is null passes the check of an entry like one that is absent, so an entry with the one
is refused for the same faults as an entry with the other (`fieldFaults_put_null`). In the
declaration that the fields make up, null is what an absent name, scope or expected value counts as
anyway. The two flags are different: an absent one has its default, and a null one is kept as null
(`ofEntry_put_null`).

What becomes of that depends on the default. Null is false, and so is the default of the flag for
missing properties, so there it changes no verdict. The default of the flag for other spellings is
true: a null there makes the rule strict, and that makes no difference only if the spellings are
idle.

## Main statements

* `agree_put_null_iff` — when a null field and an absent one come to the same.
-/

namespace Activation.Rule

/-- The fields of an entry that its rule is made from. Every one of them can be left out. -/
def optionalFields : List String :=
  ["name", "value", "prefix", "having_value", "match_if_missing", "relaxed_names"]

/-- Two outcomes of reading an entry **agree** if both are the same fault, or both are rules that
the same sources meet. -/
def Agree : Except EntryFault Rule → Except EntryFault Rule → Prop
  | .ok r, .ok s => ∀ source, r.matches? source = s.matches? source
  | .error fault, .error other => fault = other
  | _, _ => False

variable {members : Entries Json} {field : String}

/-! ### The check of the fields -/

/-- A known field that is written adds no unknown one. -/
theorem unknownFields_put (hfield : field ∈ fields) (value : Json) :
    unknownFields (members.put field value) = unknownFields members := by
  rw [unknownFields, unknownFields, Entries.keys_put]
  split
  · rfl
  · rw [List.filter_append, List.filter_cons_of_neg (by simpa using hfield), List.filter_nil,
      List.append_nil]

/-- Nor does a known field that is left out take one away. -/
theorem unknownFields_without (hfield : field ∈ fields) :
    unknownFields (members.without field) = unknownFields members := by
  rw [unknownFields, unknownFields, Entries.keys_without, List.filter_filter]
  congr 1
  refine List.filter_congr fun key _ => ?_
  by_cases hkey : key = field
  · subst hkey
    simp [hfield]
  · simp [hkey]

/-- A null field is at fault no more than an absent one, if null passes the test. -/
theorem faultsAmong_put_null (names : List String) {test : Json → Bool} (htest : test .null = true)
    (problem : FieldProblem) :
    faultsAmong (members.put field .null) names test problem
      = faultsAmong (members.without field) names test problem := by
  rw [faultsAmong, faultsAmong]
  congr 1
  funext name
  rw [Entries.get?_put, Entries.get?_without]
  by_cases hname : field = name
  · rw [if_pos hname, if_pos hname]
    exact if_pos htest
  · rw [if_neg hname, if_neg hname]

/-- **A null field has the faults of an absent one.** -/
theorem fieldFaults_put_null (hfield : field ∈ fields) :
    fieldFaults (members.put field .null) = fieldFaults (members.without field) := by
  rw [fieldFaults, fieldFaults, unknownFields_put hfield, unknownFields_without hfield,
    faultsAmong_put_null _ rfl, faultsAmong_put_null _ rfl, faultsAmong_put_null _ rfl]

/-! ### The declaration that the fields make up -/

/-- A declaration with other flags. -/
def Attributes.withFlags (a : Attributes) (ifMissing relaxed : Json) : Attributes :=
  { a with ifMissing, relaxed }

/-- A rule with other flags. -/
def withFlags (r : Rule) (ifMissing relaxed : Json) : Rule :=
  { r with ifMissing, relaxed }

/-- The flags among some options become those of the rule with these options. -/
theorem withNames_withFlags (names : List String) (a : Attributes) (ifMissing relaxed : Json) :
    withNames names (a.withFlags ifMissing relaxed).toOptions
      = (withNames names a.toOptions).map (·.withFlags ifMissing relaxed) := by
  rw [withNames, withNames]
  dsimp only [Attributes.withFlags]
  cases readScope a.scope with
  | error fault => rfl
  | ok scope =>
      cases readExpected a.expected with
      | error fault => rfl
      | ok expected => rfl

/-- **The flags of a declaration become those of the rule**, and have no other part in it. -/
theorem declare_withFlags (a : Attributes) (ifMissing relaxed : Json) :
    declare (a.withFlags ifMissing relaxed)
      = (declare a).map (·.withFlags ifMissing relaxed) := by
  have hread : ∀ (channel : Channel) (items : List Json),
      (readNames channel items >>= fun found =>
          withNames found (a.withFlags ifMissing relaxed).toOptions)
        = (readNames channel items >>= fun found => withNames found a.toOptions).map
            (·.withFlags ifMissing relaxed) := by
    intro channel items
    cases readNames channel items with
    | error fault => rfl
    | ok found => exact withNames_withFlags found a ifMissing relaxed
  have hname : (a.withFlags ifMissing relaxed).name = a.name := rfl
  have hvalue : (a.withFlags ifMissing relaxed).value = a.value := rfl
  rw [declare, declare, validate_eq, validate_eq, hname, hvalue]
  cases entries a.name with
  | error fault => rfl
  | ok names =>
      cases entries a.value with
      | error fault => rfl
      | ok values =>
          cases names with
          | nil =>
              cases values with
              | nil => rfl
              | cons value values => exact hread .value (value :: values)
          | cons name names =>
              cases values with
              | nil => exact hread .name (name :: names)
              | cons value values => rfl

/-- A rule that has been declared has the flags of its declaration. -/
theorem flags_of_declare {a : Attributes} {r : Rule} (h : declare a = .ok r) :
    r.ifMissing = a.ifMissing ∧ r.relaxed = a.relaxed := by
  have hsame : declare a = (declare a).map (·.withFlags a.ifMissing a.relaxed) :=
    declare_withFlags a a.ifMissing a.relaxed
  rw [h] at hsame
  have hrule : r = r.withFlags a.ifMissing a.relaxed := Except.ok.inj hsame
  exact ⟨congrArg Rule.ifMissing hrule, congrArg Rule.relaxed hrule⟩

/-- What a field with a default is read as: null if it is null, and else what it is without the null
field. -/
theorem getD_put_null (members : Entries Json) (field key : String) (default : Json) :
    ((members.put field .null).get? key).getD default
      = if field = key then .null else ((members.without field).get? key).getD default := by
  rw [Entries.get?_put, Entries.get?_without]
  split <;> rfl

/-- Without a default a null field is read as an absent one is. -/
theorem getD_null_put_null (members : Entries Json) (field key : String) :
    ((members.put field .null).get? key).getD .null
      = ((members.without field).get? key).getD .null := by
  rw [getD_put_null, Entries.get?_without]
  split <;> rfl

/-- A null scope is as empty as an absent one. -/
theorem entryScope_put_null (members : Entries Json) (field : String) :
    entryScope (members.put field .null) = entryScope (members.without field) := by
  rw [entryScope, entryScope, Entries.get?_put, Entries.get?_without]
  by_cases hscope : field = "prefix"
  · rw [if_pos hscope, if_pos hscope]
    rfl
  · rw [if_neg hscope, if_neg hscope]

/-- **A null field declares what an absent one does, unless it is a flag**, which is then null. -/
theorem entryAttributes_put_null (members : Entries Json) (field : String) :
    let absent := entryAttributes (members.without field)
    entryAttributes (members.put field .null) =
      absent.withFlags (if field = "match_if_missing" then .null else absent.ifMissing)
        (if field = "relaxed_names" then .null else absent.relaxed) := by
  intro absent
  rw [entryAttributes, entryScope_put_null, getD_null_put_null, getD_null_put_null,
    getD_null_put_null, getD_put_null, getD_put_null]
  rfl

/-! ### The rule -/

/-- Every field that can be left out is a field, and none of them is the identifier. -/
theorem mem_fields_of_mem_optionalFields (h : field ∈ optionalFields) :
    field ∈ fields ∧ field ≠ "id" := by
  have hall : ∀ key ∈ optionalFields, key ∈ fields ∧ key ≠ "id" := by decide
  exact hall field h

/-- **What an entry with a null field stands for** is what it stands for without the field, with
null for the flag if the field is one. -/
theorem ofEntry_put_null (hfield : field ∈ optionalFields) (members : Entries Json) :
    ofEntry (members.put field .null) =
      (ofEntry (members.without field)).map fun r =>
        r.withFlags (if field = "match_if_missing" then .null else r.ifMissing)
          (if field = "relaxed_names" then .null else r.relaxed) := by
  obtain ⟨hknown, hid⟩ := mem_fields_of_mem_optionalFields hfield
  rw [ofEntry, ofEntry, fieldFaults_put_null hknown]
  split
  · rw [entryAttributes_put_null, declare_withFlags]
    cases hdeclare : declare (entryAttributes (members.without field)) with
    | error fault => rfl
    | ok r =>
        obtain ⟨hmissing, hrelaxed⟩ := flags_of_declare hdeclare
        rw [← hmissing, ← hrelaxed]
        rfl
  · rw [Entries.get?_put, Entries.get?_without, if_neg hid, if_neg hid]
    rfl

/-- A rule that an entry stands for has the default of a flag that is absent. -/
theorem flags_of_ofEntry_without {r : Rule} (h : ofEntry (members.without field) = .ok r) :
    (field = "match_if_missing" → r.ifMissing = .bool false) ∧
      (field = "relaxed_names" → r.relaxed = .bool true) := by
  obtain ⟨-, hdeclare⟩ := declare_of_ofEntry h
  obtain ⟨hmissing, hrelaxed⟩ := flags_of_declare hdeclare
  have hleft : (members.without field).get? field = none := by
    rw [Entries.get?_without, if_pos rfl]
  constructor
  · rintro rfl
    rw [hmissing, entryAttributes, hleft]
    rfl
  · rintro rfl
    rw [hrelaxed, entryAttributes, hleft]
    rfl

/-- Rules whose flags have the same truth are met by the same sources. -/
theorem matches?_congr_of_withPlainFlags {r s : Rule} (h : r.withPlainFlags = s.withPlainFlags)
    (source : Source) : r.matches? source = s.matches? source := by
  have hplain : ∀ t : Rule, t.withPlainFlags.matches? source = t.matches? source := by
    intro t
    rw [matches?, report, evaluate, evaluateWith_withPlainFlags]
    rfl
  rw [← hplain r, h, hplain s]

/-- **When a null field and an absent one come to the same.** Take any entry and any of the fields
that can be left out, and read the entry with null in that field, and without the field. Both are
refused with the same fault, or both are rules that the same sources meet, with one exception: if
the field is the flag for other spellings, the rules are met by the same sources exactly if the
spellings of the names are idle. -/
theorem agree_put_null_iff (members : Entries Json) (hfield : field ∈ optionalFields) :
    Agree (ofEntry (members.put field .null)) (ofEntry (members.without field)) ↔
      (field = "relaxed_names" →
        ∀ r, ofEntry (members.without field) = .ok r → r.SpellingsIdle) := by
  rw [ofEntry_put_null hfield]
  cases habsent : ofEntry (members.without field) with
  | error fault => exact iff_of_true rfl nofun
  | ok r =>
      obtain ⟨hmissing, hrelaxed⟩ := flags_of_ofEntry_without habsent
      have hrule : (∀ s, (.ok r : Except EntryFault Rule) = .ok s → s.SpellingsIdle)
          ↔ r.SpellingsIdle :=
        ⟨fun h => h r rfl, fun h s hs => Except.ok.inj hs ▸ h⟩
      rw [hrule]
      by_cases hspellings : field = "relaxed_names"
      · subst hspellings
        have hstrict : (∀ source, { r with relaxed := Json.null }.matches? source
            = r.matches? source) ↔ r.SpellingsIdle :=
          matches?_strict_eq_iff rfl (hrelaxed rfl ▸ rfl)
        exact hstrict.trans ⟨fun h _ => h, fun h => h rfl⟩
      · refine iff_of_true (fun source => ?_) fun h => absurd h hspellings
        refine matches?_congr_of_withPlainFlags ?_ source
        dsimp only
        rw [if_neg hspellings]
        by_cases hflag : field = "match_if_missing"
        · rw [if_pos hflag, withPlainFlags, withPlainFlags, hmissing hflag]
          rfl
        · rw [if_neg hflag]
          rfl

/-- The other spelling of each name is a name of the rule as well, and a missing property passes:
here it makes no difference that the flag is null. -/
theorem agree_put_null_bothSpellings :
    let members : Entries Json :=
      [("name", .list [.text "myProp", .text "my-prop"]), ("match_if_missing", .bool true)]
    "relaxed_names" ∈ optionalFields ∧
      Agree (ofEntry (members.put "relaxed_names" .null))
        (ofEntry (members.without "relaxed_names")) := by
  intro members
  have hfield : "relaxed_names" ∈ optionalFields := by decide
  have hfields : fieldFaults (members.without "relaxed_names") = [] :=
    fieldFaults_eq_nil_iff.mpr (by decide)
  have hrule : ofEntry (members.without "relaxed_names")
      = .ok ⟨["myProp", "my-prop"], "", none, .bool true, .bool true⟩ := by
    rw [ofEntry, hfields]
    rfl
  refine ⟨hfield, (agree_put_null_iff members hfield).mpr fun _ r hr => ?_⟩
  obtain rfl := Except.ok.inj (hrule.symm.trans hr)
  show SpellingsIdle _
  unfold SpellingsIdle
  decide

/-- **A null flag for other spellings can differ from an absent one:** a property that is set under
the other spelling of its name is found without the field, and is not found with null in it. -/
theorem not_agree_put_null :
    let members : Entries Json := [("name", .text "myProp")]
    "relaxed_names" ∈ optionalFields ∧
      ¬Agree (ofEntry (members.put "relaxed_names" .null))
        (ofEntry (members.without "relaxed_names")) := by
  intro members
  refine ⟨by decide, fun hagree => ?_⟩
  have hnull : ofEntry (members.put "relaxed_names" .null)
      = .ok ⟨["myProp"], "", none, .bool false, .null⟩ := by
    have hfields : fieldFaults (members.put "relaxed_names" .null) = [] :=
      fieldFaults_eq_nil_iff.mpr (by decide)
    rw [ofEntry, hfields]
    rfl
  have habsent : ofEntry (members.without "relaxed_names")
      = .ok ⟨["myProp"], "", none, .bool false, .bool true⟩ := by
    have hfields : fieldFaults (members.without "relaxed_names") = [] :=
      fieldFaults_eq_nil_iff.mpr (by decide)
    rw [ofEntry, hfields]
    rfl
  rw [hnull, habsent] at hagree
  exact absurd (hagree (.exact "map" [("my-prop", "on")])) (by decide)

end Activation.Rule
