import Mathlib.Data.List.Sort
import Mathlib.Data.String.Basic
import Activation.Proofs.Rule.Outcome
import Activation.Proofs.Rule.RoundTrip

/-!
# Faulty Fields of Entries

The fields of an entry are checked before anything is declared, and all that are faulty are reported
together. A field is faulty (`Faulty`) if no entry has a field of that name, or if it holds a value
that is neither null nor of the kind that the field takes. The report has each of them once and in a
fixed order (`Reported`): those that are unknown by their names, then the others as the fields are
listed.

An entry without faulty fields may still be refused, but only for what it declares: no names, names
in both channels, or a blank name. The check of the fields leaves nothing else to be found, since a
channel that passes it holds texts only, the scope of an entry is then a text, and the expected
value null or a text (`fault_of_fieldFaults_eq_nil`).

## Main statements

* `mem_fieldFaults_iff`, `reported_fieldFaults` — what is reported, and in which order.
* `Reported.unique` — the report is determined by the entry.
* `ofEntry_cases` — what comes of an entry.
* `ofEntry_exact` — when and how the fields of an entry are refused, and what else can happen.
-/

namespace Activation.Rule

/-- The fields whose values are checked, in the order in which their faults are reported. -/
def checkedFields : List String :=
  ["name", "value", "prefix", "having_value", "match_if_missing", "relaxed_names"]

/-- The known fields: those whose values are checked, and two that may hold anything. -/
def knownFields : List String :=
  checkedFields ++ ["id", "description"]

/-- An entry may have the known fields and no others. -/
theorem mem_fields_iff {field : String} : field ∈ fields ↔ field ∈ knownFields := by
  simp only [fields, knownFields, checkedFields, List.cons_append, List.nil_append, List.mem_cons,
    List.not_mem_nil, or_false]
  tauto

/-- A value that holds names: a text or a list of texts. -/
def HoldsNames (value : Json) : Prop :=
  value.kind = .text ∨ ∃ items, value = .list items ∧ ∀ item ∈ items, item.kind = .text

/-- A field of an entry that is **faulty**, and what is wrong with it. An identifier and a
description may hold any value, and each of the other fields null. -/
inductive Faulty (members : Entries Json) : FieldFault → Prop
  | unknown {field : String} (hmem : field ∈ members.keys) (h : field ∉ knownFields) :
      Faulty members ⟨field, .unknown⟩
  | names {field : String} {value : Json} (hfield : field ∈ ["name", "value"])
      (hvalue : members.get? field = some value) (hnull : value.kind ≠ .null)
      (h : ¬HoldsNames value) : Faulty members ⟨field, .namesExpected⟩
  | text {field : String} {value : Json} (hfield : field ∈ ["prefix", "having_value"])
      (hvalue : members.get? field = some value) (hnull : value.kind ≠ .null)
      (h : value.kind ≠ .text) : Faulty members ⟨field, .textExpected⟩
  | flag {field : String} {value : Json} (hfield : field ∈ ["match_if_missing", "relaxed_names"])
      (hvalue : members.get? field = some value) (hnull : value.kind ≠ .null)
      (h : value.kind ≠ .bool) : Faulty members ⟨field, .flagExpected⟩

/-- Faults are **reported** once for each faulty field: first for the unknown fields in the order of
their names, and then for the others in the order of the fields. -/
structure Reported (members : Entries Json) (faults : List FieldFault) : Prop where
  mem_iff : ∀ fault, fault ∈ faults ↔ Faulty members fault
  nodup : (faults.map (·.field)).Nodup
  order : ∃ unknown known, faults = unknown ++ known ∧
    (∀ fault ∈ unknown, fault.problem = .unknown) ∧
    (unknown.map (·.field)).Pairwise (· < ·) ∧ (known.map (·.field)).Sublist checkedFields

/-! ### The tests of single fields -/

/-- A value fails the test for names exactly if it is not null and holds no names. -/
theorem isNamesOrNull_eq_false_iff {value : Json} :
    isNamesOrNull value = false ↔ value.kind ≠ .null ∧ ¬HoldsNames value := by
  cases value with
  | null => exact iff_of_false nofun fun h => h.1 rfl
  | text s => exact iff_of_false nofun fun h => h.2 (.inl rfl)
  | list items =>
      have hitems : items.all isText = true ↔ ∀ item ∈ items, item.kind = .text := by
        rw [List.all_eq_true]
        refine forall₂_congr fun item _ => ?_
        cases item <;> simp [isText, Json.kind]
      rw [isNamesOrNull, ← Bool.not_eq_true, hitems]
      simp [HoldsNames, Json.kind]
  | bool b | integer n | real x | object members =>
      refine iff_of_true rfl ⟨by simp [Json.kind], ?_⟩
      rintro (h | ⟨items, h, -⟩) <;> cases h

/-- A value fails the test for texts exactly if it is neither null nor a text. -/
theorem isTextOrNull_eq_false_iff {value : Json} :
    isTextOrNull value = false ↔ value.kind ≠ .null ∧ value.kind ≠ .text := by
  cases value <;> simp [isTextOrNull, Json.kind]

/-- A value fails the test for flags exactly if it is neither null nor a truth value. -/
theorem isFlagOrNull_eq_false_iff {value : Json} :
    isFlagOrNull value = false ↔ value.kind ≠ .null ∧ value.kind ≠ .bool := by
  cases value <;> simp [isFlagOrNull, Json.kind]

/-! ### The report -/

/-- The faults among some fields. -/
theorem mem_faultsAmong_iff {members : Entries Json} {names : List String} {test : Json → Bool}
    {problem : FieldProblem} {fault : FieldFault} :
    fault ∈ faultsAmong members names test problem ↔
      ∃ field ∈ names, ∃ value, members.get? field = some value ∧ test value = false ∧
        fault = ⟨field, problem⟩ := by
  rw [faultsAmong, List.mem_filterMap]
  refine exists_congr fun field => and_congr_right fun _ => ?_
  cases members.get? field with
  | none =>
      constructor
      · intro h
        cases h
      · rintro ⟨_, hvalue, -⟩
        cases hvalue
  | some value =>
      constructor
      · intro h
        cases htest : test value with
        | true => simp [htest] at h
        | false =>
            simp only [htest, Bool.false_eq_true, if_false, Option.some.injEq] at h
            exact ⟨value, rfl, htest, h.symm⟩
      · rintro ⟨_, hvalue, htest, rfl⟩
        cases hvalue
        simp [htest]

/-- The fields at fault among some fields stand in the order of these. -/
theorem fields_faultsAmong_sublist (members : Entries Json) (names : List String)
    (test : Json → Bool) (problem : FieldProblem) :
    ((faultsAmong members names test problem).map (·.field)).Sublist names := by
  have hfields : (faultsAmong members names test problem).map (·.field)
      = names.filter fun field => (members.get? field).any (!test ·) := by
    induction names with
    | nil => rfl
    | cons field rest ih =>
        rw [List.filter_cons, ← ih, faultsAmong, List.filterMap_cons, ← faultsAmong]
        cases members.get? field with
        | none => rfl
        | some value => cases htest : test value <;> simp [htest]
  rw [hfields]
  exact List.filter_sublist

/-- The unknown fields are the keys that are no known field. -/
theorem mem_unknownFields_iff {members : Entries Json} {field : String} :
    field ∈ unknownFields members ↔ field ∈ members.keys ∧ field ∉ knownFields := by
  rw [unknownFields, (List.mergeSort_perm _ _).mem_iff, ← mem_fields_iff]
  simp

/-- The unknown fields of an entry with distinct keys are in the order of their names, without
repetitions. -/
theorem pairwise_unknownFields {members : Entries Json} (h : members.keys.Nodup) :
    (unknownFields members).Pairwise (· < ·) := by
  have hnodup : (unknownFields members).Nodup :=
    (List.mergeSort_perm _ _).nodup_iff.mpr (h.filter _)
  have hsorted : (unknownFields members).Pairwise fun a b => decide (a ≤ b) = true := by
    refine List.pairwise_mergeSort ?_ ?_ _
    · intro a b c hab hbc
      exact decide_eq_true (String.le_trans (of_decide_eq_true hab) (of_decide_eq_true hbc))
    · intro a b
      simpa using String.le_total a b
  refine (hsorted.and hnodup).imp fun ⟨hle, hne⟩ => ?_
  exact lt_of_le_of_ne (of_decide_eq_true hle) hne

/-- **What is reported of an entry are its faulty fields.** -/
theorem mem_fieldFaults_iff {members : Entries Json} {fault : FieldFault} :
    fault ∈ fieldFaults members ↔ Faulty members fault := by
  simp only [fieldFaults, List.mem_append, List.mem_map, mem_unknownFields_iff,
    mem_faultsAmong_iff, isNamesOrNull_eq_false_iff, isTextOrNull_eq_false_iff,
    isFlagOrNull_eq_false_iff]
  constructor
  · rintro (((⟨field, ⟨hmem, hfield⟩, rfl⟩ | ⟨field, hfield, value, hvalue, ⟨hnull, h⟩, rfl⟩) |
      ⟨field, hfield, value, hvalue, ⟨hnull, h⟩, rfl⟩) |
      ⟨field, hfield, value, hvalue, ⟨hnull, h⟩, rfl⟩)
    · exact .unknown hmem hfield
    · exact .names hfield hvalue hnull h
    · exact .text hfield hvalue hnull h
    · exact .flag hfield hvalue hnull h
  · intro h
    cases h with
    | unknown hmem h => exact .inl (.inl (.inl ⟨_, ⟨hmem, h⟩, rfl⟩))
    | names hfield hvalue hnull h =>
        exact .inl (.inl (.inr ⟨_, hfield, _, hvalue, ⟨hnull, h⟩, rfl⟩))
    | text hfield hvalue hnull h => exact .inl (.inr ⟨_, hfield, _, hvalue, ⟨hnull, h⟩, rfl⟩)
    | flag hfield hvalue hnull h => exact .inr ⟨_, hfield, _, hvalue, ⟨hnull, h⟩, rfl⟩

/-- The faults that are not about unknown fields. -/
def knownFaults (members : Entries Json) : List FieldFault :=
  faultsAmong members ["name", "value"] isNamesOrNull .namesExpected
    ++ faultsAmong members ["prefix", "having_value"] isTextOrNull .textExpected
    ++ faultsAmong members ["match_if_missing", "relaxed_names"] isFlagOrNull .flagExpected

/-- They stand in the order of the fields. -/
theorem fields_knownFaults_sublist (members : Entries Json) :
    ((knownFaults members).map (·.field)).Sublist checkedFields := by
  have hnames := fields_faultsAmong_sublist members ["name", "value"] isNamesOrNull .namesExpected
  have htexts :=
    fields_faultsAmong_sublist members ["prefix", "having_value"] isTextOrNull .textExpected
  have hflags :=
    fields_faultsAmong_sublist members ["match_if_missing", "relaxed_names"] isFlagOrNull
      .flagExpected
  rw [knownFaults, List.map_append, List.map_append]
  exact (hnames.append htexts).append hflags

/-- A field that is unknown is none of those whose values are checked. -/
theorem Faulty.not_mem_checkedFields {members : Entries Json} {fault : FieldFault}
    (h : Faulty members fault) (hproblem : fault.problem = .unknown) :
    fault.field ∉ checkedFields := by
  cases h with
  | unknown hmem h => exact mt (List.mem_append_left _) h
  | names | text | flag => cases hproblem

/-- **The faulty fields of an entry with distinct keys are reported once each, and in order.** -/
theorem reported_fieldFaults {members : Entries Json} (h : members.keys.Nodup) :
    Reported members (fieldFaults members) := by
  let unknown : List FieldFault := (unknownFields members).map (⟨·, .unknown⟩)
  have hsplit : fieldFaults members = unknown ++ knownFaults members := by
    rw [fieldFaults, knownFaults, List.append_assoc, List.append_assoc, List.append_assoc]
  have hunknown : unknown.map (·.field) = unknownFields members := by
    rw [List.map_map]
    exact List.map_id _
  have hpairwise := pairwise_unknownFields h
  have hknown := fields_knownFaults_sublist members
  refine ⟨fun fault => mem_fieldFaults_iff, ?_, unknown, knownFaults members, hsplit, ?_,
    hunknown ▸ hpairwise, hknown⟩
  · rw [hsplit, List.map_append, hunknown, List.nodup_append]
    refine ⟨hpairwise.imp ne_of_lt, hknown.nodup (by decide), ?_⟩
    rintro field hfield other hother rfl
    obtain ⟨hmem, hunknown⟩ := mem_unknownFields_iff.mp hfield
    exact (Faulty.unknown hmem hunknown).not_mem_checkedFields rfl (hknown.subset hother)
  · intro fault hfault
    obtain ⟨field, -, rfl⟩ := List.mem_map.mp hfault
    rfl

/-- The two parts of a report. -/
theorem Reported.mem_parts_iff {members : Entries Json} {unknown known : List FieldFault}
    (h : Reported members (unknown ++ known))
    (hunknown : ∀ fault ∈ unknown, fault.problem = .unknown)
    (hsublist : (known.map (·.field)).Sublist checkedFields) (fault : FieldFault) :
    (fault ∈ unknown ↔ Faulty members fault ∧ fault.problem = .unknown) ∧
      (fault ∈ known ↔ Faulty members fault ∧ fault.problem ≠ .unknown) := by
  have hmem := List.mem_append.symm.trans (h.mem_iff fault)
  have hknown : fault ∈ known → fault.problem ≠ .unknown := fun hfault hproblem =>
    (hmem.mp (.inr hfault)).not_mem_checkedFields hproblem
      (hsublist.subset (List.mem_map_of_mem hfault))
  constructor
  · exact ⟨fun hfault => ⟨hmem.mp (.inl hfault), hunknown fault hfault⟩,
      fun ⟨hfaulty, hproblem⟩ => (hmem.mpr hfaulty).resolve_right fun hfault =>
        hknown hfault hproblem⟩
  · exact ⟨fun hfault => ⟨hmem.mp (.inr hfault), hknown hfault⟩,
      fun ⟨hfaulty, hproblem⟩ => (hmem.mpr hfaulty).resolve_left fun hfault =>
        hproblem (hunknown fault hfault)⟩

/-- Faults that ascend by a rank are determined by which of them there are. -/
theorem eq_of_pairwise_rank {β : Type} [Preorder β] (rank : FieldFault → β)
    {faults others : List FieldFault} (h : faults.Pairwise (rank · < rank ·))
    (hothers : others.Pairwise (rank · < rank ·))
    (hmem : ∀ fault, fault ∈ faults ↔ fault ∈ others) : faults = others :=
  have : Std.Irrefl fun a b => rank a < rank b := ⟨fun _ => lt_irrefl _⟩
  have : Std.Antisymm fun a b => rank a < rank b := ⟨fun _ _ hab hba => absurd hba hab.asymm⟩
  h.eq_of_mem_iff hothers hmem

/-- **There is one way to report the faulty fields of an entry.** -/
theorem Reported.unique {members : Entries Json} {faults others : List FieldFault}
    (h : Reported members faults) (hothers : Reported members others) : faults = others := by
  obtain ⟨unknown, known, rfl, hunknown, horder, hsublist⟩ := h.order
  obtain ⟨unknown', known', rfl, hunknown', horder', hsublist'⟩ := hothers.order
  have hparts := h.mem_parts_iff hunknown hsublist
  have hparts' := hothers.mem_parts_iff hunknown' hsublist'
  have hranked : ∀ {known : List FieldFault}, (known.map (·.field)).Sublist checkedFields →
      known.Pairwise fun a b => checkedFields.idxOf a.field < checkedFields.idxOf b.field := by
    intro known hsublist
    have hfields : checkedFields.Pairwise fun a b =>
        checkedFields.idxOf a < checkedFields.idxOf b := by decide
    have hknown := hfields.sublist hsublist
    rwa [List.pairwise_map] at hknown
  congr 1
  · exact eq_of_pairwise_rank (·.field) (List.pairwise_map.mp horder) (List.pairwise_map.mp horder')
      fun fault => (hparts fault).1.trans (hparts' fault).1.symm
  · exact eq_of_pairwise_rank (checkedFields.idxOf ·.field) (hranked hsublist) (hranked hsublist')
      fun fault => (hparts fault).2.trans (hparts' fault).2.symm

/-! ### Entries without faulty fields -/

/-- A field that passes a test if it is present passes it as null if it is absent. -/
theorem test_getD_of_all {field : Option Json} {test : Json → Bool} (hnull : test .null = true)
    (h : field.all test = true) : test (field.getD .null) = true := by
  cases field with
  | none => exact hnull
  | some value => exact h

/-- A channel that passes the test for names is not a single value. -/
theorem not_scalar_of_isNamesOrNull {value : Json} (h : isNamesOrNull value = true) :
    ¬Scalar value := by
  cases value with
  | null | text s | list items => exact fun hscalar => by simp [Scalar, Json.kind] at hscalar
  | bool b | integer n | real x | object members => cases h

/-- The entries of a channel that passes the test for names are texts. -/
theorem kind_of_isNamesOrNull {value : Json} {items : List Json} (h : isNamesOrNull value = true)
    (hpopulated : Populated value items) : ∀ item ∈ items, item.kind = .text := by
  cases hpopulated with
  | text hs => exact fun item hitem => List.mem_singleton.mp hitem ▸ rfl
  | list hitems =>
      intro item hitem
      have htext := List.all_eq_true.mp h item hitem
      cases item with
      | text s => rfl
      | null | bool b | integer n | real x | list items | object members => cases htext
  | object hmembers => cases h

/-- The scope of an entry is a text if the field passes its test. -/
theorem kind_entryScope {members : Entries Json}
    (h : isTextOrNull ((members.get? "prefix").getD .null) = true) :
    (entryScope members).kind = .text := by
  rw [entryScope]
  cases hvalue : members.get? "prefix" with
  | none => rfl
  | some value =>
      rw [hvalue] at h
      cases value with
      | null => rfl
      | text s =>
          change (if (Json.text s).truthy then Json.text s else Json.text "").kind = .text
          split <;> rfl
      | bool b | integer n | real x | list items | object members => cases h

/-- **A declaration of values of the right kinds is refused only for the names that it does or does
not declare.** -/
theorem fault_of_declare_eq_error {a : Attributes} {fault : Fault}
    (hname : isNamesOrNull a.name = true) (hvalue : isNamesOrNull a.value = true)
    (hscope : a.scope.kind = .text) (hexpected : isTextOrNull a.expected = true)
    (h : declare a = .error fault) :
    fault = .missing defaultOwner ∨ fault = .conflicting defaultOwner ∨
      ∃ channel, fault = .blankName channel := by
  cases validate_eq_iff.mp h with
  | scalarName hscalar => exact absurd hscalar (not_scalar_of_isNamesOrNull hname)
  | scalarValue _ hscalar => exact absurd hscalar (not_scalar_of_isNamesOrNull hvalue)
  | conflicting => exact .inr (.inl rfl)
  | missing => exact .inl rfl
  | @nameless channel items _ hchannel hfirst =>
      obtain ⟨before, entry, after, names, rfl, -, hfault⟩ := hfirst
      have hthrough : isNamesOrNull (a.through channel) = true := by
        cases channel with
        | name => exact hname
        | value => exact hvalue
      have hentry := kind_of_isNamesOrNull hthrough hchannel.1 entry (by simp)
      cases hfault with
      | notText hkind => exact absurd hentry hkind
      | blank => exact .inr (.inr ⟨channel, rfl⟩)
  | badScope _ _ hkind => exact absurd hscope hkind
  | badExpected _ _ _ hkinds =>
      have hpasses := isTextOrNull_eq_false_iff.mpr hkinds
      rw [hexpected] at hpasses
      cases hpasses

/-- So is an entry without faulty fields. -/
theorem fault_of_fieldFaults_eq_nil {members : Entries Json} {fault : Fault}
    (hsound : fieldFaults members = []) (h : declare (entryAttributes members) = .error fault) :
    fault = .missing defaultOwner ∨ fault = .conflicting defaultOwner ∨
      ∃ channel, fault = .blankName channel := by
  obtain ⟨-, hnames, htexts, -⟩ := fieldFaults_eq_nil_iff.mp hsound
  exact fault_of_declare_eq_error
    (test_getD_of_all rfl (hnames "name" (by decide)))
    (test_getD_of_all rfl (hnames "value" (by decide)))
    (kind_entryScope (test_getD_of_all rfl (htexts "prefix" (by decide))))
    (test_getD_of_all rfl (htexts "having_value" (by decide))) h

/-! ### The account of an entry -/

/-- An entry is **refused for** a fault of its declaration: with an error of the class of a name, a
message, and no details. -/
structure RefusedFor (members : Entries Json) (fault : Fault) (kind message : String) : Prop where
  error : ofEntry members = .error (.declaration fault)
  kind : (EntryFault.declaration fault).errorClass.name = kind
  message : (EntryFault.declaration fault).message = message
  details : (EntryFault.declaration fault).details = []

/-- An entry is refused for one fault. -/
theorem RefusedFor.fault_eq {members : Entries Json} {fault other : Fault} {kind message : String}
    (h : RefusedFor members fault kind message)
    (hother : ofEntry members = .error (.declaration other)) : fault = other :=
  EntryFault.declaration.inj (Except.error.inj (h.error.symm.trans hother))

/-- No declaration is refused as if fields of an entry were faulty. -/
theorem Fault.errorClass_ne_validation (fault : Fault) : fault.errorClass ≠ .validation := by
  cases fault <;> exact nofun

/-- There is nothing to report exactly if no field is faulty. -/
theorem fieldFaults_eq_nil_iff_not_faulty {members : Entries Json} :
    fieldFaults members = [] ↔ ¬∃ fault, Faulty members fault := by
  rw [List.eq_nil_iff_forall_not_mem, not_exists]
  exact forall_congr' fun fault => not_congr mem_fieldFaults_iff

/-- An entry with faulty fields is refused with the report of them. -/
theorem ofEntry_of_ne_nil {members : Entries Json} (h : fieldFaults members ≠ []) :
    ofEntry members =
      .error (.fields ((members.get? "id").getD (.text "<unnamed>")) (fieldFaults members)) := by
  rw [ofEntry]
  split
  · rename_i hnil
    exact absurd hnil h
  · rfl

/-- An entry without faulty fields is what its fields declare. -/
theorem ofEntry_of_eq_nil {members : Entries Json} (h : fieldFaults members = []) :
    ofEntry members = (declare (entryAttributes members)).mapError .declaration := by
  rw [ofEntry, h]

/-- An entry without faulty fields comes out as the declaration that its fields make up. -/
theorem ofEntry_of_outcome {members : Entries Json} {result : Except Fault Rule}
    (hsound : fieldFaults members = [])
    (h : Outcome defaultOwner (entryAttributes members) result) :
    ofEntry members = result.mapError .declaration := by
  rw [ofEntry_of_eq_nil hsound, declare, validate_of_outcome h]

/-- **An entry is refused for its faulty fields, or it is what its fields declare.** -/
theorem ofEntry_cases (members : Entries Json) :
    fieldFaults members ≠ [] ∧ ofEntry members =
      .error (.fields ((members.get? "id").getD (.text "<unnamed>")) (fieldFaults members)) ∨
    fieldFaults members = [] ∧ ((∃ r, ofEntry members = .ok r) ∨
      ∃ fault, ofEntry members = .error (.declaration fault) ∧
        (fault = .missing defaultOwner ∨ fault = .conflicting defaultOwner ∨
          ∃ channel, fault = .blankName channel)) := by
  by_cases hsound : fieldFaults members = []
  · refine .inr ⟨hsound, ?_⟩
    rw [ofEntry_of_eq_nil hsound]
    cases hdeclare : declare (entryAttributes members) with
    | ok r => exact .inl ⟨r, rfl⟩
    | error fault => exact .inr ⟨fault, rfl, fault_of_fieldFaults_eq_nil hsound hdeclare⟩
  · exact .inl ⟨hsound, ofEntry_of_ne_nil hsound⟩

/-- **The account of an entry.** Its fields are refused exactly if one of them is faulty, whatever
the entry would declare. The error then has one detail for each faulty field, with the field and
what is wrong with it, first the unknown fields in the order of their names and then the others as
they are listed, and the message names the same faults in the same order. Without a faulty field
there is a rule, or the entry is refused because it declares no names, because it declares names in
both channels, or because a name is blank. -/
theorem ofEntry_exact {members : Entries Json} (h : members.keys.Nodup) :
    let told : FieldProblem → String
      | .unknown => "unknown field"
      | .namesExpected => "expected a string or a list of strings"
      | .textExpected => "expected a string"
      | .flagExpected => "expected a boolean"
    ((∃ refusal, ofEntry members = .error refusal ∧ refusal.errorClass = .validation) ↔
      ∃ fault, Faulty members fault) ∧
    (∀ refusal, ofEntry members = .error refusal → refusal.errorClass = .validation →
      refusal.errorClass.name = "OnPropertyValidationError" ∧
      ∃ faults, Reported members faults ∧
        refusal.details = faults.map (fun fault =>
          .object [("field", .text fault.field), ("error", .text (told fault.problem))]) ∧
        refusal.message = "Invalid rule configuration for "
          ++ ((members.get? "id").getD (.text "<unnamed>")).literal ++ ": "
          ++ ", ".intercalate (faults.map fun fault =>
            fault.field ++ " (" ++ told fault.problem ++ ")")) ∧
    ((¬∃ fault, Faulty members fault) →
      (∃ r, ofEntry members = .ok r) ∨
      RefusedFor members (.missing defaultOwner) "MissingAttributeError"
        "The name or value attribute of conditional_on_property must be specified" ∨
      RefusedFor members (.conflicting defaultOwner) "ConflictingAttributesError"
        "The name and value attributes of conditional_on_property are exclusive" ∨
      RefusedFor members (.blankName .name) "OnPropertyConfigError"
        "Invalid name attribute: blank property name" ∨
      RefusedFor members (.blankName .value) "OnPropertyConfigError"
        "Invalid value attribute: blank property name") := by
  intro told
  obtain ⟨hsome, hentry⟩ | ⟨hsound, hdeclared⟩ := ofEntry_cases members
  · have hfaulty := not_not.mp (mt fieldFaults_eq_nil_iff_not_faulty.mpr hsome)
    refine ⟨iff_of_true ⟨_, hentry, rfl⟩ hfaulty, ?_, fun hnone => absurd hfaulty hnone⟩
    intro refusal heq _
    rw [hentry] at heq
    cases heq
    have htold : FieldProblem.text = told := by
      funext problem
      cases problem <;> rfl
    refine ⟨rfl, fieldFaults members, reported_fieldFaults h, ?_, ?_⟩
    · rw [← htold]
      rfl
    · rw [← htold]
      rfl
  · have hnone := fieldFaults_eq_nil_iff_not_faulty.mp hsound
    have hother : ∀ refusal, ofEntry members = .error refusal →
        refusal.errorClass ≠ .validation := by
      intro refusal heq
      obtain ⟨r, hentry⟩ | ⟨fault, hentry, -⟩ := hdeclared
      · rw [hentry] at heq
        cases heq
      · rw [hentry] at heq
        cases heq
        exact fault.errorClass_ne_validation
    refine ⟨iff_of_false (fun ⟨refusal, heq, hclass⟩ => hother refusal heq hclass) hnone,
      fun refusal heq hclass => absurd hclass (hother refusal heq), fun _ => ?_⟩
    obtain ⟨r, hentry⟩ | ⟨fault, hentry, rfl | rfl | ⟨channel, rfl⟩⟩ := hdeclared
    · exact .inl ⟨r, hentry⟩
    · exact .inr (.inl ⟨hentry, rfl, rfl, rfl⟩)
    · exact .inr (.inr (.inl ⟨hentry, rfl, rfl, rfl⟩))
    · cases channel with
      | name => exact .inr (.inr (.inr (.inl ⟨hentry, rfl, rfl, rfl⟩)))
      | value => exact .inr (.inr (.inr (.inr ⟨hentry, rfl, rfl, rfl⟩)))

/-- An entry has two unknown fields, a number among its names, a number as its scope, a list as what
it expects and a text as one of its flags, besides names in both channels. All six fields are
reported, in this order; null is no fault of a field that is known, and the description may be a
number. With texts in both channels and nothing else wrong, an entry is refused for the channels,
although one of the names is blank. If the names are all in one channel, it is refused for the blank
one among them. -/
theorem ofEntry_exact_manyFaults :
    let members : Entries Json :=
      [("zeta", .null), ("prefix", .integer 3), ("id", .text "r"), ("name", .list [.integer 1]),
        ("match_if_missing", .text "no"), ("Alpha", .bool true), ("value", .text "x"),
        ("having_value", .list []), ("relaxed_names", .null), ("description", .integer 7)]
    let faults : List FieldFault :=
      [⟨"Alpha", .unknown⟩, ⟨"zeta", .unknown⟩, ⟨"name", .namesExpected⟩, ⟨"prefix", .textExpected⟩,
        ⟨"having_value", .textExpected⟩, ⟨"match_if_missing", .flagExpected⟩]
    let both : Entries Json :=
      [("name", .text " "), ("id", .integer 1), ("value", .list [.text "x"])]
    let blank : Entries Json := [("id", .integer 1), ("value", .list [.text "x", .text " "])]
    members.keys.Nodup ∧ Reported members faults ∧
      (∃ refusal, ofEntry members = .error refusal ∧ refusal.errorClass = .validation ∧
        refusal.errorClass.name = "OnPropertyValidationError" ∧
        refusal.details =
          [.object [("field", .text "Alpha"), ("error", .text "unknown field")],
            .object [("field", .text "zeta"), ("error", .text "unknown field")],
            .object [("field", .text "name"),
              ("error", .text "expected a string or a list of strings")],
            .object [("field", .text "prefix"), ("error", .text "expected a string")],
            .object [("field", .text "having_value"), ("error", .text "expected a string")],
            .object [("field", .text "match_if_missing"), ("error", .text "expected a boolean")]] ∧
        refusal.message = "Invalid rule configuration for 'r': Alpha (unknown field), "
          ++ "zeta (unknown field), name (expected a string or a list of strings), "
          ++ "prefix (expected a string), having_value (expected a string), "
          ++ "match_if_missing (expected a boolean)") ∧
      both.keys.Nodup ∧ (¬∃ fault, Faulty both fault) ∧
      RefusedFor both (.conflicting defaultOwner) "ConflictingAttributesError"
        "The name and value attributes of conditional_on_property are exclusive" ∧
      blank.keys.Nodup ∧ (¬∃ fault, Faulty blank fault) ∧
      RefusedFor blank (.blankName .value) "OnPropertyConfigError"
        "Invalid value attribute: blank property name" := by
  intro members faults both blank
  have hnodup : members.keys.Nodup := by decide
  have hnodupBoth : both.keys.Nodup := by decide
  have hnodupBlank : blank.keys.Nodup := by decide
  have hfaults : fieldFaults members = faults := by cbv
  have hreported : Reported members faults := hfaults ▸ reported_fieldFaults hnodup
  have hfieldsBoth : fieldFaults both = [] := fieldFaults_eq_nil_iff.mpr (by decide)
  have hfieldsBlank : fieldFaults blank = [] := fieldFaults_eq_nil_iff.mpr (by decide)
  have hboth : Outcome defaultOwner (entryAttributes both) (.error (.conflicting defaultOwner)) :=
    .conflicting (.text (by decide)) (.list (List.cons_ne_nil _ _))
  have hname : Names (.text "x") "x" := ⟨"x", rfl, by decide +kernel, by decide⟩
  have hchooses : Chooses (entryAttributes blank) .value [.text "x", .text " "] :=
    ⟨.list (List.cons_ne_nil _ _), unpopulated_null⟩
  have hblank : Outcome defaultOwner (entryAttributes blank) (.error (.blankName .value)) :=
    .nameless hchooses ⟨[_], _, [], _, rfl, .cons hname .nil, .blank (by decide +kernel)⟩
  have hentryBoth := ofEntry_of_outcome hfieldsBoth hboth
  have hentryBlank := ofEntry_of_outcome hfieldsBlank hblank
  obtain ⟨hrefused, hreport, -⟩ := ofEntry_exact hnodup
  obtain ⟨-, -, hcasesBoth⟩ := ofEntry_exact hnodupBoth
  obtain ⟨-, -, hcasesBlank⟩ := ofEntry_exact hnodupBlank
  have hsoundBoth := fieldFaults_eq_nil_iff_not_faulty.mp hfieldsBoth
  have hsoundBlank := fieldFaults_eq_nil_iff_not_faulty.mp hfieldsBlank
  refine ⟨hnodup, hreported, ?_, hnodupBoth, hsoundBoth, ?_, hnodupBlank, hsoundBlank, ?_⟩
  · obtain ⟨refusal, herror, hclass⟩ :=
      hrefused.mpr ⟨_, (hreported.mem_iff ⟨"zeta", .unknown⟩).mp (by decide)⟩
    obtain ⟨hkind, reported, hall, hdetails, hmessage⟩ := hreport refusal herror hclass
    obtain rfl := hall.unique hreported
    exact ⟨refusal, herror, hclass, hkind, hdetails, hmessage.trans (by decide +kernel)⟩
  · obtain ⟨r, hr⟩ | hr | hr | hr | hr := hcasesBoth hsoundBoth
    · rw [hentryBoth] at hr
      cases hr
    · cases hr.fault_eq hentryBoth
    · exact hr
    · cases hr.fault_eq hentryBoth
    · cases hr.fault_eq hentryBoth
  · obtain ⟨r, hr⟩ | hr | hr | hr | hr := hcasesBlank hsoundBlank
    · rw [hentryBlank] at hr
      cases hr
    · cases hr.fault_eq hentryBlank
    · cases hr.fault_eq hentryBlank
    · cases hr.fault_eq hentryBlank
    · exact hr

end Activation.Rule
