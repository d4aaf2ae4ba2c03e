import Activation.Proofs.Entries
import Activation.Proofs.Evaluation
import Activation.Proofs.Json.Flags
import Activation.Proofs.Report
import Activation.Proofs.Rule.WellFormed

/-!
# Rules Written and Read Back

A rule is written to an entry without the fields that have their default, and its flags are
written as truth values. Reading the entry declares the rule once more from its own parts, with
the flags replaced by their truth (`ofEntry_toEntry`). So nothing is lost but the difference
between a flag and its truth, and the rule read back equals the one written exactly if there is no
such difference.

What is lost cannot be seen in an evaluation except in the outcome of a property that is not set,
and there only in which of several values of one truth it is (`evaluateWith_withPlainFlags`).

## Main statements

* `fieldFaults_eq_nil_iff` — which entries have no faulty field.
* `ofEntry_toEntry` — what a well-formed rule is read back as.
* `evaluateWith_withPlainFlags` — how it is evaluated.
* `exists_ofEntry_toEntry` — the round trip of every rule that can be declared.
-/

namespace Activation

namespace Rule

/-! ### Entries without faults -/

/-- No field among some is at fault exactly if each of them that is present passes the test. -/
theorem faultsAmong_eq_nil_iff {members : Entries Json} {names : List String} {test : Json → Bool}
    {problem : FieldProblem} :
    faultsAmong members names test problem = [] ↔
      ∀ field ∈ names, (members.get? field).all test = true := by
  rw [faultsAmong, List.filterMap_eq_nil_iff]
  refine forall₂_congr fun field _ => ?_
  rcases members.get? field with _ | value
  · exact iff_of_true rfl rfl
  · rw [Option.all_some]
    rcases htest : test value with _ | _ <;> simp [htest]

/-- An entry has no unknown field exactly if all its keys are fields. -/
theorem unknownFields_eq_nil_iff {members : Entries Json} :
    unknownFields members = [] ↔ ∀ key ∈ members.keys, key ∈ fields := by
  have hperm : (unknownFields members).Perm (members.keys.filter fun key => !fields.contains key) :=
    List.mergeSort_perm _ _
  have hnil : unknownFields members = [] ↔
      members.keys.filter (fun key => !fields.contains key) = [] :=
    ⟨fun h => List.nil_perm.mp (h ▸ hperm), fun h => List.perm_nil.mp (h ▸ hperm)⟩
  rw [hnil, List.filter_eq_nil_iff]
  simp

/-- **An entry is free of faults exactly if all its keys are fields and every field that is
present holds a value of its kind.** -/
theorem fieldFaults_eq_nil_iff {members : Entries Json} :
    fieldFaults members = [] ↔
      (∀ key ∈ members.keys, key ∈ fields) ∧
        (∀ field ∈ ["name", "value"], (members.get? field).all isNamesOrNull = true) ∧
        (∀ field ∈ ["prefix", "having_value"], (members.get? field).all isTextOrNull = true) ∧
        ∀ field ∈ ["match_if_missing", "relaxed_names"],
          (members.get? field).all isFlagOrNull = true := by
  rw [fieldFaults, List.append_eq_nil_iff, List.append_eq_nil_iff, List.append_eq_nil_iff,
    List.map_eq_nil_iff, unknownFields_eq_nil_iff, faultsAmong_eq_nil_iff, faultsAmong_eq_nil_iff,
    faultsAmong_eq_nil_iff, and_assoc, and_assoc]

/-! ### The entry of a rule -/

/-- A rule with the truth of its flags in place of the flags. -/
def withPlainFlags (r : Rule) : Rule :=
  { r with ifMissing := .bool r.ifMissing.truthy, relaxed := .bool r.relaxed.truthy }

/-- The fields of the entry of a rule with their values, where they are written at all. -/
def written (r : Rule) : Entries (Option Json) :=
  [("name", some (.list (r.names.map .text))),
    ("prefix", if r.scope = "" then none else some (.text r.scope)),
    ("having_value", r.expected.map .text),
    ("match_if_missing", if r.ifMissing.truthy then some (.bool true) else none),
    ("relaxed_names", if r.relaxed.truthy then none else some (.bool false))]

/-- The entry of a rule has the fields that are written. -/
theorem toEntry_eq_present (r : Rule) : r.toEntry = Entries.present r.written := by
  rcases r with ⟨names, scope, _ | expected, ifMissing, relaxed⟩ <;>
    by_cases hscope : scope = "" <;> rcases hmissing : ifMissing.truthy with _ | _ <;>
      rcases hrelaxed : relaxed.truthy with _ | _ <;>
        simp [toEntry, Entries.present, written, hscope, hmissing, hrelaxed]

/-- The field of an entry of a rule under a key. -/
theorem get?_toEntry (r : Rule) (key : String) :
    r.toEntry.get? key = (r.written.get? key).join := by
  rw [toEntry_eq_present]
  exact Entries.get?_present (by simp [written, Entries.keys]) key

/-- The entry of a rule has no faulty field. -/
theorem fieldFaults_toEntry (r : Rule) : fieldFaults r.toEntry = [] := by
  have hkeys : ∀ key ∈ r.toEntry.keys, key ∈ fields := by
    intro key hkey
    rw [toEntry_eq_present] at hkey
    have hwritten : ∀ k ∈ r.written.keys, k ∈ fields := by
      change ∀ k ∈ ["name", "prefix", "having_value", "match_if_missing", "relaxed_names"], _
      decide
    exact hwritten key ((Entries.keys_present_sublist r.written).subset hkey)
  refine fieldFaults_eq_nil_iff.mpr ⟨hkeys, ?_, ?_, ?_⟩ <;>
    simp only [List.forall_mem_cons, get?_toEntry]
  · refine ⟨?_, rfl, by simp⟩
    change (r.names.map Json.text).all isText = true
    simp [isText]
  · refine ⟨?_, ?_, by simp⟩
    · change (if r.scope = "" then none else some (Json.text r.scope)).all isTextOrNull = true
      split <;> rfl
    · change (r.expected.map Json.text).all isTextOrNull = true
      rcases r.expected with _ | s <;> rfl
  · refine ⟨?_, ?_, by simp⟩
    · change (if r.ifMissing.truthy then some (Json.bool true) else none).all isFlagOrNull = true
      split <;> rfl
    · change (if r.relaxed.truthy then none else some (Json.bool false)).all isFlagOrNull = true
      split <;> rfl

/-- **Reading the entry of a rule declares it from its own parts**, with the truth of its flags in
place of the flags. -/
theorem entryAttributes_toEntry (r : Rule) :
    entryAttributes r.toEntry = r.withPlainFlags.attributes := by
  have hscope : entryScope r.toEntry = .text r.scope := by
    have hfield : r.toEntry.get? "prefix" = if r.scope = "" then none else some (.text r.scope) :=
      get?_toEntry r "prefix"
    by_cases hempty : r.scope = ""
    · rw [if_pos hempty] at hfield
      rw [entryScope, hfield, hempty]
    · rw [if_neg hempty] at hfield
      rw [entryScope, hfield]
      exact if_pos (bne_iff_ne.mpr hempty)
  have hexpected : (r.toEntry.get? "having_value").getD .null = r.expectedJson := by
    rw [get?_toEntry, expectedJson]
    change (r.expected.map Json.text).getD .null = _
    rcases r.expected with _ | s <;> rfl
  have hmissing : (r.toEntry.get? "match_if_missing").getD (.bool false)
      = .bool r.ifMissing.truthy := by
    rw [get?_toEntry]
    change (if r.ifMissing.truthy then some (Json.bool true) else none).getD (.bool false) = _
    rcases r.ifMissing.truthy with _ | _ <;> rfl
  have hrelaxed : (r.toEntry.get? "relaxed_names").getD (.bool true)
      = .bool r.relaxed.truthy := by
    rw [get?_toEntry]
    change (if r.relaxed.truthy then none else some (Json.bool false)).getD (.bool true) = _
    rcases r.relaxed.truthy with _ | _ <;> rfl
  rw [entryAttributes, hscope, hexpected, hmissing, hrelaxed, get?_toEntry, get?_toEntry]
  rfl

/-- A rule with the truth of its flags is as well-formed as the rule. -/
theorem WellFormed.withPlainFlags {r : Rule} (h : WellFormed r) : WellFormed r.withPlainFlags :=
  ⟨h.names_ne_nil, h.properName, h.scope, h.expected⟩

/-- **What is read back from the entry of a well-formed rule** is the rule with the truth of its
flags. -/
theorem ofEntry_toEntry {r : Rule} (h : WellFormed r) :
    ofEntry r.toEntry = .ok r.withPlainFlags := by
  rw [ofEntry, fieldFaults_toEntry, entryAttributes_toEntry, declare_attributes h.withPlainFlags]
  rfl

/-- A rule with the truth of its flags is equal to the rule exactly if each flag is equal to its
truth. -/
theorem withPlainFlags_equal_iff (r : Rule) :
    r.withPlainFlags.equal r = true ↔ r.ifMissing.IsFlag ∧ r.relaxed.IsFlag := by
  rw [← Json.truthy_equal_iff, ← Json.truthy_equal_iff]
  simp [equal, withPlainFlags]

/-! ### The evaluation of what is read back -/

/-- A rule with the truth of its flags judges a value by the truth of the judgement. -/
theorem judge_withPlainFlags (r : Rule) (value : Option String) :
    r.withPlainFlags.judge value = .bool (r.judge value).truthy := by
  rcases value with _ | v
  · rfl
  · obtain ⟨names, scope, _ | expected, ifMissing, relaxed⟩ := r
    · rfl
    · rfl

/-- A rule with the truth of its flags calls for the details in plain form. -/
theorem settledDetail_withPlainFlags (r : Rule) (lookup : String → Option String)
    (name : String) :
    r.withPlainFlags.settledDetail lookup name = (r.settledDetail lookup name).plain := by
  rw [settledDetail, judge_withPlainFlags]
  rfl

/-- A rule with the truth of its flags has the report in plain form. -/
theorem settledReport_withPlainFlags (r : Rule) (owner : String)
    (lookup : String → Option String) :
    r.withPlainFlags.settledReport owner lookup = (r.settledReport owner lookup).plain := by
  have hdetails : r.withPlainFlags.names.map (r.withPlainFlags.settledDetail lookup)
      = (r.names.map (r.settledDetail lookup)).map Detail.plain := by
    rw [List.map_map]
    exact List.map_congr_left fun name _ => settledDetail_withPlainFlags r lookup name
  have hpasses : Detail.passes ∘ Detail.plain = Detail.passes := funext Detail.passes_plain
  rw [settledReport, hdetails, List.all_map, hpasses]
  rfl

/-- **An evaluation sees nothing of a flag but its truth.** A rule with the truth of its flags is
evaluated with the same look-ups and the same log, to the same report in plain form. -/
theorem evaluateWith_withPlainFlags (r : Rule) (owner : String)
    (lookup : String → Option String) :
    r.withPlainFlags.evaluateWith owner lookup =
      ⟨(r.evaluateWith owner lookup).report.plain, (r.evaluateWith owner lookup).lookups,
        (r.evaluateWith owner lookup).log⟩ := by
  have hlines : (r.settledReport owner lookup).plain.details.map Detail.line
      = (r.settledReport owner lookup).details.map Detail.line := by
    rw [Report.plain, List.map_map]
    exact List.map_congr_left fun d _ => d.line_plain
  rw [evaluateWith_eq, evaluateWith_eq, settledReport_withPlainFlags, hlines, Report.line_plain]
  rfl

/-- **The round trip of a rule through its entry.** Whatever way a rule was declared in, its entry
is accepted. The rule read back has the same names, scope, and expected value, and it equals the
one written exactly if both flags of that one are equal to their own truth, that is, if they are
truth values or the numbers zero and one. In every case the two rules look up the same keys in the
same order on every source, log the same lines and give the same message; their details agree in
key, value, and in the truth of the outcome; and their verdicts agree. -/
theorem exists_ofEntry_toEntry {r : Rule} (h : Declared r) :
    ∃ back, ofEntry r.toEntry = .ok back ∧
      back.names = r.names ∧ back.scope = r.scope ∧ back.expected = r.expected ∧
      (back.equal r = true ↔
        r.ifMissing.equal (.bool r.ifMissing.truthy) = true ∧
          r.relaxed.equal (.bool r.relaxed.truthy) = true) ∧
      (∀ flag ∈ [r.ifMissing, r.relaxed], flag.equal (.bool flag.truthy) = true ↔ flag.IsFlag) ∧
      ∀ (source : Source) (owner : String),
        let before := r.evaluate source owner
        let after := back.evaluate source owner
        after.lookups = before.lookups ∧ after.log = before.log ∧
          after.report.message = before.report.message ∧
          after.report.matched = before.report.matched ∧
          after.report.details.map (fun d => (d.key, d.value, d.passes))
            = before.report.details.map (fun d => (d.key, d.value, d.passes)) := by
  refine ⟨r.withPlainFlags, ofEntry_toEntry (wellFormed_of_declared h), rfl, rfl, rfl, ?_,
    fun flag _ => Json.equal_truthy_iff flag, fun source owner => ?_⟩
  · rw [withPlainFlags_equal_iff, Json.equal_truthy_iff, Json.equal_truthy_iff]
  · have heval := evaluateWith_withPlainFlags r owner source.lookup
    intro before after
    have hafter : after = ⟨before.report.plain, before.lookups, before.log⟩ := heval
    rw [hafter]
    refine ⟨rfl, rfl, Report.message_plain before.report, rfl, ?_⟩
    rw [Report.plain, List.map_map]
    rfl

/-- A rule that was declared with a text for one flag and null for the other comes back with other
flags, is not equal to what it was, and still meets the same sources. -/
theorem ofEntry_toEntry_textFlag :
    let r : Rule := ⟨["port"], "app.", none, .text "yes", .null⟩
    let a : Attributes :=
      { name := .text " port ", scope := .text "app..", ifMissing := .text "yes", relaxed := .null }
    declare a = .ok r ∧
      ∃ back, ofEntry r.toEntry = .ok back ∧ back.equal r = false ∧
        (back.evaluate (.exact "s" []) "w").report.matched = true := by
  intro r a
  have hdeclare : declare a = .ok r := rfl
  obtain ⟨back, hback, -, -, -, hequal, -, heval⟩ := exists_ofEntry_toEntry (.ofDeclare hdeclare)
  refine ⟨hdeclare, back, hback, ?_, ?_⟩
  · rw [Bool.eq_false_iff]
    intro h
    exact absurd (hequal.mp h).1 Bool.false_ne_true
  · obtain ⟨-, -, -, hmatched, -⟩ := heval (.exact "s" []) "w"
    rw [hmatched]
    decide +kernel

end Rule

end Activation
