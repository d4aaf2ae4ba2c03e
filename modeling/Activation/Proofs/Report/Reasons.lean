import Activation.Proofs.Evaluation

/-!
# Why an Evaluation has Failed

A report holds its verdict beside the details, and it tells the two kinds of failure apart by other
tests than the one that the verdict was found by: a detail has failed for want of a property if it
has no value, and otherwise because of the value. Every detail that has failed is of one kind, so
the keys of the two kinds **interleave** to those of all details that have failed (`Interleaved`),
and a verdict that is negative always has a reason.

A name of which no candidate is set (`isUnset`) has a detail without a value, under its key as
declared, and every other name has one with the value that its key is set to. So the keys that are
reported missing can be read off the rule and the look-up.

## Main statements

* `interleaved_filter` — a test splits a list in two that interleave to it.
* `missingKeys_settledReport` — the missing keys in terms of the rule and the look-up.
* `reasons_exact` — the account of a report's reasons and message.
-/

namespace Activation

/-- Two lists **interleave** to a third one if it takes its items from both, each in their order,
until both are used up. -/
inductive Interleaved {α : Type} : List α → List α → List α → Prop
  | nil : Interleaved [] [] []
  | left {x : α} {xs ys all : List α} (h : Interleaved xs ys all) :
      Interleaved (x :: xs) ys (x :: all)
  | right {y : α} {xs ys all : List α} (h : Interleaved xs ys all) :
      Interleaved xs (y :: ys) (y :: all)

/-- **A test splits a list in two that interleave to it.** -/
theorem interleaved_filter {α : Type} (p : α → Bool) (items : List α) :
    Interleaved (items.filter p) (items.filter fun x => !p x) items := by
  induction items with
  | nil => exact .nil
  | cons x rest ih =>
      rcases hx : p x with _ | _
      · rw [List.filter_cons_of_neg (by simp [hx]), List.filter_cons_of_pos (by simp [hx])]
        exact .right ih
      · rw [List.filter_cons_of_pos hx, List.filter_cons_of_neg (by simp [hx])]
        exact .left ih

/-! ### The two kinds of failure -/

namespace Report

/-- The details that have failed. -/
def failures (r : Report) : List Detail :=
  r.details.filter fun d => !d.passes

/-- The missing keys are those of the failures without a value. -/
theorem missingKeys_eq (r : Report) :
    r.missingKeys = (r.failures.filter Detail.isMissing).map (·.key) := by
  rw [missingKeys, failures, List.filter_filter]
  simp only [Bool.and_comm]

/-- The mismatched keys are those of the failures with a value. -/
theorem mismatchedKeys_eq (r : Report) :
    r.mismatchedKeys = (r.failures.filter fun d => !d.isMissing).map (·.key) := by
  rw [mismatchedKeys, failures, List.filter_filter]
  simp only [Bool.and_comm]

/-- Passing details and failures of both kinds make up all details. -/
theorem length_details (r : Report) :
    (r.details.filter Detail.passes).length + r.missingKeys.length + r.mismatchedKeys.length
      = r.details.length := by
  have hfailing := List.length_eq_length_filter_add (l := r.failures) Detail.isMissing
  rw [List.length_eq_length_filter_add (l := r.details) Detail.passes, missingKeys_eq,
    mismatchedKeys_eq, List.length_map, List.length_map, Nat.add_assoc, ← hfailing]
  rfl

/-- There is no failure exactly if there are no keys of either kind. -/
theorem failures_eq_nil_iff (r : Report) :
    r.failures = [] ↔ r.missingKeys = [] ∧ r.mismatchedKeys = [] := by
  rw [missingKeys_eq, mismatchedKeys_eq, List.map_eq_nil_iff, List.map_eq_nil_iff,
    ← List.length_eq_zero_iff, ← List.length_eq_zero_iff, ← List.length_eq_zero_iff,
    List.length_eq_length_filter_add Detail.isMissing, Nat.add_eq_zero_iff]

/-! ### Messages -/

/-- The **message of a failed evaluation**, given the keys that are missing and those that are
mismatched: it has a part for each kind of which there are keys, and names them all. -/
inductive FailureMessage (owner : String) : List String → List String → String → Prop
  | missing {missing : List String} (h : missing ≠ []) :
      FailureMessage owner missing []
        (owner ++ " missing required properties " ++ ", ".intercalate missing)
  | mismatched {mismatched : List String} (h : mismatched ≠ []) :
      FailureMessage owner [] mismatched
        (owner ++ " found different value in property " ++ ", ".intercalate mismatched)
  | both {missing mismatched : List String} (hmissing : missing ≠ [])
      (hmismatched : mismatched ≠ []) :
      FailureMessage owner missing mismatched
        (owner ++ " missing required properties " ++ ", ".intercalate missing
          ++ "; found different value in property " ++ ", ".intercalate mismatched)

/-- A report that is negative and has a key of either kind has such a message. -/
theorem failureMessage_message {r : Report} (hmatched : r.matched = false)
    (h : r.missingKeys ≠ [] ∨ r.mismatchedKeys ≠ []) :
    FailureMessage r.owner r.missingKeys r.mismatchedKeys r.message := by
  have hmissing : " missing required properties " = " " ++ "missing required properties " := rfl
  have hmismatched : " found different value in property "
      = " " ++ "found different value in property " := rfl
  have hsecond : "; found different value in property "
      = "; " ++ "found different value in property " := rfl
  have hkeys : ∀ {keys : List String}, keys ≠ [] → ¬keys.isEmpty = true := fun hne hempty =>
    hne (List.isEmpty_iff.mp hempty)
  rw [message, hmatched, if_neg Bool.false_ne_true, reasons]
  generalize r.missingKeys = missing at h
  generalize r.mismatchedKeys = mismatched at h
  by_cases hnone : missing = []
  · obtain rfl := hnone
    have hsome : mismatched ≠ [] := h.resolve_left (not_not_intro rfl)
    have hmessage : FailureMessage r.owner [] mismatched _ := .mismatched hsome
    rw [hmismatched, ← String.append_assoc, String.append_assoc] at hmessage
    rwa [if_pos List.isEmpty_nil, if_neg (hkeys hsome), List.nil_append,
      String.intercalate_singleton]
  · by_cases hnone' : mismatched = []
    · obtain rfl := hnone'
      have hmessage : FailureMessage r.owner missing [] _ := .missing hnone
      rw [hmissing, ← String.append_assoc, String.append_assoc] at hmessage
      rwa [if_neg (hkeys hnone), if_pos List.isEmpty_nil, List.append_nil,
        String.intercalate_singleton]
    · have hmessage : FailureMessage r.owner missing mismatched _ := .both hnone hnone'
      rw [hmissing, hsecond] at hmessage
      rw [if_neg (hkeys hnone), if_neg (hkeys hnone'), List.singleton_append,
        String.intercalate_cons_cons, String.intercalate_singleton]
      simpa only [String.append_assoc] using hmessage

end Report

namespace Rule

variable {r : Rule} {lookup : String → Option String} {name : String}

/-- Whether no candidate of a name is set. -/
def isUnset (r : Rule) (lookup : String → Option String) (name : String) : Bool :=
  (r.candidates name).all fun key => !isSet lookup key

/-- A detail has no value exactly if no candidate of its name is set. -/
theorem isMissing_settledDetail (r : Rule) (lookup : String → Option String) (name : String) :
    (r.settledDetail lookup name).isMissing = r.isUnset lookup name := by
  rw [Bool.eq_iff_iff, Detail.isMissing, settledDetail, Option.isNone_iff_eq_none,
    settledValue_eq_findSome?, List.findSome?_eq_none_iff, isUnset, List.all_eq_true]
  simp only [isSet, Bool.not_eq_true', Option.isSome_eq_false_iff, Option.isNone_iff_eq_none]

/-- **The missing keys in terms of the rule and the look-up:** none if a missing property passes,
and otherwise the keys as declared of the names of which no candidate is set. -/
theorem missingKeys_settledReport (r : Rule) (owner : String) (lookup : String → Option String) :
    (r.settledReport owner lookup).missingKeys =
      if r.ifMissing.truthy then []
      else (r.names.filter (r.isUnset lookup)).map (r.scope ++ ·) := by
  have hfails : ∀ name, (!(r.settledDetail lookup name).passes
      && (r.settledDetail lookup name).isMissing)
        = (!r.ifMissing.truthy && r.isUnset lookup name) := by
    intro name
    rw [← isMissing_settledDetail]
    rcases h : (r.settledDetail lookup name).isMissing with _ | _
    · rw [Bool.and_false, Bool.and_false]
    · rw [settledDetail_of_isMissing h]
      rfl
  rw [Report.missingKeys, settledReport, List.filter_map, List.map_map]
  simp only [Function.comp_def, hfails]
  cases r.ifMissing.truthy with
  | true => simp
  | false =>
      refine List.map_congr_left fun name hname => ?_
      have hmissing : (r.settledDetail lookup name).isMissing = true := by
        rw [isMissing_settledDetail]
        simpa using (List.mem_filter.mp hname).2
      rw [settledDetail_of_isMissing hmissing]

/-- A report is positive exactly if no detail has failed. -/
theorem matched_iff_failures_eq_nil (r : Rule) (source : Source) (owner : String) :
    (r.evaluate source owner).report.matched = true ↔
      (r.evaluate source owner).report.failures = [] := by
  rw [matched_evaluate, List.all_eq_true, Report.failures, List.filter_eq_nil_iff]
  simp only [Bool.not_eq_true', Bool.not_eq_false]

/-- A detail that has a value has the one that its key is set to. -/
theorem exists_lookup_of_mem_details {source : Source} {owner : String} {d : Detail}
    (h : d ∈ (r.evaluate source owner).report.details) (hvalue : d.isMissing = false) :
    ∃ value, d.value = some value ∧ source.lookup d.key = some value := by
  rw [details_evaluate] at h
  obtain ⟨name, -, rfl⟩ := List.mem_map.mp h
  obtain ⟨key, value, hset, hdetail⟩ := exists_settledDetail_of_not_isMissing hvalue
  rw [hdetail]
  exact ⟨value, rfl, hset⟩

/-- **The account of a report's reasons.** A report is positive exactly if it has neither missing
nor mismatched keys. The details that have failed are two lists interleaved: one of details without
a value, whose keys are the missing ones, and one of details with a value, which their keys are set
to in the source and which are the mismatched ones. The missing keys are those declared for the
names of which no candidate is set, unless a missing property passes. There are as many passing
details and keys of the two kinds as the rule has names. The message of a negative report has a part
for either kind of which there are keys, and there is one; that of a positive report names the keys
of all details. -/
theorem reasons_exact (r : Rule) (source : Source) (owner : String) :
    let report := (r.evaluate source owner).report
    (report.matched = true ↔ report.missingKeys = [] ∧ report.mismatchedKeys = []) ∧
    (∃ unset other, Interleaved unset other report.failures ∧
      report.missingKeys = unset.map (·.key) ∧ (∀ d ∈ unset, d.value = none) ∧
      report.mismatchedKeys = other.map (·.key) ∧
      ∀ d ∈ other, ∃ value, d.value = some value ∧ source.lookup d.key = some value) ∧
    report.missingKeys = (if r.ifMissing.truthy then []
      else (r.names.filter (r.isUnset source.lookup)).map (r.scope ++ ·)) ∧
    (report.details.filter Detail.passes).length + report.missingKeys.length
      + report.mismatchedKeys.length = r.names.length ∧
    (report.matched = false →
      Report.FailureMessage owner report.missingKeys report.mismatchedKeys report.message) ∧
    (report.matched = true → report.message
      = owner ++ " (" ++ ", ".intercalate (report.details.map (·.key)) ++ ") matched") := by
  intro report
  have hmatched : report.matched = true ↔ report.missingKeys = [] ∧ report.mismatchedKeys = [] :=
    (matched_iff_failures_eq_nil r source owner).trans report.failures_eq_nil_iff
  refine ⟨hmatched, ?_, ?_, ?_, ?_, ?_⟩
  · refine ⟨_, _, interleaved_filter Detail.isMissing report.failures, report.missingKeys_eq, ?_,
      report.mismatchedKeys_eq, ?_⟩
    · intro d hd
      exact Option.isNone_iff_eq_none.mp (List.mem_filter.mp hd).2
    · intro d hd
      obtain ⟨hfailure, hvalue⟩ := List.mem_filter.mp hd
      rw [Bool.not_eq_true'] at hvalue
      exact exists_lookup_of_mem_details (List.mem_filter.mp hfailure).1 hvalue
  · have hreport : report = r.settledReport owner source.lookup := report_evaluate r source owner
    rw [hreport, missingKeys_settledReport]
  · have hdetails : report.details = r.names.map (r.settledDetail source.lookup) :=
      details_evaluate r source owner
    rw [report.length_details, hdetails, List.length_map]
  · intro hfailed
    refine Report.failureMessage_message hfailed (not_and_or.mp fun hnone => ?_)
    rw [hmatched.mpr hnone] at hfailed
    cases hfailed
  · intro hpassed
    exact if_pos hpassed

/-- Of three properties one is set to another value, under its kebab spelling, one is not set, and
one passes; each of the first two is named for its own reason. -/
theorem reasons_exact_bothKinds :
    let r : Rule := ⟨["myUrl", "port", "host"], "app.", some "on", .bool false, .bool true⟩
    let source : Source := .exact "map" [("app.my-url", "off"), ("app.host", "ON")]
    let report := (r.evaluate source "w").report
    report.matched = false ∧ report.missingKeys = ["app.port"] ∧
      report.mismatchedKeys = ["app.my-url"] ∧
      Report.FailureMessage "w" ["app.port"] ["app.my-url"] report.message := by
  intro r source report
  have hmatched : report.matched = false := by decide +kernel
  have hmissing : report.missingKeys = ["app.port"] := by decide +kernel
  have hmismatched : report.mismatchedKeys = ["app.my-url"] := by decide +kernel
  obtain ⟨-, -, -, -, hmessage, -⟩ := reasons_exact r source "w"
  refine ⟨hmatched, hmissing, hmismatched, ?_⟩
  rw [← hmissing, ← hmismatched]
  exact hmessage hmatched

end Rule

end Activation
