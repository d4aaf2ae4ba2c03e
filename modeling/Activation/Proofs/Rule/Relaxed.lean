import Mathlib.Data.List.Basic
import Mathlib.Data.List.Forall2
import Activation.Proofs.Report.Reasons

/-!
# Relaxed and Strict Rules

A strict rule settles every name by its key as declared. A relaxed rule goes on where that key is
not set, and only there: so the two can disagree about a name only if the strict rule has the
property missing and the relaxed one has found it under another spelling.

What the discovery is worth depends on what a missing property counts for. If it fails, a strict
rule that is met has found everything, and the relaxed rule has nothing to add. If it passes, the
value found can only do harm: it may be the wrong one, where nothing at all would have been fine.

## Main statements

* `settledDetail_strict_of_isSet`, `settledDetail_strict_of_isMissing` — the two ways in which a
  name is settled alike by both rules.
* `evaluate_strict` — what a strict evaluation tells about a relaxed one, and conversely.
-/

namespace Activation.Rule

variable {r : Rule} {lookup : String → Option String} {name : String}

/-! ### One name -/

/-- A name whose key as declared is set is settled by that key, whether other spellings are tried
or not. -/
theorem settledDetail_of_isSet (h : isSet lookup (r.scope ++ name) = true) :
    r.settledDetail lookup name =
      ⟨r.scope ++ name, lookup (r.scope ++ name), r.judge (lookup (r.scope ++ name))⟩ := by
  refine settledDetail_eq_declared fun hnone => ?_
  rw [isSet_of_eq_none hnone] at h
  cases h

/-- A name that nothing has been found for has its key as declared not set. -/
theorem lookup_eq_none_of_isMissing (h : (r.settledDetail lookup name).isMissing = true) :
    lookup (r.scope ++ name) = none := by
  rcases hvalue : lookup (r.scope ++ name) with _ | value
  · rfl
  · rw [settledDetail_of_isSet (isSet_of_eq_some hvalue), hvalue] at h
    cases h

/-! ### A rule and the strict rule that it comes with -/

section Strict

variable {no : Json}

/-- A strict rule settles every name by its key as declared, set or not. -/
theorem settledDetail_strict (r : Rule) (hno : no.truthy = false)
    (lookup : String → Option String) (name : String) :
    { r with relaxed := no }.settledDetail lookup name =
      ⟨r.scope ++ name, lookup (r.scope ++ name), r.judge (lookup (r.scope ++ name))⟩ := by
  refine settledDetail_eq_declared fun hnone key hkey => ?_
  rw [candidates, hno] at hkey
  obtain rfl := List.mem_singleton.mp hkey
  exact hnone

/-- A name whose key as declared is set has the same detail in the strict rule. -/
theorem settledDetail_strict_of_isSet (hno : no.truthy = false)
    (h : isSet lookup (r.scope ++ name) = true) :
    { r with relaxed := no }.settledDetail lookup name = r.settledDetail lookup name := by
  rw [settledDetail_strict r hno, settledDetail_of_isSet h]

/-- A name that nothing has been found for has the same detail in the strict rule. -/
theorem settledDetail_strict_of_isMissing (hno : no.truthy = false)
    (h : (r.settledDetail lookup name).isMissing = true) :
    { r with relaxed := no }.settledDetail lookup name = r.settledDetail lookup name := by
  rw [settledDetail_strict r hno, settledDetail_of_isMissing h, lookup_eq_none_of_isMissing h]
  rfl

/-- Where a missing property fails, a name that passes in the strict rule has its key as declared
set. -/
theorem isSet_of_passes_strict (hno : no.truthy = false) (hmissing : r.ifMissing.truthy = false)
    (h : ({ r with relaxed := no }.settledDetail lookup name).passes = true) :
    isSet lookup (r.scope ++ name) = true := by
  rw [settledDetail_strict r hno] at h
  rcases hvalue : lookup (r.scope ++ name) with _ | value
  · rw [hvalue] at h
    exact absurd (h.symm.trans hmissing) (by decide)
  · exact isSet_of_eq_some hvalue

/-- Where a missing property passes, a name that passes in a rule passes in the strict rule. -/
theorem passes_strict_of_passes (hno : no.truthy = false) (hmissing : r.ifMissing.truthy = true)
    (h : (r.settledDetail lookup name).passes = true) :
    ({ r with relaxed := no }.settledDetail lookup name).passes = true := by
  rcases hvalue : lookup (r.scope ++ name) with _ | value
  · rw [settledDetail_strict r hno, hvalue]
    exact hmissing
  · rwa [settledDetail_strict_of_isSet hno (isSet_of_eq_some hvalue)]

/-- A name of which no candidate is set has none set in the strict rule. -/
theorem isUnset_strict (hno : no.truthy = false) (h : r.isUnset lookup name = true) :
    { r with relaxed := no }.isUnset lookup name = true := by
  obtain ⟨more, hmore⟩ := exists_candidates_eq_cons r name
  have hdeclared := List.all_eq_true.mp h (r.scope ++ name) (hmore ▸ List.mem_cons_self)
  rw [isUnset, candidates, hno]
  exact List.all_eq_true.mpr fun key hkey => List.mem_singleton.mp hkey ▸ hdeclared

/-- A rule reports no key as missing that the strict rule does not. -/
theorem missingKeys_sublist_strict (hno : no.truthy = false) (owner : String) :
    (r.settledReport owner lookup).missingKeys.Sublist
      ({ r with relaxed := no }.settledReport owner lookup).missingKeys := by
  rw [missingKeys_settledReport, missingKeys_settledReport]
  cases r.ifMissing.truthy with
  | true => exact List.Sublist.refl []
  | false => exact (List.monotone_filter_right r.names fun n hn => isUnset_strict hno hn).map _

end Strict

/-! ### Whole evaluations -/

/-- **Relaxed and strict rules.** Compare a rule, which may try other spellings, with the strict
rule that differs from it in nothing else, on any source. A name whose key as declared is set has
the same detail in both evaluations. What is missing in the evaluation of the rule is missing in the
strict one. If a missing property fails and the strict rule is met, both rules have the same report;
if a missing property passes and the rule is met, the strict rule is met as well. -/
theorem evaluate_strict (r : Rule) {no : Json} (hno : no.truthy = false) (source : Source)
    (owner : String) :
    let report := (r.evaluate source owner).report
    let strict := ({ r with relaxed := no }.evaluate source owner).report
    (∀ (i : Nat) (name value : String), r.names[i]? = some name →
      source.lookup (r.scope ++ name) = some value →
        report.details[i]? = some ⟨r.scope ++ name, some value, r.judge (some value)⟩ ∧
          strict.details[i]? = report.details[i]?) ∧
    List.Forall₂ (fun d e : Detail => d.isMissing = true → e = d) report.details strict.details ∧
    report.missingKeys.Sublist strict.missingKeys ∧
    (r.ifMissing.truthy = false → strict.matched = true →
      report.matched = true ∧ report.details = strict.details) ∧
    (r.ifMissing.truthy = true → report.matched = true → strict.matched = true) := by
  intro report strict
  have hreport : report = r.settledReport owner source.lookup := report_evaluate r source owner
  have hstrict : strict = { r with relaxed := no }.settledReport owner source.lookup :=
    report_evaluate _ source owner
  have hdetails : report.details = r.names.map (r.settledDetail source.lookup) :=
    congrArg Report.details hreport
  have hstrictDetails : strict.details =
      r.names.map ({ r with relaxed := no }.settledDetail source.lookup) :=
    congrArg Report.details hstrict
  have hmatched : report.matched = report.details.all Detail.passes := by rw [hreport]; rfl
  have hstrictMatched : strict.matched = strict.details.all Detail.passes := by rw [hstrict]; rfl
  refine ⟨?_, ?_, ?_, ?_, ?_⟩
  · intro i name value hname hvalue
    have hset := isSet_of_eq_some hvalue
    rw [hdetails, hstrictDetails, List.getElem?_map, List.getElem?_map, hname, Option.map_some,
      Option.map_some, settledDetail_strict_of_isSet hno hset, settledDetail_of_isSet hset, hvalue]
    exact ⟨rfl, rfl⟩
  · rw [hdetails, hstrictDetails, List.forall₂_map_left_iff, List.forall₂_map_right_iff,
      List.forall₂_same]
    exact fun name _ hmissing => settledDetail_strict_of_isMissing hno hmissing
  · rw [hreport, hstrict]
    exact missingKeys_sublist_strict hno owner
  · intro hmissing hmet
    rw [hstrictMatched, hstrictDetails, List.all_map, List.all_eq_true] at hmet
    have hsame : report.details = strict.details := by
      rw [hdetails, hstrictDetails]
      refine List.map_congr_left fun name hname => ?_
      exact (settledDetail_strict_of_isSet hno
        (isSet_of_passes_strict hno hmissing (hmet name hname))).symm
    refine ⟨?_, hsame⟩
    rw [hmatched, hsame, hstrictDetails, List.all_map, List.all_eq_true]
    exact hmet
  · intro hmissing hmet
    rw [hmatched, hdetails, List.all_map, List.all_eq_true] at hmet
    rw [hstrictMatched, hstrictDetails, List.all_map, List.all_eq_true]
    exact fun name hname => passes_strict_of_passes hno hmissing (hmet name hname)

/-- One rule fails for what is missing: the strict rule is met, so the kebab spelling that stands
beside the key as declared is not even seen. The other accepts what is missing: it is met through
the kebab spelling, the strict rule through having found nothing; with another value there the rule
is not met, and the strict rule still is. -/
theorem evaluate_strict_kebab :
    let r : Rule := ⟨["myUrl"], "app.", none, .null, .bool true⟩
    let both : Source := .exact "both" [("app.my-url", "false"), ("app.myUrl", "on")]
    let lenient : Rule := { r with ifMissing := .text "yes" }
    let kebab (value : String) : Source := .exact "kebab" [("app.my-url", value)]
    Json.null.truthy = false ∧ r.ifMissing.truthy = false ∧ lenient.ifMissing.truthy = true ∧
      ({ r with relaxed := .null }.evaluate both "w").report.matched = true ∧
      (r.evaluate both "w").report.matched = true ∧
      (r.evaluate both "w").report.details[0]? = some ⟨"app.myUrl", some "on", .bool true⟩ ∧
      (lenient.evaluate (kebab "on") "w").report.matched = true ∧
      ({ lenient with relaxed := .null }.evaluate (kebab "on") "w").report.matched = true ∧
      (lenient.evaluate (kebab "false") "w").report.matched = false ∧
      ({ lenient with relaxed := .null }.evaluate (kebab "false") "w").report.matched = true := by
  intro r both lenient kebab
  have hstrict : ({ r with relaxed := .null }.evaluate both "w").report.matched = true := by
    decide +kernel
  have hlenient : (lenient.evaluate (kebab "on") "w").report.matched = true := by decide +kernel
  obtain ⟨hdetail, -, -, hfail, -⟩ := evaluate_strict r Json.truthy_null both "w"
  obtain ⟨-, -, -, -, hpass⟩ := evaluate_strict lenient Json.truthy_null (kebab "on") "w"
  refine ⟨rfl, rfl, rfl, hstrict, (hfail rfl hstrict).1, ?_, hlenient, hpass rfl hlenient,
    by decide +kernel, by decide +kernel⟩
  exact (hdetail 0 "myUrl" "on" rfl rfl).1

end Activation.Rule
