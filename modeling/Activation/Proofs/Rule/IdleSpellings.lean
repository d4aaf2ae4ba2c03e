import Activation.Proofs.Rule.Relaxed
import Activation.Proofs.Source.Canonical

/-!
# Where Other Spellings Make No Difference

A relaxed rule and the strict rule that differs from it in nothing else can give different verdicts
in two ways. If a missing property fails, the relaxed rule can be met by a property that is set
under another spelling only. If a missing property passes, it can be failed by such a property,
which the strict rule does not see.

Nothing of the kind can happen where there are no other spellings, or where a missing property
passes and every other spelling is a name of the rule itself: then the strict rule sees the property
too. In this case the spellings are **idle** (`SpellingsIdle`). In every other case a source can be
given that tells the two rules apart, and one that has a single value for all the properties that it
sets (`uniform`): a relaxed rule finds that value wherever one of its candidates is set
(`settledValue_uniform`).

## Main statements

* `matches?_strict_eq_iff` — the two rules are met by the same sources exactly if the spellings are
  idle.
-/

namespace Activation.Rule

/-- The spellings of a rule's names are **idle** if each of them is the name itself, or a missing
property passes and the spelling is that of a name of the rule. -/
def SpellingsIdle (r : Rule) : Prop :=
  ∀ name ∈ r.names, ∀ spelling ∈ Spelling.variants name,
    spelling = name ∨ r.ifMissing.truthy = true ∧ spelling ∈ r.names

variable {r : Rule}

/-- A source meets a rule exactly if all its names pass. -/
theorem matches?_iff {source : Source} :
    r.matches? source = true ↔
      ∀ name ∈ r.names, (r.settledDetail source.lookup name).passes = true := by
  rw [matches?, report, matched_evaluate, details_evaluate, List.all_map, List.all_eq_true]
  rfl

/-! ### Sources with one value -/

/-- The source in which some properties are set, all to the same value. -/
def uniform (set : String → Bool) (value : String) : Source :=
  .custom "uniform" fun key => if set key then some value else none

/-- A property of a uniform source has its value if it is set. -/
theorem lookup_uniform (set : String → Bool) (value key : String) :
    (uniform set value).lookup key = if set key then some value else none :=
  rfl

/-- In a uniform source a name has the one value if any of its candidates is set. -/
theorem settledValue_uniform (r : Rule) (set : String → Bool) (value name : String) :
    r.settledValue (uniform set value).lookup name =
      if (r.candidates name).any set then some value else none := by
  rw [settledValue_eq_findSome?]
  induction r.candidates name with
  | nil => rfl
  | cons key rest ih =>
      rw [List.findSome?_cons, List.any_cons, ih, lookup_uniform]
      cases set key with
      | true => rfl
      | false => rfl

/-- Every rule accepts some value of a property. -/
theorem exists_accepted (r : Rule) : ∃ value, (r.judge (some value)).truthy = true := by
  rcases hexpected : r.expected with _ | expected
  · refine ⟨"on", ?_⟩
    rw [judge, hexpected]
    decide
  · refine ⟨expected, ?_⟩
    rw [judge, hexpected]
    exact beq_self_eq_true (Text.lowered expected)

/-- Every rule rejects some value of a property. -/
theorem exists_rejected (r : Rule) : ∃ value, (r.judge (some value)).truthy = false := by
  rcases hexpected : r.expected with _ | expected
  · refine ⟨"false", ?_⟩
    rw [judge, hexpected]
    decide
  · -- of two values that differ in more than letter case, one at least is not the expected one
    have hdiffer : Text.lowered "no" ≠ Text.lowered "off" := by decide
    by_cases hno : Text.lowered "no" = Text.lowered expected
    · refine ⟨"off", ?_⟩
      rw [judge, hexpected]
      exact beq_eq_false_iff_ne.mpr fun hoff => hdiffer (hno.trans hoff.symm)
    · refine ⟨"no", ?_⟩
      rw [judge, hexpected]
      exact beq_eq_false_iff_ne.mpr hno

/-! ### The relaxed rule and the strict one -/

section Strict

variable {no : Json}

/-- A spelling of a name is a candidate of a relaxed rule. -/
theorem mem_candidates_of_mem_variants (hrelaxed : r.relaxed.truthy = true) {name spelling : String}
    (h : spelling ∈ Spelling.variants name) : r.scope ++ spelling ∈ r.candidates name := by
  rw [candidates, hrelaxed]
  exact List.mem_map_of_mem h

/-- Where the key of a name as declared is not set, the strict rule has the property missing. -/
theorem passes_strict_of_eq_none (hno : no.truthy = false) {lookup : String → Option String}
    {name : String} (h : lookup (r.scope ++ name) = none) :
    ({ r with relaxed := no }.settledDetail lookup name).passes = r.ifMissing.truthy := by
  rw [settledDetail_strict r hno, h]
  rfl

/-- **If a missing property fails, another spelling tells the rules apart:** set everything but the
name as it is declared. -/
theorem exists_source_of_missing_fails (hno : no.truthy = false)
    (hrelaxed : r.relaxed.truthy = true) (hmissing : r.ifMissing.truthy = false)
    {name spelling : String} (hname : name ∈ r.names)
    (hspelling : spelling ∈ Spelling.variants name) (hne : spelling ≠ name) :
    ∃ source, r.matches? source = true ∧ { r with relaxed := no }.matches? source = false := by
  obtain ⟨value, hvalue⟩ := exists_accepted r
  let set : String → Bool := fun key => key != r.scope ++ name
  have hset : ∀ m, m ≠ name → set (r.scope ++ m) = true := fun m hm =>
    bne_iff_ne.mpr fun heq => hm ((String.append_right_inj r.scope).mp heq)
  refine ⟨uniform set value, matches?_iff.mpr fun m _ => ?_, ?_⟩
  · have hany : (r.candidates m).any set = true := by
      rw [List.any_eq_true]
      by_cases hm : m = name
      · subst hm
        exact ⟨_, mem_candidates_of_mem_variants hrelaxed hspelling, hset spelling hne⟩
      · obtain ⟨more, hmore⟩ := exists_candidates_eq_cons r m
        exact ⟨r.scope ++ m, hmore ▸ List.mem_cons_self, hset m hm⟩
    rw [Detail.passes, settledDetail, settledValue_uniform, if_pos hany]
    exact hvalue
  · rw [Bool.eq_false_iff]
    intro hmatch
    have hunset : (uniform set value).lookup (r.scope ++ name) = none :=
      if_neg (by simp [set])
    have hpasses := matches?_iff.mp hmatch name hname
    rw [passes_strict_of_eq_none hno hunset, hmissing] at hpasses
    cases hpasses

/-- **If a missing property passes, a spelling that is no name of the rule tells them apart:** set
it alone, to a value that is not accepted. -/
theorem exists_source_of_missing_passes (hno : no.truthy = false)
    (hrelaxed : r.relaxed.truthy = true) (hmissing : r.ifMissing.truthy = true)
    {name spelling : String} (hname : name ∈ r.names)
    (hspelling : spelling ∈ Spelling.variants name) (hother : spelling ∉ r.names) :
    ∃ source, { r with relaxed := no }.matches? source = true ∧ r.matches? source = false := by
  obtain ⟨value, hvalue⟩ := exists_rejected r
  let set : String → Bool := fun key => key == r.scope ++ spelling
  refine ⟨uniform set value, matches?_iff.mpr fun m hm => ?_, ?_⟩
  · have hunset : (uniform set value).lookup (r.scope ++ m) = none := by
      refine if_neg fun hset => hother ?_
      rwa [← (String.append_right_inj r.scope).mp (eq_of_beq hset)]
    rw [passes_strict_of_eq_none hno hunset]
    exact hmissing
  · rw [Bool.eq_false_iff]
    intro hmatch
    have hany : (r.candidates name).any set = true :=
      List.any_eq_true.mpr
        ⟨_, mem_candidates_of_mem_variants hrelaxed hspelling, beq_self_eq_true _⟩
    have hpasses := matches?_iff.mp hmatch name hname
    rw [Detail.passes, settledDetail, settledValue_uniform, if_pos hany, hvalue] at hpasses
    cases hpasses

/-- **What an idle spelling finds, the strict rule sees too:** the property is that of a name of the
rule, and it passes as a missing one. -/
theorem exists_name_of_settledValue (h : r.SpellingsIdle) {lookup : String → Option String}
    {name value : String} (hname : name ∈ r.names) (hunset : lookup (r.scope ++ name) = none)
    (hvalue : r.settledValue lookup name = some value) :
    r.ifMissing.truthy = true ∧ ∃ other ∈ r.names, lookup (r.scope ++ other) = some value := by
  rw [settledValue_eq_findSome?] at hvalue
  obtain ⟨key, hkey, hset⟩ := List.exists_of_findSome?_eq_some hvalue
  obtain ⟨spelling, hspelling, rfl⟩ := exists_spelling_of_mem_candidates hkey
  obtain rfl | ⟨hmissing, hmem⟩ := h name hname spelling hspelling
  · rw [hunset] at hset
    cases hset
  · exact ⟨hmissing, spelling, hmem, hset⟩

/-- **Idle spellings make no difference.** -/
theorem matches?_strict_of_idle (hno : no.truthy = false) (h : r.SpellingsIdle) (source : Source) :
    { r with relaxed := no }.matches? source = r.matches? source := by
  rw [Bool.eq_iff_iff, matches?_iff, matches?_iff]
  constructor
  · intro hstrict name hname
    have hpasses := hstrict name hname
    cases hown : source.lookup (r.scope ++ name) with
    | some value => rwa [settledDetail_strict_of_isSet hno (isSet_of_eq_some hown)] at hpasses
    | none =>
        rw [passes_strict_of_eq_none hno hown] at hpasses
        cases hvalue : r.settledValue source.lookup name with
        | none =>
            rw [Detail.passes, settledDetail, hvalue]
            exact hpasses
        | some value =>
            obtain ⟨-, other, hother, hset⟩ := exists_name_of_settledValue h hname hown hvalue
            have hseen := hstrict other hother
            rw [settledDetail_strict r hno, hset] at hseen
            rw [Detail.passes, settledDetail, hvalue]
            exact hseen
  · intro hmatch name hname
    have hpasses := hmatch name hname
    cases hown : source.lookup (r.scope ++ name) with
    | some value => rwa [settledDetail_strict_of_isSet hno (isSet_of_eq_some hown)]
    | none =>
        rw [passes_strict_of_eq_none hno hown]
        cases hvalue : r.settledValue source.lookup name with
        | none =>
            rw [Detail.passes, settledDetail, hvalue] at hpasses
            exact hpasses
        | some value => exact (exists_name_of_settledValue h hname hown hvalue).1

/-- **A relaxed rule and the strict rule are met by the same sources exactly if the spellings are
idle.** -/
theorem matches?_strict_eq_iff (hno : no.truthy = false) (hrelaxed : r.relaxed.truthy = true) :
    (∀ source, { r with relaxed := no }.matches? source = r.matches? source) ↔
      r.SpellingsIdle := by
  refine ⟨fun heq name hname spelling hspelling => ?_, matches?_strict_of_idle hno⟩
  by_cases hsame : spelling = name
  · exact .inl hsame
  · refine .inr ?_
    cases hmissing : r.ifMissing.truthy with
    | false =>
        obtain ⟨source, hmatch, hstrict⟩ :=
          exists_source_of_missing_fails hno hrelaxed hmissing hname hspelling hsame
        rw [heq source, hmatch] at hstrict
        cases hstrict
    | true =>
        refine ⟨rfl, ?_⟩
        by_cases hmem : spelling ∈ r.names
        · exact hmem
        · obtain ⟨source, hstrict, hmatch⟩ :=
            exists_source_of_missing_passes hno hrelaxed hmissing hname hspelling hmem
          rw [heq source, hmatch] at hstrict
          cases hstrict

end Strict

end Activation.Rule
