import Activation.Evaluation
import Activation.Proofs.Text.Lowered

/-!
# Letter Case of Values

A rule compares a value with the one that it expects by their lower-case forms, and so it cannot
tell two values apart that have the same one. That is the case for a value and its lower-case form,
because making it lower case a second time changes nothing, and for a value and a recased one. The
same holds of what is expected. Two values that are not empty accept each other or do not.

A rule that expects no particular value accepts all but those with the lower-case form `false`.
These are the thirty-two ways to write that word in ASCII (`lowered_eq_false_iff`). Letters beyond
ASCII that look like its letters have other lower-case forms.

## Main statements

* `judge_congr` — values with the same lower-case form are judged alike.
* `judge_letterCase` — what letter case and exchanging two values do not change, and which values a
  rule that expects none rejects.
-/

namespace Activation.Rule

/-- The rule with another expected value. An empty text is the same as none. -/
def expecting (r : Rule) (value : String) : Rule :=
  { r with expected := if value = "" then none else some value }

/-- The letters of `false`, in either case. -/
def falseLetters : List (List Char) :=
  [['f', 'F'], ['a', 'A'], ['l', 'L'], ['s', 'S'], ['e', 'E']]

variable {r : Rule} {v w g h : String}

/-! ### Lower-case forms of values -/

/-- Values are judged by their lower-case forms. -/
theorem judge_congr (heq : Text.lowered v = Text.lowered w) (r : Rule) :
    r.judge (some v) = r.judge (some w) := by
  rw [judge, judge, heq]

/-- The lower-case form of a value is its own. -/
theorem lowered_lowered (v : String) : Text.lowered (Text.lowered v) = Text.lowered v := by
  rw [← String.toList_inj, Text.toList_lowered, Text.toList_lowered, Text.lower_lower]

/-- A recased value has the same lower-case form. -/
theorem lowered_of_recased (hcase : Text.Recased v.toList w.toList) :
    Text.lowered w = Text.lowered v := by
  rw [← String.toList_inj, Text.toList_lowered, Text.toList_lowered, hcase.lower_eq]

/-- Only the empty value has an empty lower-case form. -/
theorem lowered_eq_empty_iff : Text.lowered v = "" ↔ v = "" := by
  rw [← String.toList_inj, ← String.toList_inj, Text.toList_lowered]
  exact Text.lower_eq_nil_iff

/-- What is expected is compared by its lower-case form, and the empty text is told from others by
it. -/
theorem judge_expecting_congr (heq : Text.lowered g = Text.lowered h) (r : Rule) (v : String) :
    (r.expecting g).judge (some v) = (r.expecting h).judge (some v) := by
  by_cases hempty : h = ""
  · have hg : g = "" := lowered_eq_empty_iff.mp (heq.trans (lowered_eq_empty_iff.mpr hempty))
    rw [hg, hempty]
  · have hg : g ≠ "" :=
      fun hg => hempty (lowered_eq_empty_iff.mp (heq ▸ lowered_eq_empty_iff.mpr hg))
    simp only [expecting, if_neg hempty, if_neg hg, judge, heq]

/-! ### The word `false` -/

/-- **The values with the lower-case form `false`** are those that spell it in letters of ASCII. -/
theorem lowered_eq_false_iff :
    Text.lowered v = "false" ↔ List.Forall₂ (· ∈ ·) v.toList falseLetters := by
  have hletters : ∀ d ∈ "false".toList, d.isLower = true ∧ d ≠ 'k' := by
    simp [Char.isLower]
  rw [← String.toList_inj, Text.toList_lowered, Text.lower_eq_iff hletters,
    Text.map_toLower_eq_iff fun d hd => (hletters d hd).1]
  rfl

/-! ### The verdict on a value -/

/-- A rule that expects a value judges another one by their lower-case forms. -/
theorem judge_expecting (r : Rule) (hne : h ≠ "") (v : String) :
    (r.expecting h).judge (some v) = .bool (Text.lowered v == Text.lowered h) := by
  simp only [expecting, if_neg hne, judge]

/-- **Letter case does not count.** A rule judges a value like any recased form of it and like its
lower-case form, and it judges all values alike if what it expects is replaced by a recased form or
by its lower-case form. Of two values that are not empty the rule that expects the first accepts the
second exactly if the rule that expects the second accepts the first. If no particular value is
expected, just those are rejected that spell `false` in ASCII letters of either case; and the
verdict is always the opposite of that of the rule that expects `false`. -/
theorem judge_letterCase (r : Rule) (v : String) :
    (∀ w, Text.Recased v.toList w.toList ∨ w = Text.lowered v →
      r.judge (some w) = r.judge (some v)) ∧
    (∀ h g, Text.Recased h.toList g.toList ∨ g = Text.lowered h →
      (r.expecting g).judge (some v) = (r.expecting h).judge (some v)) ∧
    (∀ h, h ≠ "" → v ≠ "" →
      (r.expecting h).judge (some v) = (r.expecting v).judge (some h)) ∧
    ({ r with expected := none }.judge (some v) = .bool false ↔
      List.Forall₂ (· ∈ ·) v.toList falseLetters) ∧
    ∃ accepted, { r with expected := none }.judge (some v) = .bool accepted ∧
      (r.expecting "false").judge (some v) = .bool !accepted := by
  have hforms : ∀ {h g : String}, Text.Recased h.toList g.toList ∨ g = Text.lowered h →
      Text.lowered g = Text.lowered h := by
    rintro h g (hcase | rfl)
    · exact lowered_of_recased hcase
    · exact lowered_lowered h
  have hdefault : { r with expected := none }.judge (some v)
      = .bool (Text.lowered v != "false") := rfl
  refine ⟨fun w hw => judge_congr (hforms hw) r,
    fun h g hg => judge_expecting_congr (hforms hg) r v, ?_, ?_, ?_⟩
  · intro h hne hv
    rw [judge_expecting r hne, judge_expecting r hv, Bool.beq_comm]
  · rw [hdefault, Json.bool.injEq, bne_eq_false_iff_eq, lowered_eq_false_iff]
  · have hword : Text.lowered "false" = "false" := by decide +kernel
    refine ⟨Text.lowered v != "false", hdefault, ?_⟩
    rw [judge_expecting r (by decide), hword, bne, Bool.not_not]

/-- Behind the full stop a cased letter follows, in either case, so the last sigma is not final; the
long `s` is another letter, so a word written with it is accepted where `false` is rejected. -/
theorem judge_letterCase_sigma :
    let r : Rule := ⟨["mode"], "", some "on", .bool false, .bool true⟩
    Text.Recased "ΟΔΟΣ.B".toList "ΟΔΟΣ.b".toList ∧ Text.lowered "ΟΔΟΣ.B" = "οδοσ.b" ∧
      r.judge (some "ΟΔΟΣ.b") = r.judge (some "ΟΔΟΣ.B") ∧
      r.judge (some "οδοσ.b") = r.judge (some "ΟΔΟΣ.B") ∧
      (r.expecting "ΟΔΟΣ.b").judge (some "ΟΔΟΣ.B") = (r.expecting "ΟΔΟΣ.B").judge (some "ΟΔΟΣ.B") ∧
      (r.expecting "οδος").judge (some "ΟΔΟΣ.B") = (r.expecting "ΟΔΟΣ.B").judge (some "οδος") ∧
      { r with expected := none }.judge (some "FaLsE") = .bool false ∧
      { r with expected := none }.judge (some "falſe") ≠ .bool false := by
  intro r
  have hcase : Text.Recased "ΟΔΟΣ.B".toList "ΟΔΟΣ.b".toList := by
    unfold Text.Recased
    decide +kernel
  have hlowered : Text.lowered "ΟΔΟΣ.B" = "οδοσ.b" := by decide +kernel
  obtain ⟨hvalue, hexpected, hexchanged, -, -⟩ := judge_letterCase r "ΟΔΟΣ.B"
  obtain ⟨-, -, -, hfalse, -⟩ := judge_letterCase r "FaLsE"
  obtain ⟨-, -, -, hlong, -⟩ := judge_letterCase r "falſe"
  refine ⟨hcase, hlowered, hvalue _ (.inl hcase), hvalue _ (.inr hlowered.symm),
    hexpected _ _ (.inl hcase), hexchanged _ (by decide) (by decide), hfalse.mpr ?_,
    fun hrejected => ?_⟩
  · decide +kernel
  · exact absurd (hlong.mp hrejected) (by decide +kernel)

end Activation.Rule
