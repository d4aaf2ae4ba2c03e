import Activation.Proofs.Spelling.Positions
import Activation.Proofs.Spelling.Return

/-!
# Names Respelled Twice

The kebab spelling leaves nothing to do for a second pass. It is one word, which is to say that no
word starts at any of its positions (`oneWord_iff`): the capitals that might have come to stand next
to a small letter are those at the start of a word, and all of them have been made small.

The camel spelling may leave something to do. Where two hyphens stand directly before a letter or
digit, only the second one is a joint, and dropping it makes a joint of the first. This is the only
way in which a joint can arise (`hasJoint_camelChars_iff`), so the names that are settled by one
camel pass are those without such a **double joint**.

## Main statements

* `oneWord_iff` — names of one word, position by position.
* `hasJoint_camelChars_iff` — the joints that the camel spelling leaves.
* `kebab_settled_and_camel_settled_iff` — what a second pass of either kind changes.
-/

namespace Activation.Spelling

/-- A name **has a double joint**: two adjacent hyphens directly before an ASCII letter or digit. -/
def HasDoubleJoint (name : List Char) : Prop :=
  ∃ c rest, '-' :: '-' :: c :: rest <:+ name ∧ c.isAlphanum = true

/-! ### The kebab spelling -/

/-- **The names of one word are those in which a word starts at no position.** -/
theorem oneWord_iff {name : List Char} : OneWord name ↔ ∀ i, ¬StartsAt name i := by
  induction name with
  | nil => exact iff_of_true rfl fun i h => Bool.false_ne_true (any_isUpper_of_startsAt h)
  | cons c rest ih =>
      have hsecond : StartsAt (c :: rest) 1 ↔ opensAfter c rest = true := startsAt_succ_iff rfl
      rw [oneWord_cons_iff, ih, ← Bool.not_eq_true, ← hsecond]
      constructor
      · rintro ⟨hfirst, hrest⟩ i
        rcases i with _ | _ | i
        · exact id
        · exact hfirst
        · exact hrest (i + 1)
      · intro h
        refine ⟨h 1, fun i => ?_⟩
        rcases i with _ | i
        · exact id
        · exact h (i + 2)

/-! ### The camel spelling -/

/-- A double joint stands at the start of a name or further on. -/
theorem hasDoubleJoint_cons_iff {c : Char} {rest : List Char} :
    HasDoubleJoint (c :: rest) ↔
      (c = '-' ∧ ∃ d more, rest = '-' :: d :: more ∧ d.isAlphanum = true) ∨
        HasDoubleJoint rest := by
  simp only [HasDoubleJoint, List.suffix_cons_iff, List.cons.injEq, or_and_right, exists_or]
  refine or_congr_left ?_
  constructor
  · rintro ⟨d, more, ⟨rfl, rfl⟩, hd⟩
    exact ⟨rfl, d, more, rfl, hd⟩
  · rintro ⟨rfl, d, more, rfl, hd⟩
    exact ⟨d, more, ⟨rfl, rfl⟩, hd⟩

/-- A character that is no hyphen adds no double joint. -/
theorem hasDoubleJoint_cons_of_ne {c : Char} (h : c ≠ '-') (rest : List Char) :
    HasDoubleJoint (c :: rest) ↔ HasDoubleJoint rest := by
  rw [hasDoubleJoint_cons_iff, or_iff_right fun hhere => h hhere.1]

/-- Making a character a capital keeps letters and digits. -/
theorem isAlphanum_toUpper (c : Char) : c.toUpper.isAlphanum = c.isAlphanum := by
  calc c.toUpper.isAlphanum
      = c.toUpper.toLower.isAlphanum := (isAlphanum_smallIf true c.toUpper).symm
    _ = c.toLower.isAlphanum := by rw [Char.toLower_toUpper_eq_toLower]
    _ = c.isAlphanum := isAlphanum_smallIf true c

/-- The camel spelling of a name that does not begin with a letter or digit begins with one exactly
if the name begins with a joint. -/
theorem any_isAlphanum_camelChars_iff {d : Char} (hd : d.isAlphanum = false) {rest : List Char} :
    (camelChars (d :: rest)).head?.any Char.isAlphanum = true ↔
      ∃ e more, d :: rest = '-' :: e :: more ∧ e.isAlphanum = true := by
  by_cases hjoint : d = '-' ∧ rest.head?.any Char.isAlphanum = true
  · obtain ⟨rfl, hhead⟩ := hjoint
    rcases rest with _ | ⟨e, more⟩
    · cases hhead
    · rw [camelChars_joint hhead]
      exact iff_of_true ((isAlphanum_toUpper e).trans hhead) ⟨e, more, rfl, hhead⟩
  · rw [camelChars_cons hjoint]
    refine iff_of_false (fun h => ?_) ?_
    · exact Bool.false_ne_true (hd.symm.trans h)
    · rintro ⟨e, more, heq, he⟩
      cases heq
      exact hjoint ⟨rfl, he⟩

/-- **The joints that the camel spelling leaves** were double joints of the name. -/
theorem hasJoint_camelChars_iff {name : List Char} :
    HasJoint (camelChars name) ↔ HasDoubleJoint name := by
  induction name using camelChars.induct with
  | case1 => simp [camelChars, HasJoint, HasDoubleJoint]
  | case2 c =>
      rw [camelChars, hasJoint_cons_iff, hasDoubleJoint_cons_iff]
      simp [HasJoint, HasDoubleJoint]
  | case3 c d rest h ih =>
      rw [Bool.and_eq_true, decide_eq_true_eq] at h
      obtain ⟨rfl, hd⟩ := h
      have hne : d ≠ '-' := ne_hyphen_of_isAlphanum hd
      have hdropped : HasDoubleJoint ('-' :: d :: rest) ↔ HasDoubleJoint rest := by
        rw [hasDoubleJoint_cons_iff, or_iff_right, hasDoubleJoint_cons_of_ne hne]
        rintro ⟨-, e, more, heq, -⟩
        cases heq
        exact hne rfl
      rw [camelChars_joint hd, hasJoint_cons_iff, ih, hdropped,
        or_iff_right fun hhere => hne (toUpper_eq_hyphen_iff.mp hhere.1)]
  | case4 c d rest h ih =>
      have hhere : HasDoubleJoint (c :: d :: rest) ↔ _ := hasDoubleJoint_cons_iff
      rw [camelChars, if_neg h, hasJoint_cons_iff, ih, hhere]
      refine or_congr_left (and_congr_right fun hc => ?_)
      have hd : d.isAlphanum = false := by simpa [hc] using h
      exact any_isAlphanum_camelChars_iff hd

/-- **What a second pass changes.** In the kebab spelling of a name no capital stands behind a small
letter or digit, and none between a capital and a small letter; so a second pass changes nothing.
A second camel pass changes nothing exactly if the name has no two adjacent hyphens directly before
an ASCII letter or digit. -/
theorem kebab_settled_and_camel_settled_iff (name : String) :
    (∀ i, ¬StartsAt (kebab name).toList i) ∧ kebab (kebab name) = kebab name ∧
      (camel (camel name) = camel name ↔ ¬HasDoubleJoint name.toList) := by
  refine ⟨?_, kebab_kebab name, ?_⟩
  · rw [toList_kebab]
    exact oneWord_iff.mp (oneWord_kebabChars name.toList)
  · rw [← String.toList_inj, toList_camel, toList_camel, camelChars_eq_self_iff,
      joints_eq_zero_iff, hasJoint_camelChars_iff]

/-- Of two hyphens before a letter the first survives one pass, and goes in the second. -/
example : camel "my--url" = "my-Url" ∧ camel (camel "my--url") = "myUrl" := by
  decide

end Activation.Spelling
