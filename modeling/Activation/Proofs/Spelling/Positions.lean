import Mathlib.Data.Nat.Basic
import Activation.Proofs.Spelling.KebabPass

/-!
# The Kebab Spelling, Position by Position

The kebab spelling of a name can be read off the name without cutting it into words. Whether a word
starts at a position depends on the three characters around it (`StartsAt`), and whether a capital
is made small depends on what stands between it and the last start of a word (`IsInitial`). With
these two, every position is written on its own, and the kebab spelling is what is written at all of
them in order (`kebab_eq_written`).

The bridge is the pass, which carries one bit from character to character. The bit means that only
capitals stand between the start of a word and the position reached (`FollowsStart`), and this is
the invariant of the induction over the positions (`hyphen_append_kebabPass`).

## Main statements

* `startsAt_succ_iff` — where a word starts, in terms of what the pass looks at.
* `kebab_eq_written` — the kebab spelling is what is written at all positions.
-/

namespace Activation.Spelling

variable {name : List Char} {i : Nat}

/-- **A word starts at a position** of a name, other than the first one, if a capital stands there
and behind a small letter or digit, or else between a capital and a small letter. -/
def StartsAt (name : List Char) : Nat → Prop
  | 0 => False
  | i + 1 =>
    (name[i]?.any (fun c => c.isLower || c.isDigit) = true ∧
        name[i + 1]?.any Char.isUpper = true) ∨
      (name[i]?.any Char.isUpper = true ∧ name[i + 1]?.any Char.isUpper = true ∧
        name[i + 2]?.any Char.isLower = true)

instance (name : List Char) : DecidablePred (StartsAt name)
  | 0 => .isFalse id
  | _ + 1 => inferInstanceAs (Decidable (_ ∨ _))

/-- **A position is initial** if a word starts there or before, and from there up to the position
there are only capitals. -/
def IsInitial (name : List Char) (i : Nat) : Prop :=
  ∃ j ≤ i, StartsAt name j ∧ ∀ k, j ≤ k → k ≤ i → name[k]?.any Char.isUpper = true

instance (name : List Char) : DecidablePred (IsInitial name) := fun i =>
  inferInstanceAs (Decidable (∃ j ≤ i, _))

/-- The hyphen before the start of a word. -/
def hyphenAt (name : List Char) (i : Nat) : List Char :=
  if StartsAt name i then ['-'] else []

/-- What the kebab spelling has for a character at a position: a hyphen before it if a word starts
there, and the character, made small if it is a capital at an initial position. -/
def written (name : List Char) (c : Char) (i : Nat) : List Char :=
  hyphenAt name i ++ [if c.isUpper ∧ IsInitial name i then c.toLower else c]

/-! ### What the pass looks at -/

/-- A capital stands where a word starts. -/
theorem any_isUpper_of_startsAt (h : StartsAt name i) : name[i]?.any Char.isUpper = true := by
  rcases i with _ | i
  · exact h.elim
  · rcases h with ⟨-, hupper⟩ | ⟨-, hupper, -⟩
    · exact hupper
    · exact hupper

/-- **A word starts right after a character** exactly if the pass opens one there. -/
theorem startsAt_succ_iff {c : Char} {rest : List Char} (h : name.drop i = c :: rest) :
    StartsAt name (i + 1) ↔ opensAfter c rest = true := by
  have hget : ∀ k, name[i + k]? = (c :: rest)[k]? := fun k => by rw [← h, List.getElem?_drop]
  have hself : name[i]? = some c := hget 0
  rw [StartsAt, hself, hget 1, hget 2]
  rcases rest with _ | ⟨d, _ | ⟨e, more⟩⟩ <;>
    simp [opensAfter, startsWord, and_assoc]

/-- Only capitals stand between the start of a word and a position. -/
def FollowsStart (name : List Char) (i : Nat) : Prop :=
  ∃ j ≤ i, StartsAt name j ∧ ∀ k, j ≤ k → k < i → name[k]?.any Char.isUpper = true

/-- Nothing stands before the first position, and no word starts there. -/
theorem not_followsStart_zero : ¬FollowsStart name 0 := by
  rintro ⟨j, hj, hstart, -⟩
  obtain rfl := Nat.le_zero.mp hj
  exact hstart

/-- The initial positions are those of the capitals behind which there are only capitals up to the
start of a word. -/
theorem isInitial_iff :
    IsInitial name i ↔ FollowsStart name i ∧ name[i]?.any Char.isUpper = true := by
  constructor
  · rintro ⟨j, hj, hstart, hupper⟩
    exact ⟨⟨j, hj, hstart, fun k hjk hki => hupper k hjk hki.le⟩, hupper i hj le_rfl⟩
  · rintro ⟨⟨j, hj, hstart, hupper⟩, hself⟩
    refine ⟨j, hj, hstart, fun k hjk hki => ?_⟩
    obtain hlt | rfl := hki.lt_or_eq
    · exact hupper k hjk hlt
    · exact hself

/-- Behind a position only capitals stand up to the start of a word if one starts right there or if
the position is initial. -/
theorem followsStart_succ_iff :
    FollowsStart name (i + 1) ↔ StartsAt name (i + 1) ∨ IsInitial name i := by
  constructor
  · rintro ⟨j, hj, hstart, hupper⟩
    obtain hlt | rfl := hj.lt_or_eq
    · exact .inr ⟨j, Nat.lt_succ_iff.mp hlt, hstart,
        fun k hjk hki => hupper k hjk (Nat.lt_succ_iff.mpr hki)⟩
    · exact .inl hstart
  · rintro (hstart | ⟨j, hj, hstart, hupper⟩)
    · exact ⟨i + 1, le_rfl, hstart, fun k hjk hki => absurd hki (Nat.not_lt.mpr hjk)⟩
    · exact ⟨j, hj.trans i.le_succ, hstart,
        fun k hjk hki => hupper k hjk (Nat.lt_succ_iff.mp hki)⟩

/-! ### The pass over the positions -/

/-- The pass writes the rest of a name, and one step of it, in terms of whether a word starts at the
next position. -/
theorem kebabPass_cons_eq {c : Char} {rest : List Char} (h : name.drop i = c :: rest)
    (low : Bool) :
    kebabPass low (c :: rest) =
      smallIf low c ::
        (hyphenAt name (i + 1)
          ++ kebabPass (opensAfter c rest || (low && c.isUpper)) rest) := by
  rw [kebabPass, hyphenAt]
  simp only [startsAt_succ_iff h]
  rcases opensAfter c rest with _ | _
  · rfl
  · rfl

/-- The pass makes a capital small at the initial positions. -/
theorem smallIf_eq_ite {low : Bool} {c : Char}
    (h : IsInitial name i ↔ (low && c.isUpper) = true) :
    smallIf low c = if c.isUpper ∧ IsInitial name i then c.toLower else c := by
  by_cases hupper : c.isUpper = true
  · simp [smallIf, h, hupper]
  · rw [if_neg fun hboth => hupper hboth.1]
    rcases low with _ | _
    · rfl
    · exact Char.toLower_eq_of_not_isUpper hupper

/-- **The pass writes every position as it is written on its own**, given that its bit says whether
only capitals stand between the start of a word and the position that it has reached. -/
theorem hyphen_append_kebabPass {rest : List Char} (h : name.drop i = rest) {low : Bool}
    (hlow : low = true ↔ FollowsStart name i) :
    hyphenAt name i ++ kebabPass low rest
      = (rest.zipIdx i).flatMap fun p => written name p.1 p.2 := by
  -- on what is left of the name; the bit for the next position is right by `followsStart_succ_iff`
  induction rest generalizing i low with
  | nil =>
      have hend : ¬StartsAt name i := by
        intro hstart
        have hnone : name[i]? = none := List.getElem?_eq_none (List.drop_eq_nil_iff.mp h)
        have hupper := any_isUpper_of_startsAt hstart
        rw [hnone] at hupper
        cases hupper
      rw [hyphenAt, if_neg hend]
      rfl
  | cons c rest ih =>
      have hself : name[i]? = some c := by
        rw [← List.head?_drop, h]
        rfl
      have hinitial : IsInitial name i ↔ (low && c.isUpper) = true := by
        rw [isInitial_iff, ← hlow, hself, Bool.and_eq_true]
        rfl
      have hdrop : name.drop (i + 1) = rest := by
        rw [← List.tail_drop, h]
        rfl
      have hnext :
          (opensAfter c rest || (low && c.isUpper)) = true ↔ FollowsStart name (i + 1) := by
        rw [followsStart_succ_iff, startsAt_succ_iff h, hinitial, Bool.or_eq_true]
      rw [kebabPass_cons_eq h, ih hdrop hnext, smallIf_eq_ite hinitial, List.zipIdx_cons,
        List.flatMap_cons, written, List.append_assoc]
      rfl

/-- **The kebab spelling of a name is what is written at all its positions in order.** -/
theorem kebab_eq_written (name : String) :
    (kebab name).toList = name.toList.zipIdx.flatMap fun p => written name.toList p.1 p.2 := by
  rw [toList_kebab, ← kebabPass_eq]
  exact hyphen_append_kebabPass rfl (iff_of_false Bool.false_ne_true not_followsStart_zero)

/-- A word starts at the first capital of the acronym, and at the last one, which a small letter
follows. -/
example :
    (List.range 13).filter (fun i => decide (StartsAt "myURLProperty".toList i)) = [2, 5] := by
  decide

end Activation.Spelling
