import Mathlib
import Activation.Text.LowerCase

/-!
# Lower Case and ASCII Letters

Making a text lower case is not a map on characters: what a capital sigma becomes depends on the
characters around it. The letter case of the **ASCII letters** plays no part in that. A capital
and its small letter have the same lower-case form, count as cased alike, and are never passed
over, so they decide alike whether a sigma ends a word. Hence a text in which the case of some ASCII
letters has been changed has the same lower-case form (`Recased.lower_eq`), wherever its sigmas
stand.

The facts about single letters are read off the letter tables for the twenty-six capitals, and what
is said about texts follows from them without opening the tables again.

## Main statements

* `lower_map_toLower`, `Recased.lower_eq` — texts that differ in the case of ASCII letters.
* `map_toLower_eq_iff` — the texts that spell a word in letters of either case.
-/

namespace Activation.Text

/-! ### Single letters -/

/-- The codes of the capitals of ASCII. -/
theorem isUpper_iff {c : Char} : c.isUpper = true ↔ 65 ≤ c.toNat ∧ c.toNat ≤ 90 := by
  simp [Char.isUpper, UInt32.le_iff_toNat_le, ← Char.toNat_val]

/-- The codes of the small letters of ASCII. -/
theorem isLower_iff {c : Char} : c.isLower = true ↔ 97 ≤ c.toNat ∧ c.toNat ≤ 122 := by
  simp [Char.isLower, UInt32.le_iff_toNat_le, ← Char.toNat_val]

/-- A property of the twenty-six capitals is one of every character that counts as a capital. -/
theorem forall_isUpper {p : Char → Prop} (h : ∀ n < 26, p (Char.ofNat (65 + n))) {c : Char}
    (hc : c.isUpper = true) : p c := by
  have hbounds := isUpper_iff.mp hc
  have hnat : 65 + (c.toNat - 65) = c.toNat := by omega
  have hp := h (c.toNat - 65) (by omega)
  rwa [hnat, Char.ofNat_toNat] at hp

/-- A statement that compares a character with its ASCII small letter has to be checked for
capitals only. -/
theorem toLower_cases {p : Char → Char → Prop} (hrefl : ∀ c, p c c)
    (hcapital : ∀ n < 26, p (Char.ofNat (65 + n)).toLower (Char.ofNat (65 + n))) (c : Char) :
    p c.toLower c := by
  by_cases hc : c.isUpper = true
  · exact forall_isUpper (p := fun c => p c.toLower c) hcapital hc
  · rw [Char.toLower_eq_of_not_isUpper hc]
    exact hrefl c

/-- A code lies in no range if all ranges lie apart from an interval that holds it. -/
theorem Ranges.contains_eq_false {ranges : Ranges} {low high code : Nat}
    (h : ranges.all (fun r => r.2 < low || high < r.1) = true) (hlow : low ≤ code)
    (hhigh : code ≤ high) : ranges.contains code = false := by
  rw [Ranges.contains, List.any_eq_false]
  intro r hr
  have hapart := List.all_eq_true.mp h r hr
  simp only [Bool.or_eq_true, decide_eq_true_eq] at hapart
  simp only [Bool.and_eq_true, decide_eq_true_eq, not_and, Nat.not_le]
  omega

/-- The codes of a capital and its small letter. -/
theorem toNat_capital : ∀ n < 26,
    (Char.ofNat (65 + n)).toLower.toNat = 97 + n ∧ (Char.ofNat (65 + n)).toNat = 65 + n := by
  decide

/-- A letter is passed over in either case or in none: in neither, since the table has no letters.
It is gone through once for all letters of a case, and not for each of them. -/
theorem isIgnorable_toLower (c : Char) : isIgnorable c.toLower = isIgnorable c := by
  have hsmall : ignorableRanges.all (fun r => r.2 < 97 || 122 < r.1) = true := by decide +kernel
  have hcapital : ignorableRanges.all (fun r => r.2 < 65 || 90 < r.1) = true := by decide +kernel
  refine toLower_cases (p := fun d c => isIgnorable d = isIgnorable c) (fun _ => rfl) ?_ c
  intro n hn
  obtain ⟨hlower, hupper⟩ := toNat_capital n hn
  rw [isIgnorable, isIgnorable, hlower, hupper,
    Ranges.contains_eq_false hsmall (by omega) (by omega),
    Ranges.contains_eq_false hcapital (by omega) (by omega)]

/-- A letter is cased in either case or in none. -/
theorem isCased_toLower (c : Char) : isCased c.toLower = isCased c :=
  toLower_cases (p := fun d c => isCased d = isCased c) (fun _ => rfl) (by decide) c

/-- The capitals of a run lie between its ends, a whole number of steps from the first. -/
theorem CaseRun.contains_iff {run : CaseRun} {code : Nat} :
    run.contains code = true ↔
      (run.first ≤ code ∧ code ≤ run.last) ∧ (code - run.first) % run.stride = 0 := by
  simp only [contains, Bool.and_eq_true, decide_eq_true_eq, beq_iff_eq]

/-- A character other than `İ` that no run has among its capitals is its own lower-case form. -/
theorem lowerChar_eq_self {c : Char} (hdotted : c.toNat ≠ 304)
    (h : ∀ run ∈ lowerRuns, run.contains c.toNat = false) : lowerChar c = [c] := by
  have hne : c ≠ 'İ' := fun heq => hdotted (heq ▸ rfl)
  have hnone : lowerRuns.find? (fun run => run.contains c.toNat) = none := by
    rw [List.find?_eq_none]
    intro run hrun
    rw [h run hrun]
    exact Bool.false_ne_true
  rw [lowerChar, if_neg hne, hnone]

/-- A small letter is its own lower-case form: no run of capitals has its code. -/
theorem lowerChar_of_isLower {c : Char} (h : c.isLower = true) : lowerChar c = [c] := by
  have hruns : lowerRuns.all (fun run => run.last < 97 || 122 < run.first) = true := by
    decide
  have hcode := isLower_iff.mp h
  refine lowerChar_eq_self (by omega) fun run hrun => ?_
  have hapart := List.all_eq_true.mp hruns run hrun
  simp only [Bool.or_eq_true, decide_eq_true_eq] at hapart
  rw [Bool.eq_false_iff]
  intro hcapital
  obtain ⟨⟨hfirst, hlast⟩, -⟩ := CaseRun.contains_iff.mp hcapital
  omega

/-- A capital and its small letter have the same lower-case form. -/
theorem lowerChar_toLower (c : Char) : lowerChar c.toLower = lowerChar c := by
  have hcapital : ∀ n < 26,
      lowerChar (Char.ofNat (65 + n)) = [(Char.ofNat (65 + n)).toLower] := by decide
  refine toLower_cases (p := fun d c => lowerChar d = lowerChar c) (fun _ => rfl) ?_ c
  intro n hn
  have hsmall : (Char.ofNat (65 + n)).toLower.isLower = true := by
    have hcodes := (toNat_capital n hn).1
    exact isLower_iff.mpr (by omega)
  rw [lowerChar_of_isLower hsmall, hcapital n hn]

/-- No ASCII letter is a capital sigma. -/
theorem toLower_eq_sigma_iff (c : Char) : c.toLower = 'Σ' ↔ c = 'Σ' :=
  toLower_cases (p := fun d c => d = 'Σ' ↔ c = 'Σ') (fun _ => Iff.rfl) (by decide) c

/-! ### Texts -/

/-- The case of ASCII letters does not decide which character counts next. -/
theorem casedNext_map_toLower (s : List Char) : casedNext (s.map Char.toLower) = casedNext s := by
  have hcomp : isIgnorable ∘ Char.toLower = isIgnorable := funext isIgnorable_toLower
  rw [casedNext, casedNext, List.dropWhile_map, hcomp]
  rcases s.dropWhile isIgnorable with _ | ⟨c, rest⟩
  · rfl
  · exact isCased_toLower c

/-- Reading a small letter in place of its capital leaves the scan in the same state. -/
theorem casedAfter_toLower (before : Bool) (c : Char) :
    casedAfter before c.toLower = casedAfter before c := by
  rw [casedAfter, casedAfter, isIgnorable_toLower, isCased_toLower]

/-- The lower-case form of a text is that of the text with its ASCII capitals made small, whatever
stands before. -/
theorem lowerFrom_map_toLower (before : Bool) (s : List Char) :
    lowerFrom before (s.map Char.toLower) = lowerFrom before s := by
  induction s generalizing before with
  | nil => rfl
  | cons c rest ih =>
      rw [List.map_cons, lowerFrom, lowerFrom, casedNext_map_toLower, casedAfter_toLower, ih,
        lowerChar_toLower]
      simp only [toLower_eq_sigma_iff]

/-- The lower-case form of a text is that of the text with its ASCII capitals made small. -/
theorem lower_map_toLower (s : List Char) : lower (s.map Char.toLower) = lower s :=
  lowerFrom_map_toLower false s

/-- A text is **recased** by changing the case of any of its ASCII letters: each of its characters
is kept, made small, or made a capital. -/
def Recased (s t : List Char) : Prop :=
  List.Forall₂ (fun c d => d = c ∨ d = c.toLower ∨ d = c.toUpper) s t

/-- Recased texts agree once their ASCII capitals are made small. -/
theorem Recased.map_toLower_eq {s t : List Char} (h : Recased s t) :
    t.map Char.toLower = s.map Char.toLower := by
  induction h with
  | nil => rfl
  | cons hc _ ih =>
      rw [List.map_cons, List.map_cons, ih]
      obtain rfl | rfl | rfl := hc
      · rfl
      · rw [Char.toLower_toLower_eq_toLower]
      · rw [Char.toLower_toUpper_eq_toLower]

/-- **A recased text has the same lower-case form.** -/
theorem Recased.lower_eq {s t : List Char} (h : Recased s t) : lower t = lower s := by
  rw [← lower_map_toLower, h.map_toLower_eq, lower_map_toLower]

/-! ### Words in either case -/

/-- A small letter of ASCII is that of itself and of its capital. -/
theorem toLower_eq_iff {c d : Char} (hd : d.isLower = true) :
    c.toLower = d ↔ c ∈ [d, d.toUpper] := by
  rw [List.mem_pair]
  constructor
  · rintro rfl
    by_cases hc : c.isUpper = true
    · refine .inr ?_
      rw [Char.toUpper_toLower_eq_toUpper,
        Char.toUpper_eq_of_not_isLower (Char.not_isLower_of_isUpper hc)]
    · exact .inl (Char.toLower_eq_of_not_isUpper hc).symm
  · have hsmall : d.toLower = d :=
      Char.toLower_eq_of_not_isUpper (Char.not_isUpper_of_isLower hd)
    rintro (rfl | rfl)
    · exact hsmall
    · rw [Char.toLower_toUpper_eq_toLower, hsmall]

/-- The texts that become a word in small letters of ASCII when their capitals are made small are
those that spell it in letters of either case. -/
theorem map_toLower_eq_iff {s t : List Char} (ht : ∀ d ∈ t, d.isLower = true) :
    s.map Char.toLower = t ↔ List.Forall₂ (· ∈ ·) s (t.map fun d => [d, d.toUpper]) := by
  induction s generalizing t with
  | nil =>
      rw [List.map_nil, List.forall₂_nil_left_iff, List.map_eq_nil_iff, eq_comm]
  | cons c rest ih =>
      rcases t with _ | ⟨d, more⟩
      · exact iff_of_false (List.cons_ne_nil _ _) nofun
      · obtain ⟨hd, hmore⟩ := List.forall_mem_cons.mp ht
        rw [List.map_cons, List.map_cons, List.forall₂_cons, List.cons.injEq, ih hmore,
          toLower_eq_iff hd]

end Activation.Text
