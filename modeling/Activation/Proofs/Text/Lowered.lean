import Activation.Proofs.Text.LetterCase

/-!
# What Lower-Case Forms are Like

A character is **settled** if it is its own lower-case form. Whatever a sigma becomes and however
many characters a letter becomes, all that stands in a lower-case form is settled, and a text of
settled characters is its own lower-case form. So making a text lower case a second time changes
nothing (`lower_lower`), although it is not done character by character.

What can stand in a lower-case form at all is read off the table of capitals, once for each run and
not for each letter. No run leads to a capital again, and none to anything before the small letters
of ASCII. To these only their capitals lead, and one look-alike, which becomes a `k`. Hence a text
whose lower-case form is written in the other small letters of ASCII is that form up to the case of
its letters (`lower_eq_iff`).

## Main statements

* `isSettled_of_mem_lower`, `lower_eq_self` — lower-case forms and settled characters.
* `mem_of_mem_lower` — no separator arises from making a text lower case.
* `lower_eq_iff` — the texts with a given lower-case form in ASCII.
-/

namespace Activation.Text

/-! ### Runs of capitals -/

/-- The code that a capital of a run becomes. -/
def CaseRun.image (run : CaseRun) (code : Nat) : Nat :=
  run.target + (code - run.first)

/-- What one run leads to is **apart** from the capitals of another one if it ends before them or
begins behind them, or if it goes by twos between them. -/
def CaseRun.apart (run other : CaseRun) : Bool :=
  -- compared by `Nat.blt`, which the kernel evaluates at once: all pairs of runs are gone through
  (run.image run.last).blt other.first || other.last.blt run.target
    || ((run.stride == 2 || run.first == run.last) && other.stride == 2
      && (run.target + other.first) % 2 == 1)

/-- A run leads to codes from its target on. -/
theorem CaseRun.image_bounds {run : CaseRun} {code : Nat} (h : run.contains code = true) :
    run.target ≤ run.image code ∧ run.image code ≤ run.image run.last := by
  obtain ⟨⟨hfirst, hlast⟩, -⟩ := contains_iff.mp h
  simp only [image]
  omega

/-- A run leads to no capital of a run that it is apart from. -/
theorem CaseRun.contains_image_eq_false {run other : CaseRun} {code : Nat}
    (hapart : run.apart other = true) (h : run.contains code = true) :
    other.contains (run.image code) = false := by
  obtain ⟨htarget, hend⟩ := image_bounds h
  rw [Bool.eq_false_iff]
  intro hother
  obtain ⟨⟨hfirst, hlast⟩, hstep⟩ := contains_iff.mp hother
  simp only [apart, Bool.or_eq_true, Bool.and_eq_true, Nat.blt_eq, beq_iff_eq] at hapart
  obtain (hbefore | hbehind) | ⟨⟨hrun, htwo⟩, hodd⟩ := hapart
  · omega
  · omega
  · -- both ascend by twos, and their first codes differ by an odd number
    have heven : (code - run.first) % 2 = 0 := by
      obtain ⟨⟨hlow, hhigh⟩, hmod⟩ := contains_iff.mp h
      obtain hstride | hsingle := hrun
      · rwa [hstride] at hmod
      · omega
    rw [htwo] at hstep
    simp only [image] at hstep hfirst
    omega

/-- **No capital becomes a capital.** -/
theorem contains_image_eq_false {run other : CaseRun} (hrun : run ∈ lowerRuns)
    (hother : other ∈ lowerRuns) {code : Nat} (h : run.contains code = true) :
    other.contains (run.image code) = false := by
  have hapart : lowerRuns.all (fun run => lowerRuns.all run.apart) = true := by decide +kernel
  exact CaseRun.contains_image_eq_false
    (List.all_eq_true.mp (List.all_eq_true.mp hapart run hrun) other hother) h

/-- What a capital becomes is the code of a character, none that stands before the small letters of
ASCII, and not that of `İ`. -/
theorem image_range {run : CaseRun} (hrun : run ∈ lowerRuns) {code : Nat}
    (h : run.contains code = true) :
    97 ≤ run.image code ∧ (Char.ofNat (run.image code)).toNat = run.image code ∧
      run.image code ≠ 304 := by
  have hruns : lowerRuns.all (fun run =>
      97 ≤ run.target && (run.image run.last < 304 || 304 < run.target)
        && (run.image run.last < 0xD800
          || 0xDFFF < run.target && run.image run.last < 0x110000)) = true := by
    decide +kernel
  have hbounds := List.all_eq_true.mp hruns run hrun
  simp only [Bool.and_eq_true, Bool.or_eq_true, decide_eq_true_eq] at hbounds
  obtain ⟨htarget, hend⟩ := CaseRun.image_bounds h
  refine ⟨by omega, ?_, by omega⟩
  have hvalid : (run.image code).isValidChar := by
    show run.image code < 0xD800 ∨ 0xDFFF < run.image code ∧ run.image code < 0x110000
    omega
  rw [Char.toNat_ofNat, if_pos hvalid]

/-- **What becomes a small letter of ASCII:** its capital, and a look-alike of `k`. -/
theorem image_small {run : CaseRun} (hrun : run ∈ lowerRuns) {code : Nat}
    (h : run.contains code = true) (hle : run.image code ≤ 122) :
    (65 ≤ code ∧ code ≤ 90 ∧ run.image code = code + 32) ∨ run.image code = 107 := by
  have hruns : lowerRuns.all (fun run =>
      run.first == 65 && run.last == 90 && run.target == 97
        || run.first == run.last && run.target == 107 || 122 < run.target) = true := by
    decide +kernel
  have hbounds := List.all_eq_true.mp hruns run hrun
  simp only [Bool.and_eq_true, Bool.or_eq_true, decide_eq_true_eq, beq_iff_eq] at hbounds
  obtain ⟨⟨hfirst, hlast⟩, -⟩ := CaseRun.contains_iff.mp h
  simp only [CaseRun.image] at hle ⊢
  omega

/-! ### Single characters -/

/-- A character is **settled** if it is its own lower-case form. -/
def IsSettled (c : Char) : Prop :=
  lowerChar c = [c]

/-- The lower-case form of a character: that of `İ` is of two characters, that of a capital is the
character that its run leads to, and everything else is settled. -/
theorem lowerChar_cases (c : Char) :
    (c = 'İ' ∧ lowerChar c = ['i', '\u0307']) ∨
      (∃ run ∈ lowerRuns, run.contains c.toNat = true ∧
        lowerChar c = [Char.ofNat (run.image c.toNat)]) ∨
      IsSettled c := by
  by_cases hdotted : c = 'İ'
  · exact .inl ⟨hdotted, if_pos hdotted⟩
  · rcases hfind : lowerRuns.find? (fun run => run.contains c.toNat) with _ | run
    · refine .inr (.inr ?_)
      rw [IsSettled, lowerChar, if_neg hdotted, hfind]
    · have hcapital := List.find?_some (p := fun r : CaseRun => r.contains c.toNat) hfind
      refine .inr (.inl ⟨run, List.mem_of_find?_eq_some hfind, hcapital, ?_⟩)
      rw [lowerChar, if_neg hdotted, hfind]
      rfl

/-- No character is dropped. -/
theorem lowerChar_ne_nil (c : Char) : lowerChar c ≠ [] := by
  obtain ⟨-, hform⟩ | ⟨run, -, -, hform⟩ | hform := lowerChar_cases c
  all_goals
    rw [hform]
    exact List.cons_ne_nil _ _

/-- **The lower-case form of a character is settled.** -/
theorem isSettled_of_mem_lowerChar {c d : Char} (h : d ∈ lowerChar c) : IsSettled d := by
  obtain ⟨-, hform⟩ | ⟨run, hrun, hcapital, hform⟩ | hsettled := lowerChar_cases c
  · rw [hform, List.mem_pair] at h
    obtain rfl | rfl := h
    · show lowerChar 'i' = ['i']
      decide +kernel
    · show lowerChar '\u0307' = ['\u0307']
      decide +kernel
  · obtain rfl := List.mem_singleton.mp (hform ▸ h)
    obtain ⟨-, hcode, hdotted⟩ := image_range hrun hcapital
    refine lowerChar_eq_self (by rwa [hcode]) fun other hother => ?_
    rw [hcode]
    exact contains_image_eq_false hrun hother hcapital
  · obtain rfl := List.mem_singleton.mp (hsettled ▸ h)
    exact hsettled

/-- A character before the small letters of ASCII that stands in the lower-case form of a character
is that character. -/
theorem eq_of_mem_lowerChar {c d : Char} (h : d ∈ lowerChar c) (hd : d.toNat < 97) : d = c := by
  obtain ⟨-, hform⟩ | ⟨run, hrun, hcapital, hform⟩ | hsettled := lowerChar_cases c
  · rw [hform, List.mem_pair] at h
    obtain rfl | rfl := h
    · exact absurd hd (by decide)
    · exact absurd hd (by decide)
  · obtain rfl := List.mem_singleton.mp (hform ▸ h)
    obtain ⟨hleast, hcode, -⟩ := image_range hrun hcapital
    rw [hcode] at hd
    omega
  · exact List.mem_singleton.mp (hsettled ▸ h)

/-- Neither form of the sigma is a capital. -/
theorem isSettled_sigma (final : Bool) : IsSettled (if final then 'ς' else 'σ') := by
  cases final with
  | false =>
      show lowerChar 'σ' = ['σ']
      decide +kernel
  | true =>
      show lowerChar 'ς' = ['ς']
      decide +kernel

/-- The capital sigma is a capital. -/
theorem IsSettled.ne_sigma {c : Char} (h : IsSettled c) : c ≠ 'Σ' := by
  rintro rfl
  have hform : lowerChar 'Σ' = ['σ'] := by decide +kernel
  exact absurd (hform.symm.trans h) (by decide)

/-! ### Texts -/

/-- What stands in a lower-case form: it comes from a character of the text, or is a sigma. -/
theorem mem_lowerFrom {before : Bool} {s : List Char} {d : Char} (h : d ∈ lowerFrom before s) :
    (∃ c ∈ s, d ∈ lowerChar c) ∨ ∃ final : Bool, d = if final then 'ς' else 'σ' := by
  induction s generalizing before with
  | nil => cases h
  | cons c rest ih =>
      rw [lowerFrom, List.mem_append] at h
      obtain hhere | hlater := h
      · split at hhere
        · exact .inr ⟨_, List.mem_singleton.mp hhere⟩
        · exact .inl ⟨c, List.mem_cons_self, hhere⟩
      · obtain ⟨c', hc', hd⟩ | hsigma := ih hlater
        · exact .inl ⟨c', List.mem_cons_of_mem c hc', hd⟩
        · exact .inr hsigma

/-- **All that stands in a lower-case form is settled.** -/
theorem isSettled_of_mem_lower {s : List Char} {d : Char} (h : d ∈ lower s) : IsSettled d := by
  obtain ⟨c, -, hd⟩ | ⟨final, rfl⟩ := mem_lowerFrom h
  · exact isSettled_of_mem_lowerChar hd
  · exact isSettled_sigma final

/-- **No separator arises from making a text lower case:** what stands in its lower-case form before
the small letters of ASCII stands in the text. -/
theorem mem_of_mem_lower {s : List Char} {d : Char} (h : d ∈ lower s) (hd : d.toNat < 97) :
    d ∈ s := by
  obtain ⟨c, hc, hform⟩ | ⟨final, rfl⟩ := mem_lowerFrom h
  · rwa [eq_of_mem_lowerChar hform hd]
  · cases final <;> exact absurd hd (by decide)

/-- Settled characters stay as they are, whatever stands before them. -/
theorem lowerFrom_eq_self {s : List Char} (h : ∀ c ∈ s, IsSettled c) (before : Bool) :
    lowerFrom before s = s := by
  induction s generalizing before with
  | nil => rfl
  | cons c rest ih =>
      obtain ⟨hc, hrest⟩ := List.forall_mem_cons.mp h
      rw [lowerFrom, if_neg hc.ne_sigma, ih hrest, hc]
      rfl

/-- **A text of settled characters is its own lower-case form.** -/
theorem lower_eq_self {s : List Char} (h : ∀ c ∈ s, IsSettled c) : lower s = s :=
  lowerFrom_eq_self h false

/-- Making a text lower case a second time changes nothing. -/
@[simp] theorem lower_lower (s : List Char) : lower (lower s) = lower s :=
  lower_eq_self fun _ => isSettled_of_mem_lower

/-- Only the empty text has an empty lower-case form. -/
theorem lower_eq_nil_iff {s : List Char} : lower s = [] ↔ s = [] := by
  constructor
  · intro h
    rcases s with _ | ⟨c, rest⟩
    · rfl
    · rw [lower, lowerFrom, List.append_eq_nil_iff] at h
      obtain ⟨hhere, -⟩ := h
      split at hhere
      · cases hhere
      · exact absurd hhere (lowerChar_ne_nil c)
  · rintro rfl
    rfl

/-! ### Forms in ASCII -/

/-- A lower-case form of a character in small letters of ASCII other than `k` is that of an ASCII
letter, in either case. -/
theorem lowerChar_eq_toLower {c : Char} (h : ∀ d ∈ lowerChar c, d.isLower = true ∧ d ≠ 'k') :
    lowerChar c = [c.toLower] := by
  obtain ⟨-, hform⟩ | ⟨run, hrun, hcapital, hform⟩ | hsettled := lowerChar_cases c
  · rw [hform] at h
    exact absurd (h '\u0307' (by simp)).1 (by decide)
  · rw [hform, List.forall_mem_singleton] at h
    obtain ⟨hsmall, hk⟩ := h
    obtain ⟨-, hcode, -⟩ := image_range hrun hcapital
    have hle := (isLower_iff.mp hsmall).2
    rw [hcode] at hle
    obtain ⟨hleast, hgreatest, himage⟩ | hlook := image_small hrun hcapital hle
    · rw [hform, Char.toLower_eq_of_isUpper (isUpper_iff.mpr ⟨hleast, hgreatest⟩), himage]
    · exact absurd (by rw [hlook]) hk
  · rw [hsettled, List.forall_mem_singleton] at h
    rw [hsettled, Char.toLower_eq_of_not_isUpper (Char.not_isUpper_of_isLower h.1)]

/-- A lower-case form of a text in small letters of ASCII other than `k` is that of its ASCII
letters, and there are no others. -/
theorem lowerFrom_eq_map_toLower {before : Bool} {s : List Char}
    (h : ∀ d ∈ lowerFrom before s, d.isLower = true ∧ d ≠ 'k') :
    lowerFrom before s = s.map Char.toLower := by
  induction s generalizing before with
  | nil => rfl
  | cons c rest ih =>
      rw [lowerFrom] at h ⊢
      obtain ⟨hhere, hlater⟩ := List.forall_mem_append.mp h
      have hsigma : c ≠ 'Σ' := by
        rintro rfl
        rw [if_pos rfl, List.forall_mem_singleton] at hhere
        have hsmall := hhere.1
        split at hsmall <;> exact absurd hsmall (by decide)
      rw [if_neg hsigma] at hhere ⊢
      rw [lowerChar_eq_toLower hhere, ih hlater]
      rfl

/-- **The texts with a given lower-case form in ASCII.** If it is written in small letters of ASCII
other than `k`, they are that form up to the case of its letters; no letter beyond ASCII stands in
any of them. -/
theorem lower_eq_iff {s t : List Char} (ht : ∀ d ∈ t, d.isLower = true ∧ d ≠ 'k') :
    lower s = t ↔ s.map Char.toLower = t := by
  constructor
  · rintro rfl
    exact (lowerFrom_eq_map_toLower ht).symm
  · rintro rfl
    rw [← lower_map_toLower]
    exact lower_eq_self fun d hd => lowerChar_of_isLower (ht d hd).1

end Activation.Text
