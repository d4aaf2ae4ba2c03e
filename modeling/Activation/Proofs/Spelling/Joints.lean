import Activation.Proofs.Spelling.KebabPass

/-!
# Hyphens in the Two Spellings

A hyphen directly before an ASCII letter or digit is a **joint**: the camel spelling drops it. All
other hyphens stay, and no spelling turns another character into a hyphen, so the hyphens of a name
can be counted through both rewritings. The camel spelling loses one hyphen a joint
(`count_camelChars`), and the kebab spelling gains one hyphen for each word after the first, all of
them joints (`count_kebabPass`, `joints_kebabPass`).

The two counts settle which names can come back from their kebab spelling. The way back drops the
hyphens that the way out has added and the joints that the name had of its own, so nothing but a
name without joints comes back (`joints_eq_zero_of_camel_kebab`).

What is gained or lost is length as well, so of the two spellings of a name the one is never shorter
and the other never longer than the name, and they can only meet in the name itself
(`kebab_eq_camel_iff`). Hence the list of all spellings leaves out what is the name and nothing else
(`variants_eq`).
-/

namespace Activation.Spelling

/-- The number of hyphens directly before an ASCII letter or digit. -/
def joints : List Char → Nat
  | [] => 0
  | c :: rest => (if c = '-' ∧ rest.head?.any Char.isAlphanum then 1 else 0) + joints rest

/-! ### Single characters -/

/-- A letter or digit is no hyphen. -/
theorem ne_hyphen_of_isAlphanum {c : Char} (h : c.isAlphanum = true) : c ≠ '-' := by
  rintro rfl
  exact absurd h (by decide)

/-- A capital is no hyphen unless the character was one. -/
theorem toUpper_eq_hyphen_iff {c : Char} : c.toUpper = '-' ↔ c = '-' := by
  constructor
  · intro h
    have hlower := @smallIf_eq_hyphen_iff true c
    have hround : c.toUpper.toLower = c.toLower := Char.toLower_toUpper_eq_toLower c
    rw [h] at hround
    exact hlower.mp hround.symm
  · rintro rfl
    rfl

/-- Making a character small if asked for keeps letters and digits. -/
theorem isAlphanum_smallIf (low : Bool) (c : Char) :
    (smallIf low c).isAlphanum = c.isAlphanum := by
  rcases low with _ | _
  · rfl
  · exact Text.toLower_cases (p := fun d c => d.isAlphanum = c.isAlphanum) (fun _ => rfl)
      (by decide) c

/-! ### The camel spelling -/

/-- A character before which no hyphen is dropped adds nothing to the joints. -/
theorem joints_cons_of_ne {c : Char} (h : c ≠ '-') (rest : List Char) :
    joints (c :: rest) = joints rest := by
  rw [joints, if_neg fun hc => h hc.1, Nat.zero_add]

theorem joints_cons_cons (c d : Char) (rest : List Char) :
    joints (c :: d :: rest) = (if c = '-' ∧ d.isAlphanum then 1 else 0) + joints (d :: rest) :=
  rfl

/-- **The camel spelling loses one hyphen a joint.** -/
theorem count_camelChars (name : List Char) :
    (camelChars name).count '-' + joints name = name.count '-' := by
  induction name using camelChars.induct with
  | case1 => rfl
  | case2 c => simp [camelChars, joints]
  | case3 c d rest h ih =>
      rw [Bool.and_eq_true, decide_eq_true_eq] at h
      obtain ⟨rfl, hd⟩ := h
      have hjoint : joints ('-' :: d :: rest) = 1 + joints rest := by
        rw [joints_cons_cons, if_pos ⟨rfl, hd⟩, joints_cons_of_ne (ne_hyphen_of_isAlphanum hd)]
      have hdrop : camelChars ('-' :: d :: rest) = d.toUpper :: camelChars rest := by
        rw [camelChars, hd]
        rfl
      have hne := ne_hyphen_of_isAlphanum hd
      rw [hdrop, hjoint, List.count_cons_of_ne (fun h => hne (toUpper_eq_hyphen_iff.mp h)),
        List.count_cons_self, List.count_cons_of_ne hne]
      omega
  | case4 c d rest h ih =>
      rw [Bool.and_eq_true, decide_eq_true_eq] at h
      have hkeep : joints (c :: d :: rest) = joints (d :: rest) := by
        rw [joints_cons_cons, if_neg h, Nat.zero_add]
      rw [camelChars, if_neg (by simpa using h), hkeep, List.count_cons, List.count_cons]
      omega

/-- The camel spelling is one character shorter for each joint. -/
theorem length_camelChars (name : List Char) :
    (camelChars name).length + joints name = name.length := by
  induction name using camelChars.induct with
  | case1 => rfl
  | case2 c => simp [camelChars, joints]
  | case3 c d rest h ih =>
      rw [Bool.and_eq_true, decide_eq_true_eq] at h
      have hjoint : joints (c :: d :: rest) = 1 + joints rest := by
        rw [joints_cons_cons, if_pos h, joints_cons_of_ne (ne_hyphen_of_isAlphanum h.2)]
      rw [camelChars, if_pos (by simpa using h), hjoint, List.length_cons, List.length_cons,
        List.length_cons]
      omega
  | case4 c d rest h ih =>
      rw [Bool.and_eq_true, decide_eq_true_eq] at h
      rw [camelChars, if_neg (by simpa using h), joints_cons_cons, if_neg h, List.length_cons,
        List.length_cons]
      omega

/-- **The names that are their own camel spelling are the names without joints.** -/
theorem camelChars_eq_self_iff {name : List Char} : camelChars name = name ↔ joints name = 0 := by
  constructor
  · intro h
    have hcount := count_camelChars name
    rw [h] at hcount
    omega
  · intro h
    induction name using camelChars.induct with
    | case1 => rfl
    | case2 c => rfl
    | case3 c d rest hdrop ih =>
        rw [Bool.and_eq_true, decide_eq_true_eq] at hdrop
        rw [joints_cons_cons, if_pos hdrop] at h
        omega
    | case4 c d rest hkeep ih =>
        rw [camelChars, if_neg hkeep, ih]
        rw [joints_cons_cons] at h
        omega

/-- **The camel spelling of a name is shorter than the name, unless it is the name.** -/
theorem camelChars_eq_self_iff_length {name : List Char} :
    camelChars name = name ↔ name.length ≤ (camelChars name).length := by
  have hlength := length_camelChars name
  rw [camelChars_eq_self_iff]
  omega

/-! ### The kebab spelling -/

/-- **The kebab spelling of a name is longer than the name, unless it is the name.** -/
theorem kebabChars_eq_self_iff_length {name : List Char} :
    kebabChars name = name ↔ (kebabChars name).length ≤ name.length := by
  have hlength := length_kebabPass false name
  rw [kebabPass_eq] at hlength
  rw [kebabChars_eq_self_iff, OneWord, ← List.length_eq_zero_iff]
  omega

/-- Where a word starts, a capital stands. -/
theorem isUpper_of_startsWord {before c : Char} {next : Option Char}
    (h : startsWord before c next = true) : c.isUpper = true := by
  rcases hc : c.isUpper with _ | _
  · rw [startsWord_of_not_isUpper hc] at h
    cases h
  · rfl

/-- After a character before which a word starts there is a letter. -/
theorem any_isAlphanum_of_opensAfter {c : Char} {rest : List Char}
    (h : opensAfter c rest = true) : rest.head?.any Char.isAlphanum = true := by
  rcases rest with _ | ⟨d, more⟩
  · cases h
  · have hd := isUpper_of_startsWord h
    simp [Char.isAlphanum, Char.isAlpha, hd]

/-- The pass begins with a letter or digit exactly if the name does. -/
theorem any_isAlphanum_kebabPass (low : Bool) (name : List Char) :
    (kebabPass low name).head?.any Char.isAlphanum = name.head?.any Char.isAlphanum := by
  rw [head?_kebabPass]
  rcases name.head? with _ | c
  · rfl
  · exact isAlphanum_smallIf low c

/-- The kebab spelling gains one hyphen for each word after the first. -/
theorem count_kebabPass (low : Bool) (name : List Char) :
    (kebabPass low name).count '-' = name.count '-' + (words name).2.length := by
  induction name generalizing low with
  | nil => rfl
  | cons c rest ih =>
      have hhead : (smallIf low c == '-') = (c == '-') := by
        rw [Bool.eq_iff_iff, beq_iff_eq, beq_iff_eq, smallIf_eq_hyphen_iff]
      rw [kebabPass, length_words_cons, List.count_cons, List.count_cons, hhead]
      split
      · rw [List.count_cons_self, ih]
        omega
      · rw [ih]
        omega

/-- The hyphens that the kebab spelling adds are joints, and no other hyphen becomes one or ceases
to be one. -/
theorem joints_kebabPass (low : Bool) (name : List Char) :
    joints (kebabPass low name) = joints name + (words name).2.length := by
  induction name generalizing low with
  | nil => rfl
  | cons c rest ih =>
      rw [kebabPass, length_words_cons]
      split
      · rename_i hopens
        have hc : c ≠ '-' := by
          rintro rfl
          rw [opensAfter_hyphen] at hopens
          cases hopens
        have hsmall : smallIf low c ≠ '-' := fun h => hc (smallIf_eq_hyphen_iff.mp h)
        have hjoint : joints ('-' :: kebabPass true rest) = 1 + joints (kebabPass true rest) := by
          rw [joints, any_isAlphanum_kebabPass, any_isAlphanum_of_opensAfter hopens]
          rfl
        rw [joints_cons_of_ne hsmall, joints_cons_of_ne hc, hjoint, ih]
        omega
      · simp only [joints, any_isAlphanum_kebabPass, smallIf_eq_hyphen_iff, ih]
        omega

/-! ### The list of spellings -/

/-- **The two spellings of a name coincide only in the name itself.** -/
theorem kebab_eq_camel_iff {name : String} :
    kebab name = camel name ↔ kebab name = name ∧ camel name = name := by
  constructor
  · intro h
    have hsame : kebabChars name.toList = camelChars name.toList := by
      rw [← toList_kebab, ← toList_camel, h]
    have hlonger := length_kebabPass false name.toList
    have hshorter := length_camelChars name.toList
    rw [kebabPass_eq, hsame] at hlonger
    rw [← String.toList_inj, ← String.toList_inj, toList_kebab, toList_camel,
      kebabChars_eq_self_iff_length, camelChars_eq_self_iff_length, hsame]
    omega
  · rintro ⟨hkebab, hcamel⟩
    rw [hkebab, hcamel]

/-- **The spellings of a name:** the name, and those of the two others that are not the name. -/
theorem variants_eq (name : String) :
    variants name =
      name :: ((if kebab name = name then [] else [kebab name])
        ++ if camel name = name then [] else [camel name]) := by
  rw [variants, List.eraseDups_cons]
  by_cases hkebab : kebab name = name
  · by_cases hcamel : camel name = name
    · simp [hkebab, hcamel]
    · simp [hkebab, hcamel, List.eraseDups_cons]
  · by_cases hcamel : camel name = name
    · simp [hkebab, hcamel, List.eraseDups_cons]
    · have hdiffer : camel name ≠ kebab name := fun h => hkebab (kebab_eq_camel_iff.mp h.symm).1
      simp [hkebab, hcamel, hdiffer, List.eraseDups_cons]

/-- The spellings of a name are pairwise different. -/
theorem nodup_variants (name : String) : (variants name).Nodup := by
  rw [variants_eq]
  by_cases hkebab : kebab name = name
  · by_cases hcamel : camel name = name
    · simp [hkebab, hcamel]
    · simp [hkebab, hcamel, Ne.symm hcamel]
  · by_cases hcamel : camel name = name
    · simp [hkebab, hcamel, Ne.symm hkebab]
    · have hdiffer : kebab name ≠ camel name := fun h => hkebab (kebab_eq_camel_iff.mp h).1
      simp [hkebab, hcamel, Ne.symm hkebab, Ne.symm hcamel, hdiffer]

/-! ### There and back -/

/-- **A name that its kebab spelling leads back to has no joints**, for each of them is lost on the
way. -/
theorem joints_eq_zero_of_camel_kebab {name : List Char}
    (h : camelChars (kebabChars name) = name) : joints name = 0 := by
  have hcamel := count_camelChars (kebabChars name)
  have hcount := count_kebabPass false name
  have hjoints := joints_kebabPass false name
  rw [kebabPass_eq] at hcount hjoints
  rw [h] at hcamel
  omega

/-- A name that its kebab spelling leads back to is its own camel spelling. -/
theorem camel_eq_self_of_camel_kebab {name : String} (h : camel (kebab name) = name) :
    camel name = name := by
  have hchars : camelChars (kebabChars name.toList) = name.toList := by
    rw [← toList_kebab, ← toList_camel, h]
  have hself := camelChars_eq_self_iff.mpr (joints_eq_zero_of_camel_kebab hchars)
  rw [camel, hself, String.ofList_toList]

/-- The kebab spelling of a kebab spelling is that spelling. -/
theorem kebab_kebab (name : String) : kebab (kebab name) = kebab name := by
  rw [kebab, toList_kebab, kebabChars_kebabChars, kebab]

/-- The spellings of a name that its kebab spelling leads back to. -/
theorem variants_of_camel_kebab {name : String} (h : camel (kebab name) = name) :
    variants name = if name = kebab name then [name] else [name, kebab name] := by
  rw [variants_eq, if_pos (camel_eq_self_of_camel_kebab h), List.append_nil]
  by_cases hkebab : kebab name = name
  · rw [if_pos hkebab, if_pos hkebab.symm]
  · rw [if_neg hkebab, if_neg (Ne.symm hkebab)]

/-- The spellings of its kebab spelling: the same two, the other one first. -/
theorem variants_kebab_of_camel_kebab {name : String} (h : camel (kebab name) = name) :
    variants (kebab name) = if name = kebab name then [kebab name] else [kebab name, name] := by
  rw [variants_eq, kebab_kebab, if_pos rfl, h, List.nil_append]
  split
  · rfl
  · rfl

end Activation.Spelling
