import Mathlib.Data.List.Infix
import Activation.Proofs.Spelling.Joints

/-!
# Names that Come Back from their Kebab Spelling

The camel spelling is meant to undo the kebab spelling, and there are two ways in which it fails to.
A joint of the name itself is lost on the way back, together with the joints that the way out has
added. And of the capitals at the start of a word, which the way out makes small, the way back makes
only the first one a capital again: so a word is spoiled if it starts with an **acronym**, that is
with two capitals of which the second does not start a word of its own.

There is no third way. Behind the first character of a name the two passes can be run as one
(`camelChars_kebabTail_of_opensAfter`, `camelChars_kebabTail_of_not_opensAfter`), and what this one
pass leaves alone can be read off two neighbouring characters and the one after them.

## Main statements

* `camelChars_kebabTail_eq_iff` — what is left alone behind a first character.
* `camel_kebab_eq_self_iff` — which names come back from their kebab spelling.
-/

namespace Activation.Spelling

/-- A name **has a joint**: a hyphen directly before an ASCII letter or digit. -/
def HasJoint (name : List Char) : Prop :=
  ∃ c rest, '-' :: c :: rest <:+ name ∧ c.isAlphanum = true

/-- A name **has an acronym** after a small letter or digit: two capitals that no small letter
follows. -/
def HasAcronym (name : List Char) : Prop :=
  ∃ a b c rest, a :: b :: c :: rest <:+ name ∧ (a.isLower = true ∨ a.isDigit = true) ∧
    b.isUpper = true ∧ c.isUpper = true ∧ rest.head?.any Char.isLower = false

/-! ### Places in a name -/

/-- A joint stands at the start of a name or further on. -/
theorem hasJoint_cons_iff {c : Char} {rest : List Char} :
    HasJoint (c :: rest) ↔ (c = '-' ∧ rest.head?.any Char.isAlphanum = true) ∨ HasJoint rest := by
  simp only [HasJoint, List.suffix_cons_iff, List.cons.injEq, or_and_right, exists_or]
  refine or_congr_left ?_
  constructor
  · rintro ⟨d, more, ⟨rfl, rfl⟩, hd⟩
    exact ⟨rfl, hd⟩
  · rintro ⟨rfl, hhead⟩
    rcases rest with _ | ⟨d, more⟩
    · cases hhead
    · exact ⟨d, more, ⟨rfl, rfl⟩, hhead⟩

/-- A name has no joints exactly if their number is zero. -/
theorem joints_eq_zero_iff {name : List Char} : joints name = 0 ↔ ¬HasJoint name := by
  induction name with
  | nil => simp [joints, HasJoint]
  | cons c rest ih =>
      rw [joints, hasJoint_cons_iff, Nat.add_eq_zero_iff, ih, not_or]
      refine and_congr_left fun _ => ?_
      split <;> simp_all

/-- An acronym stands at the start of a name, behind its first character, or further on. -/
theorem hasAcronym_cons_iff {a : Char} {rest : List Char} :
    HasAcronym (a :: rest) ↔
      (∃ b c more, rest = b :: c :: more ∧ (a.isLower = true ∨ a.isDigit = true) ∧
        b.isUpper = true ∧ c.isUpper = true ∧ more.head?.any Char.isLower = false) ∨
      HasAcronym rest := by
  simp only [HasAcronym, List.suffix_cons_iff, List.cons.injEq, or_and_right, exists_or]
  refine or_congr_left ?_
  constructor
  · rintro ⟨_, b, c, more, ⟨rfl, rfl⟩, h⟩
    exact ⟨b, c, more, rfl, h⟩
  · rintro ⟨b, c, more, rfl, h⟩
    exact ⟨a, b, c, more, ⟨rfl, rfl⟩, h⟩

/-! ### The two passes behind the first character -/

/-- What the kebab pass makes of the text behind a character. -/
def kebabTail (low : Bool) (c : Char) (rest : List Char) : List Char :=
  if opensAfter c rest then '-' :: kebabPass true rest else kebabPass (low && c.isUpper) rest

/-- The camel spelling keeps a character at which no joint stands. -/
theorem camelChars_cons {c : Char} {rest : List Char}
    (h : ¬(c = '-' ∧ rest.head?.any Char.isAlphanum = true)) :
    camelChars (c :: rest) = c :: camelChars rest := by
  rcases rest with _ | ⟨d, more⟩
  · rfl
  · rw [camelChars, if_neg (by simpa using h)]

/-- The camel spelling drops a joint and makes the character behind it a capital. -/
theorem camelChars_joint {d : Char} (hd : d.isAlphanum = true) (rest : List Char) :
    camelChars ('-' :: d :: rest) = d.toUpper :: camelChars rest := by
  rw [camelChars, hd]
  rfl

/-- A capital that has been made small is made a capital again. -/
theorem toUpper_smallIf_of_isUpper {d : Char} (hd : d.isUpper = true) :
    (smallIf true d).toUpper = d :=
  Text.forall_isUpper (p := fun d => (smallIf true d).toUpper = d) (by decide) hd

/-- Only a capital is changed by being made small, and every capital is. -/
theorem smallIf_eq_self_iff {low : Bool} {c : Char} :
    smallIf low c = c ↔ ¬(low = true ∧ c.isUpper = true) := by
  rcases low with _ | _
  · simp [smallIf]
  · rcases hc : c.isUpper with _ | _
    · simp [smallIf, Char.toLower_eq_of_not_isUpper (ne_true_of_eq_false hc)]
    · simpa using Text.forall_isUpper (p := fun c => smallIf true c ≠ c) (by decide) hc

/-- The two passes keep a character at which no joint stands, except that it may have been made
small. -/
theorem camelChars_kebabPass_cons {c : Char} {rest : List Char}
    (h : ¬(c = '-' ∧ rest.head?.any Char.isAlphanum = true)) (low : Bool) :
    camelChars (kebabPass low (c :: rest))
      = smallIf low c :: camelChars (kebabTail low c rest) := by
  rw [kebabPass, ← kebabTail]
  refine camelChars_cons ?_
  rintro ⟨hc, hhead⟩
  obtain rfl := smallIf_eq_hyphen_iff.mp hc
  rw [kebabTail, opensAfter_hyphen, if_neg Bool.false_ne_true, any_isAlphanum_kebabPass] at hhead
  exact h ⟨rfl, hhead⟩

/-- A capital at which a word starts is kept: the way back restores it. -/
theorem camelChars_kebabTail_of_opensAfter {c d : Char} {more : List Char}
    (h : opensAfter c (d :: more) = true) (low : Bool) :
    camelChars (kebabTail low c (d :: more)) = d :: camelChars (kebabTail true d more) := by
  have hd : d.isUpper = true := isUpper_of_startsWord h
  have halnum : (smallIf true d).isAlphanum = true := by
    rw [isAlphanum_smallIf]
    simp [Char.isAlphanum, Char.isAlpha, hd]
  rw [kebabTail, if_pos h, kebabPass, ← kebabTail, camelChars_joint halnum,
    toUpper_smallIf_of_isUpper hd]

/-- Where no word starts, the next character is kept unless it is made small. -/
theorem camelChars_kebabTail_of_not_opensAfter {c d : Char} {more : List Char}
    (h : opensAfter c (d :: more) = false)
    (hd : ¬(d = '-' ∧ more.head?.any Char.isAlphanum = true)) (low : Bool) :
    camelChars (kebabTail low c (d :: more)) =
      smallIf (low && c.isUpper) d :: camelChars (kebabTail (low && c.isUpper) d more) := by
  rw [kebabTail, h, if_neg Bool.false_ne_true, camelChars_kebabPass_cons hd]

/-! ### What is left alone -/

/-- Behind a capital that has been made small a capital has to start a word of its own. -/
def Restored (low : Bool) (c : Char) (rest : List Char) : Prop :=
  low = true → c.isUpper = true → rest.head?.any Char.isUpper = true → opensAfter c rest = true

/-- A capital is no small letter and no digit. -/
theorem not_isLower_and_not_isDigit_of_isUpper {c : Char} (h : c.isUpper = true) :
    c.isLower = false ∧ c.isDigit = false :=
  Text.forall_isUpper (p := fun c => c.isLower = false ∧ c.isDigit = false) (by decide) h

/-- Behind a capital a word starts exactly at a capital that a small letter follows. -/
theorem opensAfter_of_isUpper {d e : Char} (hd : d.isUpper = true) (more : List Char) :
    opensAfter d (e :: more) = (e.isUpper && more.head?.any Char.isLower) := by
  obtain ⟨hlower, hdigit⟩ := not_isLower_and_not_isDigit_of_isUpper hd
  rw [opensAfter, startsWord, hd, hlower, hdigit]
  simp

/-- Where a word starts, an acronym does exactly if the text behind its first capital is not
restored. -/
theorem hasAcronym_cons_of_opensAfter {c d : Char} {more : List Char}
    (h : opensAfter c (d :: more) = true) :
    HasAcronym (c :: d :: more) ↔ ¬Restored true d more ∨ HasAcronym (d :: more) := by
  have hd : d.isUpper = true := isUpper_of_startsWord h
  rw [hasAcronym_cons_iff]
  refine or_congr_left ?_
  rcases more with _ | ⟨e, rest⟩
  · simp [Restored]
  · rw [opensAfter, startsWord, hd] at h
    rw [Restored, opensAfter_of_isUpper hd]
    constructor
    · rintro ⟨_, _, _, heq, -, -, he, hnext⟩
      cases heq
      simp [hd, he, hnext]
    · intro hspoiled
      obtain ⟨he, hnext⟩ : e.isUpper = true ∧ (e.isUpper = true →
          rest.head?.any Char.isLower = false) := by simpa [hd] using hspoiled
      refine ⟨d, e, rest, rfl, ?_, hd, he, hnext he⟩
      -- a capital that another one follows starts a word only after a small letter or digit
      have hlower := (not_isLower_and_not_isDigit_of_isUpper he).1
      simpa [hlower] using h

/-- Where no word starts, no acronym does. -/
theorem hasAcronym_cons_of_not_opensAfter {c d : Char} {more : List Char}
    (h : opensAfter c (d :: more) = false) :
    HasAcronym (c :: d :: more) ↔ HasAcronym (d :: more) := by
  rw [hasAcronym_cons_iff, or_iff_right]
  rintro ⟨b, e, rest, heq, hc, hb, -⟩
  cases heq
  have hopens : opensAfter c (d :: e :: rest) = true := by
    rcases hc with hc | hc <;> simp [opensAfter, startsWord, hc, hb]
  rw [h] at hopens
  cases hopens

/-- A name of at most one character has no acronym. -/
theorem not_hasAcronym_singleton (c : Char) : ¬HasAcronym [c] := by
  rw [hasAcronym_cons_iff]
  rintro (⟨b, e, rest, heq, -⟩ | ⟨a, b, e, rest, hsuffix, -⟩)
  · cases heq
  · cases List.suffix_nil.mp hsuffix

/-- **What the two passes leave alone behind a character.** -/
theorem camelChars_kebabTail_eq_iff {c : Char} {rest : List Char} (h : ¬HasJoint rest)
    (low : Bool) :
    camelChars (kebabTail low c rest) = rest ↔
      Restored low c rest ∧ ¬HasAcronym (c :: rest) := by
  -- on the text behind the character; the character itself only decides whether a word starts
  induction rest generalizing low c with
  | nil => exact iff_of_true rfl ⟨nofun, not_hasAcronym_singleton c⟩
  | cons d more ih =>
      rw [hasJoint_cons_iff, not_or] at h
      obtain ⟨hd, hmore⟩ := h
      rcases hopens : opensAfter c (d :: more) with _ | _
      · have hhere : Restored low c (d :: more) ↔
            ¬((low && c.isUpper) = true ∧ d.isUpper = true) := by simp [Restored, hopens]
        rw [camelChars_kebabTail_of_not_opensAfter hopens hd, List.cons.injEq, ih hmore,
          smallIf_eq_self_iff, hasAcronym_cons_of_not_opensAfter hopens, hhere, ← and_assoc]
        refine and_congr_left fun _ => and_iff_left_of_imp fun hkept hlow hupper => ?_
        exact absurd ⟨hlow, hupper⟩ hkept
      · have hhere : Restored low c (d :: more) := fun _ _ _ => hopens
        rw [camelChars_kebabTail_of_opensAfter hopens, List.cons.injEq, ih hmore,
          hasAcronym_cons_of_opensAfter hopens, not_or, not_not]
        exact ⟨fun h => ⟨hhere, h.2⟩, fun h => ⟨rfl, h.2⟩⟩

/-! ### There and back -/

/-- The characters of a name come back exactly if it has no joint and no acronym. -/
theorem camelChars_kebabChars_eq_self_iff {name : List Char} :
    camelChars (kebabChars name) = name ↔ ¬HasJoint name ∧ ¬HasAcronym name := by
  by_cases hjoint : HasJoint name
  · refine iff_of_false (fun h => ?_) fun h => h.1 hjoint
    exact joints_eq_zero_iff.mp (joints_eq_zero_of_camel_kebab h) hjoint
  · rw [and_iff_right hjoint, ← kebabPass_eq]
    rcases name with _ | ⟨c, rest⟩
    · exact iff_of_true rfl fun ⟨_, _, _, _, hsuffix, _⟩ => nomatch List.suffix_nil.mp hsuffix
    · rw [hasJoint_cons_iff, not_or] at hjoint
      rw [camelChars_kebabPass_cons hjoint.1, List.cons.injEq,
        camelChars_kebabTail_eq_iff hjoint.2]
      exact ⟨fun h => h.2.2, fun h => ⟨rfl, nofun, h⟩⟩

/-- **The names that come back from their kebab spelling** are those that have no hyphen directly
before an ASCII letter or digit, and in which no small letter or digit stands before two capitals
that no small letter follows. -/
theorem camel_kebab_eq_self_iff (name : String) :
    camel (kebab name) = name ↔ ¬HasJoint name.toList ∧ ¬HasAcronym name.toList := by
  rw [← String.toList_inj, toList_camel, toList_kebab, camelChars_kebabChars_eq_self_iff]

/-- The acronym after the small letter is spoiled, the one after a capital is not. -/
example :
    camel (kebab "myURLParser") = "myUrlParser" ∧ camel (kebab "URLParser") = "URLParser" := by
  decide

end Activation.Spelling
