import Activation.Proofs.Text.LetterCase
import Activation.Spelling.Basic

/-!
# The Kebab Spelling in One Pass

The kebab spelling of a name is defined by cutting the name into words and rewriting each of them.
The same spelling results from **one pass** over the characters that remembers a single bit: whether
all characters since the start of a word other than the first have been capitals, which is when a
capital is made small (`kebabPass_eq`).

The pass shows what the kebab spelling looks like from inside. A word that starts at a capital has
this capital made small, and a hyphen in front of it, so no word starts there any more; and what
stands elsewhere starts no word because it did not before. So the kebab spelling of a name is
**one word** (`oneWord_kebabChars`), and the names of one word are those that their kebab spelling
leaves alone (`kebabChars_eq_self_iff`).

## Main statements

* `kebabPass_eq` — the pass is the kebab spelling.
* `kebabChars_eq_self_iff` — which names are their own kebab spelling.
* `kebabChars_kebabChars` — the kebab spelling is idempotent.
-/

namespace Activation.Spelling

/-- Whether a word starts right after a character that is followed by the given text. -/
def opensAfter (c : Char) : List Char → Bool
  | [] => false
  | d :: rest => startsWord c d rest.head?

/-- A character, made small if asked for. -/
def smallIf (low : Bool) (c : Char) : Char :=
  if low then c.toLower else c

/-- The kebab spelling in one pass, where `low` says whether all characters since the start of a
word other than the first have been capitals. -/
def kebabPass : Bool → List Char → List Char
  | _, [] => []
  | low, c :: rest =>
    smallIf low c ::
      if opensAfter c rest then '-' :: kebabPass true rest else kebabPass (low && c.isUpper) rest

/-- A name in which no word starts after the first. -/
def OneWord (name : List Char) : Prop :=
  (words name).2 = []

/-! ### Words, one character at a time -/

/-- A character is a word of its own if a word starts after it, and otherwise belongs to the first
word of what follows. -/
theorem words_cons (c : Char) (rest : List Char) :
    words (c :: rest) =
      if opensAfter c rest then ([c], (words rest).1 :: (words rest).2)
      else (c :: (words rest).1, (words rest).2) := by
  rcases rest with _ | ⟨d, more⟩
  · rfl
  · rfl

/-- The words after the first, one character at a time. -/
theorem length_words_cons (c : Char) (rest : List Char) :
    (words (c :: rest)).2.length
      = (if opensAfter c rest then 1 else 0) + (words rest).2.length := by
  rw [words_cons]
  split
  · rw [List.length_cons, Nat.add_comm]
  · rw [Nat.zero_add]

/-- A name is one word exactly if no word starts after its first character and the rest is one
word. -/
theorem oneWord_cons_iff {c : Char} {rest : List Char} :
    OneWord (c :: rest) ↔ opensAfter c rest = false ∧ OneWord rest := by
  rw [OneWord, words_cons]
  rcases opensAfter c rest with _ | _
  · exact ⟨fun h => ⟨rfl, h⟩, fun h => h.2⟩
  · exact ⟨fun h => absurd h (List.cons_ne_nil _ _), fun h => absurd h.1 (by decide)⟩

/-- A word with the capitals at its start made small, if asked for. -/
def lowerStartIf (low : Bool) (word : List Char) : List Char :=
  if low then lowerStart word else word

/-- The first character of a word decides whether the next one is still at the start. -/
theorem lowerStartIf_cons (low : Bool) (c : Char) (word : List Char) :
    lowerStartIf low (c :: word) = smallIf low c :: lowerStartIf (low && c.isUpper) word := by
  rcases low with _ | _
  · rfl
  · by_cases hc : c.isUpper = true
    · simp [lowerStartIf, lowerStart, smallIf, hc]
    · simp [lowerStartIf, lowerStart, smallIf, hc, Char.toLower_eq_of_not_isUpper hc]

/-- What the pass makes of a name, in terms of its words. -/
theorem kebabPass_eq_words (low : Bool) (name : List Char) :
    kebabPass low name =
      lowerStartIf low (words name).1
        ++ (words name).2.flatMap fun word => '-' :: lowerStart word := by
  induction name generalizing low with
  | nil => cases low <;> rfl
  | cons c rest ih =>
      rw [kebabPass, words_cons]
      rcases opensAfter c rest with _ | _
      · rw [if_neg Bool.false_ne_true, if_neg Bool.false_ne_true, ih, lowerStartIf_cons,
          List.cons_append]
      · rw [if_pos rfl, if_pos rfl, ih, lowerStartIf_cons]
        have hnil : lowerStartIf (low && c.isUpper) [] = [] := by
          cases low && c.isUpper <;> rfl
        rw [hnil]
        rfl

/-- **The pass is the kebab spelling.** -/
theorem kebabPass_eq (name : List Char) : kebabPass false name = kebabChars name :=
  kebabPass_eq_words false name

/-! ### Names that are their own kebab spelling -/

/-- Making a character small if asked for does not make or unmake a hyphen. -/
theorem smallIf_eq_hyphen_iff {low : Bool} {c : Char} : smallIf low c = '-' ↔ c = '-' := by
  rcases low with _ | _
  · rfl
  · exact Text.toLower_cases (p := fun d c => d = '-' ↔ c = '-') (fun _ => Iff.rfl)
      (by decide) c

/-- The pass keeps the first character up to its case. -/
theorem head?_kebabPass (low : Bool) (name : List Char) :
    (kebabPass low name).head? = name.head?.map (smallIf low) := by
  cases name <;> rfl

/-- The pass adds one character for each word after the first. -/
theorem length_kebabPass (low : Bool) (name : List Char) :
    (kebabPass low name).length = name.length + (words name).2.length := by
  induction name generalizing low with
  | nil => rfl
  | cons c rest ih =>
      rw [kebabPass, length_words_cons, List.length_cons, List.length_cons]
      split
      · rw [List.length_cons, ih]
        omega
      · rw [ih]
        omega

/-- **The names that are their own kebab spelling are the names of one word.** -/
theorem kebabChars_eq_self_iff {name : List Char} : kebabChars name = name ↔ OneWord name := by
  constructor
  · intro h
    have hlength := length_kebabPass false name
    rw [kebabPass_eq, h] at hlength
    exact List.eq_nil_of_length_eq_zero (by omega)
  · intro h
    have hflatten := words_flatten name
    rw [kebabChars, h]
    rwa [h] at hflatten

/-! ### The kebab spelling is one word -/

/-- No word starts at a character that is no capital. -/
theorem startsWord_of_not_isUpper {before c : Char} {next : Option Char}
    (h : c.isUpper = false) : startsWord before c next = false := by
  simp [startsWord, h]

/-- No word starts right after a hyphen. -/
theorem opensAfter_hyphen (rest : List Char) : opensAfter '-' rest = false := by
  cases rest <;> rfl

/-- No word starts where none did before unless a small letter has come to stand next. -/
theorem startsWord_of_next {before c : Char} {next next' : Option Char}
    (h : startsWord before c next = false)
    (hnext : next'.any Char.isLower = true → next.any Char.isLower = true) :
    startsWord before c next' = false := by
  rw [startsWord, Bool.or_eq_false_iff] at h ⊢
  refine ⟨h.1, ?_⟩
  rcases hlower : next'.any Char.isLower with _ | _
  · rw [Bool.and_false]
  · rw [← hlower, ← h.2, hlower, hnext hlower]

/-- What follows the first character in the pass begins with a hyphen or as it did before, if no
character is to be made small. -/
theorem any_isLower_tail_kebabPass {c : Char} {rest : List Char}
    (h : (kebabPass false (c :: rest)).tail.head?.any Char.isLower = true) :
    rest.head?.any Char.isLower = true := by
  rw [kebabPass, List.tail_cons] at h
  split at h
  · cases h
  · rw [Bool.false_and, head?_kebabPass] at h
    rcases rest with _ | ⟨d, more⟩
    · cases h
    · exact h

/-- The pass starts no word where the name had none. -/
theorem opensAfter_kebabPass {c : Char} {rest : List Char} (h : opensAfter c rest = false)
    (low : Bool) :
    opensAfter (smallIf low c) (kebabPass (low && c.isUpper) rest) = false := by
  rcases rest with _ | ⟨d, more⟩
  · rfl
  · rcases hlow : low && c.isUpper with _ | _
    · have hc : smallIf low c = c := by
        rcases low with _ | _
        · rfl
        · exact Char.toLower_eq_of_not_isUpper (ne_true_of_eq_false hlow)
      rw [hc]
      exact startsWord_of_next h any_isLower_tail_kebabPass
    · exact startsWord_of_not_isUpper (Char.isUpper_toLower_eq_false d)

/-- The pass makes one word of a name. -/
theorem oneWord_kebabPass (low : Bool) (name : List Char) : OneWord (kebabPass low name) := by
  induction name generalizing low with
  | nil => rfl
  | cons c rest ih =>
      rw [kebabPass]
      split
      · refine oneWord_cons_iff.mpr ⟨startsWord_of_not_isUpper rfl, ?_⟩
        exact oneWord_cons_iff.mpr ⟨opensAfter_hyphen _, ih true⟩
      · rename_i hopens
        rw [Bool.not_eq_true] at hopens
        exact oneWord_cons_iff.mpr ⟨opensAfter_kebabPass hopens low, ih _⟩

/-- The kebab spelling of a name is one word. -/
theorem oneWord_kebabChars (name : List Char) : OneWord (kebabChars name) :=
  kebabPass_eq name ▸ oneWord_kebabPass false name

/-- **The kebab spelling of a kebab spelling is that spelling.** -/
theorem kebabChars_kebabChars (name : List Char) :
    kebabChars (kebabChars name) = kebabChars name :=
  kebabChars_eq_self_iff.mpr (oneWord_kebabChars name)

end Activation.Spelling
