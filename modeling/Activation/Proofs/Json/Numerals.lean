import Activation.Json.Literal
import Activation.Json.Token.Lexer

/-!
# Names and Integers in JSON Text, Written and Read Back

An integer is written in decimal without leading zeros, so the rule that a number starting with a
zero has no further digit before its point does not cut it short (`scanWhole_toDigits`). A numeral
is read as far as it goes, and is an integer only if no fraction and no exponent follows; hence what
stands after it matters. A text **ends a numeral** (`EndsNumeral`) if it starts with nothing that
could continue one, as do the end of the text and the characters that follow a value in compact
text.

## Main statements

* `firstLexeme_integer` — an integer that has not too many digits is read back.
-/

namespace Activation.Json

/-- A text **ends a numeral** that stands in front of it: it starts with no digit, no point and no
letter of an exponent. -/
def EndsNumeral (rest : List Char) : Prop :=
  ∀ c ∈ rest.head?, c.isDigit = false ∧ c ≠ '.' ∧ c ≠ 'e' ∧ c ≠ 'E'

/-- The end of a text ends a numeral. -/
theorem endsNumeral_nil : EndsNumeral [] := nofun

/-- What follows a value in a container ends a numeral. -/
theorem endsNumeral_cons {c : Char} (h : c = ',' ∨ c = ']' ∨ c = '\x7d') (s : List Char) :
    EndsNumeral (c :: s) := by
  intro d hd
  obtain rfl : c = d := Option.some.inj hd
  rcases h with rfl | rfl | rfl <;> decide

/-! ### Digits -/

/-- Only zero is written with a zero in front. -/
theorem eq_zero_of_toDigits_eq_cons {n : Nat} {s : List Char}
    (h : Nat.toDigits 10 n = '0' :: s) : n = 0 := by
  induction n using Nat.strongRecOn generalizing s with
  | ind n ih =>
      by_cases hn : n < 10
      · rw [Nat.toDigits_of_lt_base hn] at h
        exact Nat.digitChar_eq_zero.mp (List.cons.inj h).1
      · obtain ⟨c, t, ht⟩ := List.exists_cons_of_ne_nil (@Nat.toDigits_ne_nil (n / 10) 10)
        rw [Nat.toDigits_of_base_le (by decide) (Nat.le_of_not_lt hn), ht] at h
        rw [(List.cons.inj h).1] at ht
        have hzero : n / 10 = 0 := ih (n / 10) (by omega) ht
        omega

/-- The digits of a number are digits. -/
theorem isDigit_of_mem_toDigits {n : Nat} {c : Char} (h : c ∈ Nat.toDigits 10 n) :
    c.isDigit = true :=
  Nat.isDigit_of_mem_toDigits (by decide) (by decide) h

/-- A number is written with a digit in front, which is zero for zero alone. -/
theorem exists_toDigits_eq_cons (n : Nat) :
    ∃ c s, Nat.toDigits 10 n = c :: s ∧ c.isDigit = true ∧ (c = '0' → n = 0) := by
  obtain ⟨c, s, hdigits⟩ := List.exists_cons_of_ne_nil (@Nat.toDigits_ne_nil n 10)
  refine ⟨c, s, hdigits, isDigit_of_mem_toDigits (hdigits ▸ List.mem_cons_self), ?_⟩
  rintro rfl
  exact eq_zero_of_toDigits_eq_cons hdigits

/-- There is no digit at the start of what ends a numeral. -/
theorem takeWhile_isDigit_of_endsNumeral {rest : List Char} (h : EndsNumeral rest) :
    rest.takeWhile Char.isDigit = [] ∧ rest.dropWhile Char.isDigit = rest := by
  cases rest with
  | nil => exact ⟨rfl, rfl⟩
  | cons c s =>
      have hc : ¬c.isDigit = true := Bool.eq_false_iff.mp (h c rfl).1
      exact ⟨List.takeWhile_cons_of_neg hc, List.dropWhile_cons_of_neg hc⟩

/-- **The digits of a number are taken all, and nothing more.** -/
theorem scanWhole_toDigits (n : Nat) {rest : List Char} (h : EndsNumeral rest) :
    scanWhole (Nat.toDigits 10 n ++ rest) = (Nat.toDigits 10 n, rest) := by
  by_cases hn : n = 0
  · rw [hn, Nat.toDigits_zero]
    rfl
  · -- a number that starts with a zero has no second digit, so this must not be one
    have hleading : ∀ s, Nat.toDigits 10 n ++ rest ≠ '0' :: s := by
      intro s hs
      obtain ⟨c, t, ht, -, hzero⟩ := exists_toDigits_eq_cons n
      rw [ht, List.cons_append] at hs
      exact hn (hzero (List.cons.inj hs).1)
    have hdigits : ∀ c ∈ Nat.toDigits 10 n, c.isDigit = true := fun c => isDigit_of_mem_toDigits
    obtain ⟨htake, hdrop⟩ := takeWhile_isDigit_of_endsNumeral h
    rw [scanWhole.eq_2 _ hleading, List.takeWhile_append_of_pos hdigits,
      List.dropWhile_append_of_pos hdigits, htake, hdrop, List.append_nil]

/-! ### Integers -/

/-- What ends a numeral starts no fraction. -/
theorem scanFraction_of_endsNumeral {rest : List Char} (h : EndsNumeral rest) :
    scanFraction rest = ([], rest) := by
  unfold scanFraction
  split
  · exact absurd rfl (h '.' rfl).2.1
  · rfl

/-- What ends a numeral starts no exponent. -/
theorem scanExponent_of_endsNumeral {rest : List Char} (h : EndsNumeral rest) :
    scanExponent rest = (none, rest) := by
  cases rest with
  | nil => rfl
  | cons c s =>
      obtain ⟨-, -, hlower, hupper⟩ := h c rfl
      exact if_neg (not_or.mpr ⟨hlower, hupper⟩)

/-- After a sign, or the lack of one, the digits of a number are read as an integer. -/
theorem scanNumber_of_scanMinus (minus : Bool) (n : Nat) {s rest : List Char}
    (hs : scanMinus s = (minus, Nat.toDigits 10 n ++ rest))
    (hlength : (Nat.toDigits 10 n).length ≤ maxDigits) (h : EndsNumeral rest) :
    scanNumber s = some (.ok (.integer (if minus then -n else n)), rest) := by
  have hne : (Nat.toDigits 10 n).isEmpty = false :=
    List.isEmpty_eq_false_iff.mpr Nat.toDigits_ne_nil
  have hvalue : Nat.ofDigitChars 10 (Nat.toDigits 10 n) 0 = n := Nat.ofDigitChars_ten_toDigits
  rw [scanNumber, hs]
  simp only [scanWhole_toDigits n h, hne, scanFraction_of_endsNumeral h,
    scanExponent_of_endsNumeral h, hvalue, List.isEmpty_nil, Option.isNone_none, Bool.and_self,
    Bool.false_eq_true, if_false, if_true]
  exact if_neg (Nat.not_lt.mpr hlength)

/-! ### Lexemes -/

/-- A digit is none of the characters that are not digits. -/
theorem ne_of_isDigit {c d : Char} (h : c.isDigit = true) (hd : d.isDigit = false) : d ≠ c :=
  fun heq => Bool.false_ne_true (hd.symm.trans (heq ▸ h))

/-- There is no sign at a digit. -/
theorem scanMinus_digit {c : Char} (h : c.isDigit = true) (s : List Char) :
    scanMinus (c :: s) = (false, c :: s) := by
  have hminus : '-' ≠ c := ne_of_isDigit h rfl
  exact scanMinus.eq_2 _ fun t ht => hminus (List.cons.inj ht).1.symm

/-- No name starts with a digit. -/
theorem scanNamed_digit {c : Char} (h : c.isDigit = true) (s : List Char) :
    scanNamed (c :: s) = none := by
  have hne : ∀ d : Char, d.isDigit = false → d ≠ c := fun d => ne_of_isDigit h
  simp only [scanNamed, named, List.findSome?_cons, after?, hne 'n' rfl, hne 't' rfl, hne 'f' rfl,
    hne 'N' rfl, hne 'I' rfl, hne '-' rfl, if_false, Option.map_none, List.findSome?_nil]

/-- No name starts with a minus and a digit. -/
theorem scanNamed_minus_digit {c : Char} (h : c.isDigit = true) (s : List Char) :
    scanNamed ('-' :: c :: s) = none := by
  have hne : 'I' ≠ c := ne_of_isDigit h rfl
  have hafter : after? ['-', 'I', 'n', 'f', 'i', 'n', 'i', 't', 'y'] ('-' :: c :: s) = none :=
    if_neg hne
  rw [scanNamed, named]
  simp only [List.findSome?_cons, hafter]
  rfl

/-- A character that starts a number is no punctuation and no quote. -/
theorem punctuation?_of_startsNumber {c : Char} (h : c = '-' ∨ c.isDigit = true) :
    punctuation? c = none ∧ c ≠ '"' := by
  constructor
  · unfold punctuation?
    split
    all_goals first
      | rfl
      | exact absurd h (by decide)
  · rintro rfl
    exact absurd h (by decide)

/-- A character that starts a number starts no other lexeme. -/
theorem firstLexeme_of_scanNumber {c : Char} (h : c = '-' ∨ c.isDigit = true) {s rest : List Char}
    {value : Json} (hnamed : scanNamed (c :: s) = none)
    (hnumber : scanNumber (c :: s) = some (.ok value, rest)) :
    firstLexeme c s = (.token (.scalar value), rest) := by
  obtain ⟨hpunctuation, hquote⟩ := punctuation?_of_startsNumber h
  rw [firstLexeme, hpunctuation]
  dsimp only
  rw [if_neg hquote, hnamed, hnumber]

/-- **An integer that has not too many digits is the first lexeme** of a text that starts with it as
it is written, if the rest of the text ends a numeral. -/
theorem firstLexeme_integer {n : Int} (h : (Nat.toDigits 10 n.natAbs).length ≤ maxDigits) :
    ∃ c s, integerDigits n = c :: s ∧ (c = '-' ∨ c.isDigit = true) ∧
      ∀ rest, EndsNumeral rest →
        firstLexeme c (s ++ rest) = (.token (.scalar (.integer n)), rest) := by
  cases n with
  | ofNat n =>
      obtain ⟨c, s, hdigits, hc, -⟩ := exists_toDigits_eq_cons n
      refine ⟨c, s, hdigits, .inr hc, fun rest hrest => ?_⟩
      refine firstLexeme_of_scanNumber (.inr hc) (scanNamed_digit hc _) ?_
      refine scanNumber_of_scanMinus false n ?_ h hrest
      rw [hdigits]
      exact scanMinus_digit hc _
  | negSucc n =>
      obtain ⟨c, s, hdigits, hc, -⟩ := exists_toDigits_eq_cons (n + 1)
      refine ⟨'-', c :: s, congrArg _ hdigits, .inl rfl, fun rest hrest => ?_⟩
      refine firstLexeme_of_scanNumber (.inl rfl) (scanNamed_minus_digit hc _) ?_
      refine scanNumber_of_scanMinus true (n + 1) ?_ h hrest
      rw [hdigits]
      rfl

/-- The names of null and of the truth values are read back. -/
theorem firstLexeme_name (rest : List Char) :
    firstLexeme 'n' ('u' :: 'l' :: 'l' :: rest) = (.token (.scalar .null), rest) ∧
      firstLexeme 't' ('r' :: 'u' :: 'e' :: rest) = (.token (.scalar (.bool true)), rest) ∧
      firstLexeme 'f' ('a' :: 'l' :: 's' :: 'e' :: rest)
        = (.token (.scalar (.bool false)), rest) :=
  ⟨rfl, rfl, rfl⟩

end Activation.Json
