import Mathlib.Algebra.Group.Nat.Defs
import Activation.Json.Token.Lexer
import Activation.Json.Writer

/-!
# Strings in JSON Text, Written and Read Back

A character is written as itself, after a backslash, or by its code. In each case what is written
leaves the reader where it was, with that character read (`scanText_writeChar`), provided that
something follows: an escape by code is refused at the end of a text. In a string something always
follows, if only the closing quote, so strings are read back whole (`scanText_flatMap_writeChar`).

A text is **plain** (`Plain`) if it has no control characters below U+0020, to which the line breaks
belong. All strings are written plainly.

## Main statements

* `firstLexeme_writeText` — a string is read back from what it is written as.
* `plain_writeText` — that is plain.
-/

namespace Activation.Json

open Text

/-- A text is **plain** if it has no control characters below U+0020. -/
def Plain (s : List Char) : Prop :=
  ∀ c ∈ s, 0x20 ≤ c.toNat

instance (s : List Char) : Decidable (Plain s) :=
  List.decidableBAll _ s

theorem plain_nil : Plain [] := nofun

theorem plain_cons_iff {c : Char} {s : List Char} : Plain (c :: s) ↔ 0x20 ≤ c.toNat ∧ Plain s :=
  List.forall_mem_cons

theorem plain_append_iff {s t : List Char} : Plain (s ++ t) ↔ Plain s ∧ Plain t :=
  List.forall_mem_append

/-! ### Codes in hexadecimal digits -/

/-- One more digit at the end. -/
theorem ofHexDigits?_snoc (digits : List Char) (c : Char) :
    ofHexDigits? (digits ++ [c])
      = (ofHexDigits? digits).bind fun n => (hexValue? c).bind fun d => some (n * 16 + d) := by
  rw [ofHexDigits?, List.foldl_append]
  rfl

/-- Hexadecimal digits are read as the number that so many digits leave. -/
theorem ofHexDigits?_hexDigits (width n : Nat) :
    ofHexDigits? (hexDigits width n) = some (n % 16 ^ width) := by
  induction width generalizing n with
  | zero => rw [Nat.pow_zero, Nat.mod_one]; rfl
  | succ width ih =>
      have hsum : n / 16 % 16 ^ width * 16 + n % 16 = n % 16 ^ (width + 1) := by
        rw [Nat.pow_succ', Nat.mod_mul, Nat.mul_comm, Nat.add_comm]
      rw [hexDigits, ofHexDigits?_snoc, ih, hexValue?_hexDigit _ (Nat.mod_lt _ (by decide)),
        ← hsum]
      rfl

@[simp] theorem length_hexDigits (width n : Nat) : (hexDigits width n).length = width := by
  induction width generalizing n with
  | zero => rfl
  | succ width ih => rw [hexDigits, List.length_append, ih, List.length_singleton]

/-- Hexadecimal digits are plain. -/
theorem plain_hexDigits (width n : Nat) : Plain (hexDigits width n) := by
  have hdigit : ∀ d < 16, 0x20 ≤ (hexDigit d).toNat := by decide
  induction width generalizing n with
  | zero => exact plain_nil
  | succ width ih =>
      exact plain_append_iff.mpr
        ⟨ih (n / 16), plain_cons_iff.mpr ⟨hdigit _ (Nat.mod_lt n (by decide)), plain_nil⟩⟩

/-- A code in four digits that is no surrogate is read as its character, if something follows. -/
theorem codeEscape_hexDigits {code : Nat} (h : code < 0xD800) {s : List Char} (hs : s ≠ []) :
    codeEscape (hexDigits 4 code ++ s) = .ok (Char.ofNat code, 5) := by
  have htake : (hexDigits 4 code ++ s).take 4 = hexDigits 4 code :=
    List.take_left' (length_hexDigits 4 code)
  have hdrop : (hexDigits 4 code ++ s).drop 4 = s := List.drop_left' (length_hexDigits 4 code)
  have hcode : code % 16 ^ 4 = code := Nat.mod_eq_of_lt (by omega)
  have hofCode : ofCode code = Char.ofNat code := if_neg (by omega)
  have hsurrogate : ∀ t : List Char, ¬(0xD800 ≤ code ∧ code < 0xDC00 ∧ ¬(t.drop 4).isEmpty) := by
    omega
  rw [codeEscape, htake, hdrop, ofHexDigits?_hexDigits, hcode, List.isEmpty_eq_false_iff.mpr hs]
  dsimp only
  rw [if_neg Bool.false_ne_true]
  split
  · rw [if_neg (hsurrogate _), hofCode]
  · rw [hofCode]

/-! ### Characters -/

/-- The characters of an escape that has been read are skipped. -/
theorem scanText_length_append (start s rest : List Char) :
    scanText start s.length (s ++ rest) = scanText start 0 rest := by
  induction s with
  | nil => rfl
  | cons c s ih => rw [List.length_cons, List.cons_append, scanText, ih]

/-- A backslash and the text of an escape are read as the character it stands for. -/
theorem scanText_escape {start s rest : List Char} {c : Char}
    (h : unescape start (s ++ rest) = .ok (c, s.length)) :
    scanText start 0 ('\\' :: (s ++ rest))
      = (scanText start 0 rest).map fun r => (c :: r.1, r.2) := by
  rw [scanText, if_neg (by decide), if_pos rfl, h]
  dsimp only
  rw [scanText_length_append]

/-- **Every character is read back** from what it is written as, if something follows. -/
theorem scanText_writeChar (start : List Char) (c : Char) {rest : List Char} (h : rest ≠ []) :
    scanText start 0 (writeChar c ++ rest)
      = (scanText start 0 rest).map fun r => (c :: r.1, r.2) := by
  rw [writeChar]
  split
  · rename_i hc
    refine scanText_escape (s := [c]) ?_
    obtain rfl | rfl : c = '"' ∨ c = '\\' := by simpa using hc
    · rfl
    · rfl
  · rename_i hplain
    split
    · rename_i hcontrol
      have hcode : codeEscape (hexDigits 4 c.toNat ++ rest) = .ok (c, 5) := by
        rw [codeEscape_hexDigits (by omega) h, Char.ofNat_toNat]
      refine scanText_escape (s := 'u' :: hexDigits 4 c.toNat) ?_
      rw [List.cons_append, unescape, if_pos rfl, hcode, List.length_cons, length_hexDigits]
    · rename_i hcontrol
      obtain ⟨hquote, hbackslash⟩ : c ≠ '"' ∧ c ≠ '\\' := by simpa using hplain
      rw [List.singleton_append, scanText, if_neg hquote, if_neg hbackslash, if_neg hcontrol]

/-- Every character is written plainly. -/
theorem plain_writeChar (c : Char) : Plain (writeChar c) := by
  rw [writeChar]
  split
  · rename_i hc
    obtain rfl | rfl : c = '"' ∨ c = '\\' := by simpa using hc
    · decide
    · decide
  · split
    · have hescape : Plain ['\\', 'u'] := by decide
      exact plain_append_iff.mpr ⟨hescape, plain_hexDigits 4 c.toNat⟩
    · rename_i hcontrol
      exact plain_cons_iff.mpr ⟨Nat.le_of_not_lt hcontrol, plain_nil⟩

/-! ### Strings -/

/-- **A string is read back up to its closing quote.** -/
theorem scanText_flatMap_writeChar (start s rest : List Char) :
    scanText start 0 (s.flatMap writeChar ++ '"' :: rest) = .ok (s, rest) := by
  induction s with
  | nil => rw [List.flatMap_nil, List.nil_append, scanText, if_pos rfl]
  | cons c s ih =>
      have hne : s.flatMap writeChar ++ '"' :: rest ≠ [] :=
        List.append_ne_nil_of_right_ne_nil _ (List.cons_ne_nil _ _)
      rw [List.flatMap_cons, List.append_assoc, scanText_writeChar start c hne, ih]
      rfl

/-- What follows the opening quote of a string that is written. -/
def writeTail (s : String) : List Char :=
  s.toList.flatMap writeChar ++ ['"']

/-- **A string is the first lexeme of a text that starts with it as it is written.** -/
theorem firstLexeme_writeText (s : String) (rest : List Char) :
    firstLexeme '"' (writeTail s ++ rest) = (.token (.text s), rest) := by
  have hscan : scanText ('"' :: (writeTail s ++ rest)) 0 (writeTail s ++ rest)
      = .ok (s.toList, rest) := by
    rw [writeTail, List.append_assoc]
    exact scanText_flatMap_writeChar _ s.toList rest
  have hno : punctuation? '"' = none := rfl
  rw [firstLexeme, hno]
  dsimp only
  rw [if_pos rfl, hscan]
  dsimp only
  rw [String.ofList_toList]

/-- Every string is written plainly. -/
theorem plain_writeText (s : String) : Plain (writeText s) := by
  have hquote : Plain ['"'] := by decide
  have hchars : Plain (s.toList.flatMap writeChar) := by
    intro c hc
    obtain ⟨d, -, hd⟩ := List.mem_flatMap.mp hc
    exact plain_writeChar d c hd
  exact plain_append_iff.mpr ⟨plain_append_iff.mpr ⟨hquote, hchars⟩, hquote⟩

end Activation.Json
