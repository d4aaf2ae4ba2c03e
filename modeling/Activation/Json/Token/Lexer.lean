import Activation.Json.Token.Scalar
import Activation.Json.Token.Text

/-!
# Cutting a text into tokens

What stands at a place is decided by its first character: a token of one character, a string, or
a value written by name or as a number. Each lexeme keeps the text that starts with it, so that
its position is known.

## Main statements

* `length_firstLexeme_le` — every lexeme shortens the text.
-/

namespace Activation.Json

/-- Whether a character separates tokens. -/
def isSpace (c : Char) : Bool :=
  c == ' ' || c == '\t' || c == '\n' || c == '\r'

/-- The tokens of one character. -/
def punctuation? : Char → Option Token
  | '\x7b' => some .openObject
  | '\x7d' => some .closeObject
  | '[' => some .openList
  | ']' => some .closeList
  | ':' => some .colon
  | ',' => some .comma
  | _ => none

/-- What stands at the start of the text `c :: s`, and the text that follows it. -/
def firstLexeme (c : Char) (s : List Char) : Lexeme × List Char :=
  match punctuation? c with
  | some token => (.token token, s)
  | none =>
    if c = '"' then
      match scanText (c :: s) 0 s with
      | .ok (chars, rest) => (.token (.text (String.ofList chars)), rest)
      | .error halt => (.badText halt, [])
    else
      match scanNamed (c :: s), scanNumber (c :: s) with
      | some (value, rest), _ => (.token (.scalar value), rest)
      | none, some (.ok value, rest) => (.token (.scalar value), rest)
      | none, some (.error halt, _) => (.badScalar halt, [])
      | none, none => (.badScalar (.malformed .valueExpected (c :: s)), [])

/-- What follows the first lexeme is no longer than what follows its first character. -/
theorem length_firstLexeme_le (c : Char) (s : List Char) :
    (firstLexeme c s).2.length ≤ s.length := by
  unfold firstLexeme
  split
  · exact Nat.le_refl _
  · split
    · split
      · rename_i h
        exact Nat.le_of_lt (length_scanText_lt h)
      · simp
    · split
      · rename_i value rest _ h
        exact Nat.lt_succ_iff.mp (length_scanNamed_lt h)
      · rename_i value rest _ h
        exact Nat.lt_succ_iff.mp (length_scanNumber_lt h)
      · simp
      · simp

/-- The lexemes of a text, each with the text that starts with it. After one that is no token
there is nothing more to cut. -/
def lex (s : List Char) : List (List Char × Lexeme) :=
  match _h : s.dropWhile isSpace with
  | [] => []
  | c :: t => (c :: t, (firstLexeme c t).1) :: lex (firstLexeme c t).2
termination_by s.length
decreasing_by
  have h₁ := length_firstLexeme_le c t
  have h₂ := length_dropWhile_le isSpace s
  rw [_h, List.length_cons] at h₂
  omega

end Activation.Json
