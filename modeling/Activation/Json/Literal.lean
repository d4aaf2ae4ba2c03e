import Activation.Decimal.Layout
import Activation.Json.Basic
import Activation.Text.Quoted

/-!
# Values in diagnostics

Diagnostics show a value as a **literal**: texts in quotes, lists in brackets, objects in
braces, null and the truth values by capitalised words, and numbers in decimal. As a property a
value is stored in its **plain** form, which is its literal except that a text is taken as it
is.
-/

namespace Activation.Json

/-- Reals in literals are positional for leading digits from `10^-4` up to `10^15`. -/
def literalReals : Decimal.Layout where
  positionalFrom := -4
  exponentFrom := 16
  notANumber := "nan"
  infinity := "inf"

/-- An integer in decimal. -/
def integerDigits : Int → List Char
  | .ofNat n => Nat.toDigits 10 n
  | .negSucc n => '-' :: Nat.toDigits 10 (n + 1)

mutual

/-- The literal of a value. -/
def literalChars : Json → List Char
  | .null => ['N', 'o', 'n', 'e']
  | .bool true => ['T', 'r', 'u', 'e']
  | .bool false => ['F', 'a', 'l', 's', 'e']
  | .integer n => integerDigits n
  | .real x => literalReals.write x
  | .text s => Text.quotedChars s.toList
  | .list [] => ['[', ']']
  | .list (x :: xs) => '[' :: literalChars x ++ literalItems xs
  | .object [] => ['\x7b', '\x7d']
  | .object ((k, v) :: ms) =>
    '\x7b' :: Text.quotedChars k.toList ++ ':' :: ' ' :: literalChars v ++ literalMembers ms

/-- The literals of the further items of a list, and its end. -/
def literalItems : List Json → List Char
  | [] => [']']
  | x :: xs => ',' :: ' ' :: literalChars x ++ literalItems xs

/-- The literals of the further members of an object, and its end. -/
def literalMembers : List (String × Json) → List Char
  | [] => ['\x7d']
  | (k, v) :: ms =>
    ',' :: ' ' :: Text.quotedChars k.toList ++ ':' :: ' ' :: literalChars v ++ literalMembers ms

end

/-- The literal of a value, as a string. -/
def literal (value : Json) : String :=
  String.ofList (literalChars value)

/-- The plain form of a value. -/
def plain : Json → String
  | .text s => s
  | value => value.literal

/-- An object in a list, with a real of integral value. -/
example : literal (.list [.object [("a", .real 1.0)], .null]) = "[\x7b'a': 1.0\x7d, None]" := by
  decide +kernel

end Activation.Json
