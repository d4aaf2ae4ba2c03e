import Activation.Json.Literal

/-!
# Writing JSON

The compact text of a value: no blanks, members in their order. Strings escape only the double
quote, the backslash and the control characters below U+0020, the latter by their number; all
other characters stand for themselves.
-/

namespace Activation.Json

/-- Reals in JSON text are laid out as in literals; those without digits have names. -/
def writtenReals : Decimal.Layout :=
  { literalReals with notANumber := "NaN", infinity := "Infinity" }

/-- How a character is written in a JSON string. -/
def writeChar (c : Char) : List Char :=
  if c = '"' || c = '\\' then ['\\', c]
  else if c.toNat < 0x20 then '\\' :: 'u' :: Text.hexDigits 4 c.toNat
  else [c]

/-- A string in JSON text. -/
def writeText (s : String) : List Char :=
  '"' :: s.toList.flatMap writeChar ++ ['"']

mutual

/-- The compact text of a value. -/
def write : Json → List Char
  | .null => ['n', 'u', 'l', 'l']
  | .bool true => ['t', 'r', 'u', 'e']
  | .bool false => ['f', 'a', 'l', 's', 'e']
  | .integer n => integerDigits n
  | .real x => writtenReals.write x
  | .text s => writeText s
  | .list [] => ['[', ']']
  | .list (x :: xs) => '[' :: write x ++ writeItems xs
  | .object [] => ['\x7b', '\x7d']
  | .object ((k, v) :: ms) => '\x7b' :: writeText k ++ ':' :: write v ++ writeMembers ms

/-- The text of the further items of a list, and its end. -/
def writeItems : List Json → List Char
  | [] => [']']
  | x :: xs => ',' :: write x ++ writeItems xs

/-- The text of the further members of an object, and its end. -/
def writeMembers : List (String × Json) → List Char
  | [] => ['\x7d']
  | (k, v) :: ms => ',' :: writeText k ++ ':' :: write v ++ writeMembers ms

end

/-- The compact text of a value, as a string. -/
def compact (value : Json) : String :=
  String.ofList value.write

end Activation.Json
