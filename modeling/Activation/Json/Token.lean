import Activation.Json.Basic

/-!
# The tokens of JSON text

A text is cut into tokens, blanks between them being dropped. Where no token can be read the cut
ends with the reason, which counts only if a value is wanted there: a text such as `1 x` is
refused for what follows the number, whatever `x` may be.
-/

namespace Activation.Json

/-- Why a text is not a JSON value. -/
inductive Problem where
  | valueExpected
  | keyExpected
  | colonExpected
  | commaExpected
  | extraData
  | unterminatedText
  | controlCharacter
  | badEscape
  | badCodeEscape
  | byteOrderMark
deriving DecidableEq

/-- How a problem is named in diagnostics. -/
def Problem.text : Problem → String
  | .valueExpected => "Expecting value"
  | .keyExpected => "Expecting property name enclosed in double quotes"
  | .colonExpected => "Expecting ':' delimiter"
  | .commaExpected => "Expecting ',' delimiter"
  | .extraData => "Extra data"
  | .unterminatedText => "Unterminated string starting at"
  | .controlCharacter => "Invalid control character at"
  | .badEscape => "Invalid \\escape"
  | .badCodeEscape => "Invalid \\uXXXX escape"
  | .byteOrderMark => "Unexpected UTF-8 BOM (decode using utf-8-sig)"

/-- Why reading stops: a problem at the place from which `rest` is left to read, or an integer
with too many digits. -/
inductive Halt where
  | malformed (problem : Problem) (rest : List Char)
  | oversized (digits : Nat)

/-- The greatest number of digits of an integer. -/
def maxDigits : Nat := 4300

/-- The tokens of JSON text. -/
inductive Token where
  | openObject
  | closeObject
  | openList
  | closeList
  | colon
  | comma
  | text (value : String)
  | scalar (value : Json)

/-- What stands at a place that is not blank: a token, or a string or another value that
cannot be read. -/
inductive Lexeme where
  | token (token : Token)
  | badText (halt : Halt)
  | badScalar (halt : Halt)

end Activation.Json
