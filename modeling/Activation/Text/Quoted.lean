import Activation.Text.Hexadecimal
import Activation.Text.Printable

/-!
# Quoted literals

A text in diagnostics is written between quotes, so that blanks and invisible characters show.
The quote is `'` unless the text holds that and no `"`. The quote itself and the backslash are
escaped by a backslash, line feed, carriage return and tab by a letter, and every other
character that is not printable by its code point in two, four or eight hexadecimal digits.
-/

namespace Activation.Text

/-- The quote to put around a text. -/
def quoteFor (s : List Char) : Char :=
  if s.contains '\'' && !s.contains '"' then '"' else '\''

/-- How a character is written between quotes. -/
def escaped (quote c : Char) : List Char :=
  if c = quote || c = '\\' then ['\\', c]
  else if c = '\n' then ['\\', 'n']
  else if c = '\r' then ['\\', 'r']
  else if c = '\t' then ['\\', 't']
  else if isPrintable c then [c]
  else if c.toNat < 0x100 then '\\' :: 'x' :: hexDigits 2 c.toNat
  else if c.toNat < 0x10000 then '\\' :: 'u' :: hexDigits 4 c.toNat
  else '\\' :: 'U' :: hexDigits 8 c.toNat

/-- The quoted literal of a text. -/
def quotedChars (s : List Char) : List Char :=
  let quote := quoteFor s
  quote :: s.flatMap (escaped quote) ++ [quote]

/-- The quoted literal of a string. -/
def quoted (s : String) : String :=
  String.ofList (quotedChars s.toList)

/-- A quote inside changes the quotes around; a soft hyphen is written by its number. -/
example : quoted "it's\u00ad" = "\"it's\\xad\"" := by decide +kernel

end Activation.Text
