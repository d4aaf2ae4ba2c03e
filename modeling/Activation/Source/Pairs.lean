import Activation.Source.Basic
import Activation.Text.Blank

/-!
# Inline pairs

Properties can be given inline, one text each: `key=value` or `key:value`. The first of the two
separators divides the text, so a value may hold both; key and value are trimmed. A text without
a separator sets its key to the empty value, and one without a key sets nothing. A later pair
overrides an earlier one with the same key.
-/

namespace Activation.Source

/-- Whether a character divides a pair. -/
def isSeparator (c : Char) : Bool :=
  c == '=' || c == ':'

/-- The key and the value of a pair. -/
def parsePair (pair : String) : String × String :=
  let key := pair.toList.takeWhile fun c => !isSeparator c
  let value := (pair.toList.dropWhile fun c => !isSeparator c).drop 1
  (String.ofList (Text.trim key), String.ofList (Text.trim value))

/-- The table that some pairs set up. -/
def tableOfPairs (pairs : List String) : Entries String :=
  Entries.ofList ((pairs.map parsePair).filter fun p => p.1 != "")

/-- The source of some inline pairs. -/
def ofPairs (scheme : Scheme) (name : Option String) (pairs : List String) : Source :=
  ofTable scheme (name.getD "inlined") (tableOfPairs pairs)

end Activation.Source
