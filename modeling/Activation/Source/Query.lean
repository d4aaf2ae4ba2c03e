import Activation.Source.Basic

/-!
# Queries

What can be asked of a source, besides evaluating a rule against it. Every answer is a JSON
value: a text or null for a look-up, a truth value, a list of keys, a number, a text.
-/

namespace Activation.Source

/-- A question to a source. -/
inductive Query where
  | lookup (key : String)
  | contains (key : Json)
  | keys
  | size
  | describe
  | name

/-- The answer of a source. -/
def answer (source : Source) : Query → Json
  | .lookup key =>
    match source.lookup key with
    | some value => .text value
    | none => .null
  | .contains key => .bool (source.contains key)
  | .keys => .list (source.keys.map .text)
  | .size => .integer source.size
  | .describe => .text source.describe
  | .name => .text source.name

end Activation.Source
