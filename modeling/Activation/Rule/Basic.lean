import Activation.Json.Basic
import Activation.Text.Blank

/-!
# Rules

A **rule** says on which configuration properties a component depends: the names of the
properties, a scope that is put in front of every name, the value that is expected, what holds
of a property that is not set, and whether other spellings of a name are tried.

The two flags are kept as they were declared and are read by their truth, so a rule can carry
any value there; two rules are equal when their five parts are.
-/

namespace Activation

/-- A condition on configuration properties. -/
structure Rule where
  /-- The property names, without the scope. -/
  names : List String
  /-- What is put in front of every name: nothing, or a text that ends with a full stop. -/
  scope : String
  /-- The value that is expected, letter case aside. Without one a property has only to be set
  and not to be `false`. -/
  expected : Option String
  /-- What holds of a property that is not set. -/
  ifMissing : Json
  /-- Whether the camel and kebab spellings of a name are tried. -/
  relaxed : Json

namespace Rule

/-- The keys as declared, one for each name. -/
def keys (r : Rule) : List String :=
  r.names.map (r.scope ++ ·)

/-- Whether two rules are equal part by part. -/
def equal (r s : Rule) : Bool :=
  r.names == s.names && r.scope == s.scope && r.expected == s.expected
    && r.ifMissing.equal s.ifMissing && r.relaxed.equal s.relaxed

/-- The normal form of a scope: trimmed, then without the full stops at its end, then closed
by exactly one; a scope of which nothing is left is empty. -/
def normalScopeChars (scope : List Char) : List Char :=
  let body := Text.dropEndWhile (· == '.') (Text.trim scope)
  if body.isEmpty then [] else body ++ ['.']

/-- The normal form of a scope. -/
def normalScope (scope : String) : String :=
  String.ofList (normalScopeChars scope.toList)

@[simp] theorem toList_normalScope (scope : String) :
    (normalScope scope).toList = normalScopeChars scope.toList := by
  simp [normalScope]

end Rule

end Activation
