import Activation.Rule.Declaration

/-!
# Rules in documents

In a document a rule is an object with an identifier, the attributes of a declaration, and a
description. Its fields are checked before it is declared: every unknown field and every field
of the wrong type is reported, the unknown ones first in the order of their names. A field that
is null counts as absent here.

A rule is written back with the fields that differ from their defaults.
-/

namespace Activation.Rule

/-- The fields that an entry may have. -/
def fields : List String :=
  ["id", "prefix", "name", "value", "having_value", "match_if_missing", "relaxed_names",
   "description"]

/-- What is wrong with a field. -/
inductive FieldProblem where
  | unknown
  | namesExpected
  | textExpected
  | flagExpected
deriving DecidableEq

/-- How diagnostics name what is wrong with a field. -/
def FieldProblem.text : FieldProblem → String
  | .unknown => "unknown field"
  | .namesExpected => "expected a string or a list of strings"
  | .textExpected => "expected a string"
  | .flagExpected => "expected a boolean"

/-- A faulty field. -/
structure FieldFault where
  field : String
  problem : FieldProblem
deriving DecidableEq

/-- How diagnostics show a faulty field. -/
def FieldFault.text (fault : FieldFault) : String :=
  fault.field ++ " (" ++ fault.problem.text ++ ")"

/-- Whether a value is null or a text. -/
def isTextOrNull : Json → Bool
  | .null => true
  | .text _ => true
  | _ => false

/-- Whether a value is null or a truth value. -/
def isFlagOrNull : Json → Bool
  | .null => true
  | .bool _ => true
  | _ => false

/-- Whether a value is a text. -/
def isText : Json → Bool
  | .text _ => true
  | _ => false

/-- Whether a value is null, a text, or a list of texts. -/
def isNamesOrNull : Json → Bool
  | .null => true
  | .text _ => true
  | .list items => items.all isText
  | _ => false

/-- The faults among some fields that must pass a test where they are present. -/
def faultsAmong (members : Entries Json) (names : List String) (test : Json → Bool)
    (problem : FieldProblem) : List FieldFault :=
  names.filterMap fun field =>
    match members.get? field with
    | some value => if test value then none else some ⟨field, problem⟩
    | none => none

/-- The fields that an entry may not have, in the order of their names. -/
def unknownFields (members : Entries Json) : List String :=
  (members.keys.filter fun key => !fields.contains key).mergeSort fun a b => decide (a ≤ b)

/-- All faulty fields of an entry. -/
def fieldFaults (members : Entries Json) : List FieldFault :=
  (unknownFields members).map (⟨·, .unknown⟩)
    ++ faultsAmong members ["name", "value"] isNamesOrNull .namesExpected
    ++ faultsAmong members ["prefix", "having_value"] isTextOrNull .textExpected
    ++ faultsAmong members ["match_if_missing", "relaxed_names"] isFlagOrNull .flagExpected

/-- Why an entry is refused. -/
inductive EntryFault where
  /-- Some fields are faulty; `id` is the entry's identifier. -/
  | fields (id : Json) (faults : List FieldFault)
  /-- The declaration that the fields make up is refused. -/
  | declaration (fault : Fault)

/-- The diagnostic of a refused entry. -/
def EntryFault.message : EntryFault → String
  | .fields id faults =>
    "Invalid rule configuration for " ++ id.literal ++ ": "
      ++ ", ".intercalate (faults.map FieldFault.text)
  | .declaration fault => fault.message

/-- The class of error as which a refused entry is raised. -/
def EntryFault.errorClass : EntryFault → ErrorClass
  | .fields _ _ => .validation
  | .declaration fault => fault.errorClass

/-- A faulty field as a value. -/
def FieldFault.toJson (fault : FieldFault) : Json :=
  .object [("field", .text fault.field), ("error", .text fault.problem.text)]

/-- The single faults that a refused entry is charged with, as values. -/
def EntryFault.details : EntryFault → List Json
  | .fields _ faults => faults.map FieldFault.toJson
  | .declaration _ => []

/-- The scope that an entry gives: one that is false counts as empty. -/
def entryScope (members : Entries Json) : Json :=
  match members.get? "prefix" with
  | some value => if value.truthy then value else .text ""
  | none => .text ""

/-- The declaration that the fields of an entry make up. -/
def entryAttributes (members : Entries Json) : Attributes where
  name := (members.get? "name").getD .null
  value := (members.get? "value").getD .null
  scope := entryScope members
  expected := (members.get? "having_value").getD .null
  ifMissing := (members.get? "match_if_missing").getD (.bool false)
  relaxed := (members.get? "relaxed_names").getD (.bool true)

/-- The rule that an entry stands for. -/
def ofEntry (members : Entries Json) : Except EntryFault Rule :=
  match fieldFaults members with
  | [] => (declare (entryAttributes members)).mapError .declaration
  | faults => .error (.fields ((members.get? "id").getD (.text "<unnamed>")) faults)

/-- The entry that a rule is written as, without an identifier. -/
def toEntry (r : Rule) : Entries Json :=
  [("name", .list (r.names.map .text))]
    ++ (if r.scope = "" then [] else [("prefix", .text r.scope)])
    ++ (match r.expected with
      | none => []
      | some value => [("having_value", .text value)])
    ++ (if r.ifMissing.truthy then [("match_if_missing", .bool true)] else [])
    ++ (if r.relaxed.truthy then [] else [("relaxed_names", .bool false)])

end Activation.Rule
