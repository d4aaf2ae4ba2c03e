import Activation.ErrorClass
import Activation.Json.Literal
import Activation.Rule.Basic

/-!
# Declaring rules

The names of a rule are declared through one of two channels, `name` or `value`, which are two
spellings of the same field: exactly one must be populated. A channel holds a text, a list of
entries, or an object whose keys are the entries; null and everything empty leave it
unpopulated, while a blank entry populates it and is refused as a name.

The names of a declaration are read twice: from its channel, with the label of the channel in the
diagnostics, and again by the rule that is built from them.

A broken declaration is refused with the first of these causes: a channel that cannot hold
entries (`name` before `value`), both channels, neither of them, the first entry that is no name,
the scope, the expected value. Nothing is looked up before a rule has been accepted.
-/

namespace Activation.Rule

/-- The two channels through which names are declared. -/
inductive Channel where
  | name
  | value
deriving DecidableEq

/-- How diagnostics name a channel. -/
def Channel.label : Channel → String
  | .name => "name"
  | .value => "value"

/-- Why a declaration is refused. -/
inductive Fault where
  /-- A channel is a value of a kind that holds no entries. -/
  | notIterable (kind : Json.Kind)
  /-- Both channels are populated. -/
  | conflicting (owner : String)
  /-- Neither channel is populated. -/
  | missing (owner : String)
  /-- An entry is not a text. -/
  | notText (channel : Channel) (kind : Json.Kind)
  /-- An entry holds nothing but blanks. -/
  | blankName (channel : Channel)
  /-- The scope is not a text. -/
  | badScope (value : Json)
  /-- The expected value is neither null nor a text. -/
  | badExpected (value : Json)

/-- The diagnostic of a refused declaration. -/
def Fault.message : Fault → String
  | .notIterable kind => "'" ++ kind.name ++ "' object is not iterable"
  | .conflicting owner => "The name and value attributes of " ++ owner ++ " are exclusive"
  | .missing owner => "The name or value attribute of " ++ owner ++ " must be specified"
  | .notText channel kind =>
    "Invalid " ++ channel.label ++ " attribute: expected strings, got " ++ kind.name
  | .blankName channel => "Invalid " ++ channel.label ++ " attribute: blank property name"
  | .badScope value => "Invalid prefix: " ++ value.literal
  | .badExpected value => "Invalid having_value: " ++ value.literal

/-- The class of error as which a refusal is raised. -/
def Fault.errorClass : Fault → ErrorClass
  | .notIterable _ => .type
  | .conflicting _ => .conflictingAttributes
  | .missing _ => .missingAttribute
  | _ => .config

/-- The label of a declaration that has no other. -/
def defaultOwner : String := "conditional_on_property"

/-- What can be declared besides names, with the defaults. -/
structure Options where
  scope : Json := .text ""
  expected : Json := .null
  ifMissing : Json := .bool false
  relaxed : Json := .bool true

/-- The attributes of a declaration: the two channels and the options. -/
structure Attributes extends Options where
  name : Json := .list []
  value : Json := .list []

/-- The entries of a channel. -/
def entries : Json → Except Fault (List Json)
  | .null => .ok []
  | .text s => .ok (if s = "" then [] else [.text s])
  | .list items => .ok items
  | .object members => .ok (members.map fun m => .text m.1)
  | .bool b => .error (.notIterable (Json.bool b).kind)
  | .integer n => .error (.notIterable (Json.integer n).kind)
  | .real x => .error (.notIterable (Json.real x).kind)

/-- The name that an entry declares. -/
def readName (channel : Channel) : Json → Except Fault String
  | .text s => if Text.stripped s = "" then .error (.blankName channel) else .ok (Text.stripped s)
  | entry => .error (.notText channel entry.kind)

/-- The names that some entries declare, or the fault of the first that declares none. -/
def readNames (channel : Channel) : List Json → Except Fault (List String)
  | [] => .ok []
  | entry :: rest => do
    let name ← readName channel entry
    let names ← readNames channel rest
    return name :: names

/-- The expected value of a declaration. An empty text is the same as none. -/
def readExpected : Json → Except Fault (Option String)
  | .null => .ok none
  | .text s => .ok (if s = "" then none else some s)
  | value => .error (.badExpected value)

/-- The scope of a declaration, in its normal form. -/
def readScope : Json → Except Fault String
  | .text s => .ok (normalScope s)
  | value => .error (.badScope value)

/-- The rule with names that have been read and options as given. -/
def withNames (names : List String) (o : Options) : Except Fault Rule := do
  let scope ← readScope o.scope
  let expected ← readExpected o.expected
  return { names, scope, expected, ifMissing := o.ifMissing, relaxed := o.relaxed }

/-- The rule with the names that one value holds, as a channel of its own. -/
def ofNames (names : Json) (o : Options) : Except Fault Rule := do
  match ← readNames .name (← entries names) with
  | [] => throw (.missing defaultOwner)
  | names => withNames names o

/-- The rule that a declaration labelled `owner` stands for: the one with the names that are read
from the populated channel. -/
def validate (owner : String) (a : Attributes) : Except Fault Rule := do
  let names ← entries a.name
  let values ← entries a.value
  match names, values with
  | _ :: _, _ :: _ => throw (.conflicting owner)
  | [], [] => throw (.missing owner)
  | _ :: _, [] => ofNames (.list ((← readNames .name names).map .text)) a.toOptions
  | [], _ :: _ => ofNames (.list ((← readNames .value values).map .text)) a.toOptions

/-- The rule that a declaration stands for. -/
def declare (a : Attributes) : Except Fault Rule :=
  validate defaultOwner a

end Activation.Rule
