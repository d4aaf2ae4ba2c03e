import Activation.Json.Reader
import Activation.Log
import Activation.Rule.Entry
import Activation.Text.LineBreak
import Activation.Text.Utf8

/-!
# Rule books

A **rule book** holds rules under identifiers, in the order of its document. The document is an
object whose `rules` field, if present, lists the entries. Every entry must be an object with an
identifier of its own, that is a text, is not empty and has not been used before, and must stand
for a rule. The first entry that fails decides the fault, and then there is no book.

A book can be read from the bytes of a file: they are decoded, line breaks are made uniform, and
the text is read as JSON.
-/

namespace Activation

/-- Rules under their identifiers, in document order. -/
abbrev RuleBook := Entries Rule

namespace RuleBook

/-- Why a document is no rule book. -/
inductive Fault where
  | notAnObject
  | notAList
  | entryNotAnObject (index : Nat)
  | missingId (index : Nat)
  | duplicateId (index : Nat) (id : String)
  | entry (fault : Rule.EntryFault)

/-- The diagnostic of a document that is no rule book. -/
def Fault.message : Fault → String
  | .notAnObject => "Rule document must be a JSON object"
  | .notAList => "Invalid rule document: 'rules' must be a list"
  | .entryNotAnObject index => "Invalid rule at index " ++ toString index ++ ": expected an object"
  | .missingId index => "Invalid rule at index " ++ toString index ++ ": missing id"
  | .duplicateId _ id => "Duplicate rule id: " ++ id
  | .entry fault => fault.message

/-- The class of error as which the fault of a document is raised. -/
def Fault.errorClass : Fault → ErrorClass
  | .entry fault => fault.errorClass
  | _ => .validation

/-- A fault of the entry with a given index as a value. -/
def entryDetail (index : Nat) (field : Option String) (error : String) : Json :=
  .object (("index", .integer index)
    :: (match field with
      | some name => [("field", .text name)]
      | none => [])
    ++ [("error", .text error)])

/-- The single faults that a document is charged with, as values. -/
def Fault.details : Fault → List Json
  | .notAnObject => []
  | .notAList => [.object [("field", .text "rules"), ("error", .text "expected a list")]]
  | .entryNotAnObject index => [entryDetail index none "expected an object"]
  | .missingId index => [entryDetail index (some "id") "required"]
  | .duplicateId index _ => [entryDetail index (some "id") "duplicate"]
  | .entry fault => fault.details

/-- The identifier of an entry, if it has one that can be used. -/
def entryId? (members : Entries Json) : Option String :=
  match members.get? "id" with
  | some (.text id) => if id = "" then none else some id
  | _ => none

/-- Add the entry with a given index to a book. -/
def addEntry (book : RuleBook) (index : Nat) : Json → Except Fault RuleBook
  | .object members =>
    match entryId? members with
    | none => .error (.missingId index)
    | some id =>
      if id ∈ book.keys then .error (.duplicateId index id)
      else
        match Rule.ofEntry members with
        | .ok rule => .ok (book ++ [(id, rule)])
        | .error fault => .error (.entry fault)
  | _ => .error (.entryNotAnObject index)

/-- Add some entries to a book, the first of which has a given index. -/
def addEntries (book : RuleBook) (index : Nat) : List Json → Except Fault RuleBook
  | [] => .ok book
  | entry :: rest =>
    match addEntry book index entry with
    | .ok larger => addEntries larger (index + 1) rest
    | .error fault => .error fault

/-- The rule book of a document. -/
def ofJson : Json → Except Fault RuleBook
  | .object members =>
    match (Entries.get? members "rules").getD (.list []) with
    | .list entries => addEntries [] 0 entries
    | _ => .error .notAList
  | _ => .error .notAnObject

/-- The log line about a book that has been read. -/
def loadedLine (book : RuleBook) : Log.Line :=
  ⟨.loading, "Loaded " ++ toString book.length ++ " property rules"⟩

/-- The outcome of reading a rule book, and the lines that reading it has logged. -/
structure Reading (ε : Type) where
  outcome : Except ε RuleBook
  log : List Log.Line

/-- A book that has been read is logged, a fault is not. -/
def Reading.ofOutcome {ε : Type} : Except ε RuleBook → Reading ε
  | .ok book => ⟨.ok book, [loadedLine book]⟩
  | .error fault => ⟨.error fault, []⟩

/-- Read a document. -/
def read (document : Json) : Reading Fault :=
  .ofOutcome (ofJson document)

/-- The document of a rule book. -/
def toJson (book : RuleBook) : Json :=
  .object [("rules", .list (book.map fun p => .object (("id", .text p.1) :: p.2.toEntry)))]

/-! ### Reading files -/

/-- What a path leads to. -/
inductive File where
  | absent
  | directory
  | regular (bytes : List UInt8)

/-- Why no rule book can be read from a path. -/
inductive LoadFault where
  | absent (path : String)
  | directory (path : String)
  | undecodable (fault : Text.Utf8.Fault)
  | notJson (path : String) (problem : Json.Problem) (position : Json.Position)
  | oversizedInteger (digits : Nat)
  | document (fault : Fault)

/-- The diagnostic of a failed loading. -/
def LoadFault.message : LoadFault → String
  | .absent path => "[Errno 2] No such file or directory: " ++ Text.quoted path
  | .directory path => "[Errno 21] Is a directory: " ++ Text.quoted path
  | .undecodable fault => fault.message
  | .notJson path problem position =>
    "Invalid JSON in " ++ path ++ ": " ++ (Json.Fault.malformed problem position).message
  | .oversizedInteger digits => (Json.Fault.oversized digits).message
  | .document fault => fault.message

/-- The class of error as which a failed loading is raised. -/
def LoadFault.errorClass : LoadFault → ErrorClass
  | .absent _ => .fileNotFound
  | .directory _ => .isADirectory
  | .undecodable _ => .unicodeDecode
  | .notJson _ _ _ => .validation
  | .oversizedInteger _ => .value
  | .document fault => fault.errorClass

/-- The single faults that a failed loading is charged with, as values. Only a document has any. -/
def LoadFault.details : LoadFault → List Json
  | .document fault => fault.details
  | _ => []

/-- The rule book in the bytes of a regular file. -/
def ofBytes (path : String) (bytes : List UInt8) : Except LoadFault RuleBook :=
  match Text.Utf8.decode bytes with
  | .error fault => .error (.undecodable fault)
  | .ok text =>
    match Json.parse (Text.unifyLineBreaks text) with
    | .error (.malformed problem position) => .error (.notJson path problem position)
    | .error (.oversized digits) => .error (.oversizedInteger digits)
    | .ok document => (ofJson document).mapError .document

/-- The rule book at a path. -/
def load (path : String) : File → Except LoadFault RuleBook
  | .absent => .error (.absent path)
  | .directory => .error (.directory path)
  | .regular bytes => ofBytes path bytes

/-- Read what is at a path. -/
def readPath (path : String) (file : File) : Reading LoadFault :=
  .ofOutcome (load path file)

end RuleBook

end Activation
