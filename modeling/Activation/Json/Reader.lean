import Activation.Json.Token.Lexer

/-!
# Reading JSON

A value is put together from the tokens of a text by a machine with a stack of open containers.
Between two tokens its state says what may follow; a lexeme that may not is refused with what
was expected instead, at the place where it starts, and a text that ends too early at its end.
A repeated key keeps its first place and takes the last value.

A fault is reported with its line, its column and its offset, all counted in characters. A text
that starts with a byte order mark is refused at once.
-/

namespace Activation.Json

/-- A container that is open around the value being read: a list with its items so far, latest
first, or an object with the key whose value is being read. -/
inductive Frame where
  | list (items : List Json)
  | member (members : Entries Json) (key : String)

/-- What has been read, and so what may follow. -/
inductive State where
  /-- A value must follow. -/
  | wantValue (stack : List Frame)
  /-- A list has just been opened. -/
  | firstItem (stack : List Frame)
  /-- A list has just got an item. -/
  | afterItem (items : List Json) (stack : List Frame)
  /-- An object has just been opened. -/
  | firstKey (stack : List Frame)
  /-- A further key must follow. -/
  | wantKey (members : Entries Json) (stack : List Frame)
  /-- A key has been read. -/
  | wantColon (members : Entries Json) (key : String) (stack : List Frame)
  /-- An object has just got a member. -/
  | afterMember (members : Entries Json) (stack : List Frame)
  /-- The text's value is complete. -/
  | done (value : Json)

/-- A value is complete: it goes into the innermost open container. -/
def State.accept (value : Json) : List Frame → State
  | [] => .done value
  | .list items :: stack => .afterItem (value :: items) stack
  | .member members key :: stack => .afterMember (members.put key value) stack

/-- Read a lexeme where a value may start. -/
def State.startValue (stack : List Frame) (place : List Char) : Lexeme → Except Halt State
  | .token (.scalar value) => .ok (.accept value stack)
  | .token (.text value) => .ok (.accept (.text value) stack)
  | .token .openList => .ok (.firstItem stack)
  | .token .openObject => .ok (.firstKey stack)
  | .token _ => .error (.malformed .valueExpected place)
  | .badText halt => .error halt
  | .badScalar halt => .error halt

/-- Read a lexeme where a key must stand. -/
def State.startMember (members : Entries Json) (stack : List Frame) (place : List Char) :
    Lexeme → Except Halt State
  | .token (.text key) => .ok (.wantColon members key stack)
  | .badText halt => .error halt
  | _ => .error (.malformed .keyExpected place)

/-- Read one lexeme, whose text starts at `place`. -/
def State.step (place : List Char) : State → Lexeme → Except Halt State
  | .wantValue stack, lexeme => startValue stack place lexeme
  | .firstItem stack, .token .closeList => .ok (.accept (.list []) stack)
  | .firstItem stack, lexeme => startValue (.list [] :: stack) place lexeme
  | .afterItem items stack, .token .comma => .ok (.wantValue (.list items :: stack))
  | .afterItem items stack, .token .closeList => .ok (.accept (.list items.reverse) stack)
  | .afterItem _ _, _ => .error (.malformed .commaExpected place)
  | .firstKey stack, .token .closeObject => .ok (.accept (.object []) stack)
  | .firstKey stack, lexeme => startMember [] stack place lexeme
  | .wantKey members stack, lexeme => startMember members stack place lexeme
  | .wantColon members key stack, .token .colon => .ok (.wantValue (.member members key :: stack))
  | .wantColon _ _ _, _ => .error (.malformed .colonExpected place)
  | .afterMember members stack, .token .comma => .ok (.wantKey members stack)
  | .afterMember members stack, .token .closeObject => .ok (.accept (.object members) stack)
  | .afterMember _ _, _ => .error (.malformed .commaExpected place)
  | .done _, _ => .error (.malformed .extraData place)

/-- The value of a text that ends here. -/
def State.finish : State → Except Halt Json
  | .done value => .ok value
  | .wantValue _ => .error (.malformed .valueExpected [])
  | .firstItem _ => .error (.malformed .valueExpected [])
  | .firstKey _ => .error (.malformed .keyExpected [])
  | .wantKey _ _ => .error (.malformed .keyExpected [])
  | .wantColon _ _ _ => .error (.malformed .colonExpected [])
  | .afterItem _ _ => .error (.malformed .commaExpected [])
  | .afterMember _ _ => .error (.malformed .commaExpected [])

/-- The value that some lexemes make up from a state on. -/
def assemble : State → List (List Char × Lexeme) → Except Halt Json
  | state, [] => state.finish
  | state, (place, lexeme) :: rest =>
    match state.step place lexeme with
    | .ok next => assemble next rest
    | .error halt => .error halt

/-! ### Faults and their positions -/

/-- A place in a text: line and column count from one, the offset from zero. -/
structure Position where
  line : Nat
  column : Nat
  offset : Nat
deriving DecidableEq

/-- The place that comes after some text. -/
def Position.after (before : List Char) : Position where
  line := before.count '\n' + 1
  column := (before.reverse.takeWhile (· != '\n')).length + 1
  offset := before.length

/-- How a place is named in diagnostics. -/
def Position.text (p : Position) : String :=
  "line " ++ toString p.line ++ " column " ++ toString p.column
    ++ " (char " ++ toString p.offset ++ ")"

/-- Why a text is refused. -/
inductive Fault where
  | malformed (problem : Problem) (position : Position)
  | oversized (digits : Nat)
deriving DecidableEq

/-- The diagnostic of a refused text. -/
def Fault.message : Fault → String
  | .malformed problem position => problem.text ++ ": " ++ position.text
  | .oversized digits =>
    "Exceeds the limit (" ++ toString maxDigits ++ " digits) for integer string conversion: "
      ++ "value has " ++ toString digits ++ " digits; "
      ++ "use sys.set_int_max_str_digits() to increase the limit"

/-- The fault for which reading a text has stopped. -/
def Fault.ofHalt (s : List Char) : Halt → Fault
  | .malformed problem rest =>
    .malformed problem (Position.after (s.take (s.length - rest.length)))
  | .oversized digits => .oversized digits

/-- The value of a text. -/
def parse (s : List Char) : Except Fault Json :=
  match s with
  | '\uFEFF' :: _ => .error (.malformed .byteOrderMark (Position.after []))
  | _ => (assemble (.wantValue []) (lex s)).mapError (Fault.ofHalt s)

end Activation.Json
