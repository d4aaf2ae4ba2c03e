import Activation.Entries
import Activation.Decimal.Shortest

/-!
# JSON values

The values that declarations and rule books are written in. Integers and reals are different
kinds: `1` is an integer of any size, `1.0` a 64-bit real. The members of an object keep the
order in which they were written.

A value has a **truth**: null, false, zero and everything empty are false, all else is true.
Two values are **equal** when they denote the same thing: numbers by their value, whatever
their kind, with `true` counting as one and `false` as zero, and objects whatever the order of
their members.
-/

namespace Activation

/-- A JSON value. -/
inductive Json where
  | null
  | bool (value : Bool)
  | integer (value : Int)
  | real (value : Float)
  | text (value : String)
  | list (items : List Json)
  | object (members : List (String × Json))
deriving Inhabited

namespace Json

/-- The kinds of values. -/
inductive Kind where
  | null
  | bool
  | integer
  | real
  | text
  | list
  | object
deriving DecidableEq

/-- How diagnostics name a kind. -/
def Kind.name : Kind → String
  | .null => "NoneType"
  | .bool => "bool"
  | .integer => "int"
  | .real => "float"
  | .text => "str"
  | .list => "list"
  | .object => "dict"

/-- The kind of a value. -/
def kind : Json → Kind
  | .null => .null
  | .bool _ => .bool
  | .integer _ => .integer
  | .real _ => .real
  | .text _ => .text
  | .list _ => .list
  | .object _ => .object

/-- The truth of a value. -/
def truthy : Json → Bool
  | .null => false
  | .bool b => b
  | .integer n => n != 0
  | .real x => !(x == 0.0)
  | .text s => s != ""
  | .list items => !items.isEmpty
  | .object members => !members.isEmpty

@[simp] theorem truthy_bool (b : Bool) : truthy (.bool b) = b := rfl

@[simp] theorem truthy_null : truthy .null = false := rfl

/-- Whether an integer is the value of a real. -/
def integerEqReal (n : Int) (x : Float) : Bool :=
  if x.isNaN || x.isInf then false
  else
    let b := Decimal.Binary.ofBits x.toBits
    let magnitude := b.mantissa * Nat.pow 2 b.exponent.toNat
    n.natAbs * Nat.pow 2 (-b.exponent).toNat == magnitude
      && (magnitude == 0 || decide (n < 0) == Decimal.isNegative x.toBits)

/-- The number that a value denotes exactly, if it is an integer or a truth value. -/
def integer? : Json → Option Int
  | .bool b => some (if b then 1 else 0)
  | .integer n => some n
  | _ => none

/-- Whether two values that are not containers are equal. A real that is not a number equals
itself here, so that equality is reflexive. -/
def scalarEqual : Json → Json → Bool
  | .null, .null => true
  | .text s, .text t => s == t
  | .real x, .real y => x == y || (x.isNaN && y.isNaN)
  | .real x, other => (integer? other).any (integerEqReal · x)
  | value, .real y => (integer? value).any (integerEqReal · y)
  | value, other =>
    match integer? value, integer? other with
    | some m, some n => m == n
    | _, _ => false

mutual

/-- Whether two values are equal. -/
def equal : Json → Json → Bool
  | .list xs, .list ys => equalItems xs ys
  | .object ms, .object ns => ms.length == ns.length && equalMembers ms ns
  | .list _, _ => false
  | .object _, _ => false
  | value, other => scalarEqual value other

/-- Whether two lists are equal item by item. -/
def equalItems : List Json → List Json → Bool
  | [], [] => true
  | x :: xs, y :: ys => equal x y && equalItems xs ys
  | _, _ => false

/-- Whether each of the members on the left has an equal on the right. -/
def equalMembers : List (String × Json) → List (String × Json) → Bool
  | [], _ => true
  | (k, v) :: ms, ns =>
    (match Entries.get? ns k with
      | some w => equal v w
      | none => false) && equalMembers ms ns

end

end Json

end Activation
