/-!
# The shortest decimal of a binary number

A finite binary number `m · 2^q` stands for an interval of reals: all that are closer to it
than to its neighbours, the two ends included when `m` is even. Its **shortest decimal** is the
number of that interval with the fewest digits, and of those the one nearest to `m · 2^q`, an
exact tie going to the even digit. All arithmetic is exact, on naturals.

The search tries the grids of 1, 2, … 17 digits. On each grid only the two neighbours of the
number can lie in its interval, because if any point of the grid does, one of them does.
-/

namespace Activation.Decimal

/-- A non-negative binary number `mantissa · 2^exponent`. The gap to the number below is half
the gap to the number above when `narrowBelow` is set. -/
structure Binary where
  mantissa : Nat
  exponent : Int
  narrowBelow : Bool

/-- The place of the leading bit of a mantissa, which the bits of a number leave out. -/
def leadingBit : Nat := 0x10000000000000

/-- Whether the bits of a 64-bit number give it a minus sign. -/
def isNegative (bits : UInt64) : Bool :=
  bits.toNat ≥ 0x8000000000000000

/-- The magnitude that the bits of a finite 64-bit number stand for: eleven of them are the
exponent, the fifty-two below are the mantissa without its leading bit. -/
def Binary.ofBits (bits : UInt64) : Binary :=
  let biased : Nat := bits.toNat / leadingBit % 0x800
  let fraction : Nat := bits.toNat % leadingBit
  if biased = 0 then ⟨fraction, -1074, false⟩
  else ⟨leadingBit + fraction, (biased : Int) - 1075, fraction == 0 && biased > 1⟩

/-- The decimal `digits · 10^exponent`. -/
structure Scaled where
  digits : Nat
  exponent : Int

/-- How many decimal digits a natural number has. -/
def length (n : Nat) : Nat :=
  (Nat.toDigits 10 n).length

/-- The number over a power of ten, as a fraction: four times its value in units of `10^k` is
`4 · mantissa · factor / divisor`. -/
def Binary.factor (x : Binary) (k : Int) : Nat :=
  Nat.pow 2 x.exponent.toNat * Nat.pow 10 (-k).toNat

/-- The divisor that goes with `Binary.factor`. -/
def Binary.divisor (x : Binary) (k : Int) : Nat :=
  4 * Nat.pow 2 (-x.exponent).toNat * Nat.pow 10 k.toNat

/-- Whether `digits · 10^k` lies in the interval that the number stands for. -/
def Binary.covers (x : Binary) (k : Int) (digits : Nat) : Bool :=
  let low := (4 * x.mantissa - if x.narrowBelow then 1 else 2) * x.factor k
  let high := (4 * x.mantissa + 2) * x.factor k
  let point := digits * x.divisor k
  if x.mantissa % 2 = 0 then low ≤ point && point ≤ high else low < point && point < high

/-- The best decimal in units of `10^k`, if one of the two neighbours there reads back. -/
def Binary.onGrid (x : Binary) (k : Int) : Option Scaled :=
  let scaled := 4 * x.mantissa * x.factor k
  let below := scaled / x.divisor k
  let above := below + 1
  match x.covers k below, x.covers k above with
  | true, true =>
    match compare (2 * scaled) ((below + above) * x.divisor k) with
    | .lt => some ⟨below, k⟩
    | .gt => some ⟨above, k⟩
    | .eq => some ⟨if below % 2 = 0 then below else above, k⟩
  | true, false => some ⟨below, k⟩
  | false, true => some ⟨above, k⟩
  | false, false => none

/-- The power of ten of the leading digit of a number that is not zero. -/
def Binary.magnitude (x : Binary) : Int :=
  let num := x.mantissa * Nat.pow 2 x.exponent.toNat
  let den := Nat.pow 2 (-x.exponent).toNat
  let estimate : Int := (length num : Int) - (length den : Int)
  if num * Nat.pow 10 (-estimate).toNat ≥ den * Nat.pow 10 estimate.toNat then estimate
  else estimate - 1

/-- The exact decimal value of a binary number. -/
def Binary.exact (x : Binary) : Scaled :=
  if x.exponent ≥ 0 then ⟨x.mantissa * Nat.pow 2 x.exponent.toNat, 0⟩
  else ⟨x.mantissa * Nat.pow 5 (-x.exponent).toNat, x.exponent⟩

/-- The shortest decimal of a binary number. -/
def Binary.shortest (x : Binary) : Scaled :=
  if x.mantissa = 0 then ⟨0, 0⟩
  else
    let grids := (List.range 17).map fun (n : Nat) => x.magnitude - (n : Int)
    (grids.findSome? x.onGrid).getD x.exact

/-- The 64-bit number nearest to `digits · 10^exponent`. Far beyond the range of such numbers
the answer is known without the arithmetic. -/
def toFloat (negative : Bool) (digits : Nat) (exponent : Int) : Float :=
  let size := (length digits : Int) + exponent
  let magnitude : Float :=
    if digits = 0 || size < -400 then 0.0
    else if size > 400 then Float.ofBits 0x7FF0000000000000
    else Float.ofScientific digits (exponent < 0) exponent.natAbs
  if negative then -magnitude else magnitude

end Activation.Decimal
