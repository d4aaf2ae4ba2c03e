import Activation.Decimal.Shortest

/-!
# Writing numbers in decimal

A 64-bit number is written with the digits of its shortest decimal. Numbers of ordinary size
are written positionally and always show a point; the others with one digit before the point
and a signed exponent of at least two digits. The texts of the three numbers without digits
are a choice of the format.
-/

namespace Activation.Decimal

/-- The choices of a written form. -/
structure Layout where
  /-- The least power of ten of a leading digit that is written positionally. -/
  positionalFrom : Int
  /-- The least power of ten from which on numbers are written with an exponent. -/
  exponentFrom : Int
  /-- The text of a result that is not a number. -/
  notANumber : String
  /-- The text of infinity, without its sign. -/
  infinity : String

/-- The digits of an exponent, at least two. -/
def exponentDigits (n : Nat) : List Char :=
  if n < 10 then '0' :: Nat.toDigits 10 n else Nat.toDigits 10 n

/-- Digits with a point after the `places`-th of them, filled up with zeros. -/
def positional (digits : List Char) (places : Int) : List Char :=
  if places ≤ 0 then '0' :: '.' :: (List.replicate (-places).toNat '0' ++ digits)
  else
    let whole := digits.take places.toNat
    let fraction := digits.drop places.toNat
    whole ++ List.replicate (places.toNat - whole.length) '0'
      ++ '.' :: (if fraction.isEmpty then ['0'] else fraction)

/-- Digits with a point after the first of them, if there are more, and an exponent. -/
def scientific (digits : List Char) (exponent : Int) : List Char :=
  let rest := digits.drop 1
  digits.take 1 ++ (if rest.isEmpty then [] else '.' :: rest)
    ++ 'e' :: (if exponent < 0 then '-' else '+') :: exponentDigits exponent.natAbs

/-- The written form of a magnitude. -/
def Layout.magnitude (layout : Layout) (x : Scaled) : List Char :=
  let all := Nat.toDigits 10 x.digits
  let digits := (all.reverse.dropWhile (· == '0')).reverse
  let exponent : Int := (all.length : Int) + x.exponent - 1
  if digits.isEmpty then ['0', '.', '0']
  else if layout.positionalFrom ≤ exponent && exponent < layout.exponentFrom then
    positional digits (exponent + 1)
  else scientific digits exponent

/-- The written form of a 64-bit number. -/
def Layout.write (layout : Layout) (x : Float) : List Char :=
  if x.isNaN then layout.notANumber.toList
  else
    (if isNegative x.toBits then ['-'] else [])
      ++ (if x.isInf then layout.infinity.toList
          else layout.magnitude (Binary.ofBits x.toBits).shortest)

end Activation.Decimal
