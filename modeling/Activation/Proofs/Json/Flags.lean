import Activation.Proofs.Decimal.Bits

/-!
# Values that Stand for Truth Values

Every JSON value has a truth, and any value can be given where a flag is expected. A value is a
**flag** when it is equal to its own truth: the two truth values, and the numbers one and zero in
either kind of number. All other values have a truth that they are not equal to, null among them.

The work is with the reals. Equality of an integer and a real is decided on the bits, so for the
integers zero and one it has to be matched with the comparison of reals that decides their truth.
-/

namespace Activation.Json

open Decimal

/-! ### The integers zero and one as reals -/

/-- The bits of a real as the library reads them. -/
theorem ofBits_toBits (x : Float) :
    Binary.ofBits x.toBits =
      if exponentField x = 0 then ⟨fractionField x, -1074, false⟩
      else ⟨leadingBit + fractionField x, (exponentField x : Int) - 1075,
        fractionField x == 0 && exponentField x > 1⟩ :=
  rfl

/-- An integer is the value of a real exactly if the real is finite and the two agree in magnitude
and, unless they are zero, in sign. -/
theorem integerEqReal_iff (n : Int) (x : Float) :
    integerEqReal n x = true ↔
      exponentField x ≠ 0x7FF ∧
        n.natAbs * 2 ^ (-(Binary.ofBits x.toBits).exponent).toNat
          = (Binary.ofBits x.toBits).mantissa * 2 ^ (Binary.ofBits x.toBits).exponent.toNat ∧
        ((Binary.ofBits x.toBits).mantissa = 0 ∨ decide (n < 0) = isNegative x.toBits) := by
  have hpow : 2 ^ (Binary.ofBits x.toBits).exponent.toNat ≠ 0 := (Nat.two_pow_pos _).ne'
  rw [integerEqReal]
  split
  · rename_i hspecial
    have he := (special_iff x).mp hspecial
    exact ⟨fun h => absurd h Bool.false_ne_true, fun h => absurd he h.1⟩
  · rename_i hspecial
    have he : exponentField x ≠ 0x7FF := fun h => hspecial ((special_iff x).mpr h)
    simp only [Nat.pow_eq, Bool.and_eq_true, Bool.or_eq_true, beq_iff_eq, Nat.mul_eq_zero, hpow,
      or_false, he, ne_eq, not_false_eq_true, true_and]

/-- The integer zero is the value of the reals that equal zero. -/
theorem integerEqReal_zero_iff (x : Float) : integerEqReal 0 x = true ↔ (x == 0.0) = true := by
  have hbit : 0 < leadingBit := by decide
  rw [beq_zero_iff, integerEqReal_iff, ofBits_toBits, Int.natAbs_zero, Nat.zero_mul, eq_comm,
    Nat.mul_eq_zero]
  by_cases he : exponentField x = 0
  · rw [if_pos he]
    constructor
    · rintro ⟨-, hf | hpow, -⟩
      · exact ⟨he, hf⟩
      · exact absurd hpow (Nat.two_pow_pos _).ne'
    · rintro ⟨-, hf⟩
      exact ⟨by omega, .inl hf, .inl hf⟩
  · rw [if_neg he]
    constructor
    · rintro ⟨-, hf | hpow, -⟩
      · exact absurd hf (by dsimp only; omega)
      · exact absurd hpow (Nat.two_pow_pos _).ne'
    · rintro ⟨hzero, -⟩
      exact absurd hzero he

/-- A power of two from `2 ^ 52` up to but not including `2 ^ 53` is `2 ^ 52`. -/
theorem two_pow_eq_leadingBit_add_iff {k f : Nat} (hf : f < leadingBit) :
    2 ^ k = leadingBit + f ↔ k = 52 ∧ f = 0 := by
  have hbit : leadingBit = 2 ^ 52 := rfl
  rw [hbit] at hf ⊢
  constructor
  · intro h
    have hlow : 52 ≤ k := (Nat.pow_le_pow_iff_right (by decide : 1 < 2)).mp (by omega)
    have hhigh : k < 53 := (Nat.pow_lt_pow_iff_right (by decide : 1 < 2)).mp (by omega)
    obtain rfl : k = 52 := by omega
    exact ⟨rfl, by omega⟩
  · rintro ⟨rfl, rfl⟩
    rfl

/-- A mantissa with its leading bit makes one only with an exponent of `-52`. -/
theorem one_eq_scaled_iff {e f : Nat} (hf : f < leadingBit) :
    1 * 2 ^ (-((e : Int) - 1075)).toNat = (leadingBit + f) * 2 ^ ((e : Int) - 1075).toNat ↔
      e = 1023 ∧ f = 0 := by
  have hbit : 1 < leadingBit := by decide
  by_cases hlarge : 1075 ≤ e
  · have hneg : (-((e : Int) - 1075)).toNat = 0 := by omega
    have hle : leadingBit + f ≤ (leadingBit + f) * 2 ^ ((e : Int) - 1075).toNat :=
      Nat.le_mul_of_pos_right _ (Nat.two_pow_pos _)
    rw [hneg]
    constructor <;> intro h <;> omega
  · have hpos : ((e : Int) - 1075).toNat = 0 := by omega
    have hneg : (-((e : Int) - 1075)).toNat = 1075 - e := by omega
    rw [hpos, hneg, Nat.one_mul, Nat.pow_zero, Nat.mul_one, two_pow_eq_leadingBit_add_iff hf]
    constructor <;> intro h <;> omega

/-- A fraction field without a leading bit is less than the powers of two from `2 ^ 52` on. -/
theorem fraction_lt_two_pow {k f : Nat} (hk : 52 ≤ k) (hf : f < leadingBit) : f < 2 ^ k :=
  calc f < 2 ^ 52 := hf
    _ ≤ 2 ^ k := Nat.pow_le_pow_right (by decide) hk

/-- The integer one is the value of the real one. -/
theorem integerEqReal_one_iff (x : Float) : integerEqReal 1 x = true ↔ (x == 1.0) = true := by
  have hf : fractionField x < leadingBit := Nat.mod_lt _ (by decide)
  have hbit : 0 < leadingBit := by decide
  rw [beq_one_iff, integerEqReal_iff, ofBits_toBits]
  by_cases he : exponentField x = 0
  · rw [if_pos he]
    constructor
    · rintro ⟨-, hmag, -⟩
      have hpow : (-1074 : Int).toNat = 0 := rfl
      have hlarge : 52 ≤ (-(-1074 : Int)).toNat := by decide
      rw [Int.natAbs_one, Nat.one_mul, hpow, Nat.pow_zero, Nat.mul_one] at hmag
      exact absurd hmag.symm (fraction_lt_two_pow hlarge hf).ne
    · rintro ⟨hone, -⟩
      exact absurd hone (by omega)
  · rw [if_neg he]
    change (_ ∧ 1 * _ = _ ∧ (_ ∨ false = isNegative x.toBits)) ↔ _
    rw [one_eq_scaled_iff hf]
    constructor
    · rintro ⟨-, ⟨hone, hzero⟩, hmantissa | hsign⟩
      · exact absurd hmantissa (by dsimp only; omega)
      · exact ⟨hone, hzero, hsign.symm⟩
    · rintro ⟨hone, hzero, hsign⟩
      exact ⟨by omega, ⟨hone, hzero⟩, .inr hsign.symm⟩

/-! ### Flags -/

/-- The values that are equal to a truth value: the truth values themselves and the numbers zero
and one of either kind. -/
def IsFlag : Json → Prop
  | .bool _ => True
  | .integer n => n = 0 ∨ n = 1
  | .real x => (x == 0.0) = true ∨ (x == 1.0) = true
  | _ => False

/-- **A value is equal to its own truth exactly if it is a flag.** -/
theorem truthy_equal_iff (v : Json) : (Json.bool v.truthy).equal v = true ↔ v.IsFlag := by
  cases v with
  | bool b =>
      refine iff_of_true ?_ trivial
      cases b <;> rfl
  | integer n =>
      by_cases hn : n = 0
      · subst hn
        exact iff_of_true rfl (.inl rfl)
      · have hb : (n != 0) = true := bne_iff_ne.mpr hn
        change ((if n != 0 then 1 else 0 : Int) == n) = true ↔ n = 0 ∨ n = 1
        rw [if_pos hb, beq_iff_eq, eq_comm]
        exact ⟨.inr, fun h => h.resolve_left hn⟩
  | real x =>
      change integerEqReal (if !(x == 0.0) then 1 else 0) x = true ↔
        (x == 0.0) = true ∨ (x == 1.0) = true
      rcases hx : x == 0.0 with _ | _
      · change integerEqReal 1 x = true ↔ _
        rw [integerEqReal_one_iff]
        exact ⟨.inr, fun h => h.resolve_left Bool.false_ne_true⟩
      · change integerEqReal 0 x = true ↔ _
        rw [integerEqReal_zero_iff, hx]
        exact iff_of_true rfl (.inl rfl)
  | null | text s | list items | object members =>
      exact iff_of_false Bool.false_ne_true id

/-- The same with the sides of the equality exchanged. -/
theorem equal_truthy_iff (v : Json) : v.equal (.bool v.truthy) = true ↔ v.IsFlag := by
  rw [← truthy_equal_iff]
  cases v with
  | bool b => cases b <;> exact Iff.rfl
  | integer n =>
      change (n == (if n != 0 then 1 else 0 : Int)) = true ↔ ((if n != 0 then 1 else 0) == n) = true
      rw [beq_iff_eq, beq_iff_eq, eq_comm]
  | null | real x | text s | list items | object members => exact Iff.rfl

end Activation.Json
