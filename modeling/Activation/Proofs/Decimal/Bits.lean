import Mathlib
import Activation.Json.Basic

/-!
# Reals and Their Bits

The library reads the bits of a real on naturals (`Decimal.Binary.ofBits`), while comparisons of
reals go through core's own reading of the same bits. This module joins the two where a rule needs
it: at the reals zero and one, which a flag may hold in place of a truth value.

The bits of a real are a sign, an exponent field and a fraction field. Core's reading has one of
four forms (`Reading`), told apart by the two fields. A real equals `0.0` when both fields are
zero, and equals `1.0` when it is positive with exponent field `1023` and fraction field zero; the
integers `0` and `1` are the values of the same reals (`integerEqReal_zero_iff`,
`integerEqReal_one_iff`).
-/

open Float.Model Float.Model.UnpackedFloat

namespace Activation.Decimal

/-- The exponent field of a real. -/
def exponentField (x : Float) : Nat :=
  x.toBits.toNat / leadingBit % 0x800

/-- The fraction field of a real. -/
def fractionField (x : Float) : Nat :=
  x.toBits.toNat % leadingBit

/-- The sign of a real, as core names it. -/
def signOf (x : Float) : Sign :=
  if isNegative x.toBits then .negative else .positive

/-! ### The fields in core's reading -/

theorem toNat_unpackExponent (x : Float) :
    (@unpackExponent Format.binary64 x.toModel.toBits.toBitVec).toNat
      = exponentField x := by
  simp [unpackExponent, BitVec.extractLsb, BitVec.extractLsb', Nat.shiftRight_eq_div_pow,
    exponentField, leadingBit, Float.toBits]

theorem toNat_unpackMantissa (x : Float) :
    (@unpackMantissa Format.binary64 x.toModel.toBits.toBitVec).toNat
      = fractionField x := by
  simp [unpackMantissa, BitVec.extractLsb, BitVec.extractLsb', fractionField, leadingBit,
    Float.toBits]

theorem ofBitVec_unpackSign (x : Float) :
    Sign.ofBitVec (@unpackSign Format.binary64 x.toModel.toBits.toBitVec)
      = signOf x := by
  have hsign : (@unpackSign Format.binary64 x.toModel.toBits.toBitVec).toNat
      = x.toBits.toNat / 2 ^ 63 % 2 := by
    simp [unpackSign, BitVec.extractLsb, BitVec.extractLsb', Nat.shiftRight_eq_div_pow,
      Float.toBits]
  have hlt := x.toBits.toNat_lt
  by_cases hneg : 0x8000000000000000 ≤ x.toBits.toNat
  · have hone : x.toBits.toNat / 2 ^ 63 % 2 = 1 := by omega
    rw [hone] at hsign
    rw [Sign.ofBitVec, if_neg (by simp [← BitVec.toNat_inj, hsign]), signOf, isNegative,
      if_pos (by simpa using hneg)]
  · have hzero : x.toBits.toNat / 2 ^ 63 % 2 = 0 := by omega
    rw [hzero] at hsign
    rw [Sign.ofBitVec, if_pos (by simp [← BitVec.toNat_inj, hsign]), signOf, isNegative,
      if_neg (by simpa using hneg)]

/-- The four forms that core's reading of a real takes, by the fields of its bits. -/
inductive Reading (x : Float) : Prop
  | special (he : exponentField x = 0x7FF)
      (hu : x.toModel.unpack = .infinity (signOf x) ∨ x.toModel.unpack = .notANumber)
  | zero (he : exponentField x = 0) (hf : fractionField x = 0)
      (hu : x.toModel.unpack = .zero (signOf x))
  | subnormal (he : exponentField x = 0) (hf : 0 < fractionField x)
      (hu : x.toModel.unpack = .finite (signOf x) (fractionField x) (-1074) hf)
  | normal (he : 0 < exponentField x) (hlt : exponentField x < 0x7FF)
      (hu : ∃ h, x.toModel.unpack = .finite (signOf x) (leadingBit + fractionField x)
        ((exponentField x : Int) - 1075) h)

/-- Finite readings with equal parts are equal. -/
theorem finite_congr {s s' : Sign} {m m' : Nat} {e e' : Int} {h : 0 < m} (hs : s = s')
    (hm : m = m') (he : e = e') :
    UnpackedFloat.finite s m e h = .finite s' m' e' (hm ▸ h) := by
  subst hs hm he
  rfl

/-- Core's reading of a real has one of the four forms. -/
theorem reading (x : Float) : Reading x := by
  have hexp := toNat_unpackExponent x
  have hman := toNat_unpackMantissa x
  have hlt : exponentField x < 0x800 := Nat.mod_lt _ (by decide)
  obtain ⟨u, hu⟩ : ∃ u, x.toModel.unpack = u := ⟨_, rfl⟩
  have hread := hu
  rw [Float.Model.unpack, UnpackedFloat.unpack] at hread
  split at hread
  · rename_i hones
    have he : exponentField x = 0x7FF := by
      rw [← hexp, hones]
      rfl
    split at hread
    · exact .special he (.inl (by rw [hu, ← hread, ofBitVec_unpackSign]))
    · exact .special he (.inr (hu.trans hread.symm))
  · rename_i hones
    split at hread
    · rename_i hzero
      have he : exponentField x = 0 := by
        rw [← hexp, hzero]
        rfl
      split at hread
      · rename_i hf
        refine .zero he ?_ (by rw [hu, ← hread, ofBitVec_unpackSign])
        rw [← hman, hf]
        rfl
      · rename_i hf
        have hpos : 0 < fractionField x := by
          refine Nat.pos_of_ne_zero fun h => hf (BitVec.eq_of_toNat_eq ?_)
          rw [hman, h]
          rfl
        refine .subnormal he hpos ?_
        rw [hu, ← hread]
        refine finite_congr (ofBitVec_unpackSign x) hman ?_
        rw [hexp, he]
        rfl
    · rename_i hzero
      have hpos : 0 < exponentField x := by
        refine Nat.pos_of_ne_zero fun h => hzero (BitVec.eq_of_toNat_eq ?_)
        rw [hexp, h]
        rfl
      have hne : exponentField x ≠ 0x7FF := by
        refine fun h => hones (BitVec.eq_of_toNat_eq ?_)
        rw [hexp, h]
        rfl
      refine .normal hpos (by omega) ⟨by simp [leadingBit], ?_⟩
      rw [hu, ← hread]
      refine finite_congr (ofBitVec_unpackSign x) ?_ (by rw [hexp]; rfl)
      rw [BitVec.toNat_append, ← Nat.shiftLeft_add_eq_or_of_lt (BitVec.isLt _), hman]
      rfl

/-! ### Zero and one -/

/-- A real equals zero exactly if both its fields are zero, whatever its sign. -/
theorem beq_zero_iff (x : Float) :
    (x == 0.0) = true ↔ exponentField x = 0 ∧ fractionField x = 0 := by
  have hzero : (0.0 : Float).toModel.unpack = .zero .positive := rfl
  change (x.toModel.unpack.compare (0.0 : Float).toModel.unpack == some .eq) = true ↔ _
  rw [hzero]
  rcases reading x with ⟨he, hu | hu⟩ | ⟨he, hf, hu⟩ | ⟨he, hf, hu⟩ | ⟨he, hlt, h, hu⟩
  · rw [hu]
    cases signOf x <;> simp [UnpackedFloat.compare, he]
  · simp [hu, UnpackedFloat.compare, he]
  · simp [hu, UnpackedFloat.compare, he, hf]
  · have hne := hf.ne'
    rw [hu]
    cases signOf x <;> simp [UnpackedFloat.compare, he, hne]
  · have hne := he.ne'
    rw [hu]
    cases signOf x <;> simp [UnpackedFloat.compare, hne]

/-- A real equals one exactly if it is positive, its exponent field is `1023` and its fraction
field is zero. -/
theorem beq_one_iff (x : Float) :
    (x == 1.0) = true ↔
      exponentField x = 1023 ∧ fractionField x = 0 ∧ isNegative x.toBits = false := by
  have hone : (1.0 : Float).toModel.unpack = .finite .positive leadingBit (-52) (by decide) := rfl
  change (x.toModel.unpack.compare (1.0 : Float).toModel.unpack == some .eq) = true ↔ _
  rw [hone]
  rcases reading x with ⟨he, hu | hu⟩ | ⟨he, hf, hu⟩ | ⟨he, hf, hu⟩ | ⟨he, hlt, h, hu⟩
  · rw [hu]
    cases signOf x <;> simp [UnpackedFloat.compare, he]
  · simp [hu, UnpackedFloat.compare, he]
  · simp [hu, UnpackedFloat.compare, he]
  · rw [hu]
    cases signOf x <;> simp [UnpackedFloat.compare, he]
  · rw [hu, signOf]
    rcases hneg : isNegative x.toBits with _ | _
    · simp only [Bool.false_eq_true, if_false, UnpackedFloat.compare, beq_iff_eq,
        Option.some.injEq, Ordering.then_eq_eq, compare_eq_iff_eq, and_true]
      omega
    · simp [UnpackedFloat.compare]

/-- Only a real whose exponent field is full is no number or infinite. -/
theorem special_iff (x : Float) : (x.isNaN || x.isInf) = true ↔ exponentField x = 0x7FF := by
  change (x.toModel.unpack.isNaN || x.toModel.unpack.isInf) = true ↔ _
  rcases reading x with ⟨he, hu | hu⟩ | ⟨he, hf, hu⟩ | ⟨he, hf, hu⟩ | ⟨he, hlt, h, hu⟩
  · simp [hu, UnpackedFloat.isNaN, UnpackedFloat.isInf, he]
  · simp [hu, UnpackedFloat.isNaN, he]
  · simp [hu, UnpackedFloat.isNaN, UnpackedFloat.isInf, he]
  · simp [hu, UnpackedFloat.isNaN, UnpackedFloat.isInf, he]
  · have hne := hlt.ne
    simp [hu, UnpackedFloat.isNaN, UnpackedFloat.isInf, hne]

end Activation.Decimal
