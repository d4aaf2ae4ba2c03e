import Mathlib.Algebra.Group.Nat.Defs
import Activation.Text.Utf8

/-!
# Characters from Their Bytes

The bytes of a character are a first byte and some continuation bytes, each of which carries the
next six bits of the code (`trailing`). The first byte has the bits in front of those, and it tells
their number; but it also sets bounds to the second byte, and these have to be met by every
character. A first byte with a `Pending` that fits the code in all of this **announces** it
(`Announces`), and each character is announced by the first of its bytes (`exists_announces`). Where
the bounds are not the common ones, they leave out overlong forms or surrogates, and it is the range
of the code that keeps the character inside.

Within a character the reader has gathered the bits in front, and reads the rest in as many steps as
there are bytes (`decodeFrom_within`). So every character is read back wherever it stands
(`decodeFrom_char`), and a text from its bytes.

## Main statements

* `decode_encode` — the bytes of a text are read as that text.
-/

namespace Activation.Text.Utf8

/-! ### Continuation bytes -/

/-- The continuation bytes of a code: the last `n` groups of six bits, most significant first. -/
def trailing (code : Nat) : (n : Nat) → List UInt8
  | 0 => []
  | n + 1 => UInt8.ofNat (code / 64 ^ n % 64 + 0x80) :: trailing code n

@[simp] theorem length_trailing (code n : Nat) : (trailing code n).length = n := by
  induction n with
  | zero => rfl
  | succ n ih => rw [trailing, List.length_cons, ih]

/-- The value of a byte that is written as a number below 256. -/
theorem toNat_ofNat {n : Nat} (h : n < 256) : (UInt8.ofNat n).toNat = n :=
  UInt8.toNat_ofNat_of_lt' h

/-- **Within a character the continuation bytes are read to its end**, if the first of them is
within the bounds set: the character has the bits gathered before and then those of the bytes. -/
theorem decodeFrom_within (code n : Nat) {pending : Pending} (howed : pending.owed = n + 1)
    (hleast : pending.least ≤ code / 64 ^ n % 64 + 0x80)
    (hgreatest : code / 64 ^ n % 64 + 0x80 ≤ pending.greatest)
    (position : Nat) (accepted rest : List UInt8) :
    decodeFrom position (.within accepted pending) (trailing code (n + 1) ++ rest) =
      (decodeFrom (position + (n + 1)) .ready rest).map
        (Char.ofNat (pending.bits * 64 ^ (n + 1) + code % 64 ^ (n + 1)) :: ·) := by
  -- on the bytes left to read: only the first of them has bounds of its own
  induction n generalizing pending position accepted with
  | zero =>
      rw [Nat.pow_zero, Nat.div_one] at hleast hgreatest
      rw [trailing, trailing, Nat.pow_zero, Nat.div_one, List.singleton_append, decodeFrom,
        toNat_ofNat (by omega), if_pos ⟨hleast, hgreatest⟩, if_pos howed, Nat.add_sub_cancel,
        Nat.zero_add, Nat.pow_one]
  | succ n ih =>
      have hbits : (pending.bits * 64 + code / 64 ^ (n + 1) % 64) * 64 ^ (n + 1)
            + code % 64 ^ (n + 1)
          = pending.bits * 64 ^ (n + 1 + 1) + code % 64 ^ (n + 1 + 1) := by
        rw [@Nat.mod_pow_succ code 64 (n + 1), Nat.add_mul, Nat.mul_assoc, ← Nat.pow_succ',
          Nat.mul_comm (code / _ % _), Nat.add_assoc, Nat.add_comm (code % _)]
      have hposition : position + 1 + (n + 1) = position + (n + 1 + 1) := by omega
      rw [trailing, List.cons_append, decodeFrom, toNat_ofNat (by omega),
        if_pos ⟨hleast, hgreatest⟩, if_neg (by omega), Nat.add_sub_cancel, ih _ _ _ _ _, hbits,
        hposition]
      · show pending.owed - 1 = n + 1
        omega
      · exact Nat.le_add_left _ _
      · show code / 64 ^ n % 64 + 0x80 ≤ 0xBF
        omega

/-! ### First bytes -/

/-- A byte **announces** a code with `n` continuation bytes: it promises just as many, has the bits
in front of theirs, and sets bounds that the first of them keeps. -/
structure Announces (lead : UInt8) (code n : Nat) (pending : Pending) : Prop where
  lead : lead? lead = some pending
  owed : pending.owed = n
  bits : pending.bits * 64 ^ n + code % 64 ^ n = code
  bounds : ∀ k, n = k + 1 →
    pending.least ≤ code / 64 ^ k % 64 + 0x80 ∧ code / 64 ^ k % 64 + 0x80 ≤ pending.greatest

/-- A code below 128 is announced by itself. -/
theorem announces_one {code : Nat} (h : code < 0x80) :
    Announces (UInt8.ofNat code) code 0 ⟨code, 0, 0x80, 0xBF⟩ where
  lead := by
    rw [lead?, toNat_ofNat (by omega)]
    exact if_pos h
  owed := rfl
  bits := by rw [Nat.pow_zero, Nat.mul_one, Nat.mod_one, Nat.add_zero]
  bounds := nofun

/-- Codes of two bytes are announced with the common bounds. -/
theorem announces_two {code : Nat} (hlow : 0x80 ≤ code) (hhigh : code < 0x800) :
    Announces (UInt8.ofNat (code / 64 + 0xC0)) code 1 ⟨code / 64, 1, 0x80, 0xBF⟩ where
  lead := by
    rw [lead?, toNat_ofNat (by omega)]
    rw [if_neg (by omega), if_neg (by omega), if_pos (by omega), Nat.add_sub_cancel]
  owed := rfl
  bits := by
    show code / 64 * 64 ^ 1 + code % 64 ^ 1 = code
    omega
  bounds k hk := by
    obtain rfl : k = 0 := by omega
    show 0x80 ≤ code / 64 ^ 0 % 64 + 0x80 ∧ code / 64 ^ 0 % 64 + 0x80 ≤ 0xBF
    omega

/-- Codes of three bytes are announced. The bounds of the second byte leave out the codes that two
bytes suffice for, and the surrogates. -/
theorem exists_announces_three {code : Nat} (hlow : 0x800 ≤ code) (hhigh : code < 0x10000)
    (hsurrogate : code < 0xD800 ∨ 0xDFFF < code) :
    ∃ pending, Announces (UInt8.ofNat (code / 4096 + 0xE0)) code 2 pending := by
  have hbits : code / 4096 * 64 ^ 2 + code % 64 ^ 2 = code := by omega
  have hpending : ∃ least greatest,
      lead? (UInt8.ofNat (code / 4096 + 0xE0)) = some ⟨code / 4096, 2, least, greatest⟩ ∧
        least ≤ code / 64 ^ 1 % 64 + 0x80 ∧ code / 64 ^ 1 % 64 + 0x80 ≤ greatest := by
    rw [lead?, toNat_ofNat (by omega), if_neg (by omega), if_neg (by omega), if_neg (by omega)]
    -- the first bytes 0xE0 and 0xED are the two that restrict the second one
    by_cases hfirst : code / 4096 = 0
    · exact ⟨0xA0, 0xBF, by rw [if_pos (by omega), hfirst], by omega, by omega⟩
    · by_cases hgap : code / 4096 = 0xD
      · exact ⟨0x80, 0x9F, by rw [if_neg (by omega), if_pos (by omega), hgap], by omega, by omega⟩
      · refine ⟨0x80, 0xBF, ?_, by omega, by omega⟩
        rw [if_neg (by omega), if_neg (by omega), if_pos (by omega), Nat.add_sub_cancel]
  obtain ⟨least, greatest, hlead, hbounds⟩ := hpending
  refine ⟨_, hlead, rfl, hbits, fun k hk => ?_⟩
  obtain rfl : k = 1 := by omega
  exact hbounds

/-- Codes of four bytes are announced. The bounds of the second byte leave out the codes that three
bytes suffice for, and those past the last character. -/
theorem exists_announces_four {code : Nat} (hlow : 0x10000 ≤ code) (hhigh : code < 0x110000) :
    ∃ pending, Announces (UInt8.ofNat (code / 262144 + 0xF0)) code 3 pending := by
  have hbits : code / 262144 * 64 ^ 3 + code % 64 ^ 3 = code := by omega
  have hpending : ∃ least greatest,
      lead? (UInt8.ofNat (code / 262144 + 0xF0)) = some ⟨code / 262144, 3, least, greatest⟩ ∧
        least ≤ code / 64 ^ 2 % 64 + 0x80 ∧ code / 64 ^ 2 % 64 + 0x80 ≤ greatest := by
    rw [lead?, toNat_ofNat (by omega), if_neg (by omega), if_neg (by omega), if_neg (by omega),
      if_neg (by omega), if_neg (by omega), if_neg (by omega)]
    -- and here they are 0xF0 and 0xF4
    by_cases hfirst : code / 262144 = 0
    · exact ⟨0x90, 0xBF, by rw [if_pos (by omega), hfirst], by omega, by omega⟩
    · by_cases hlast : code / 262144 = 4
      · refine ⟨0x80, 0x8F, ?_, by omega, by omega⟩
        rw [if_neg (by omega), if_neg (by omega), if_pos (by omega), hlast]
      · refine ⟨0x80, 0xBF, ?_, by omega, by omega⟩
        rw [if_neg (by omega), if_pos (by omega), Nat.add_sub_cancel]
  obtain ⟨least, greatest, hlead, hbounds⟩ := hpending
  refine ⟨_, hlead, rfl, hbits, fun k hk => ?_⟩
  obtain rfl : k = 2 := by omega
  exact hbounds

/-- **The first byte of every character announces it**, and the other bytes are those that are
announced. -/
theorem exists_announces (c : Char) :
    ∃ lead n pending, String.utf8EncodeChar c = lead :: trailing c.toNat n ∧
      Announces lead c.toNat n pending := by
  have hvalid : c.toNat < 0xD800 ∨ 0xDFFF < c.toNat ∧ c.toNat < 0x110000 := c.valid
  have hcode : c.val.toNat = c.toNat := rfl
  simp only [String.utf8EncodeChar, hcode]
  by_cases h₁ : c.toNat ≤ 0x7F
  · rw [if_pos h₁]
    exact ⟨_, 0, _, rfl, announces_one (by omega)⟩
  rw [if_neg h₁]
  by_cases h₂ : c.toNat ≤ 0x7FF
  · refine ⟨_, 1, _, ?_, announces_two (by omega) (by omega)⟩
    rw [if_pos h₂, Nat.mod_eq_of_lt (show c.toNat / 64 < 0x20 by omega)]
    simp only [trailing, Nat.pow_zero, Nat.div_one]
  rw [if_neg h₂]
  by_cases h₃ : c.toNat ≤ 0xFFFF
  · obtain ⟨pending, h⟩ := exists_announces_three (by omega) (by omega)
      (show c.toNat < 0xD800 ∨ 0xDFFF < c.toNat by omega)
    refine ⟨_, 2, pending, ?_, h⟩
    rw [if_pos h₃, Nat.mod_eq_of_lt (show c.toNat / 4096 < 0x10 by omega)]
    simp only [trailing, Nat.pow_zero, Nat.pow_one, Nat.div_one]
  · obtain ⟨pending, h⟩ := exists_announces_four (show 0x10000 ≤ c.toNat by omega) (by omega)
    refine ⟨_, 3, pending, ?_, h⟩
    rw [if_neg h₃, Nat.mod_eq_of_lt (show c.toNat / 262144 < 0x08 by omega)]
    simp only [trailing, Nat.reducePow, Nat.pow_zero, Nat.pow_one, Nat.div_one]

/-! ### Texts -/

/-- **Every character is read back** from its bytes, wherever it stands. -/
theorem decodeFrom_char (position : Nat) (c : Char) (rest : List UInt8) :
    decodeFrom position .ready (String.utf8EncodeChar c ++ rest) =
      (decodeFrom (position + (String.utf8EncodeChar c).length) .ready rest).map (c :: ·) := by
  obtain ⟨lead, n, pending, hbytes, hlead, howed, hbits, hbounds⟩ := exists_announces c
  rw [hbytes, List.cons_append, decodeFrom, hlead, List.length_cons, length_trailing]
  dsimp only
  cases n with
  | zero =>
      rw [Nat.pow_zero, Nat.mul_one, Nat.mod_one, Nat.add_zero] at hbits
      rw [if_pos howed, hbits, Char.ofNat_toNat]
      rfl
  | succ n =>
      obtain ⟨hleast, hgreatest⟩ := hbounds n rfl
      rw [if_neg (by omega), decodeFrom_within c.toNat n howed hleast hgreatest, hbits,
        Char.ofNat_toNat, Nat.add_assoc, Nat.add_comm 1]

/-- **A text is read back from its bytes**, from every position. -/
theorem decodeFrom_encode (position : Nat) (s : List Char) :
    decodeFrom position .ready (encode s) = .ok s := by
  induction s generalizing position with
  | nil => rfl
  | cons c s ih =>
      have hencode : encode (c :: s) = String.utf8EncodeChar c ++ encode s := List.flatMap_cons
      rw [hencode, decodeFrom_char, ih]
      rfl

/-- **The bytes of a text are read as that text.** -/
theorem decode_encode (s : List Char) : decode (encode s) = .ok s :=
  decodeFrom_encode 0 s

end Activation.Text.Utf8
