import Mathlib.Tactic.SplitIfs
import Activation.Proofs.Text.Utf8

/-!
# Which Bytes are the Bytes of a Text

Reading succeeds on nothing but the bytes of texts. Whatever continuation bytes are accepted within
a character are those of the code that they and the bits in front make up
(`exists_trailing_of_decodeFrom`), and a first byte announces that code. So it remains to see that
an announced code is a character, and that the bytes read are the ones it is written with
(`Announces.encode_char`). The bounds of the second byte are just those that keep codes out which
have a shorter form, or which no character has, so the code lies in the range of those with as many
bytes (`Announces.range`).

## Main statements

* `decode_eq_ok_iff` — some bytes are read as a text exactly if they are the bytes of that text.
-/

namespace Activation.Text.Utf8

/-! ### First bytes -/

/-- The first bytes of characters, by the number of continuation bytes. The bounds that differ from
the common ones are those of the least and the greatest first byte of a number, and of the one that
the surrogates would have. -/
theorem lead?_cases {lead : UInt8} {pending : Pending} (h : lead? lead = some pending) :
    0x80 ≤ pending.least ∧ pending.greatest ≤ 0xBF ∧
    (pending.owed = 0 ∧ lead.toNat = pending.bits ∧ pending.bits < 0x80 ∨
      pending.owed = 1 ∧ lead.toNat = pending.bits + 0xC0 ∧
        2 ≤ pending.bits ∧ pending.bits < 0x20 ∨
      pending.owed = 2 ∧ lead.toNat = pending.bits + 0xE0 ∧ pending.bits < 0x10 ∧
        (pending.bits = 0 → 0xA0 ≤ pending.least) ∧
        (pending.bits = 0xD → pending.greatest ≤ 0x9F) ∨
      pending.owed = 3 ∧ lead.toNat = pending.bits + 0xF0 ∧ pending.bits < 5 ∧
        (pending.bits = 0 → 0x90 ≤ pending.least) ∧
        (pending.bits = 4 → pending.greatest ≤ 0x8F)) := by
  unfold lead? at h
  dsimp only at h
  split_ifs at h <;> obtain rfl := Option.some.inj h <;> dsimp only <;> omega

/-- **An announced code has as many bytes as are announced, and is a character:** it lies in the
range of the codes of that length, and the first byte has the bits in front. -/
theorem Announces.range {lead : UInt8} {code n : Nat} {pending : Pending}
    (h : Announces lead code n pending) :
    n = 0 ∧ lead.toNat = code ∧ code < 0x80 ∨
      n = 1 ∧ lead.toNat = code / 64 + 0xC0 ∧ 0x80 ≤ code ∧ code < 0x800 ∨
      n = 2 ∧ lead.toNat = code / 4096 + 0xE0 ∧ 0x800 ≤ code ∧ code < 0x10000 ∧
        (code < 0xD800 ∨ 0xDFFF < code) ∨
      n = 3 ∧ lead.toNat = code / 262144 + 0xF0 ∧ 0x10000 ≤ code ∧ code < 0x110000 := by
  obtain ⟨hlead, howed, hbits, hbounds⟩ := h
  obtain ⟨-, -, ⟨hn, hfirst, hbound⟩ | ⟨hn, hfirst, hleast, hbound⟩ |
    ⟨hn, hfirst, hbound, hleast, hgap⟩ | ⟨hn, hfirst, hbound, hleast, hlast⟩⟩ := lead?_cases hlead
  · obtain rfl : n = 0 := howed ▸ hn
    exact .inl ⟨rfl, by omega, by omega⟩
  · obtain rfl : n = 1 := howed ▸ hn
    exact .inr (.inl ⟨rfl, by omega, by omega, by omega⟩)
  · obtain rfl : n = 2 := howed ▸ hn
    -- the bounds of the second byte come in where the bits in front leave the range open
    obtain ⟨hlow, hhigh⟩ := hbounds 1 rfl
    exact .inr (.inr (.inl ⟨rfl, by omega, by omega, by omega, by omega⟩))
  · obtain rfl : n = 3 := howed ▸ hn
    obtain ⟨hlow, hhigh⟩ := hbounds 2 rfl
    exact .inr (.inr (.inr ⟨rfl, by omega, by omega, by omega⟩))

/-- A code is announced by one byte only, and with one number of continuation bytes. -/
theorem Announces.unique {code : Nat} {a b : UInt8} {m n : Nat} {p q : Pending}
    (ha : Announces a code m p) (hb : Announces b code n q) : a = b ∧ m = n := by
  have hrange := ha.range
  have hrange' := hb.range
  exact ⟨UInt8.toNat_inj.mp (by omega), by omega⟩

/-- **The bytes announced are those that the character is written with.** -/
theorem Announces.encode_char {lead : UInt8} {code n : Nat} {pending : Pending}
    (h : Announces lead code n pending) :
    String.utf8EncodeChar (Char.ofNat code) = lead :: trailing code n := by
  have hvalid : code.isValidChar := by
    have hrange := h.range
    show code < 0xD800 ∨ 0xDFFF < code ∧ code < 0x110000
    omega
  have hcode : (Char.ofNat code).toNat = code := by
    rw [Char.ofNat, dif_pos hvalid]
    rfl
  obtain ⟨first, m, pending', hbytes, hfirst⟩ := exists_announces (Char.ofNat code)
  rw [hcode] at hbytes hfirst
  obtain ⟨rfl, rfl⟩ := h.unique hfirst
  exact hbytes

/-! ### Continuation bytes -/

/-- A text that is read with a character in front is read from there on. -/
theorem exists_of_map_eq_ok {outcome : Except Fault (List Char)} {c : Char} {s : List Char}
    (h : outcome.map (c :: ·) = .ok s) : ∃ t, outcome = .ok t ∧ s = c :: t := by
  cases outcome with
  | error fault => cases h
  | ok t => exact ⟨t, rfl, (Except.ok.inj h).symm⟩

/-- A byte that is accepted within a character is within the bounds set. -/
theorem bounds_of_decodeFrom {position : Nat} {accepted bytes : List UInt8} {pending : Pending}
    {b : UInt8} {s : List Char}
    (h : decodeFrom position (.within accepted pending) (b :: bytes) = .ok s) :
    pending.least ≤ b.toNat ∧ b.toNat ≤ pending.greatest := by
  rw [decodeFrom] at h
  by_cases hbounds : pending.least ≤ b.toNat ∧ b.toNat ≤ pending.greatest
  · exact hbounds
  · rw [if_neg hbounds] at h
    cases h

/-- **The bytes accepted within a character are the continuation bytes of its code**, the code being
the one that has the bits gathered before in front. -/
theorem exists_trailing_of_decodeFrom (n : Nat) {pending : Pending} (howed : pending.owed = n + 1)
    (hleast : 0x80 ≤ pending.least) (hgreatest : pending.greatest ≤ 0xBF)
    {position : Nat} {accepted bytes : List UInt8} {s : List Char}
    (h : decodeFrom position (.within accepted pending) bytes = .ok s) :
    ∃ code rest t, code / 64 ^ (n + 1) = pending.bits ∧
      pending.least ≤ code / 64 ^ n % 64 + 0x80 ∧ code / 64 ^ n % 64 + 0x80 ≤ pending.greatest ∧
      bytes = trailing code (n + 1) ++ rest ∧ s = Char.ofNat code :: t ∧
      decodeFrom (position + (n + 1)) .ready rest = .ok t := by
  -- on the bytes owed, as in reading them: the last of them ends the character
  induction n generalizing pending position accepted bytes with
  | zero =>
      cases bytes with
      | nil => cases h
      | cons b bytes =>
          have hbounds := bounds_of_decodeFrom h
          rw [decodeFrom, if_pos hbounds, if_pos howed] at h
          obtain ⟨t, ht, rfl⟩ := exists_of_map_eq_ok h
          have hlast : (pending.bits * 64 + (b.toNat - 0x80)) / 64 ^ 0 % 64 + 0x80 = b.toNat := by
            omega
          refine ⟨_, bytes, t, by omega, by omega, by omega, ?_, rfl, ht⟩
          rw [trailing, trailing, hlast, UInt8.ofNat_toNat]
          rfl
  | succ n ih =>
      cases bytes with
      | nil => cases h
      | cons b bytes =>
          have hbounds := bounds_of_decodeFrom h
          rw [decodeFrom, if_pos hbounds, if_neg (by omega)] at h
          obtain ⟨code, rest, t, hbits, -, -, rfl, rfl, ht⟩ :=
            ih (show pending.owed - 1 = n + 1 by omega) (Nat.le_refl _) (Nat.le_refl _) h
          have hbits : code / 64 ^ (n + 1) = pending.bits * 64 + (b.toNat - 0x80) := hbits
          have hfirst : code / 64 ^ (n + 1) % 64 + 0x80 = b.toNat := by omega
          have hfront : code / 64 ^ (n + 1 + 1) = pending.bits := by
            rw [Nat.pow_succ, ← Nat.div_div_eq_div_mul]
            omega
          refine ⟨code, rest, t, hfront, by omega, by omega, ?_, rfl, ?_⟩
          · rw [trailing.eq_2 code (n + 1), hfirst, UInt8.ofNat_toNat]
            rfl
          · rw [Nat.add_comm (n + 1), ← Nat.add_assoc]
            exact ht

/-! ### Texts -/

/-- **What is read from some bytes starts with a character**, and the bytes with those that the
character is written with. -/
theorem exists_char_of_decodeFrom {position : Nat} {lead : UInt8} {bytes : List UInt8}
    {s : List Char} (h : decodeFrom position .ready (lead :: bytes) = .ok s) :
    ∃ c rest t position', lead :: bytes = String.utf8EncodeChar c ++ rest ∧ s = c :: t ∧
      decodeFrom position' .ready rest = .ok t := by
  rw [decodeFrom] at h
  cases hlead : lead? lead with
  | none =>
      rw [hlead] at h
      cases h
  | some pending =>
      rw [hlead] at h
      dsimp only at h
      cases howed : pending.owed with
      | zero =>
          rw [if_pos howed] at h
          obtain ⟨t, ht, rfl⟩ := exists_of_map_eq_ok h
          have hannounces : Announces lead pending.bits 0 pending :=
            ⟨hlead, howed, by omega, fun k hk => absurd hk (Nat.succ_ne_zero k).symm⟩
          exact ⟨_, bytes, t, _, by rw [hannounces.encode_char]; rfl, rfl, ht⟩
      | succ n =>
          rw [if_neg (by omega)] at h
          obtain ⟨hleast, hgreatest, -⟩ := lead?_cases hlead
          obtain ⟨code, rest, t, hbits, hlow, hhigh, rfl, rfl, ht⟩ :=
            exists_trailing_of_decodeFrom n howed hleast hgreatest h
          have hcode : pending.bits * 64 ^ (n + 1) + code % 64 ^ (n + 1) = code := by
            rw [← hbits, Nat.div_add_mod']
          have hannounces : Announces lead code (n + 1) pending := by
            refine ⟨hlead, howed, hcode, fun k hk => ?_⟩
            obtain rfl : n = k := Nat.succ.inj hk
            exact ⟨hlow, hhigh⟩
          exact ⟨_, rest, t, _, by rw [hannounces.encode_char]; rfl, rfl, ht⟩

/-- **Only the bytes of a text are read as that text**, from every position. -/
theorem eq_encode_of_decodeFrom {position : Nat} {bytes : List UInt8} {s : List Char}
    (h : decodeFrom position .ready bytes = .ok s) : bytes = encode s := by
  induction s generalizing position bytes with
  | nil =>
      cases bytes with
      | nil => rfl
      | cons lead bytes =>
          obtain ⟨_, _, _, _, _, hs, _⟩ := exists_char_of_decodeFrom h
          cases hs
  | cons c s ih =>
      cases bytes with
      | nil => cases h
      | cons lead bytes =>
          obtain ⟨_, rest, _, _, hbytes, heq, hrest⟩ := exists_char_of_decodeFrom h
          obtain ⟨rfl, rfl⟩ := List.cons.inj heq
          rw [hbytes, ih hrest]
          rfl

/-- **Some bytes are read as a text exactly if they are the bytes of that text.** -/
theorem decode_eq_ok_iff {bytes : List UInt8} {s : List Char} :
    decode bytes = .ok s ↔ bytes = encode s := by
  constructor
  · exact eq_encode_of_decodeFrom
  · rintro rfl
    exact decode_encode s

end Activation.Text.Utf8
