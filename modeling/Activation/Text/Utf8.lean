import Activation.Text.Hexadecimal

/-!
# Reading UTF-8

Bytes are read one at a time. Between two bytes the reader is either **ready** for a new
character or **within** one, and then it knows which continuation bytes it still awaits. A
sequence is refused at the first byte that cannot continue it, so overlong forms, surrogates
and code points past U+10FFFF never become characters. A fault names the bytes that had been
accepted of the broken sequence and where they start.
-/

namespace Activation.Text.Utf8

/-- Why a sequence of bytes is refused. -/
inductive Reason where
  | invalidStart
  | invalidContinuation
  | unexpectedEnd
deriving DecidableEq

/-- How a reason is named in diagnostics. -/
def Reason.text : Reason → String
  | .invalidStart => "invalid start byte"
  | .invalidContinuation => "invalid continuation byte"
  | .unexpectedEnd => "unexpected end of data"

/-- A refused sequence: its bytes and the position of the first of them. -/
structure Fault where
  reason : Reason
  start : Nat
  bytes : List UInt8
deriving DecidableEq

/-- Where a refused sequence lies: a single byte is shown, a longer one is given by its
first and last position. -/
def Fault.place (fault : Fault) : String :=
  match fault.bytes with
  | [b] => "byte 0x" ++ String.ofList (hexDigits 2 b.toNat) ++ " in position "
      ++ toString fault.start
  | bytes => "bytes in position " ++ toString fault.start ++ "-"
      ++ toString (fault.start + bytes.length - 1)

/-- The diagnostic of a refused sequence. -/
def Fault.message (fault : Fault) : String :=
  "'utf-8' codec can't decode " ++ fault.place ++ ": " ++ fault.reason.text

/-- What is known within a character: the bits gathered so far, how many continuation bytes
are owed, and the bounds of the next one. -/
structure Pending where
  bits : Nat
  owed : Nat
  least : Nat
  greatest : Nat
deriving DecidableEq

/-- What the first byte of a character promises. The bounds of the second byte keep out
overlong forms, surrogates and code points past U+10FFFF. -/
def lead? (b : UInt8) : Option Pending :=
  let n := b.toNat
  if n < 0x80 then some ⟨n, 0, 0x80, 0xBF⟩
  else if n < 0xC2 then none
  else if n < 0xE0 then some ⟨n - 0xC0, 1, 0x80, 0xBF⟩
  else if n = 0xE0 then some ⟨0, 2, 0xA0, 0xBF⟩
  else if n = 0xED then some ⟨0xD, 2, 0x80, 0x9F⟩
  else if n < 0xF0 then some ⟨n - 0xE0, 2, 0x80, 0xBF⟩
  else if n = 0xF0 then some ⟨0, 3, 0x90, 0xBF⟩
  else if n < 0xF4 then some ⟨n - 0xF0, 3, 0x80, 0xBF⟩
  else if n = 0xF4 then some ⟨4, 3, 0x80, 0x8F⟩
  else none

/-- Between two bytes: before a character, or within one whose accepted bytes are kept for
the diagnostic. -/
inductive State where
  | ready
  | within (accepted : List UInt8) (pending : Pending)

/-- Read the bytes from position `position` on. -/
def decodeFrom (position : Nat) : State → List UInt8 → Except Fault (List Char)
  | .ready, [] => .ok []
  | .within accepted _, [] => .error ⟨.unexpectedEnd, position - accepted.length, accepted⟩
  | .ready, b :: rest =>
    match lead? b with
    | none => .error ⟨.invalidStart, position, [b]⟩
    | some pending =>
      if pending.owed = 0 then
        (decodeFrom (position + 1) .ready rest).map (Char.ofNat pending.bits :: ·)
      else decodeFrom (position + 1) (.within [b] pending) rest
  | .within accepted pending, b :: rest =>
    if pending.least ≤ b.toNat ∧ b.toNat ≤ pending.greatest then
      let bits := pending.bits * 64 + (b.toNat - 0x80)
      if pending.owed = 1 then
        (decodeFrom (position + 1) .ready rest).map (Char.ofNat bits :: ·)
      else
        decodeFrom (position + 1)
          (.within (accepted ++ [b]) ⟨bits, pending.owed - 1, 0x80, 0xBF⟩) rest
    else .error ⟨.invalidContinuation, position - accepted.length, accepted⟩

/-- The characters that some bytes stand for, or the first broken sequence. -/
def decode (bytes : List UInt8) : Except Fault (List Char) :=
  decodeFrom 0 .ready bytes

/-- The bytes that stand for some characters. -/
def encode (s : List Char) : List UInt8 :=
  s.flatMap String.utf8EncodeChar

/-- Half of a surrogate pair is refused at its second byte. -/
example : decode [0xED, 0xA0, 0x80] = .error ⟨.invalidContinuation, 0, [0xED]⟩ := rfl

end Activation.Text.Utf8
