import Activation.Json.Token
import Activation.Text.Hexadecimal

/-!
# Strings in JSON text

A string runs to the next double quote that no backslash escapes. Control characters below
U+0020 must be escaped; an escape is a letter, or `u` with four hexadecimal digits, two of which
in a row can make up a surrogate pair. A string that is not closed is refused at its opening
quote, a wrong letter at its backslash, wrong digits at their `u`.

## Main statements

* `length_scanText_lt` — a string takes at least its closing quote.
-/

namespace Activation.Json

/-- The character of a code; half of a surrogate pair is replaced. -/
def ofCode (code : Nat) : Char :=
  if 0xD800 ≤ code ∧ code < 0xE000 then '\uFFFD' else Char.ofNat code

/-- Read the escape by code whose text after `\u` is given: the character, and how many
characters of the text after the backslash stand for it. A further character must follow, since
the string has to be closed. Two halves of a surrogate pair make one character. -/
def codeEscape (s : List Char) : Except Halt (Char × Nat) :=
  let refuse := Except.error (Halt.malformed .badCodeEscape ('u' :: s))
  if (s.drop 4).isEmpty then refuse
  else
    match Text.ofHexDigits? (s.take 4) with
    | none => refuse
    | some high =>
      match s.drop 4 with
      | '\\' :: 'u' :: t =>
        if 0xD800 ≤ high ∧ high < 0xDC00 ∧ ¬(t.drop 4).isEmpty then
          match Text.ofHexDigits? (t.take 4) with
          | none => .error (.malformed .badCodeEscape ('u' :: t))
          | some low =>
            if 0xDC00 ≤ low ∧ low < 0xE000 then
              .ok (Char.ofNat (0x10000 + (high - 0xD800) * 0x400 + (low - 0xDC00)), 11)
            else .ok (ofCode high, 5)
        else .ok (ofCode high, 5)
      | _ => .ok (ofCode high, 5)

/-- The character that a letter stands for after a backslash. -/
def letterEscape? : Char → Option Char
  | '"' => some '"'
  | '\\' => some '\\'
  | '/' => some '/'
  | 'b' => some '\x08'
  | 'f' => some '\x0c'
  | 'n' => some '\n'
  | 'r' => some '\r'
  | 't' => some '\t'
  | _ => none

/-- Read the escape whose text after the backslash is given. -/
def unescape (start : List Char) : List Char → Except Halt (Char × Nat)
  | [] => .error (.malformed .unterminatedText start)
  | c :: s =>
    if c = 'u' then codeEscape s
    else
      match letterEscape? c with
      | some d => .ok (d, 1)
      | none => .error (.malformed .badEscape ('\\' :: c :: s))

/-- Read a string up to its closing quote and return what follows that. `start` is the text
from the opening quote on; the next `skip` characters belong to an escape already read. -/
def scanText (start : List Char) : (skip : Nat) → List Char → Except Halt (List Char × List Char)
  | _, [] => .error (.malformed .unterminatedText start)
  | skip + 1, _ :: s => scanText start skip s
  | 0, c :: s =>
    if c = '"' then .ok ([], s)
    else if c = '\\' then
      match unescape start s with
      | .error halt => .error halt
      | .ok (d, n) => (scanText start n s).map fun r => (d :: r.1, r.2)
    else if c.toNat < 0x20 then .error (.malformed .controlCharacter (c :: s))
    else (scanText start 0 s).map fun r => (c :: r.1, r.2)

/-- A string takes at least its closing quote. -/
theorem length_scanText_lt {start s : List Char} {skip : Nat} {r : List Char × List Char}
    (h : scanText start skip s = .ok r) : r.2.length < s.length := by
  induction s generalizing skip r with
  | nil => simp [scanText] at h
  | cons c s ih =>
    have step : ∀ {n : Nat} {d : Char},
        ((scanText start n s).map fun q => (d :: q.1, q.2)) = .ok r →
          r.2.length < (c :: s).length := by
      intro n d hn
      cases hs : scanText start n s with
      | error halt => simp [hs, Except.map] at hn
      | ok q =>
        simp only [hs, Except.map, Except.ok.injEq] at hn
        have := ih hs
        subst hn
        simp only [List.length_cons]
        omega
    cases skip with
    | succ n =>
      have := ih (by simpa [scanText] using h)
      simp only [List.length_cons]
      omega
    | zero =>
      rw [scanText] at h
      split at h
      · simp only [Except.ok.injEq] at h
        subst h
        simp
      · split at h
        · split at h
          · simp at h
          · exact step h
        · split at h
          · simp at h
          · exact step h

end Activation.Json
