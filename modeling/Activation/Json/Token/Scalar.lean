import Activation.Json.Token

/-!
# Names and numbers in JSON text

Null, the truth values and the reals that have no digits are written by name. Numbers follow the
JSON grammar and take the longest match; one without fraction and exponent is an integer, and
may have at most `maxDigits` digits.

## Main statements

* `length_scanNamed_lt`, `length_scanNumber_lt` — a value takes at least one character.
-/

namespace Activation.Json

/-! ### Names -/

/-- The text after a word, if it starts with that. -/
def after? : (word s : List Char) → Option (List Char)
  | [], s => some s
  | _ :: _, [] => none
  | w :: word, c :: s => if w = c then after? word s else none

/-- The values that have names. -/
def named : List (List Char × Json) :=
  [(['n', 'u', 'l', 'l'], .null),
   (['t', 'r', 'u', 'e'], .bool true),
   (['f', 'a', 'l', 's', 'e'], .bool false),
   (['N', 'a', 'N'], .real (Float.ofBits 0x7FF8000000000000)),
   (['I', 'n', 'f', 'i', 'n', 'i', 't', 'y'], .real (Float.ofBits 0x7FF0000000000000)),
   (['-', 'I', 'n', 'f', 'i', 'n', 'i', 't', 'y'], .real (Float.ofBits 0xFFF0000000000000))]

/-- Read a value by its name. -/
def scanNamed (s : List Char) : Option (Json × List Char) :=
  named.findSome? fun entry => (after? entry.1 s).map fun rest => (entry.2, rest)

/-! ### Numbers -/

/-- The sign of a number: whether a minus stands in front, and what follows. -/
def scanMinus : List Char → Bool × List Char
  | '-' :: s => (true, s)
  | s => (false, s)

/-- The digits before the point: a single zero, or digits that start with another one. -/
def scanWhole : List Char → List Char × List Char
  | '0' :: s => (['0'], s)
  | s => (s.takeWhile Char.isDigit, s.dropWhile Char.isDigit)

/-- The digits after a point. A point without a digit after it is no part of the number. -/
def scanFraction (s : List Char) : List Char × List Char :=
  match s with
  | '.' :: t =>
    if (t.takeWhile Char.isDigit).isEmpty then ([], s)
    else (t.takeWhile Char.isDigit, t.dropWhile Char.isDigit)
  | _ => ([], s)

/-- The sign of an exponent: whether it is a minus, and what follows. -/
def scanSign : List Char → Bool × List Char
  | '-' :: s => (true, s)
  | '+' :: s => (false, s)
  | s => (false, s)

/-- The exponent. A letter without a digit after it is no part of the number. -/
def scanExponent (s : List Char) : Option Int × List Char :=
  match s with
  | e :: t =>
    if e = 'e' ∨ e = 'E' then
      let sign := scanSign t
      let digits := sign.2.takeWhile Char.isDigit
      if digits.isEmpty then (none, s)
      else
        let value : Int := Nat.ofDigitChars 10 digits 0
        (some (if sign.1 then -value else value), sign.2.dropWhile Char.isDigit)
    else (none, s)
  | [] => (none, s)

/-- Read a number. -/
def scanNumber (s : List Char) : Option (Except Halt Json × List Char) :=
  let minus := scanMinus s
  let whole := scanWhole minus.2
  if whole.1.isEmpty then none
  else
    let fraction := scanFraction whole.2
    let exponent := scanExponent fraction.2
    if fraction.1.isEmpty && exponent.1.isNone then
      let value : Int := Nat.ofDigitChars 10 whole.1 0
      if whole.1.length > maxDigits then some (.error (.oversized whole.1.length), exponent.2)
      else some (.ok (.integer (if minus.1 then -value else value)), exponent.2)
    else
      let digits := Nat.ofDigitChars 10 (whole.1 ++ fraction.1) 0
      let scale := exponent.1.getD 0 - (fraction.1.length : Int)
      some (.ok (.real (Decimal.toFloat minus.1 digits scale)), exponent.2)

/-! ### Every value shortens the text -/

theorem length_after? {word s rest : List Char} (h : after? word s = some rest) :
    word.length + rest.length = s.length := by
  induction word generalizing s with
  | nil => simp only [after?, Option.some.injEq] at h; simp [h]
  | cons w word ih =>
    cases s with
    | nil => simp [after?] at h
    | cons c s =>
      rw [after?] at h
      split at h
      · have := ih h
        simp only [List.length_cons]
        omega
      · simp at h

theorem length_scanNamed_lt {s : List Char} {r : Json × List Char} (h : scanNamed s = some r) :
    r.2.length < s.length := by
  obtain ⟨entry, hm, he⟩ := List.exists_of_findSome?_eq_some h
  obtain ⟨rest, hr, rfl⟩ := Option.map_eq_some_iff.mp he
  have hw : 0 < entry.1.length := by
    simp only [named, List.mem_cons, List.not_mem_nil, or_false] at hm
    rcases hm with rfl | rfl | rfl | rfl | rfl | rfl <;> simp
  have := length_after? hr
  simp only
  omega

theorem length_dropWhile_le (p : Char → Bool) (s : List Char) :
    (s.dropWhile p).length ≤ s.length :=
  (List.dropWhile_suffix p).length_le

theorem length_scanMinus_le (s : List Char) : (scanMinus s).2.length ≤ s.length := by
  unfold scanMinus
  split <;> simp

theorem length_scanWhole_lt {s : List Char} (h : (scanWhole s).1.isEmpty = false) :
    (scanWhole s).2.length < s.length := by
  unfold scanWhole at h ⊢
  split
  · simp
  · rename_i s' _
    have hs := congrArg List.length (List.takeWhile_append_dropWhile (p := Char.isDigit) (l := s))
    have hp : 0 < (s.takeWhile Char.isDigit).length := by
      cases ht : s.takeWhile Char.isDigit with
      | nil => simp [ht] at h
      | cons a t => simp
    simp only [List.length_append] at hs
    show (s.dropWhile Char.isDigit).length < s.length
    omega

theorem length_scanFraction_le (s : List Char) : (scanFraction s).2.length ≤ s.length := by
  unfold scanFraction
  split
  · rename_i t
    split
    · exact Nat.le_refl _
    · have := length_dropWhile_le Char.isDigit t
      simp only [List.length_cons]
      omega
  · exact Nat.le_refl _

theorem length_scanSign_le (s : List Char) : (scanSign s).2.length ≤ s.length := by
  unfold scanSign
  split <;> simp

theorem length_scanExponent_le (s : List Char) : (scanExponent s).2.length ≤ s.length := by
  unfold scanExponent
  split
  · rename_i e t
    split
    · simp only
      split
      · exact Nat.le_refl _
      · have h₁ := length_scanSign_le t
        have h₂ := length_dropWhile_le Char.isDigit (scanSign t).2
        simp only [List.length_cons]
        omega
    · exact Nat.le_refl _
  · exact Nat.le_refl _

theorem length_scanNumber_lt {s : List Char} {r : Except Halt Json × List Char}
    (h : scanNumber s = some r) : r.2.length < s.length := by
  have key : ∀ {whole : List Char × List Char}, whole = scanWhole (scanMinus s).2 →
      whole.1.isEmpty = false →
      (scanExponent (scanFraction whole.2).2).2.length < s.length := by
    intro whole hw he
    have h₁ := length_scanMinus_le s
    have h₂ := length_scanWhole_lt (s := (scanMinus s).2) (by rw [← hw]; exact he)
    have h₃ := length_scanFraction_le whole.2
    have h₄ := length_scanExponent_le (scanFraction whole.2).2
    rw [← hw] at h₂
    omega
  simp only [scanNumber] at h
  split at h
  · simp at h
  · rename_i he
    have hl := key rfl (by simpa using he)
    split at h
    · split at h
      · simp only [Option.some.injEq] at h; subst h; exact hl
      · simp only [Option.some.injEq] at h; subst h; exact hl
    · simp only [Option.some.injEq] at h; subst h; exact hl

end Activation.Json
