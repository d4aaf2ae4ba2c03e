import Mathlib.Data.List.Infix
import Mathlib.Data.List.TakeWhile
import Mathlib.Tactic.SplitIfs
import Activation.Proofs.Json.RoundTrip

/-!
# Integers with Too Many Digits

Reading a text can stop for two reasons: the text is no JSON, or it holds an integer with more
digits than are allowed. The second one is found by the scanner of numbers, and by nothing else:
strings and the steps between lexemes are refused for their form only. So where reading stops at an
integer, a lexeme has stopped there (`exists_stopsAt_of_assemble`), that lexeme starts at some place
of the text (`exists_of_mem_lex`), and the digits stand at that place. That places are places of the
text takes one lemma for each scanner: it leaves the end of what it is given.

## Main statements

* `exists_digits_of_parse` — a text refused for an integer holds that many digits in a row.
* `parse_of_digits` — a numeral of too many digits is refused for them.
-/

namespace Activation.Json

/-! ### Lexemes are parts of the text -/

/-- What follows a word is the end of the text. -/
theorem suffix_of_after? {word s rest : List Char} (h : after? word s = some rest) :
    rest <:+ s := by
  induction word generalizing s with
  | nil => exact Option.some.inj h ▸ List.suffix_rfl
  | cons w word ih =>
      cases s with
      | nil => cases h
      | cons c s =>
          rw [after?] at h
          split at h
          · exact (ih h).trans (List.suffix_cons c s)
          · cases h

/-- What follows a value that is written by name is the end of the text. -/
theorem suffix_of_scanNamed {s : List Char} {r : Json × List Char} (h : scanNamed s = some r) :
    r.2 <:+ s := by
  obtain ⟨entry, -, hentry⟩ := List.exists_of_findSome?_eq_some h
  obtain ⟨rest, hrest, rfl⟩ := Option.map_eq_some_iff.mp hentry
  exact suffix_of_after? hrest

/-- What follows a sign is the end of the text. -/
theorem scanMinus_suffix (s : List Char) : (scanMinus s).2 <:+ s := by
  unfold scanMinus
  split
  · exact List.suffix_cons _ _
  · exact List.suffix_rfl

/-- The digits before the point and what follows them make up the text. -/
theorem scanWhole_append (s : List Char) : (scanWhole s).1 ++ (scanWhole s).2 = s := by
  unfold scanWhole
  split
  · rfl
  · exact List.takeWhile_append_dropWhile

/-- The digits before the point are digits. -/
theorem isDigit_of_mem_scanWhole {s : List Char} {c : Char} (h : c ∈ (scanWhole s).1) :
    c.isDigit = true := by
  unfold scanWhole at h
  split at h
  · obtain rfl := List.mem_singleton.mp h
    rfl
  · exact List.mem_takeWhile_imp h

/-- What follows a fraction is the end of the text. -/
theorem scanFraction_suffix (s : List Char) : (scanFraction s).2 <:+ s := by
  unfold scanFraction
  split
  · split
    · exact List.suffix_rfl
    · exact (List.dropWhile_suffix _).trans (List.suffix_cons _ _)
  · exact List.suffix_rfl

/-- What follows the sign of an exponent is the end of the text. -/
theorem scanSign_suffix (s : List Char) : (scanSign s).2 <:+ s := by
  unfold scanSign
  split
  · exact List.suffix_cons _ _
  · exact List.suffix_cons _ _
  · exact List.suffix_rfl

/-- What follows an exponent is the end of the text. -/
theorem scanExponent_suffix (s : List Char) : (scanExponent s).2 <:+ s := by
  unfold scanExponent
  split
  · rename_i e t
    split
    · dsimp only
      split
      · exact List.suffix_rfl
      · exact ((List.dropWhile_suffix _).trans (scanSign_suffix t)).trans (List.suffix_cons e t)
    · exact List.suffix_rfl
  · exact List.suffix_rfl

/-- What follows a number is the end of the text. -/
theorem suffix_of_scanNumber {s : List Char} {r : Except Halt Json × List Char}
    (h : scanNumber s = some r) : r.2 <:+ s := by
  have hwhole : (scanWhole (scanMinus s).2).2 <:+ s :=
    (scanWhole_append (scanMinus s).2 ▸ List.suffix_append _ _).trans (scanMinus_suffix s)
  have hrest : (scanExponent (scanFraction (scanWhole (scanMinus s).2).2).2).2 <:+ s :=
    ((scanExponent_suffix _).trans (scanFraction_suffix _)).trans hwhole
  unfold scanNumber at h
  dsimp only at h
  split_ifs at h <;> exact Option.some.inj h ▸ hrest

/-- A string with a character in front is read from there on, and is followed by the same. -/
theorem exists_of_map_eq_ok {outcome : Except Halt (List Char × List Char)} {d : Char}
    {r : List Char × List Char} (h : outcome.map (fun q => (d :: q.1, q.2)) = .ok r) :
    ∃ q, outcome = .ok q ∧ r.2 = q.2 := by
  cases outcome with
  | error halt => cases h
  | ok q =>
      cases h
      exact ⟨q, rfl, rfl⟩

/-- What follows a string is the end of the text. -/
theorem suffix_of_scanText {start s : List Char} {skip : Nat} {r : List Char × List Char}
    (h : scanText start skip s = .ok r) : r.2 <:+ s := by
  induction s generalizing skip r with
  | nil =>
      rw [scanText] at h
      cases h
  | cons c s ih =>
      have hcons : ∀ {q : List Char × List Char} {n : Nat}, scanText start n s = .ok q →
          q.2 <:+ c :: s := fun hq => (ih hq).trans (List.suffix_cons c s)
      cases skip with
      | succ n =>
          rw [scanText] at h
          exact hcons h
      | zero =>
          rw [scanText] at h
          split_ifs at h
          · exact Except.ok.inj h ▸ List.suffix_cons c s
          · split at h
            · cases h
            · obtain ⟨q, hq, hr⟩ := exists_of_map_eq_ok h
              exact hr ▸ hcons hq
          · obtain ⟨q, hq, hr⟩ := exists_of_map_eq_ok h
            exact hr ▸ hcons hq

/-- What follows a lexeme is the end of the text. -/
theorem firstLexeme_suffix (c : Char) (s : List Char) : (firstLexeme c s).2 <:+ c :: s := by
  unfold firstLexeme
  split
  · exact List.suffix_cons c s
  · split
    · split
      · rename_i h
        exact (suffix_of_scanText h).trans (List.suffix_cons c s)
      · exact List.nil_suffix
    · split
      · rename_i h
        exact suffix_of_scanNamed h
      · rename_i h
        exact suffix_of_scanNumber h
      · exact List.nil_suffix
      · exact List.nil_suffix

/-- **Every lexeme is the first one of an end of the text.** -/
theorem exists_of_mem_lex {s place : List Char} {lexeme : Lexeme} (h : (place, lexeme) ∈ lex s) :
    ∃ c t, place = c :: t ∧ place <:+ s ∧ lexeme = (firstLexeme c t).1 := by
  fun_induction lex s with
  | case1 s hblank => cases h
  | case2 s c t hplace ih =>
      have hsuffix : c :: t <:+ s := hplace ▸ List.dropWhile_suffix isSpace
      obtain heq | hmem := List.mem_cons.mp h
      · obtain ⟨rfl, rfl⟩ := Prod.mk.inj heq
        exact ⟨c, t, rfl, hsuffix, rfl⟩
      · obtain ⟨d, u, rfl, hd, hlexeme⟩ := ih hmem
        exact ⟨d, u, rfl, (hd.trans (firstLexeme_suffix c t)).trans hsuffix, hlexeme⟩

/-! ### What is read of an integer with too many digits -/

/-- An escape by code is not refused for an integer. -/
theorem codeEscape_ne_oversized (s : List Char) (digits : Nat) :
    codeEscape s ≠ .error (.oversized digits) := by
  intro h
  unfold codeEscape at h
  dsimp only at h
  repeat' split at h
  all_goals cases h

/-- An escape is not refused for an integer. -/
theorem unescape_ne_oversized (start s : List Char) (digits : Nat) :
    unescape start s ≠ .error (.oversized digits) := by
  intro h
  unfold unescape at h
  split at h
  · cases h
  · split at h
    · exact codeEscape_ne_oversized _ digits h
    · split at h <;> cases h

/-- A string is not refused for an integer. -/
theorem scanText_ne_oversized (start s : List Char) (skip digits : Nat) :
    scanText start skip s ≠ .error (.oversized digits) := by
  intro h
  induction s generalizing skip with
  | nil =>
      rw [scanText] at h
      cases h
  | cons c s ih =>
      have hmap : ∀ (d : Char) (n : Nat),
          (scanText start n s).map (fun q => (d :: q.1, q.2)) ≠ .error (.oversized digits) := by
        intro d n hn
        cases hs : scanText start n s with
        | ok q =>
            rw [hs] at hn
            cases hn
        | error halt =>
            rw [hs] at hn
            exact ih n (hs.trans hn)
      cases skip with
      | succ n =>
          rw [scanText] at h
          exact ih n h
      | zero =>
          rw [scanText] at h
          split at h
          · cases h
          split at h
          · split at h
            · rename_i halt hhalt
              cases h
              exact unescape_ne_oversized start s digits hhalt
            · exact hmap _ _ h
          split at h
          · cases h
          · exact hmap _ _ h

/-- **A number is refused only for its digits**: there are too many of them in front. -/
theorem exists_digits_of_scanNumber {s rest : List Char} {digits : Nat}
    (h : scanNumber s = some (.error (.oversized digits), rest)) :
    maxDigits < digits ∧
      ∃ numeral, numeral <:+: s ∧ numeral.length = digits ∧ ∀ c ∈ numeral, c.isDigit = true := by
  have hnumeral : (scanWhole (scanMinus s).2).1 <:+: s :=
    (scanWhole_append (scanMinus s).2 ▸ (List.prefix_append _ _).isInfix).trans
      (scanMinus_suffix s).isInfix
  unfold scanNumber at h
  dsimp only at h
  split at h
  · cases h
  split at h
  · split at h
    · rename_i hlong
      cases h
      exact ⟨hlong, _, hnumeral, rfl, fun c => isDigit_of_mem_scanWhole⟩
    · cases h
  · cases h

/-- A lexeme **stops at an integer** with some number of digits. -/
def Lexeme.StopsAt (digits : Nat) (lexeme : Lexeme) : Prop :=
  lexeme = .badText (.oversized digits) ∨ lexeme = .badScalar (.oversized digits)

/-- Where a lexeme stops at an integer, the integer stands in the text with too many digits. -/
theorem exists_digits_of_firstLexeme {c : Char} {s : List Char} {digits : Nat}
    (h : (firstLexeme c s).1.StopsAt digits) :
    maxDigits < digits ∧
      ∃ numeral, numeral <:+: c :: s ∧ numeral.length = digits ∧
        ∀ d ∈ numeral, d.isDigit = true := by
  unfold Lexeme.StopsAt firstLexeme at h
  split at h
  · simp at h
  · split at h
    · split at h
      · simp at h
      · rename_i halt hhalt
        obtain ⟨rfl⟩ : halt = .oversized digits := by simpa using h
        exact absurd hhalt (scanText_ne_oversized _ _ _ _)
    · split at h
      · simp at h
      · simp at h
      · rename_i halt rest _ hnumber
        obtain ⟨rfl⟩ : halt = .oversized digits := by simpa using h
        exact exists_digits_of_scanNumber hnumber
      · simp at h

/-- Where a value may start, reading is refused for an integer only by a lexeme that stops there. -/
theorem stopsAt_of_startValue {stack : List Frame} {place : List Char} {lexeme : Lexeme}
    {digits : Nat} (h : State.startValue stack place lexeme = .error (.oversized digits)) :
    lexeme.StopsAt digits := by
  unfold State.startValue at h
  split at h
  all_goals first
    | exact .inl (congrArg _ (Except.error.inj h))
    | exact .inr (congrArg _ (Except.error.inj h))
    | cases h

/-- So it is where a key must stand. -/
theorem stopsAt_of_startMember {members : Entries Json} {stack : List Frame} {place : List Char}
    {lexeme : Lexeme} {digits : Nat}
    (h : State.startMember members stack place lexeme = .error (.oversized digits)) :
    lexeme.StopsAt digits := by
  unfold State.startMember at h
  split at h
  · cases h
  · exact .inl (congrArg _ (Except.error.inj h))
  · cases h

/-- **A step is refused for an integer only by a lexeme that stops there.** -/
theorem stopsAt_of_step {state : State} {place : List Char} {lexeme : Lexeme} {digits : Nat}
    (h : state.step place lexeme = .error (.oversized digits)) : lexeme.StopsAt digits := by
  unfold State.step at h
  split at h
  all_goals first
    | exact stopsAt_of_startValue h
    | exact stopsAt_of_startMember h
    | cases h

/-- **A run is refused for an integer only by a lexeme that stops there.** -/
theorem exists_stopsAt_of_assemble {state : State} {lexemes : List (List Char × Lexeme)}
    {digits : Nat} (h : assemble state lexemes = .error (.oversized digits)) :
    ∃ p ∈ lexemes, p.2.StopsAt digits := by
  induction lexemes generalizing state with
  | nil =>
      rw [assemble] at h
      cases state <;> cases h
  | cons p lexemes ih =>
      rw [assemble] at h
      split at h
      · obtain ⟨q, hq, hstops⟩ := ih h
        exact ⟨q, List.mem_cons_of_mem p hq, hstops⟩
      · rename_i halt hstep
        cases h
        exact ⟨p, List.mem_cons_self, stopsAt_of_step hstep⟩

/-- **A text is refused for an integer only if it holds too many digits in a row**, as many as the
fault says. -/
theorem exists_digits_of_parse {s : List Char} {digits : Nat}
    (h : parse s = .error (.oversized digits)) :
    maxDigits < digits ∧
      ∃ numeral, numeral <:+: s ∧ numeral.length = digits ∧
        ∀ c ∈ numeral, c.isDigit = true := by
  have hassemble : assemble (.wantValue []) (lex s) = .error (.oversized digits) := by
    unfold parse at h
    split at h
    · cases h
    · cases hrun : assemble (.wantValue []) (lex s) with
      | ok value =>
          rw [hrun] at h
          cases h
      | error halt =>
          rw [hrun] at h
          cases halt with
          | malformed problem rest => cases h
          | oversized n =>
              cases h
              rfl
  obtain ⟨⟨place, lexeme⟩, hmem, hstops⟩ := exists_stopsAt_of_assemble hassemble
  obtain ⟨c, t, rfl, hplace, rfl⟩ := exists_of_mem_lex hmem
  obtain ⟨hlong, numeral, hnumeral, hlength, hdigits⟩ := exists_digits_of_firstLexeme hstops
  exact ⟨hlong, numeral, hnumeral.trans hplace.isInfix, hlength, hdigits⟩

/-! ### Numerals with too many digits -/

/-- The digits of a numeral are taken all, if there is no zero in front. -/
theorem scanWhole_digits {c : Char} {s : List Char} (hc : c ≠ '0')
    (hdigits : ∀ d ∈ c :: s, d.isDigit = true) : scanWhole (c :: s) = (c :: s, []) := by
  have htake : (c :: s).takeWhile Char.isDigit = c :: s :=
    List.takeWhile_eq_self_iff.mpr hdigits
  have hdrop : (c :: s).dropWhile Char.isDigit = [] := List.dropWhile_eq_nil_iff.mpr hdigits
  rw [scanWhole.eq_2 _ fun t ht => hc (List.cons.inj ht).1, htake, hdrop]

/-- **A numeral of too many digits is refused for them**, if there is no zero in front. -/
theorem parse_of_digits {c : Char} {s : List Char} (hc : c ≠ '0')
    (hdigits : ∀ d ∈ c :: s, d.isDigit = true) (hlong : maxDigits < (c :: s).length) :
    parse (c :: s) = .error (.oversized (c :: s).length) := by
  have hfirst : c.isDigit = true := hdigits c List.mem_cons_self
  have hnumber : scanNumber (c :: s) = some (.error (.oversized (c :: s).length), []) := by
    rw [scanNumber, scanMinus_digit hfirst]
    dsimp only
    rw [scanWhole_digits hc hdigits]
    exact if_pos hlong
  have hlexeme : firstLexeme c s = (.badScalar (.oversized (c :: s).length), []) := by
    obtain ⟨hpunctuation, hquote⟩ := punctuation?_of_startsNumber (.inr hfirst)
    rw [firstLexeme, hpunctuation]
    dsimp only
    rw [if_neg hquote, scanNamed_digit hfirst, hnumber]
  have hrun : assemble (.wantValue []) (lex (c :: s)) = .error (.oversized (c :: s).length) := by
    rw [lex_cons (isSpace_of_startsNumber (.inr hfirst)), hlexeme]
    rfl
  unfold parse
  split
  · rename_i hmark
    obtain ⟨rfl, -⟩ := List.cons.inj hmark
    exact absurd hfirst (by decide)
  · rw [hrun]
    rfl

end Activation.Json
