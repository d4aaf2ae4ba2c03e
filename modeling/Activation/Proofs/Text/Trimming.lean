import Mathlib.Data.List.DropRight
import Activation.Text.Blank

/-!
# Trimmed Texts

A text is **trimmed** when it has no blank at either end. Trimming yields a trimmed text and
leaves a trimmed text alone, so it is a projection onto the trimmed texts
(`trimmed_trim`, `trim_eq_self_iff`). Dropping at the end alone has the same two properties for
any class of characters. What blanks stand around a text makes no difference to what is left of it
(`trim_blanks_append`, `trim_append_blanks`).
-/

namespace Activation.Text

/-! ### Dropping at one end -/

/-- What is left after dropping at the front does not begin with a dropped character. -/
theorem head?_dropWhile_eq_false {p : Char → Bool} {s : List Char} {c : Char}
    (h : (s.dropWhile p).head? = some c) : p c = false := by
  have hhead := List.head?_dropWhile_not p s
  rwa [h] at hhead

/-- What is left after dropping at the end does not end with a dropped character. -/
theorem getLast?_dropEndWhile_eq_false {p : Char → Bool} {s : List Char} {c : Char}
    (h : (dropEndWhile p s).getLast? = some c) : p c = false := by
  rw [dropEndWhile, List.getLast?_reverse] at h
  exact head?_dropWhile_eq_false h

/-- A text that does not begin with a character to be dropped stays as it is. -/
theorem dropWhile_eq_self {p : Char → Bool} {s : List Char}
    (h : ∀ c, s.head? = some c → p c = false) : s.dropWhile p = s := by
  rcases s with _ | ⟨c, rest⟩
  · rfl
  · rw [List.dropWhile_cons, h c rfl]
    rfl

/-- A text that does not end with a character to be dropped stays as it is. -/
theorem dropEndWhile_eq_self {p : Char → Bool} {s : List Char}
    (h : ∀ c, s.getLast? = some c → p c = false) : dropEndWhile p s = s := by
  rw [dropEndWhile, dropWhile_eq_self, List.reverse_reverse]
  intro c hc
  exact h c (by rwa [List.head?_reverse] at hc)

/-- Dropping at the end leaves the beginning of a text. -/
theorem prefix_dropEndWhile (p : Char → Bool) (s : List Char) : dropEndWhile p s <+: s :=
  List.rdropWhile_prefix p s

/-- A text of which something is left begins as it did before dropping at the end. -/
theorem head?_eq_of_isPrefixed {s t : List Char} (h : s <+: t) {c : Char} (hc : s.head? = some c) :
    t.head? = some c := by
  obtain ⟨tail, rfl⟩ := h
  rw [List.head?_append, hc]
  rfl

/-! ### Trimming -/

/-- A text with no blank at either end. -/
structure Trimmed (s : List Char) : Prop where
  head : ∀ c, s.head? = some c → isBlank c = false
  last : ∀ c, s.getLast? = some c → isBlank c = false

/-- Trimming yields a trimmed text. -/
theorem trimmed_trim (s : List Char) : Trimmed (trim s) where
  head _ hc := head?_dropWhile_eq_false (head?_eq_of_isPrefixed (prefix_dropEndWhile _ _) hc)
  last _ hc := getLast?_dropEndWhile_eq_false hc

/-- **Trimming leaves exactly the trimmed texts alone.** -/
theorem trim_eq_self_iff {s : List Char} : trim s = s ↔ Trimmed s := by
  constructor
  · intro h
    exact h ▸ trimmed_trim s
  · intro h
    rw [trim, dropWhile_eq_self h.head, dropEndWhile_eq_self h.last]

/-- Trimming twice is trimming once. -/
theorem trim_trim (s : List Char) : trim (trim s) = trim s :=
  trim_eq_self_iff.mpr (trimmed_trim s)

/-- A trimmed text that is not empty is trimmed as well behind a text that does not begin with a
blank. -/
theorem Trimmed.append {s t : List Char} (hs : ∀ c, s.head? = some c → isBlank c = false)
    (ht : Trimmed t) (hne : t ≠ []) : Trimmed (s ++ t) where
  head c hc := by
    rcases s with _ | ⟨d, rest⟩
    · exact ht.head c hc
    · exact hs c hc
  last c hc := by
    rw [List.getLast?_append_of_ne_nil s hne] at hc
    exact ht.last c hc

/-! ### Blanks around a text -/

/-- Blanks in front of a text are dropped. -/
theorem trim_blanks_append {blanks : List Char} (h : ∀ c ∈ blanks, isBlank c = true)
    (s : List Char) : trim (blanks ++ s) = trim s := by
  rw [trim, trim, List.dropWhile_append_of_pos h]

/-- Characters to be dropped are dropped behind a text. -/
theorem dropEndWhile_append {p : Char → Bool} {tail : List Char} (h : ∀ c ∈ tail, p c = true)
    (s : List Char) : dropEndWhile p (s ++ tail) = dropEndWhile p s := by
  rw [dropEndWhile, dropEndWhile, List.reverse_append,
    List.dropWhile_append_of_pos fun c hc => h c (List.mem_reverse.mp hc)]

/-- Blanks behind a text are dropped. -/
theorem trim_append_blanks {blanks : List Char} (h : ∀ c ∈ blanks, isBlank c = true)
    (s : List Char) : trim (s ++ blanks) = trim s := by
  rw [trim, trim, List.dropWhile_append]
  split
  · -- nothing but blanks: whatever is left of those at the end is dropped there
    rename_i hempty
    rw [List.isEmpty_iff.mp hempty, ← List.nil_append (blanks.dropWhile isBlank)]
    exact dropEndWhile_append (fun c hc => h c ((List.dropWhile_suffix _).mem hc)) []
  · exact dropEndWhile_append h _

/-- A trimmed text is what is left of it with blanks around. -/
theorem trim_surrounded {before s after : List Char} (hbefore : ∀ c ∈ before, isBlank c = true)
    (hs : Trimmed s) (hafter : ∀ c ∈ after, isBlank c = true) :
    trim (before ++ s ++ after) = s := by
  rw [trim_append_blanks hafter, trim_blanks_append hbefore, trim_eq_self_iff.mpr hs]

/-- A text that is its own stripped form has no blank at either end. -/
theorem trimmed_of_stripped_eq_self {s : String} (h : stripped s = s) : Trimmed s.toList := by
  rw [← trim_eq_self_iff, ← toList_stripped, h]

/-- Stripping twice is stripping once. -/
@[simp] theorem stripped_stripped (s : String) : stripped (stripped s) = stripped s := by
  rw [stripped, toList_stripped, trim_trim, stripped]

end Activation.Text
