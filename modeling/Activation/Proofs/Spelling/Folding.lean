import Activation.Proofs.Text.LetterCase
import Activation.Spelling.Basic
import Activation.Spelling.Canonical

/-!
# Folding Keys

A key is **folded** by dropping its hyphens and underscores and making its ASCII capitals small,
one character at a time and without regard to segments. Folding forgets less than the canonical
form does, and the canonical form is a function of the folded key
(`canonicalChars_filterMap_fold`): the dots stay in place, so folding commutes with cutting a key
into segments, and within a segment lower case does not see ASCII letter case.

The kebab and the camel spelling of a name fold to the same key as the name. Each of the two only
adds or drops hyphens and changes ASCII letters, never anything else. So all spellings of a name
share one canonical form, behind any scope (`canonical_append_eq_of_mem_variants`).
-/

namespace Activation.Spelling

/-- What folding makes of a character: nothing of a hyphen or underscore, a small letter of an
ASCII capital. -/
def fold? (c : Char) : Option Char :=
  if isSignificant c then some c.toLower else none

/-- A key with hyphens, underscores and ASCII letter case disregarded. -/
def folded (key : List Char) : List Char :=
  key.filterMap fold?

@[simp] theorem folded_append (a b : List Char) : folded (a ++ b) = folded a ++ folded b :=
  List.filterMap_append

theorem folded_cons (c : Char) (rest : List Char) :
    folded (c :: rest) = folded [c] ++ folded rest :=
  folded_append [c] rest

@[simp] theorem folded_hyphen (rest : List Char) : folded ('-' :: rest) = folded rest := rfl

/-- Folding drops first and makes small then. -/
theorem folded_eq_map_filter (key : List Char) :
    folded key = (key.filter isSignificant).map Char.toLower := by
  rw [folded, ← List.filterMap_eq_map, List.filterMap_filter]
  rfl

/-! ### Single characters -/

/-- Making a letter small makes no separator of it, and no letter of a separator. -/
theorem isSignificant_toLower (c : Char) : isSignificant c.toLower = isSignificant c :=
  Text.toLower_cases (p := fun d c => isSignificant d = isSignificant c) (fun _ => rfl)
    (by decide) c

/-- A capital and its small letter fold alike. -/
theorem fold?_toLower (c : Char) : fold? c.toLower = fold? c := by
  rw [fold?, fold?, isSignificant_toLower, Char.toLower_toLower_eq_toLower]

/-- A small letter and its capital fold alike. -/
theorem fold?_toUpper (c : Char) : fold? c.toUpper = fold? c := by
  rw [← fold?_toLower c.toUpper, Char.toLower_toUpper_eq_toLower, fold?_toLower]

/-- A folded character is a full stop exactly if it was one. -/
theorem fold?_eq_dot_iff (c : Char) : fold? c = some '.' ↔ c = '.' := by
  have hdot : c.toLower = '.' ↔ c = '.' :=
    Text.toLower_cases (p := fun d c => d = '.' ↔ c = '.') (fun _ => Iff.rfl)
      (by decide) c
  constructor
  · intro h
    rw [fold?] at h
    split at h
    · exact hdot.mp (Option.some.inj h)
    · cases h
  · rintro rfl
    rfl

/-- Folding does not see whether capitals have been made small. -/
theorem folded_map_toLower (word : List Char) : folded (word.map Char.toLower) = folded word := by
  rw [folded, List.filterMap_map]
  exact congrArg (word.filterMap ·) (funext fold?_toLower)

/-! ### Segments -/

theorem segments_dot (rest : List Char) : segments ('.' :: rest) = [] :: segments rest := by
  simp [segments]

/-- A character other than the full stop begins the first segment of what follows. -/
theorem segments_cons {c : Char} (hc : c ≠ '.') {rest segment : List Char}
    {more : List (List Char)} (h : segments rest = segment :: more) :
    segments (c :: rest) = (c :: segment) :: more := by
  simp [segments, hc, h]

/-- A rewriting of single characters that keeps the full stops and makes no new ones may as well
be applied to the segments. -/
theorem segments_filterMap {f : Char → Option Char} (hf : ∀ c, f c = some '.' ↔ c = '.')
    (key : List Char) : segments (key.filterMap f) = (segments key).map (List.filterMap f) := by
  induction key with
  | nil => rfl
  | cons c rest ih =>
      obtain ⟨segment, more, hseg⟩ := List.exists_cons_of_ne_nil (segments_ne_nil rest)
      by_cases hc : c = '.'
      · subst hc
        rw [List.filterMap_cons_some ((hf '.').mpr rfl), segments_dot, segments_dot, ih]
        rfl
      · rw [segments_cons hc hseg]
        rw [hseg] at ih
        rcases hfc : f c with _ | d
        · rw [List.filterMap_cons_none hfc, ih, List.map_cons, List.map_cons,
            List.filterMap_cons_none hfc]
        · have hd : d ≠ '.' := fun h => hc ((hf c).mp (h ▸ hfc))
          rw [List.filterMap_cons_some hfc, segments_cons hd ih, List.map_cons,
            List.filterMap_cons_some hfc]

/-- A segment and its folded form have the same canonical form. -/
theorem canonicalSegment_folded (segment : List Char) :
    canonicalSegment (folded segment) = canonicalSegment segment := by
  have hfilter : (folded segment).filter isSignificant = folded segment := by
    rw [List.filter_eq_self, folded_eq_map_filter]
    intro d hd
    obtain ⟨c, hc, rfl⟩ := List.mem_map.mp hd
    rw [isSignificant_toLower]
    exact (List.mem_filter.mp hc).2
  rw [canonicalSegment, canonicalSegment, hfilter, folded_eq_map_filter, Text.lower_map_toLower]

/-- **The canonical form is a function of the folded key.** -/
theorem canonicalChars_folded (key : List Char) :
    canonicalChars (folded key) = canonicalChars key := by
  rw [canonicalChars, canonicalChars, folded, segments_filterMap fold?_eq_dot_iff, List.map_map]
  exact congrArg _ (List.map_congr_left fun segment _ => canonicalSegment_folded segment)

/-- Keys that fold alike have the same canonical form. -/
theorem canonical_eq_of_folded_eq {a b : String} (h : folded a.toList = folded b.toList) :
    canonical a = canonical b := by
  rw [canonical, canonical, ← canonicalChars_folded a.toList, h, canonicalChars_folded]

/-! ### The spellings of a name -/

/-- Making the capitals at the start of a word small does not change what it folds to. -/
theorem folded_lowerStart (word : List Char) : folded (lowerStart word) = folded word := by
  calc folded (lowerStart word)
      = folded (word.takeWhile Char.isUpper) ++ folded (word.dropWhile Char.isUpper) := by
        rw [lowerStart, folded_append, folded_map_toLower]
    _ = folded word := by
        rw [← folded_append, List.takeWhile_append_dropWhile]

/-- The kebab spelling of a name folds to the same key as the name. -/
theorem folded_kebabChars (name : List Char) : folded (kebabChars name) = folded name := by
  have hlater : ∀ later : List (List Char),
      folded (later.flatMap fun word => '-' :: lowerStart word) = folded later.flatten := by
    intro later
    induction later with
    | nil => rfl
    | cons word rest ih =>
        rw [List.flatMap_cons, List.flatten_cons, folded_append, folded_append, ih,
          folded_hyphen, folded_lowerStart]
  calc folded (kebabChars name)
      = folded ((words name).1 ++ (words name).2.flatten) := by
        rw [kebabChars, folded_append, hlater, folded_append]
    _ = folded name := by rw [words_flatten]

/-- The camel spelling of a name folds to the same key as the name. -/
theorem folded_camelChars (name : List Char) : folded (camelChars name) = folded name := by
  induction name using camelChars.induct with
  | case1 => rfl
  | case2 c => rfl
  | case3 c d rest h ih =>
      have hc : c = '-' := by
        simp only [Bool.and_eq_true, decide_eq_true_eq] at h
        exact h.1
      have hd : folded [d.toUpper] = folded [d] :=
        congrArg Option.toList (fold?_toUpper d)
      rw [camelChars, if_pos h, hc, folded_cons, ih, hd, folded_hyphen, ← folded_cons]
  | case4 c d rest h ih =>
      rw [camelChars, if_neg h, folded_cons, ih, ← folded_cons]

/-- All spellings of a name fold alike. -/
theorem folded_eq_of_mem_variants {name spelling : String} (h : spelling ∈ variants name) :
    folded spelling.toList = folded name.toList := by
  obtain rfl | rfl | rfl := mem_variants_iff.mp h
  · rfl
  · rw [toList_kebab, folded_kebabChars]
  · rw [toList_camel, folded_camelChars]

/-- Behind any scope, all spellings of a name have the same canonical form. -/
theorem canonical_append_eq_of_mem_variants {name spelling : String} (scope : String)
    (h : spelling ∈ variants name) : canonical (scope ++ spelling) = canonical (scope ++ name) := by
  apply canonical_eq_of_folded_eq
  rw [String.toList_append, String.toList_append, folded_append, folded_append,
    folded_eq_of_mem_variants h]

end Activation.Spelling
