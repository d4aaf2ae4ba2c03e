import Mathlib.Data.List.Chain
import Activation.Proofs.Spelling.Segments

/-!
# Kebab Paths that Come Back from their Camel Spelling

The kebab spelling is meant to undo the camel spelling. Each hyphen of a **kebab path** is a joint,
so the way out drops them all, and the way back puts one wherever a word starts. Nothing else can
go wrong: a letter that has been made a capital is made small again where a word starts, and no
other letter is touched. So a path comes back exactly if a word starts at each of its joints.

A word starts at a capital only, so a word behind a joint has to begin with a letter. If the word
before the joint has two characters, or has not been made to begin with a capital because it is the
first, then a small letter or digit stands before the capital and this is enough. A word of a single
capital leaves the next one only the other way in which words start, with a small letter behind it.

## Main statements

* `kebabTail_joined_eq_iff` — when the words behind a character come back.
* `kebab_camel_eq_self_iff` — which kebab paths come back.
-/

namespace Activation.Spelling

/-- A small letter or a digit. -/
def IsSmall (c : Char) : Prop :=
  c.isLower = true ∨ c.isDigit = true

/-- A word of a kebab path: small letters and digits, at least one of them. -/
def IsWord (word : List Char) : Prop :=
  word ≠ [] ∧ ∀ c ∈ word, IsSmall c

/-- The words of a segment, which hyphens separate. -/
def hyphenated (segment : List Char) : List (List Char) :=
  segment.splitOn '-'

/-- A **kebab path** is made of segments between full stops, each made of words joined by single
hyphens. -/
def KebabPath (key : List Char) : Prop :=
  ∀ segment ∈ segments key, ∀ word ∈ hyphenated segment, IsWord word

/-- The words of a segment **keep apart** in camel case: every word after the first begins with a
letter, and a word of one character that is neither the first nor the last is followed by a word
whose second character is a small letter. -/
def KeepApart (words : List (List Char)) : Prop :=
  (∀ word ∈ words.tail, word.head?.any Char.isLower = true) ∧
    words.tail.IsChain fun word next => word.length = 1 → next[1]?.any Char.isLower = true

instance (c : Char) : Decidable (IsSmall c) :=
  inferInstanceAs (Decidable (_ ∨ _))

-- a character of a word is looked for in the word, and not among all characters
instance (word : List Char) : Decidable (IsWord word) :=
  @instDecidableAnd _ _ _ (List.decidableBAll IsSmall word)

instance (key : List Char) : Decidable (KebabPath key) :=
  inferInstanceAs (Decidable (∀ segment ∈ segments key, _))

instance (words : List (List Char)) : Decidable (KeepApart words) :=
  inferInstanceAs (Decidable (_ ∧ _))

/-- The text of some words, each behind a hyphen. -/
def joined (words : List (List Char)) : List Char :=
  words.flatMap ('-' :: ·)

/-! ### Single characters -/

theorem IsSmall.ne_hyphen {c : Char} (h : IsSmall c) : c ≠ '-' := by
  rintro rfl
  exact absurd h (by decide)

theorem IsSmall.isAlphanum {c : Char} (h : IsSmall c) : c.isAlphanum = true := by
  rcases h with h | h <;> simp [Char.isAlphanum, Char.isAlpha, h]

theorem IsSmall.isUpper {c : Char} (h : IsSmall c) : c.isUpper = false := by
  rcases hupper : c.isUpper with _ | _
  · rfl
  · obtain ⟨hlower, hdigit⟩ := not_isLower_and_not_isDigit_of_isUpper hupper
    rcases h with h | h
    · rw [hlower] at h
      cases h
    · rw [hdigit] at h
      cases h

/-- A small letter that has been made a capital is made small again. -/
theorem IsSmall.toLower_toUpper {c : Char} (h : IsSmall c) : c.toUpper.toLower = c := by
  rw [Char.toLower_toUpper_eq_toLower,
    Char.toLower_eq_of_not_isUpper (ne_true_of_eq_false h.isUpper)]

/-- A capital is made of a small letter, but not of a digit. -/
theorem IsSmall.isUpper_toUpper {c : Char} (h : IsSmall c) : c.toUpper.isUpper = c.isLower := by
  rw [Char.isUpper_toUpper_eq_isAlpha, Char.isAlpha, h.isUpper, Bool.false_or]

/-! ### The two passes behind a character -/

/-- A small character is kept behind any character, and the state of the pass changes. -/
theorem kebabTail_camelChars_cons {d : Char} (hd : IsSmall d) (low : Bool) (c : Char)
    (rest : List Char) :
    kebabTail low c (camelChars (d :: rest))
      = d :: kebabTail (low && c.isUpper) d (camelChars rest) := by
  have hkeep : camelChars (d :: rest) = d :: camelChars rest :=
    camelChars_cons fun h => hd.ne_hyphen h.1
  have hopens : opensAfter c (d :: camelChars rest) = false := startsWord_of_not_isUpper hd.isUpper
  have hsmall : smallIf (low && c.isUpper) d = d :=
    smallIf_eq_self_iff.mpr fun h => by
      rw [hd.isUpper] at h
      cases h.2
  rw [hkeep, kebabTail, hopens, if_neg Bool.false_ne_true, kebabPass, hsmall]
  rfl

/-- Small characters are kept, and the last of them is what stands before the rest. -/
theorem exists_kebabTail_camelChars_append {word : List Char} (hword : ∀ d ∈ word, IsSmall d)
    (low : Bool) (c : Char) (rest : List Char) :
    ∃ low', kebabTail low c (camelChars (word ++ rest))
      = word ++ kebabTail low' ((c :: word).getLast (List.cons_ne_nil c word))
          (camelChars rest) := by
  induction word generalizing low c with
  | nil => exact ⟨low, rfl⟩
  | cons d word ih =>
      obtain ⟨hd, hword⟩ := List.forall_mem_cons.mp hword
      obtain ⟨low', h⟩ := ih hword (low && c.isUpper) d
      refine ⟨low', ?_⟩
      rw [List.cons_append, kebabTail_camelChars_cons hd, h]
      rfl

/-- **A joint comes back exactly if a word starts there** and what stands behind it comes back. -/
theorem kebabTail_camelChars_joint_eq_iff {d : Char} (hd : IsSmall d) (low : Bool) (c : Char)
    (rest : List Char) :
    kebabTail low c (camelChars ('-' :: d :: rest)) = '-' :: d :: rest ↔
      opensAfter c (d.toUpper :: camelChars rest) = true ∧
        kebabTail true d.toUpper (camelChars rest) = rest := by
  rw [camelChars_joint hd.isAlphanum, kebabTail]
  rcases hopens : opensAfter c (d.toUpper :: camelChars rest) with _ | _
  · rw [if_neg Bool.false_ne_true, kebabPass, List.cons.injEq, smallIf_eq_hyphen_iff,
      toUpper_eq_hyphen_iff]
    exact iff_of_false (fun h => hd.ne_hyphen h.1) fun h => Bool.false_ne_true h.1
  · have hsmall : smallIf true d.toUpper = d := hd.toLower_toUpper
    rw [if_pos rfl, kebabPass, ← kebabTail, hsmall]
    simp

/-! ### Words that keep apart -/

/-- Behind a joint, the camel spelling of a word and the words after it begins with a small letter
exactly if the word does. -/
theorem any_isLower_head?_camelChars {word : List Char} (hword : ∀ d ∈ word, IsSmall d)
    {words : List (List Char)} (hwords : ∀ w ∈ words, IsWord w) :
    (camelChars (word ++ joined words)).head?.any Char.isLower = word.head?.any Char.isLower := by
  rcases word with _ | ⟨d, word⟩
  · rcases words with _ | ⟨next, words⟩
    · rfl
    · obtain ⟨hne, hsmall⟩ := hwords next List.mem_cons_self
      obtain ⟨e, more, rfl⟩ := List.exists_cons_of_ne_nil hne
      have hjoint : camelChars ('-' :: e :: (more ++ joined words))
          = e.toUpper :: camelChars (more ++ joined words) :=
        camelChars_joint (hsmall e List.mem_cons_self).isAlphanum _
      change (camelChars ('-' :: e :: (more ++ joined words))).head?.any Char.isLower = false
      rw [hjoint]
      exact Char.isLower_toUpper_eq_false e
  · have hkeep : camelChars (d :: (word ++ joined words))
        = d :: camelChars (word ++ joined words) :=
      camelChars_cons fun h => (hword d List.mem_cons_self).ne_hyphen h.1
    rw [List.cons_append, hkeep]
    rfl

/-- **Where a word starts behind a joint.** -/
theorem opensAfter_toUpper_iff {c d : Char} (hc : c.isUpper = true ∨ IsSmall c) (hd : IsSmall d)
    {word : List Char} (hword : ∀ d ∈ word, IsSmall d)
    {words : List (List Char)} (hwords : ∀ w ∈ words, IsWord w) :
    opensAfter c (d.toUpper :: camelChars (word ++ joined words)) = true ↔
      d.isLower = true ∧ (c.isUpper = true → word.head?.any Char.isLower = true) := by
  rcases hc with hc | hc
  · rw [opensAfter_of_isUpper hc, any_isLower_head?_camelChars hword hwords, hd.isUpper_toUpper,
      Bool.and_eq_true]
    simp [hc]
  · have hopens : opensAfter c (d.toUpper :: camelChars (word ++ joined words)) = d.isLower := by
      rw [opensAfter, startsWord, hc.isUpper, hd.isUpper_toUpper]
      rcases hc with hc | hc <;> simp [hc]
    rw [hopens, hc.isUpper]
    simp

/-- The last character of a word that has been made to begin with a capital is a capital or still a
small one. It is a capital only if the word has no other character, and then always if that one is
a letter. -/
theorem getLast_toUpper_cons {d : Char} (hd : IsSmall d) {word : List Char}
    (hword : ∀ e ∈ word, IsSmall e) :
    let last := (d.toUpper :: word).getLast (List.cons_ne_nil _ word)
    (last.isUpper = true ∨ IsSmall last) ∧
      (d.isLower = true → (last.isUpper = true ↔ (d :: word).length = 1)) := by
  intro last
  rcases word with _ | ⟨e, word⟩
  · have hlast : last = d.toUpper := rfl
    rw [hlast, hd.isUpper_toUpper]
    refine ⟨?_, fun hlower => iff_of_true hlower rfl⟩
    rcases hlower : d.isLower with _ | _
    · rw [Char.toUpper_eq_of_not_isLower (ne_true_of_eq_false hlower)]
      exact .inr hd
    · exact .inl rfl
  · have hsmall : IsSmall last := hword last (List.getLast_mem (List.cons_ne_nil e word))
    rw [hsmall.isUpper]
    exact ⟨.inr hsmall, fun _ => by simp⟩

/-- **When words behind a character come back.** -/
theorem kebabTail_joined_eq_iff {words : List (List Char)} (hwords : ∀ w ∈ words, IsWord w)
    {c : Char} (hc : c.isUpper = true ∨ IsSmall c) (low : Bool) :
    kebabTail low c (camelChars (joined words)) = joined words ↔
      (∀ word ∈ words, word.head?.any Char.isLower = true) ∧
        (words.IsChain fun word next => word.length = 1 → next[1]?.any Char.isLower = true) ∧
        (c.isUpper = true → ∀ next ∈ words.head?, next[1]?.any Char.isLower = true) := by
  -- on the words; the character says whether the word before them is a single capital
  induction words generalizing c low with
  | nil => exact iff_of_true rfl ⟨by simp, .nil, by simp⟩
  | cons word words ih =>
      obtain ⟨⟨hne, hsmall⟩, hmore⟩ := List.forall_mem_cons.mp hwords
      obtain ⟨d, rest, rfl⟩ := List.exists_cons_of_ne_nil hne
      obtain ⟨hd, hrest⟩ := List.forall_mem_cons.mp hsmall
      obtain ⟨hlast, hsingle⟩ := getLast_toUpper_cons hd hrest
      obtain ⟨low', hkept⟩ :=
        exists_kebabTail_camelChars_append hrest true d.toUpper (joined words)
      have hjoined : joined ((d :: rest) :: words) = '-' :: d :: (rest ++ joined words) := rfl
      rw [hjoined, kebabTail_camelChars_joint_eq_iff hd, opensAfter_toUpper_iff hc hd hrest hmore,
        hkept, List.append_right_inj, ih hmore hlast, List.forall_mem_cons, List.isChain_cons]
      have hsecond : (d :: rest)[1]? = rest.head? := by simp [List.head?_eq_getElem?]
      constructor
      · rintro ⟨⟨hletter, hnext⟩, hletters, hchain, hupper⟩
        refine ⟨⟨hletter, hletters⟩, ⟨fun next hmem hlength => ?_, hchain⟩,
          fun hcap next hmem => ?_⟩
        · exact hupper ((hsingle hletter).mpr hlength) next hmem
        · cases hmem
          rw [hsecond]
          exact hnext hcap
      · rintro ⟨⟨hletter, hletters⟩, ⟨hnext, hchain⟩, hupper⟩
        refine ⟨⟨hletter, fun hcap => ?_⟩, hletters, hchain, fun hcap next hmem => ?_⟩
        · rw [← hsecond]
          exact hupper hcap _ rfl
        · exact hnext next hmem ((hsingle hletter).mp hcap)

/-! ### Paths -/

/-- The words of a segment make it up again. -/
theorem intercalate_words (word : List Char) (words : List (List Char)) :
    List.intercalate ['-'] (word :: words) = word ++ joined words := by
  induction words generalizing word with
  | nil => simp [joined]
  | cons next words ih =>
      rw [List.intercalate_cons_cons, ih, List.append_assoc]
      rfl

/-- A segment comes back exactly if its words keep apart. -/
theorem kebabChars_camelChars_segment_eq_iff {segment : List Char}
    (h : ∀ word ∈ hyphenated segment, IsWord word) :
    kebabChars (camelChars segment) = segment ↔ KeepApart (hyphenated segment) := by
  obtain ⟨word, words, hwords⟩ := List.exists_cons_of_ne_nil (List.splitOn_ne_nil '-' segment)
  have hsegment : segment = word ++ joined words := by
    rw [← intercalate_words, ← hwords, List.intercalate_splitOn]
  change hyphenated segment = word :: words at hwords
  rw [hwords] at h ⊢
  obtain ⟨⟨hne, hsmall⟩, hmore⟩ := List.forall_mem_cons.mp h
  obtain ⟨c, rest, rfl⟩ := List.exists_cons_of_ne_nil hne
  obtain ⟨hc, hrest⟩ := List.forall_mem_cons.mp hsmall
  obtain ⟨low, hkept⟩ := exists_kebabTail_camelChars_append hrest false c (joined words)
  have hlast : IsSmall ((c :: rest).getLast (List.cons_ne_nil c rest)) :=
    hsmall _ (List.getLast_mem _)
  have hkeep : camelChars (c :: (rest ++ joined words)) = c :: camelChars (rest ++ joined words) :=
    camelChars_cons fun h => hc.ne_hyphen h.1
  have hpass : kebabChars (camelChars (c :: (rest ++ joined words)))
      = c :: kebabTail false c (camelChars (rest ++ joined words)) := by
    rw [hkeep, ← kebabPass_eq]
    rfl
  rw [hsegment, List.cons_append, hpass, hkept, List.cons.injEq, and_iff_right rfl,
    List.append_right_inj, kebabTail_joined_eq_iff hmore (.inr hlast), hlast.isUpper]
  simp [KeepApart]

/-- **The kebab paths that come back from their camel spelling** are those in which, in every
segment, each word after the first begins with a letter, and a word of one character that is neither
the first nor the last is followed by a word whose second character is a small letter. -/
theorem kebab_camel_eq_self_iff {path : String} (h : KebabPath path.toList) :
    kebab (camel path) = path ↔
      ∀ segment ∈ segments path.toList, KeepApart (hyphenated segment) := by
  have hboth : Segmentwise (kebabChars ∘ camelChars) :=
    segmentwise_kebabChars.comp segmentwise_camelChars
  rw [← String.toList_inj, toList_kebab, toList_camel]
  refine hboth.eq_self_iff.trans (forall₂_congr fun segment hsegment => ?_)
  exact kebabChars_camelChars_segment_eq_iff (h segment hsegment)

/-- A short word in the middle comes back where a small letter follows the capital of the next word,
and does not where none does; a word that begins with a digit does not come back at all. In the
other segments nothing is lost, not even short words at either end. -/
theorem kebab_camel_eq_self_iff_shortWords :
    KebabPath "x-my.a-b-cd.e".toList ∧ KebabPath "a-b-c".toList ∧ KebabPath "my-2-thing".toList ∧
      kebab (camel "x-my.a-b-cd.e") = "x-my.a-b-cd.e" ∧
      kebab (camel "a-b-c") ≠ "a-b-c" ∧ kebab (camel "my-2-thing") ≠ "my-2-thing" := by
  have hlong : KebabPath "x-my.a-b-cd.e".toList := by decide
  have hshort : KebabPath "a-b-c".toList := by decide
  have hdigit : KebabPath "my-2-thing".toList := by decide
  refine ⟨hlong, hshort, hdigit, (kebab_camel_eq_self_iff hlong).mpr (by decide), ?_, ?_⟩
  · exact fun h => absurd ((kebab_camel_eq_self_iff hshort).mp h) (by decide)
  · exact fun h => absurd ((kebab_camel_eq_self_iff hdigit).mp h) (by decide)

end Activation.Spelling
