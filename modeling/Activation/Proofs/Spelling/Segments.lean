import Activation.Proofs.Spelling.Folding
import Activation.Proofs.Spelling.Return

/-!
# Spellings, Segment by Segment

A full stop divides a key into segments, and neither spelling sees past one: no word starts at a
full stop or right behind it, the capitals made small at the start of a word end where it stands,
and no hyphen before it is a joint. So a key is respelled by respelling its segments one by one. A
rewriting of keys of which this is true is **segmentwise**. It commutes with cutting a key into
segments (`Segmentwise.segments_eq`), and the keys that it leaves alone are those whose segments it
leaves alone (`Segmentwise.eq_self_iff`).

## Main statements

* `segmentwise_kebabChars`, `segmentwise_camelChars` — the two spellings are segmentwise.
-/

namespace Activation.Spelling

/-- A rewriting of keys is **segmentwise** if it keeps every full stop, rewrites what stands before
and behind it on its own, and makes no new one. -/
structure Segmentwise (f : List Char → List Char) : Prop where
  append : ∀ body rest, f (body ++ '.' :: rest) = f body ++ '.' :: f rest
  dot : ∀ body, '.' ∈ f body ↔ '.' ∈ body

/-! ### Cutting at full stops -/

/-- A text without full stops is one segment. -/
theorem segments_of_not_mem {body : List Char} (h : '.' ∉ body) : segments body = [body] := by
  induction body with
  | nil => rfl
  | cons c rest ih =>
      obtain ⟨hc, hrest⟩ := not_or.mp fun hmem => h (List.mem_cons.mpr hmem)
      exact segments_cons (Ne.symm hc) (ih hrest)

/-- What stands before the first full stop is the first segment. -/
theorem segments_append_dot {body : List Char} (h : '.' ∉ body) (rest : List Char) :
    segments (body ++ '.' :: rest) = body :: segments rest := by
  induction body with
  | nil => exact segments_dot rest
  | cons c body ih =>
      obtain ⟨hc, hbody⟩ := not_or.mp fun hmem => h (List.mem_cons.mpr hmem)
      exact segments_cons (Ne.symm hc) (ih hbody)

/-- **Induction on segments.** What holds of every text without full stops, and of a key if it holds
of what stands behind the first full stop, holds of every key. -/
theorem segment_induction {p : List Char → Prop} (last : ∀ body, '.' ∉ body → p body)
    (more : ∀ body rest, '.' ∉ body → p rest → p (body ++ '.' :: rest)) (key : List Char) :
    p key := by
  by_cases hdot : '.' ∈ key
  · obtain ⟨body, rest, rfl, hbody⟩ := List.eq_append_cons_of_mem hdot
    exact more body rest hbody (segment_induction last more rest)
  · exact last key hdot
termination_by key.length

/-- **Cutting into segments commutes with a segmentwise rewriting.** -/
theorem Segmentwise.segments_eq {f : List Char → List Char} (hf : Segmentwise f)
    (key : List Char) : segments (f key) = (segments key).map f := by
  induction key using segment_induction with
  | last body hbody =>
      rw [segments_of_not_mem hbody, segments_of_not_mem (mt (hf.dot body).mp hbody),
        List.map_singleton]
  | more body rest hbody ih =>
      rw [hf.append, segments_append_dot hbody, segments_append_dot (mt (hf.dot body).mp hbody),
        ih, List.map_cons]

/-- **A segmentwise rewriting leaves alone the keys whose segments it leaves alone.** -/
theorem Segmentwise.eq_self_iff {f : List Char → List Char} (hf : Segmentwise f)
    {key : List Char} : f key = key ↔ ∀ segment ∈ segments key, f segment = segment := by
  constructor
  · intro h segment hsegment
    have hmap : (segments key).map f = (segments key).map id := by
      rw [← hf.segments_eq, h, List.map_id]
    exact List.map_eq_map_iff.mp hmap segment hsegment
  · intro h
    have hmap : (segments key).map f = (segments key).map id := List.map_eq_map_iff.mpr h
    rw [← intercalate_segments (f key), hf.segments_eq, hmap, List.map_id, intercalate_segments]

/-- Segmentwise rewritings can be done one after the other. -/
theorem Segmentwise.comp {f g : List Char → List Char} (hg : Segmentwise g) (hf : Segmentwise f) :
    Segmentwise (g ∘ f) where
  append body rest := by rw [Function.comp_apply, hf.append, hg.append]; rfl
  dot body := (hg.dot (f body)).trans (hf.dot body)

/-! ### The two spellings -/

/-- A folded key has a full stop exactly if the key has one. -/
theorem dot_mem_folded_iff {key : List Char} : '.' ∈ folded key ↔ '.' ∈ key := by
  simp only [folded, List.mem_filterMap, fold?_eq_dot_iff, exists_eq_right]

/-- Whether a word starts right after a character does not depend on what stands behind the next
full stop. -/
theorem opensAfter_append_dot (c : Char) (body rest : List Char) :
    opensAfter c (body ++ '.' :: rest) = opensAfter c body := by
  rcases body with _ | ⟨d, _ | ⟨e, more⟩⟩
  · exact startsWord_of_not_isUpper rfl
  · rfl
  · rfl

/-- No word starts right after a full stop. -/
theorem opensAfter_dot (rest : List Char) : opensAfter '.' rest = false := by
  cases rest <;> rfl

/-- The pass starts anew behind a full stop. -/
theorem kebabPass_append_dot (low : Bool) (body rest : List Char) :
    kebabPass low (body ++ '.' :: rest) = kebabPass low body ++ '.' :: kebabPass false rest := by
  induction body generalizing low with
  | nil =>
      have hdot : smallIf low '.' = '.' := by cases low <;> rfl
      have hlow : (low && Char.isUpper '.') = false := Bool.and_false low
      change kebabPass low ('.' :: rest) = '.' :: kebabPass false rest
      rw [kebabPass, opensAfter_dot, if_neg Bool.false_ne_true, hdot, hlow]
  | cons c body ih =>
      rw [List.cons_append, kebabPass, kebabPass, opensAfter_append_dot]
      split
      · rw [ih]
        rfl
      · rw [ih]
        rfl

/-- **The kebab spelling is segmentwise.** -/
theorem segmentwise_kebabChars : Segmentwise kebabChars where
  append body rest := by
    rw [← kebabPass_eq, ← kebabPass_eq, ← kebabPass_eq, kebabPass_append_dot]
  dot body := by
    rw [← dot_mem_folded_iff, folded_kebabChars, dot_mem_folded_iff]

/-- **The camel spelling is segmentwise.** -/
theorem segmentwise_camelChars : Segmentwise camelChars where
  append body rest := by
    have hdot : camelChars ('.' :: rest) = '.' :: camelChars rest :=
      camelChars_cons fun h => absurd h.1 (by decide)
    induction body using camelChars.induct with
    | case1 => exact hdot
    | case2 c =>
        have hc : camelChars (c :: '.' :: rest) = c :: camelChars ('.' :: rest) :=
          camelChars_cons fun h => absurd h.2 Bool.false_ne_true
        rw [List.singleton_append, hc, hdot]
        rfl
    | case3 c d body hdrop ih =>
        rw [List.cons_append, List.cons_append, camelChars, if_pos hdrop, ih, camelChars,
          if_pos hdrop]
        rfl
    | case4 c d body hkeep ih =>
        rw [List.cons_append] at ih
        rw [List.cons_append, List.cons_append, camelChars, if_neg hkeep, ih, camelChars,
          if_neg hkeep]
        rfl
  dot body := by
    rw [← dot_mem_folded_iff, folded_camelChars, dot_mem_folded_iff]

end Activation.Spelling
