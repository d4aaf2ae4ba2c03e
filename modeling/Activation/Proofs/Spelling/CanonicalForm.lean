import Activation.Proofs.Spelling.Segments
import Activation.Proofs.Text.Lowered

/-!
# Canonical Keys

Canonical keys are made segment by segment, and the full stops between the segments stay where they
are. So the canonical form of two keys joined by a full stop is that of each joined by a full stop.
This is not true of making a whole key lower case at once, because a letter decides across full
stops how a sigma before it is written.

A key **is canonical** if its characters are settled and count within segments (`IsCanonical`). The
canonical form of a key is canonical, and a canonical key is its own canonical form. Hence taking
the canonical form twice changes nothing, and no hyphen and no underscore comes back.

## Main statements

* `canonicalChars_append_dot` — keys joined by a full stop.
* `canonicalChars_eq_self_iff` — the canonical keys are those that are their own canonical form.
* `canonical_exact` — the account of canonical forms.
-/

namespace Activation.Spelling

/-- A key **is canonical** if all its characters are their own lower-case form and none of them is a
hyphen or an underscore. -/
def IsCanonical (key : List Char) : Prop :=
  ∀ c ∈ key, Text.IsSettled c ∧ isSignificant c = true

/-! ### Segment by segment -/

/-- The canonical form of a text without full stops is that of a segment. -/
theorem canonicalChars_of_not_mem {body : List Char} (h : '.' ∉ body) :
    canonicalChars body = canonicalSegment body := by
  rw [canonicalChars, segments_of_not_mem h, List.map_singleton, List.intercalate_singleton]

/-- The first segment is brought into canonical form by itself. -/
theorem canonicalChars_segment_append {body : List Char} (h : '.' ∉ body) (rest : List Char) :
    canonicalChars (body ++ '.' :: rest) = canonicalSegment body ++ '.' :: canonicalChars rest := by
  obtain ⟨segment, more, hsegments⟩ := List.exists_cons_of_ne_nil (segments_ne_nil rest)
  rw [canonicalChars, segments_append_dot h, canonicalChars, hsegments, List.map_cons,
    List.map_cons, List.intercalate_cons_cons, List.append_assoc, List.singleton_append]

/-- **Keys joined by a full stop** are brought into canonical form each by itself. -/
theorem canonicalChars_append_dot (key rest : List Char) :
    canonicalChars (key ++ '.' :: rest) = canonicalChars key ++ '.' :: canonicalChars rest := by
  induction key using segment_induction with
  | last body hbody =>
      rw [canonicalChars_segment_append hbody, canonicalChars_of_not_mem hbody]
  | more body key hbody ih =>
      rw [List.append_assoc, List.cons_append, canonicalChars_segment_append hbody, ih,
        canonicalChars_segment_append hbody, List.append_assoc, List.cons_append]

/-- What stands in the canonical form of a segment before the small letters of ASCII stands in the
segment and counts there. -/
theorem mem_of_mem_canonicalSegment {segment : List Char} {c : Char}
    (h : c ∈ canonicalSegment segment) (hc : c.toNat < 97) :
    c ∈ segment ∧ isSignificant c = true :=
  List.mem_filter.mp (Text.mem_of_mem_lower h hc)

/-- The canonical form of a segment without full stops has none. -/
theorem dot_not_mem_canonicalSegment {body : List Char} (h : '.' ∉ body) :
    '.' ∉ canonicalSegment body :=
  fun hmem => h (mem_of_mem_canonicalSegment hmem (by decide)).1

/-- **A canonical form has as many full stops as the key.** -/
theorem count_dot_canonicalChars (key : List Char) :
    (canonicalChars key).count '.' = key.count '.' := by
  induction key using segment_induction with
  | last body hbody =>
      rw [canonicalChars_of_not_mem hbody, List.count_eq_zero.mpr hbody,
        List.count_eq_zero.mpr (dot_not_mem_canonicalSegment hbody)]
  | more body rest hbody ih =>
      rw [canonicalChars_segment_append hbody, List.count_append, List.count_append,
        List.count_cons_self, List.count_cons_self, ih, List.count_eq_zero.mpr hbody,
        List.count_eq_zero.mpr (dot_not_mem_canonicalSegment hbody)]

/-! ### Canonical keys -/

/-- The characters that do not count stand before the small letters of ASCII. -/
theorem toNat_lt_of_not_isSignificant {c : Char} (h : isSignificant c = false) : c.toNat < 97 := by
  have hseparator : c = '-' ∨ c = '_' := by
    simpa [isSignificant, imp_iff_not_or] using h
  obtain rfl | rfl := hseparator
  · decide
  · decide

/-- The canonical form of a segment is canonical. -/
theorem isCanonical_canonicalSegment (segment : List Char) :
    IsCanonical (canonicalSegment segment) := by
  intro c hc
  refine ⟨Text.isSettled_of_mem_lower hc, ?_⟩
  rcases hcount : isSignificant c with _ | _
  · have hmem := mem_of_mem_canonicalSegment hc (toNat_lt_of_not_isSignificant hcount)
    rw [hcount] at hmem
    exact hmem.2
  · rfl

/-- **The canonical form of a key is canonical.** -/
theorem isCanonical_canonicalChars (key : List Char) : IsCanonical (canonicalChars key) := by
  induction key using segment_induction with
  | last body hbody =>
      rw [canonicalChars_of_not_mem hbody]
      exact isCanonical_canonicalSegment body
  | more body rest hbody ih =>
      rw [canonicalChars_segment_append hbody]
      refine List.forall_mem_append.mpr
        ⟨isCanonical_canonicalSegment body, List.forall_mem_cons.mpr ⟨⟨?_, rfl⟩, ih⟩⟩
      show Text.lowerChar '.' = ['.']
      decide +kernel

/-- A canonical segment is its own canonical form. -/
theorem canonicalSegment_eq_self {segment : List Char} (h : IsCanonical segment) :
    canonicalSegment segment = segment := by
  have hfilter : segment.filter isSignificant = segment :=
    List.filter_eq_self.mpr fun c hc => (h c hc).2
  rw [canonicalSegment, hfilter, Text.lower_eq_self fun c hc => (h c hc).1]

/-- **The canonical keys are those that are their own canonical form.** -/
theorem canonicalChars_eq_self_iff {key : List Char} :
    canonicalChars key = key ↔ IsCanonical key := by
  constructor
  · intro h
    exact h ▸ isCanonical_canonicalChars key
  · intro h
    induction key using segment_induction with
    | last body hbody => rw [canonicalChars_of_not_mem hbody, canonicalSegment_eq_self h]
    | more body rest hbody ih =>
        obtain ⟨hsegment, hmore⟩ := List.forall_mem_append.mp h
        rw [canonicalChars_segment_append hbody, canonicalSegment_eq_self hsegment,
          ih (List.forall_mem_cons.mp hmore).2]

/-! ### Keys with one canonical form -/

/-- A recased key folds alike. -/
theorem folded_eq_of_recased {s t : List Char} (h : Text.Recased s t) : folded t = folded s := by
  rw [← folded_map_toLower t, h.map_toLower_eq, folded_map_toLower]

/-- **The account of canonical forms.** That of two keys joined by a full stop is that of each,
joined by a full stop. It stays the same when a hyphen or an underscore is inserted or dropped
anywhere and when ASCII letters are recased, and all spellings of a name share it. There is no
hyphen and no underscore in it and as many full stops as in the key, and it is its own canonical
form. -/
theorem canonical_exact (a b : String) :
    canonical (a ++ "." ++ b) = canonical a ++ "." ++ canonical b ∧
    canonical (a ++ "-" ++ b) = canonical (a ++ b) ∧
    canonical (a ++ "_" ++ b) = canonical (a ++ b) ∧
    (Text.Recased a.toList b.toList → canonical b = canonical a) ∧
    (∀ spelling ∈ variants a, canonical spelling = canonical a) ∧
    ('-' ∉ (canonical a).toList ∧ '_' ∉ (canonical a).toList) ∧
    (canonical a).toList.count '.' = a.toList.count '.' ∧
    canonical (canonical a) = canonical a := by
  have hseparator : ∀ separator : String, folded separator.toList = [] →
      canonical (a ++ separator ++ b) = canonical (a ++ b) := by
    intro separator h
    apply canonical_eq_of_folded_eq
    rw [String.toList_append, String.toList_append, String.toList_append, folded_append,
      folded_append, folded_append, h, List.append_nil]
  have hcanonical : IsCanonical (canonical a).toList := by
    rw [toList_canonical]
    exact isCanonical_canonicalChars a.toList
  refine ⟨?_, hseparator "-" rfl, hseparator "_" rfl, fun h => ?_, fun spelling h => ?_,
    ⟨fun h => ?_, fun h => ?_⟩, ?_, ?_⟩
  · have hdot : ".".toList = ['.'] := rfl
    rw [← String.toList_inj, toList_canonical, String.toList_append, String.toList_append,
      String.toList_append, String.toList_append, hdot, List.append_assoc, List.singleton_append,
      canonicalChars_append_dot, toList_canonical, toList_canonical, List.append_assoc,
      List.singleton_append]
  · exact canonical_eq_of_folded_eq (folded_eq_of_recased h)
  · exact canonical_eq_of_folded_eq (folded_eq_of_mem_variants h)
  · exact absurd (hcanonical '-' h).2 (by decide)
  · exact absurd (hcanonical '_' h).2 (by decide)
  · rw [toList_canonical, count_dot_canonicalChars]
  · rw [← String.toList_inj, toList_canonical]
    exact canonicalChars_eq_self_iff.mpr hcanonical

/-- The sigma before the full stop is the last letter of its segment, whatever follows. A hyphen
behind it, and another case of the letters of ASCII, make no difference to the key. -/
theorem canonical_exact_sigma :
    canonical ("my_ΟΔΟΣ" ++ "." ++ "URL") = canonical "my_ΟΔΟΣ" ++ "." ++ canonical "URL" ∧
      canonical "my_ΟΔΟΣ" = "myοδος" ∧
      canonical ("my_ΟΔΟΣ" ++ "-" ++ "URL") = canonical ("my_ΟΔΟΣ" ++ "URL") ∧
      Text.Recased "my_ΟΔΟΣ".toList "MY_ΟΔΟΣ".toList ∧
      canonical "MY_ΟΔΟΣ" = canonical "my_ΟΔΟΣ" ∧
      "my-url" ∈ variants "myUrl" ∧ canonical "my-url" = canonical "myUrl" := by
  have hcase : Text.Recased "my_ΟΔΟΣ".toList "MY_ΟΔΟΣ".toList := by
    unfold Text.Recased
    decide +kernel
  have hspelling : "my-url" ∈ variants "myUrl" := by decide +kernel
  obtain ⟨hjoined, hhyphen, -⟩ := canonical_exact "my_ΟΔΟΣ" "URL"
  obtain ⟨-, -, -, hrecased, -⟩ := canonical_exact "my_ΟΔΟΣ" "MY_ΟΔΟΣ"
  obtain ⟨-, -, -, -, hspellings, -⟩ := canonical_exact "myUrl" ""
  exact ⟨hjoined, by decide +kernel, hhyphen, hcase, hrecased hcase, hspelling,
    hspellings _ hspelling⟩

end Activation.Spelling
