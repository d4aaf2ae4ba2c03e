import Activation.Text.LowerCase

/-!
# Canonical keys

Two keys name the same property in a canonical source when they differ only in hyphens,
underscores and letter case within their segments. The **canonical key** drops the first two
and makes each segment lower case. A full stop separates segments and is never dropped, and
since segments are lowered one by one, letters beyond a full stop do not decide how a sigma is
written.
-/

namespace Activation.Spelling

/-- The segments of a key, which full stops separate. -/
def segments : List Char → List (List Char)
  | [] => [[]]
  | c :: rest =>
    if c = '.' then [] :: segments rest
    else
      match segments rest with
      | [] => [[c]]
      | segment :: more => (c :: segment) :: more

/-- Whether a character counts within a segment. -/
def isSignificant (c : Char) : Bool :=
  c != '-' && c != '_'

/-- The canonical form of a segment. -/
def canonicalSegment (segment : List Char) : List Char :=
  Text.lower (segment.filter isSignificant)

/-- The canonical form of a key. -/
def canonicalChars (key : List Char) : List Char :=
  List.intercalate ['.'] ((segments key).map canonicalSegment)

/-- The canonical form of a key: that of `APP.my-property` is `app.myproperty`. -/
def canonical (key : String) : String :=
  String.ofList (canonicalChars key.toList)

@[simp] theorem toList_canonical (key : String) :
    (canonical key).toList = canonicalChars key.toList := by
  simp [canonical]

theorem segments_ne_nil (key : List Char) : segments key ≠ [] := by
  cases key with
  | nil => simp [segments]
  | cons c rest =>
    unfold segments
    split
    · simp
    · split <;> simp

/-- The segments joined again make up the key. -/
theorem intercalate_segments (key : List Char) :
    List.intercalate ['.'] (segments key) = key := by
  induction key with
  | nil => rfl
  | cons c rest ih =>
    have hne := segments_ne_nil rest
    unfold segments
    split
    · rename_i hc
      subst hc
      cases hs : segments rest with
      | nil => exact absurd hs hne
      | cons s more =>
        rw [hs] at ih
        simp [List.intercalate, List.intersperse] at ih ⊢
        exact ih
    · cases hs : segments rest with
      | nil => exact absurd hs hne
      | cons s more =>
        rw [hs] at ih
        cases more with
        | nil => simpa [List.intercalate, List.intersperse] using ih
        | cons t more => simpa [List.intercalate, List.intersperse] using ih

end Activation.Spelling
