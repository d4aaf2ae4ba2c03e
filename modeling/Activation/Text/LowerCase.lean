import Activation.Text.LetterTable

/-!
# Lower case

The full lower-case form of a text. It is not a map on characters: `İ` becomes two characters,
and a capital sigma becomes `ς` at the end of a word and `σ` elsewhere. A sigma **ends a word**
when a cased letter stands before it and none after it, case-ignorable characters being passed
over on both sides. The text is read once, carrying whether a cased letter stands before.
-/

namespace Activation.Text

/-- Whether a character is passed over when looking for a cased neighbour. -/
def isIgnorable (c : Char) : Bool :=
  ignorableRanges.contains c.toNat

/-- Whether a character that is not passed over is a cased letter. -/
def isCased (c : Char) : Bool :=
  casedRanges.contains c.toNat

/-- The lower-case form of a character that stands alone. -/
def lowerChar (c : Char) : List Char :=
  if c = 'İ' then ['i', '\u0307']
  else
    match lowerRuns.find? fun run => run.contains c.toNat with
    | some run => [Char.ofNat (run.target + (c.toNat - run.first))]
    | none => [c]

/-- Whether the next character that counts is a cased letter. -/
def casedNext (s : List Char) : Bool :=
  match s.dropWhile isIgnorable with
  | [] => false
  | c :: _ => isCased c

/-- Whether a cased letter stands before what follows `c`, given whether one stands
before `c`. -/
def casedAfter (before : Bool) (c : Char) : Bool :=
  if isIgnorable c then before else isCased c

/-- The lower-case form of a text, given whether a cased letter stands before it. -/
def lowerFrom (before : Bool) : List Char → List Char
  | [] => []
  | c :: rest =>
    (if c = 'Σ' then [if before && !casedNext rest then 'ς' else 'σ'] else lowerChar c)
      ++ lowerFrom (casedAfter before c) rest

/-- The lower-case form of a text. -/
def lower (s : List Char) : List Char :=
  lowerFrom false s

/-- The lower-case form of a string. -/
def lowered (s : String) : String :=
  String.ofList (lower s.toList)

@[simp] theorem toList_lowered (s : String) : (lowered s).toList = lower s.toList := by
  simp [lowered]

/-- The last sigma of a word takes its final form, an apostrophe after it notwithstanding. -/
example : lower ['Ο', 'Σ', 'Ο', 'Σ', '\u2019'] = ['ο', 'σ', 'ο', 'ς', '\u2019'] := by
  decide +kernel

end Activation.Text
