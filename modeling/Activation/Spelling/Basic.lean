/-!
# Spellings of a property name

A property may be written in camel case or in kebab case, and a relaxed rule tries both. Words
are told apart by ASCII letters and digits alone.

In camel case a **word starts** at a capital that follows a small letter or a digit, and at the
last capital of a run of capitals when a small letter follows it, so an acronym is one word.
The kebab spelling puts a hyphen before each word but the first and makes the capitals at its
start small. The camel spelling drops each hyphen before a letter or digit and makes that a
capital. The first word always keeps its letters.
-/

namespace Activation.Spelling

/-- Whether a word starts at `c`, given the characters around it. -/
def startsWord (before c : Char) (next : Option Char) : Bool :=
  ((before.isLower || before.isDigit) && c.isUpper)
    || (before.isUpper && c.isUpper && next.any Char.isLower)

/-- The first word of a name, and the further ones. -/
def words : List Char → List Char × List (List Char)
  | [] => ([], [])
  | [c] => ([c], [])
  | c :: d :: rest =>
    let later := words (d :: rest)
    if startsWord c d rest.head? then ([c], later.1 :: later.2) else (c :: later.1, later.2)

/-- A word with the capitals at its start made small. -/
def lowerStart (word : List Char) : List Char :=
  (word.takeWhile Char.isUpper).map Char.toLower ++ word.dropWhile Char.isUpper

/-- The kebab spelling of a name. -/
def kebabChars (name : List Char) : List Char :=
  (words name).1 ++ (words name).2.flatMap fun word => '-' :: lowerStart word

/-- The camel spelling of a name. -/
def camelChars : List Char → List Char
  | [] => []
  | [c] => [c]
  | c :: d :: rest =>
    if c = '-' && d.isAlphanum then d.toUpper :: camelChars rest else c :: camelChars (d :: rest)

/-- The kebab spelling of a name: `myURLProperty` becomes `my-url-property`. -/
def kebab (name : String) : String :=
  String.ofList (kebabChars name.toList)

/-- The camel spelling of a name: `my-property` becomes `myProperty`. -/
def camel (name : String) : String :=
  String.ofList (camelChars name.toList)

@[simp] theorem toList_kebab (name : String) : (kebab name).toList = kebabChars name.toList := by
  simp [kebab]

@[simp] theorem toList_camel (name : String) : (camel name).toList = camelChars name.toList := by
  simp [camel]

/-- The spellings of a name in the order in which they are tried, each once. -/
def variants (name : String) : List String :=
  [name, kebab name, camel name].eraseDups

/-- The words of a name make it up again. -/
theorem words_flatten : ∀ name : List Char, (words name).1 ++ (words name).2.flatten = name
  | [] => rfl
  | [_] => rfl
  | c :: d :: rest => by
    have ih := words_flatten (d :: rest)
    simp only [words]
    split <;> simpa using ih

/-- The name itself is the first of its spellings. -/
theorem head?_variants (name : String) : (variants name).head? = some name := by
  simp [variants, List.eraseDups_cons]

/-- The spellings of a name. -/
theorem mem_variants_iff {name spelling : String} :
    spelling ∈ variants name ↔ spelling = name ∨ spelling = kebab name ∨ spelling = camel name := by
  simp [variants]

end Activation.Spelling
