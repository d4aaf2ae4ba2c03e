import Activation.Json.Literal
import Activation.Spelling.Canonical

/-!
# Property sources

A **source** answers look-ups of property keys. An exact source holds a table and finds a
property under the very key it was stored with. A canonical source holds a table too, tries the
key as it is, and then finds the property whose key has the same canonical form; where several
do, the first in the table. A custom source is any look-up that a caller supplies.

Tables hold texts. They are filled from properties of any kind when the source is made: null
counts as not set, every other value is stored in its plain form.

## Main statements

* `get?_index` — the index of a table finds the first of the keys with a canonical form.
-/

namespace Activation

/-- What a rule is evaluated against. -/
inductive Source where
  | exact (name : String) (table : Entries String)
  | canonical (name : String) (table : Entries String)
  | custom (title : String) (lookup : String → Option String)

namespace Source

/-- The text that a property value is stored as, if it is set. -/
def storedText : Json → Option String
  | .null => none
  | value => some value.plain

/-- The table of some properties. -/
def tableOf (properties : Entries Json) : Entries String :=
  properties.filterMap fun p => (storedText p.2).map (p.1, ·)

/-- The values of a table under the canonical forms of its keys. Where several keys share one,
the first is kept. -/
def index (table : Entries String) : Entries String :=
  table.foldl
    (fun found p =>
      if (found.get? (Spelling.canonical p.1)).isSome then found
      else found.put (Spelling.canonical p.1) p.2)
    []

/-- Look up a property. -/
def lookup : Source → String → Option String
  | .exact _ table, key => table.get? key
  | .canonical _ table, key =>
    match table.get? key with
    | some value => some value
    | none => (index table).get? (Spelling.canonical key)
  | .custom _ lookup, key => lookup key

/-- Whether a value is the key of a property that is set. -/
def contains (source : Source) : Json → Bool
  | .text key => (source.lookup key).isSome
  | _ => false

/-- The keys of a source's table, in their order. -/
def keys : Source → List String
  | .exact _ table => table.keys
  | .canonical _ table => table.keys
  | .custom _ _ => []

/-- The number of properties in a source's table. -/
def size (source : Source) : Nat :=
  source.keys.length

/-- The name of a source. -/
def name : Source → String
  | .exact name _ => name
  | .canonical name _ => name
  | .custom _ _ => "source"

/-- The title under which diagnostics show a source. -/
def title : Source → String
  | .exact _ _ => "MapPropertySource"
  | .canonical _ _ => "CanonicalMapPropertySource"
  | .custom title _ => title

/-- The two ways in which a source finds a property in its table. -/
inductive Scheme where
  | exact
  | canonical
deriving DecidableEq

/-- The name of a source that is given no other. -/
def Scheme.defaultName : Scheme → String
  | .exact => "map"
  | .canonical => "canonical"

/-- The source with a table. -/
def ofTable (scheme : Scheme) (name : String) (table : Entries String) : Source :=
  match scheme with
  | .exact => .exact name table
  | .canonical => .canonical name table

/-- The source of some properties, as they are now. -/
def ofProperties (scheme : Scheme) (name : Option String) (properties : Entries Json) : Source :=
  ofTable scheme (name.getD scheme.defaultName) (tableOf properties)

/-- How diagnostics show a source. -/
def describe (source : Source) : String :=
  source.title ++ "(name=" ++ Text.quoted source.name ++ ")"

/-! ### The first of several keys wins -/

/-- The first value of a table whose key has a given canonical form. -/
def firstLike (table : Entries String) (form : String) : Option String :=
  (table.find? fun p => Spelling.canonical p.1 == form).map (·.2)

theorem get?_index_aux (table found : Entries String) (form : String) :
    Entries.get?
        (table.foldl
          (fun found p =>
            if (Entries.get? found (Spelling.canonical p.1)).isSome then found
            else Entries.put found (Spelling.canonical p.1) p.2)
          found) form
      = (Entries.get? found form).or (firstLike table form) := by
  induction table generalizing found with
  | nil => simp [firstLike]
  | cons p rest ih =>
    rw [List.foldl_cons, ih, firstLike, firstLike, List.find?_cons]
    by_cases hf : Spelling.canonical p.1 = form
    · subst hf
      by_cases hs : (Entries.get? found (Spelling.canonical p.1)).isSome
      · obtain ⟨v, hv⟩ := Option.isSome_iff_exists.mp hs
        simp [hv]
      · have hn : Entries.get? found (Spelling.canonical p.1) = none := by simpa using hs
        simp [hn, Entries.get?_put]
    · have hb : (Spelling.canonical p.1 == form) = false := by simpa using hf
      rw [hb]
      split
      · rfl
      · rw [Entries.get?_put, if_neg hf]

/-- The index of a table finds the first of the keys with a canonical form. -/
theorem get?_index (table : Entries String) (form : String) :
    (index table).get? form = firstLike table form := by
  unfold index
  rw [get?_index_aux]
  simp [Entries.get?]

end Source

end Activation
