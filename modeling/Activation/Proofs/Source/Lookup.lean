import Activation.Proofs.Source.Canonical

/-!
# Canonical Sources, Key by Key

A canonical source has two tables made one from the other: that of the keys as they were given, and
the index of their canonical forms. What it answers can be said without either of them, in terms of
the properties that it was made of (`Answers`): the value under the very key if that is set, else
the value of the first property that is set and has the canonical form of the key, else nothing.

First means first in the order of the properties, and that is the order in which their keys have
arrived. A property that was given twice stands where it was first given, with its last value. A
property that is null is passed over, and hides none of the others.

## Main statements

* `mem_tableOf_iff`, `firstLike_tableOf_eq_some_iff` — the two tables in terms of the properties.
* `lookup_eq_iff` — a canonical source answers as described.
* `canonical_of_pairs_exact` — the same for properties given as pairs, and what follows for the
  keys of the source.
-/

namespace Activation.Source

/-- **The answer of a canonical source** to a key, in terms of the properties it is made of. -/
inductive Answers (properties : Entries Json) (key : String) : Option String → Prop
  /-- the property under the key itself -/
  | own {value : Json} (hmem : (key, value) ∈ properties) (hset : value ≠ .null) :
      Answers properties key (some value.plain)
  /-- the first property that has the canonical form of the key, where nothing is set under the key
  itself -/
  | first {before after : Entries Json} {other : String} {value : Json}
      (hunset : ∀ own, (key, own) ∈ properties → own = .null)
      (hsplit : properties = before ++ (other, value) :: after) (hset : value ≠ .null)
      (hform : Spelling.canonical other = Spelling.canonical key)
      (hbefore : ∀ p ∈ before, p.2 ≠ .null → Spelling.canonical p.1 ≠ Spelling.canonical key) :
      Answers properties key (some value.plain)
  /-- nothing, where no property has the canonical form of the key -/
  | nothing (hnone : ∀ p ∈ properties, p.2 ≠ .null →
      Spelling.canonical p.1 ≠ Spelling.canonical key) :
      Answers properties key none

variable {properties : Entries Json} {key text : String}

/-! ### The table of some properties -/

/-- A value is stored, in its plain form, unless it is null. -/
theorem storedText_eq_some_iff {value : Json} :
    storedText value = some text ↔ value ≠ .null ∧ value.plain = text := by
  cases value <;> simp [storedText]

/-- Only null is not stored. -/
theorem storedText_eq_none_iff {value : Json} : storedText value = none ↔ value = .null := by
  cases value <;> simp [storedText]

/-- **What stands in the table of some properties:** those that are set, in their plain form. -/
theorem mem_tableOf_iff :
    (key, text) ∈ tableOf properties ↔
      ∃ value, (key, value) ∈ properties ∧ value ≠ .null ∧ value.plain = text := by
  simp only [tableOf, List.mem_filterMap, Option.map_eq_some_iff, storedText_eq_some_iff,
    Prod.mk.injEq]
  constructor
  · rintro ⟨⟨_, value⟩, hmem, _, hvalue, rfl, rfl⟩
    exact ⟨value, hmem, hvalue⟩
  · rintro ⟨value, hmem, hvalue⟩
    exact ⟨(key, value), hmem, text, hvalue, rfl, rfl⟩

/-- The keys of the table of some properties are among theirs, in the same order. -/
theorem keys_tableOf_sublist (properties : Entries Json) :
    (tableOf properties).keys.Sublist properties.keys := by
  have hpresent : tableOf properties
      = Entries.present (properties.map fun p => (p.1, storedText p.2)) := by
    rw [Entries.present, List.filterMap_map]
    rfl
  rw [hpresent, ← Entries.keys_map storedText properties]
  exact Entries.keys_present_sublist _

/-- Over distinct keys, a table yields what stands in it. -/
theorem get?_tableOf_eq_some_iff (h : properties.keys.Nodup) :
    (tableOf properties).get? key = some text ↔
      ∃ value, (key, value) ∈ properties ∧ value ≠ .null ∧ value.plain = text := by
  rw [Entries.get?_eq_some_iff_mem (h.sublist (keys_tableOf_sublist properties)), mem_tableOf_iff]

/-- Over distinct keys, a table yields nothing under a key that is not set. -/
theorem get?_tableOf_eq_none_iff (h : properties.keys.Nodup) :
    (tableOf properties).get? key = none ↔ ∀ value, (key, value) ∈ properties → value = .null := by
  rw [Option.eq_none_iff_forall_ne_some]
  simp only [ne_eq, get?_tableOf_eq_some_iff h, not_exists, not_and]
  constructor
  · intro hnone value hmem
    by_contra hset
    exact hnone _ value hmem hset rfl
  · intro hnull text value hmem hset
    exact absurd (hnull value hmem) hset

/-! ### The first property with a canonical form -/

/-- The first entry of the table with a canonical form comes from the first such property. -/
theorem firstLike_tableOf (properties : Entries Json) (form : String) :
    firstLike (tableOf properties) form = properties.findSome? fun p =>
      if Spelling.canonical p.1 = form then storedText p.2 else none := by
  induction properties with
  | nil => rfl
  | cons p rest ih =>
      rw [List.findSome?_cons, ← ih]
      rcases hstored : storedText p.2 with _ | value
      · have hskip : tableOf (p :: rest) = tableOf rest := by
          rw [tableOf, List.filterMap_cons, hstored]
          rfl
        rw [hskip, ite_self]
      · have hkeep : tableOf (p :: rest) = (p.1, value) :: tableOf rest := by
          rw [tableOf, List.filterMap_cons, hstored]
          rfl
        rw [hkeep, firstLike, List.find?_cons]
        by_cases hform : Spelling.canonical p.1 = form
        · rw [beq_iff_eq.mpr hform, if_pos hform]
          rfl
        · rw [beq_eq_false_iff_ne.mpr hform, if_neg hform]
          rfl

/-- A property is passed over exactly if it is null or has another canonical form. -/
theorem passedOver_iff {p : String × Json} {form : String} :
    (if Spelling.canonical p.1 = form then storedText p.2 else none) = none ↔
      (p.2 ≠ .null → Spelling.canonical p.1 ≠ form) := by
  by_cases hform : Spelling.canonical p.1 = form
  · simp [hform, storedText_eq_none_iff]
  · simp [hform]

/-- **The index finds the first property with a canonical form that is set.** -/
theorem firstLike_tableOf_eq_some_iff {form : String} :
    firstLike (tableOf properties) form = some text ↔
      ∃ before other value after, properties = before ++ (other, value) :: after ∧
        value ≠ .null ∧ value.plain = text ∧ Spelling.canonical other = form ∧
        ∀ p ∈ before, p.2 ≠ .null → Spelling.canonical p.1 ≠ form := by
  rw [firstLike_tableOf, List.findSome?_eq_some_iff]
  simp only [passedOver_iff]
  constructor
  · rintro ⟨before, ⟨other, value⟩, after, hsplit, hfound, hbefore⟩
    split at hfound
    · rename_i hform
      obtain ⟨hset, htext⟩ := storedText_eq_some_iff.mp hfound
      exact ⟨before, other, value, after, hsplit, hset, htext, hform, hbefore⟩
    · cases hfound
  · rintro ⟨before, other, value, after, hsplit, hset, htext, hform, hbefore⟩
    refine ⟨before, (other, value), after, hsplit, ?_, hbefore⟩
    rw [if_pos hform, storedText_eq_some_iff]
    exact ⟨hset, htext⟩

/-- The index finds nothing exactly if no property that is set has the canonical form. -/
theorem firstLike_tableOf_eq_none_iff {form : String} :
    firstLike (tableOf properties) form = none ↔
      ∀ p ∈ properties, p.2 ≠ .null → Spelling.canonical p.1 ≠ form := by
  rw [firstLike_tableOf, List.findSome?_eq_none_iff]
  exact forall₂_congr fun p _ => passedOver_iff

/-! ### Look-up -/

/-- The answer of a canonical source is as described. -/
theorem answers_lookup (h : properties.keys.Nodup) (name : String) (key : String) :
    Answers properties key ((Source.canonical name (tableOf properties)).lookup key) := by
  rw [lookup_canonical_eq]
  cases hown : (tableOf properties).get? key with
  | some text =>
      obtain ⟨value, hmem, hset, rfl⟩ := (get?_tableOf_eq_some_iff h).mp hown
      exact .own hmem hset
  | none =>
      rw [Option.none_or]
      cases hfirst : firstLike (tableOf properties) (Spelling.canonical key) with
      | some text =>
          obtain ⟨before, other, value, after, hsplit, hset, rfl, hform, hbefore⟩ :=
            firstLike_tableOf_eq_some_iff.mp hfirst
          exact .first ((get?_tableOf_eq_none_iff h).mp hown) hsplit hset hform hbefore
      | none => exact .nothing (firstLike_tableOf_eq_none_iff.mp hfirst)

/-- **A canonical source answers as described**, and in no other way. -/
theorem lookup_eq_iff (h : properties.keys.Nodup) (name : String) {answer : Option String} :
    (Source.canonical name (tableOf properties)).lookup key = answer ↔
      Answers properties key answer := by
  constructor
  · rintro rfl
    exact answers_lookup h name key
  · intro hanswer
    rw [lookup_canonical_eq]
    cases hanswer with
    | own hmem hset =>
        rw [(get?_tableOf_eq_some_iff h).mpr ⟨_, hmem, hset, rfl⟩, Option.some_or]
    | first hunset hsplit hset hform hbefore =>
        rw [(get?_tableOf_eq_none_iff h).mpr hunset, Option.none_or]
        exact firstLike_tableOf_eq_some_iff.mpr ⟨_, _, _, _, hsplit, hset, rfl, hform, hbefore⟩
    | nothing hnone =>
        have hunset : (tableOf properties).get? key = none := by
          refine (get?_tableOf_eq_none_iff h).mpr fun value hmem => ?_
          by_contra hset
          exact hnone (key, value) hmem hset rfl
        rw [hunset, Option.none_or, firstLike_tableOf_eq_none_iff.mpr hnone]

/-- A canonical source has a key exactly if some key of its table shares the canonical form. -/
theorem contains_canonical_iff (name : String) (table : Entries String) (key : String) :
    (Source.canonical name table).contains (.text key) = true ↔
      ∃ other ∈ table.keys, Spelling.canonical other = Spelling.canonical key := by
  have hnone := lookup_canonical_eq_none_iff name table key
  rw [contains, Option.isSome_iff_ne_none, ne_eq, hnone]
  simp [Entries.keys]

/-- **What a canonical source answers that is made of pairs.** Its properties have each key once,
where it first arrived, with the value that it was last given. The answer to a key is the value of
its own property if that is set, else of the first one set that has its canonical form, else none.
So a key is contained exactly if a stored key shares its canonical form. The stored keys are those
of the properties that are set, and each finds its own value; they are distinct, and as many as the
size says. Whatever an exact source over the same properties finds, the canonical one finds
alike. -/
theorem canonical_of_pairs_exact (pairs : List (String × Json)) (name : Option String) :
    let properties := Entries.ofList pairs
    let source := Source.ofProperties .canonical name properties
    let plain := Source.ofProperties .exact name properties
    (properties.keys = (pairs.map (·.1)).eraseDups ∧
      ∀ key value, (key, value) ∈ properties ↔
        ∃ before after, pairs = before ++ (key, value) :: after ∧ ∀ p ∈ after, p.1 ≠ key) ∧
    (∀ key answer, source.lookup key = answer ↔ Answers properties key answer) ∧
    (∀ key, source.contains (.text key) = true ↔
      ∃ other ∈ source.keys, Spelling.canonical other = Spelling.canonical key) ∧
    (∀ key, key ∈ source.keys ↔ ∃ value, (key, value) ∈ properties ∧ value ≠ .null ∧
      source.lookup key = some value.plain) ∧
    source.keys.Nodup ∧ source.size = source.keys.length ∧
    (∀ key value, plain.lookup key = some value → source.lookup key = some value) := by
  intro properties source plain
  have hkeys : properties.keys.Nodup := Entries.nodup_keys_ofList pairs
  have hlookup : ∀ key answer, source.lookup key = answer ↔ Answers properties key answer :=
    fun key answer => lookup_eq_iff hkeys _
  refine ⟨⟨Entries.keys_ofList pairs, fun key value => ?_⟩, hlookup,
    contains_canonical_iff _ _, fun key => ⟨fun hkey => ?_, ?_⟩, ?_, rfl,
    fun key value hplain => ?_⟩
  · rw [← Entries.get?_eq_some_iff_mem hkeys, Entries.get?_ofList_eq_some_iff]
  · obtain ⟨⟨_, text⟩, hmem, rfl⟩ := List.mem_map.mp hkey
    obtain ⟨value, hmem, hset, -⟩ := mem_tableOf_iff.mp hmem
    exact ⟨value, hmem, hset, (hlookup _ _).mpr (.own hmem hset)⟩
  · rintro ⟨value, hmem, hset, -⟩
    exact List.mem_map.mpr ⟨(key, value.plain), mem_tableOf_iff.mpr ⟨value, hmem, hset, rfl⟩, rfl⟩
  · exact hkeys.sublist (keys_tableOf_sublist properties)
  · have hown : (tableOf properties).get? key = some value := hplain
    obtain ⟨stored, hmem, hset, rfl⟩ := (get?_tableOf_eq_some_iff hkeys).mp hown
    exact (hlookup _ _).mpr (.own hmem hset)

/-- One key is given twice and keeps its first place with its last value; another is null and is
answered by it, although the null one was given later; a third one has the same canonical form and
its own value. -/
theorem canonical_of_pairs_exact_repeated :
    let pairs : List (String × Json) :=
      [("app.my-key", .integer 1), ("app.myKey", .null), ("APP.MY_KEY", .text "own"),
        ("app.my-key", .bool true)]
    let source := Source.ofProperties .canonical none (Entries.ofList pairs)
    let plain := Source.ofProperties .exact none (Entries.ofList pairs)
    source.lookup "app.myKey" = some "True" ∧ plain.lookup "APP.MY_KEY" = some "own" ∧
      source.lookup "APP.MY_KEY" = some "own" ∧ "app.my-key" ∈ source.keys ∧
      (∃ value, ("app.my-key", value) ∈ Entries.ofList pairs ∧ value ≠ .null ∧
        source.lookup "app.my-key" = some value.plain) := by
  intro pairs source plain
  obtain ⟨-, hlookup, -, hown, -, -, hplain⟩ := canonical_of_pairs_exact pairs none
  have hexact : plain.lookup "APP.MY_KEY" = some "own" := by decide +kernel
  have hkey : "app.my-key" ∈ source.keys := by decide +kernel
  have hproperties : Entries.ofList pairs =
      [] ++ ("app.my-key", .bool true) :: [("app.myKey", .null), ("APP.MY_KEY", .text "own")] := rfl
  have hanswer : Answers (Entries.ofList pairs) "app.myKey" (some (Json.bool true).plain) :=
    .first (fun own hmem => by simpa [hproperties] using hmem) hproperties nofun
      (by decide +kernel) (by simp)
  exact ⟨(hlookup _ _).mpr hanswer, hexact, hplain _ _ hexact, hkey, (hown _).mp hkey⟩

end Activation.Source
