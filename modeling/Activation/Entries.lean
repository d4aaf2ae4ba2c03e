/-!
# Ordered entries

Values under string keys, kept in the order in which the keys first arrived. Writing to a key
that is present replaces its value in place; a new key goes to the end. A key that is left out and
written again has lost its place.

## Main statements

* `get?_put` — a write is seen under its own key and under no other;
* `keys_put` — a write moves no key, and adds its own at the end if it was absent;
* `nodup_keys_put` — distinct keys stay distinct;
* `get?_without`, `keys_without` — leaving out a key concerns this key alone.
-/

namespace Activation

/-- Values under string keys, in the order in which the keys first arrived. -/
abbrev Entries (α : Type) := List (String × α)

namespace Entries

variable {α : Type}

/-- The keys, in order. -/
def keys (e : Entries α) : List String :=
  e.map (·.1)

/-- The value under a key. -/
def get? : Entries α → String → Option α
  | [], _ => none
  | (k, v) :: rest, key => if k = key then some v else get? rest key

/-- Write a value under a key. -/
def put : Entries α → String → α → Entries α
  | [], key, value => [(key, value)]
  | (k, v) :: rest, key, value =>
    if k = key then (k, value) :: rest else (k, v) :: put rest key value

/-- Write some pairs one after another. -/
def ofList (pairs : List (String × α)) : Entries α :=
  pairs.foldl (fun e p => e.put p.1 p.2) []

/-- Some entries without those under a key. -/
def without (e : Entries α) (key : String) : Entries α :=
  e.filter (·.1 != key)

/-- A write is seen under its own key and under no other. -/
theorem get?_put (e : Entries α) (key : String) (value : α) (other : String) :
    (e.put key value).get? other = if key = other then some value else e.get? other := by
  induction e with
  | nil => simp [put, get?]
  | cons p rest ih =>
    obtain ⟨k, v⟩ := p
    by_cases hk : k = key
    · subst hk
      by_cases ho : k = other <;> simp [put, get?, ho]
    · by_cases ho : k = other
      · subst ho
        simp [put, get?, hk, Ne.symm hk]
      · simp [put, get?, hk, ho, ih]

/-- A write moves no key, and adds its own at the end if it was absent. -/
theorem keys_put (e : Entries α) (key : String) (value : α) :
    (e.put key value).keys = if key ∈ e.keys then e.keys else e.keys ++ [key] := by
  induction e with
  | nil => simp [put, keys]
  | cons p rest ih =>
    obtain ⟨k, v⟩ := p
    simp only [keys] at ih
    by_cases hk : k = key
    · simp [put, keys, hk]
    · by_cases hm : key ∈ rest.map (·.1)
      · simp only [hm, if_true] at ih
        simp only [put, hk, if_false, keys, List.map_cons, ih]
        simp only [List.mem_cons, hm, or_true, if_true]
      · simp only [hm, if_false] at ih
        simp only [put, hk, if_false, keys, List.map_cons, ih]
        simp only [List.mem_cons, hm, or_false, Ne.symm hk, if_false, List.cons_append]

/-- Distinct keys stay distinct. -/
theorem nodup_keys_put {e : Entries α} (h : e.keys.Nodup) (key : String) (value : α) :
    (e.put key value).keys.Nodup := by
  rw [keys_put]
  split
  · exact h
  · rename_i hm
    rw [List.nodup_append]
    refine ⟨h, by simp, ?_⟩
    intro a ha b hb
    simp only [List.mem_singleton] at hb
    subst hb
    intro e
    exact hm (e ▸ ha)

/-- What is left out is not found, and everything else is. -/
theorem get?_without (e : Entries α) (key other : String) :
    (e.without key).get? other = if key = other then none else e.get? other := by
  induction e with
  | nil => simp [without, get?]
  | cons p rest ih =>
      obtain ⟨k, v⟩ := p
      rw [without] at ih ⊢
      by_cases hk : k = key
      · subst hk
        rw [List.filter_cons_of_neg (by simp), ih, get?]
        split <;> rfl
      · rw [List.filter_cons_of_pos (by simpa using hk), get?, get?, ih]
        by_cases ho : k = other
        · subst ho
          simp [Ne.symm hk]
        · simp [ho]

/-- The other keys are those that were there. -/
theorem keys_without (e : Entries α) (key : String) :
    (e.without key).keys = e.keys.filter (· != key) := by
  rw [without, keys, keys, List.filter_map]
  rfl

end Entries

end Activation
