import Mathlib.Data.List.Induction
import Activation.Entries

/-!
# Entries and the Pairs They Are Made of

Writing some pairs one after another makes entries in which every key stands once. A key stands
where it first arrived (`keys_ofList`), and has the value that it was last given
(`get?_ofList_eq_some_iff`). Of two runs of pairs the later one decides, where it has the key
(`get?_ofList_append`). Pairs whose keys are distinct are entries already (`ofList_eq_self`).

Where keys are distinct it makes no difference whether a pair is found under its key or stands in
the entries (`get?_eq_some_iff_mem`).
-/

namespace Activation.Entries

variable {α β : Type} {e : Entries α} {key : String} {value : α}

/-- Changing the values leaves the keys. -/
theorem keys_map (f : α → β) (e : Entries α) : keys (e.map fun p => (p.1, f p.2)) = e.keys := by
  rw [keys, keys, List.map_map]
  rfl

/-! ### Found and not found -/

/-- A key that does not stand in some entries has no value there. -/
theorem get?_eq_none (h : key ∉ e.keys) : e.get? key = none := by
  induction e with
  | nil => rfl
  | cons p rest ih =>
      obtain ⟨k, v⟩ := p
      obtain ⟨hk, hrest⟩ := not_or.mp fun hmem => h (List.mem_cons.mpr hmem)
      rw [get?, if_neg (Ne.symm hk), ih hrest]

/-- What is found under a key stands in the entries. -/
theorem mem_of_get?_eq_some (h : e.get? key = some value) : (key, value) ∈ e := by
  induction e with
  | nil => cases h
  | cons p rest ih =>
      obtain ⟨k, v⟩ := p
      rw [get?] at h
      split at h
      · rename_i hk
        obtain rfl := Option.some.inj h
        exact hk ▸ List.mem_cons_self
      · exact List.mem_cons_of_mem _ (ih h)

/-- **Among entries with distinct keys** what stands under a key is what is found. -/
theorem get?_eq_some_iff_mem (h : e.keys.Nodup) : e.get? key = some value ↔ (key, value) ∈ e := by
  refine ⟨mem_of_get?_eq_some, fun hmem => ?_⟩
  induction e with
  | nil => cases hmem
  | cons p rest ih =>
      obtain ⟨k, v⟩ := p
      obtain ⟨hk, hrest⟩ := List.nodup_cons.mp h
      rw [get?]
      rcases List.mem_cons.mp hmem with heq | hmem
      · cases heq
        exact if_pos rfl
      · have hne : k ≠ key := by
          rintro rfl
          exact hk (List.mem_map.mpr ⟨(k, value), hmem, rfl⟩)
        rw [if_neg hne, ih hrest hmem]

/-! ### Values that may be missing -/

/-- The entries that have a value, from those that may have none. -/
def present (e : Entries (Option α)) : Entries α :=
  e.filterMap fun p => p.2.map (p.1, ·)

/-- The keys of the entries that have a value are among all keys. -/
theorem keys_present_sublist (e : Entries (Option α)) : (present e).keys.Sublist e.keys := by
  induction e with
  | nil => exact .slnil
  | cons p rest ih =>
      obtain ⟨k, _ | v⟩ := p
      · exact ih.cons k
      · exact ih.cons_cons k

/-- Among entries with distinct keys the value under a key is the one that it may have. -/
theorem get?_present {e : Entries (Option α)} (h : e.keys.Nodup) (key : String) :
    (present e).get? key = (e.get? key).join := by
  induction e with
  | nil => rfl
  | cons p rest ih =>
      obtain ⟨k, value⟩ := p
      obtain ⟨hk, hrest⟩ := List.nodup_cons.mp h
      rw [get?]
      rcases value with _ | v
      · change (present rest).get? key = _
        rw [ih hrest]
        split
        · rename_i heq
          rw [get?_eq_none (heq ▸ hk)]
          rfl
        · rfl
      · change get? ((k, v) :: present rest) key = _
        rw [get?, ih hrest]
        split <;> rfl

/-! ### Pairs written one after another -/

/-- A write under a new key goes to the end. -/
theorem put_of_not_mem (h : key ∉ e.keys) (value : α) : e.put key value = e ++ [(key, value)] := by
  induction e with
  | nil => rfl
  | cons p e ih =>
      obtain ⟨hne, hrest⟩ := not_or.mp fun hmem => h (List.mem_cons.mpr hmem)
      rw [put, if_neg (Ne.symm hne), ih hrest, List.cons_append]

/-- The last pair is written last. -/
theorem ofList_concat (pairs : List (String × α)) (p : String × α) :
    ofList (pairs ++ [p]) = (ofList pairs).put p.1 p.2 := by
  rw [ofList, List.foldl_append]
  rfl

/-- What the last pair sets is found under its key. -/
theorem get?_ofList_concat (pairs : List (String × α)) (p : String × α) (key : String) :
    (ofList (pairs ++ [p])).get? key = if p.1 = key then some p.2 else (ofList pairs).get? key := by
  rw [ofList_concat, get?_put]

/-- **Every key stands where it first arrived**, and once. -/
theorem keys_ofList (pairs : List (String × α)) :
    (ofList pairs).keys = (pairs.map (·.1)).eraseDups := by
  induction pairs using List.reverseRecOn with
  | nil => rfl
  | append_singleton pairs p ih =>
      rw [ofList_concat, keys_put, ih, List.map_append, List.eraseDups_append]
      by_cases hmem : p.1 ∈ pairs.map (·.1)
      · simp [List.removeAll, hmem]
      · simp [List.removeAll, List.eraseDups_cons, hmem]

/-- Entries made of pairs have distinct keys. -/
theorem nodup_keys_ofList (pairs : List (String × α)) : (ofList pairs).keys.Nodup := by
  induction pairs using List.reverseRecOn with
  | nil => exact List.nodup_nil
  | append_singleton pairs p ih =>
      rw [ofList_concat]
      exact nodup_keys_put ih p.1 p.2

/-- **Of two runs of pairs the later one decides**, where it has the key. -/
theorem get?_ofList_append (pairs more : List (String × α)) (key : String) :
    (ofList (pairs ++ more)).get? key
      = ((ofList more).get? key).or ((ofList pairs).get? key) := by
  induction more using List.reverseRecOn with
  | nil =>
      rw [List.append_nil]
      rfl
  | append_singleton more p ih =>
      rw [← List.append_assoc, get?_ofList_concat, get?_ofList_concat, ih]
      split <;> rfl

/-- **A key has the value that it was last given.** -/
theorem get?_ofList_eq_some_iff {pairs : List (String × α)} :
    (ofList pairs).get? key = some value ↔
      ∃ before after, pairs = before ++ (key, value) :: after ∧ ∀ p ∈ after, p.1 ≠ key := by
  constructor
  · intro h
    induction pairs using List.reverseRecOn with
    | nil => cases h
    | append_singleton pairs p ih =>
        rw [get?_ofList_concat] at h
        split at h
        · rename_i hkey
          obtain rfl := Option.some.inj h
          exact ⟨pairs, [], by rw [← hkey], by simp⟩
        · rename_i hkey
          obtain ⟨before, after, rfl, hafter⟩ := ih h
          refine ⟨before, after ++ [p], by simp, ?_⟩
          rw [List.forall_mem_append]
          exact ⟨hafter, by simpa using hkey⟩
  · rintro ⟨before, after, rfl, hafter⟩
    have hlater : (ofList after).get? key = none := by
      apply get?_eq_none
      rw [keys_ofList, List.mem_eraseDups, List.mem_map]
      rintro ⟨p, hp, hkey⟩
      exact hafter p hp hkey
    rw [List.append_cons, get?_ofList_append, hlater, get?_ofList_concat, if_pos rfl]
    rfl

/-- Leaving out the pairs with certain keys leaves the other keys with their values. -/
theorem get?_ofList_filter (pairs : List (String × α)) (q : String → Bool) (key : String) :
    (ofList (pairs.filter fun p => q p.1)).get? key
      = if q key then (ofList pairs).get? key else none := by
  induction pairs using List.reverseRecOn with
  | nil => split <;> rfl
  | append_singleton pairs p ih =>
      rw [List.filter_append, get?_ofList_concat]
      by_cases hq : q p.1 = true
      · have hkept : [p].filter (fun p => q p.1) = [p] := by simp [hq]
        rw [hkept, get?_ofList_concat, ih]
        split
        · rename_i hkey
          rw [← hkey, if_pos hq]
        · rfl
      · have hdropped : [p].filter (fun p => q p.1) = [] := by simp [hq]
        rw [hdropped, List.append_nil, ih]
        split
        · rename_i hkey
          rw [if_neg]
          rintro rfl
          exact hq hkey
        · rfl

/-- **Pairs with distinct keys are the entries that they make.** -/
theorem ofList_eq_self {pairs : List (String × α)} (h : (pairs.map (·.1)).Nodup) :
    ofList pairs = pairs := by
  induction pairs using List.reverseRecOn with
  | nil => rfl
  | append_singleton pairs p ih =>
      rw [List.map_append, List.nodup_append] at h
      obtain ⟨hpairs, -, hapart⟩ := h
      have hnew : p.1 ∉ keys pairs := fun hmem => hapart p.1 hmem p.1 (by simp) rfl
      rw [ofList_concat, ih hpairs, put_of_not_mem hnew]

end Activation.Entries
