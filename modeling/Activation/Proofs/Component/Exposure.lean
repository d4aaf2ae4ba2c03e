import Mathlib.Data.List.Basic
import Activation.Component

/-!
# The Mark in Force

A component is governed by the first own mark in its lookup order. An identity is **exposed** on a
component when it stands in the lookup order and no identity before it carries a mark of its own:
these are the places from which a mark can govern the component. The mark in force is the one on
an exposed identity that carries any (`search_eq_some_iff`), and a new mark comes into force on
exactly the components on which its place is exposed (`search_write_of_exposed`,
`search_write_of_not_exposed`). Neither statement depends on how the component is built.

## Main statements

* `condition?_eq_some_iff`, `condition?_eq_none_iff` — the condition in force on a component.
* `condition?_write_of_exposed`, `condition?_write_of_not_exposed` — what a new mark changes.
* `isEnabled_eq` — when a component is active.
-/

namespace Activation.Registry

variable {registry : Registry} {c : Component} {i : Nat} {mark : Mark}

/-- An identity is **exposed** on a component: it stands in the lookup order of the component, and
nothing before it carries a mark of its own. -/
def Exposed (registry : Registry) (i : Nat) (c : Component) : Prop :=
  ∃ before after, c.order = before ++ i :: after ∧ ∀ j ∈ before, registry.own? j = none

/-! ### The mark in force -/

/-- The mark in force is the own mark of an exposed identity. -/
theorem search_eq_some_iff :
    registry.search c = some mark ↔ ∃ i, registry.Exposed i c ∧ registry.own? i = some mark := by
  rw [search_eq_findSome?, List.findSome?_eq_some_iff]
  constructor
  · rintro ⟨before, i, after, horder, hown, hbefore⟩
    exact ⟨i, ⟨before, after, horder, hbefore⟩, hown⟩
  · rintro ⟨i, ⟨before, after, horder, hbefore⟩, hown⟩
    exact ⟨before, i, after, horder, hown, hbefore⟩

/-- No mark is in force exactly if nothing in the lookup order carries one. -/
theorem search_eq_none_iff :
    registry.search c = none ↔ ∀ i ∈ c.order, registry.own? i = none := by
  rw [search_eq_findSome?, List.findSome?_eq_none_iff]

/-- **A condition is in force exactly if it is the own mark of an exposed identity.** -/
theorem condition?_eq_some_iff {condition : Condition} :
    registry.condition? c = some condition ↔
      ∃ i, registry.Exposed i c ∧ registry.own? i = some (.condition condition) := by
  rw [← search_eq_some_iff, condition?]
  rcases registry.search c with _ | ⟨d⟩ | ⟨value⟩ <;> simp

/-- **No condition is in force exactly if nothing in the lookup order carries a mark, or the first
that does carries a plain value.** -/
theorem condition?_eq_none_iff :
    registry.condition? c = none ↔
      (∀ i ∈ c.order, registry.own? i = none) ∨
        ∃ i value, registry.Exposed i c ∧ registry.own? i = some (.plain value) := by
  have hplain : (∃ i value, registry.Exposed i c ∧ registry.own? i = some (.plain value)) ↔
      ∃ value, registry.search c = some (.plain value) := by
    rw [exists_comm]
    exact exists_congr fun value => search_eq_some_iff.symm
  rw [← search_eq_none_iff, hplain, condition?]
  rcases registry.search c with _ | ⟨d⟩ | ⟨value⟩ <;> simp

/-! ### A new mark -/

/-- Among identities in some order, a mark written to one that comes before every mark is the first
mark. -/
theorem findSome?_write_of_first {before after : List Nat}
    (h : ∀ j ∈ before, registry.own? j = none) :
    (before ++ i :: after).findSome? (registry.write i mark).own? = some mark := by
  induction before with
  | nil => simp [own?_write]
  | cons j before ih =>
      obtain ⟨hj, hbefore⟩ := List.forall_mem_cons.mp h
      rw [List.cons_append, List.findSome?_cons, own?_write]
      by_cases heq : i = j
      · rw [if_pos heq]
      · rw [if_neg heq, hj]
        exact ih hbefore

/-- Among identities in some order, a mark written to one that never comes before every mark leaves
the first mark as it is. -/
theorem findSome?_write_of_not_first {order : List Nat}
    (h : ¬ ∃ before after, order = before ++ i :: after ∧ ∀ j ∈ before, registry.own? j = none) :
    order.findSome? (registry.write i mark).own? = order.findSome? registry.own? := by
  induction order with
  | nil => rfl
  | cons j rest ih =>
      have hne : i ≠ j := by
        rintro rfl
        exact h ⟨[], rest, rfl, by simp⟩
      rw [List.findSome?_cons, List.findSome?_cons, own?_write, if_neg hne]
      rcases hown : registry.own? j with _ | other
      · refine ih ?_
        rintro ⟨before, after, rfl, hbefore⟩
        exact h ⟨j :: before, after, rfl, List.forall_mem_cons.mpr ⟨hown, hbefore⟩⟩
      · rfl

/-- A new mark is in force wherever its place is exposed. -/
theorem search_write_of_exposed (h : registry.Exposed i c) :
    (registry.write i mark).search c = some mark := by
  obtain ⟨before, after, horder, hbefore⟩ := h
  rw [search_eq_findSome?, horder]
  exact findSome?_write_of_first hbefore

/-- A new mark changes nothing where its place is not exposed. -/
theorem search_write_of_not_exposed (h : ¬ registry.Exposed i c) :
    (registry.write i mark).search c = registry.search c := by
  rw [search_eq_findSome?, search_eq_findSome?]
  exact findSome?_write_of_not_first h

/-- **A new condition is in force wherever its place is exposed.** -/
theorem condition?_write_of_exposed {condition : Condition} (h : registry.Exposed i c) :
    (registry.write i (.condition condition)).condition? c = some condition := by
  rw [condition?, search_write_of_exposed h]

/-- **A new mark changes the condition in force on no component on which its place is not
exposed.** -/
theorem condition?_write_of_not_exposed (h : ¬ registry.Exposed i c) :
    (registry.write i mark).condition? c = registry.condition? c := by
  rw [condition?, condition?, search_write_of_not_exposed h]

/-! ### Active components -/

/-- A component is active if no condition is in force on it, and otherwise as the evaluation of the
condition decides. -/
theorem isEnabled_eq (registry : Registry) (c : Component) (source : Source) :
    registry.isEnabled c source =
      (registry.condition? c).elim true fun condition => condition.rule.matches? source := by
  rw [isEnabled, evaluate]
  rcases registry.condition? c with _ | condition
  · rfl
  · rfl

end Activation.Registry
