import Activation.ErrorClass
import Activation.Evaluation

/-!
# Components and their conditions

A **component** is a class, a function, or an instance of a class. A **condition** is a rule that
has been declared once and can be attached to any number of components. A component's own mark
is the condition attached to it, or a plain value that somebody put in its place.

The mark in force is the first one in the component's lookup order: its own, or else, parent by
parent, the one in force there. The parents of an instance are its class, those of a class its
bases. A plain value in force hides whatever stands behind it. Attaching looks at the component's
own mark only, so an inherited condition never stands in the way of a new one.

Components are values that carry their ancestry, so the lookup order is a function of the
component alone; the marks are kept in a **registry** under the components' identities.

## Main statements

* `search_eq_findSome?` — the mark in force is the first own mark in the lookup order.
-/

namespace Activation

/-- A class, function or instance with its ancestry. -/
inductive Component where
  | mk (identity : Nat) (label : String) (parents : List Component)

/-- A rule that can be attached. Two conditions are the same when their identities are. -/
structure Condition where
  identity : Nat
  rule : Rule

/-- What a component carries as its own. -/
inductive Mark where
  | condition (condition : Condition)
  | plain (value : Json)

namespace Component

/-- The identity of a component. -/
def identity : Component → Nat
  | .mk identity _ _ => identity

/-- The label that diagnostics give a component. -/
def label : Component → String
  | .mk _ label _ => label

mutual

/-- The identities of a component and its ancestors in lookup order: the component itself, then
its parents from left to right, each with all its ancestors. -/
def order : Component → List Nat
  | .mk identity _ parents => identity :: orderAll parents

/-- The lookup orders of some components, one after another. -/
def orderAll : List Component → List Nat
  | [] => []
  | parent :: rest => order parent ++ orderAll rest

end

/-- The lookup orders of some components, joined. -/
theorem orderAll_eq_flatMap (parents : List Component) :
    orderAll parents = parents.flatMap order := by
  induction parents with
  | nil => rfl
  | cons parent rest ih => rw [orderAll, ih, List.flatMap_cons]

end Component

/-- The own marks of components, by identity. -/
structure Registry where
  marks : List (Nat × Mark)

namespace Registry

/-- No component is marked. -/
def empty : Registry := ⟨[]⟩

/-- The own mark of the component with an identity. -/
def own? (registry : Registry) (identity : Nat) : Option Mark :=
  (registry.marks.find? fun entry => entry.1 == identity).map (·.2)

/-- Give a component a mark of its own, in place of the one it may have. -/
def write (registry : Registry) (identity : Nat) (mark : Mark) : Registry :=
  ⟨(identity, mark) :: registry.marks⟩

/-- A mark is seen on its own component and on no other. -/
theorem own?_write (registry : Registry) (identity : Nat) (mark : Mark) (other : Nat) :
    (registry.write identity mark).own? other
      = if identity = other then some mark else registry.own? other := by
  unfold own? write
  rw [List.find?_cons]
  by_cases h : identity = other
  · simp [h]
  · have hb : (identity == other) = false := by simpa using h
    simp [hb, h]

mutual

/-- The mark in force on a component. -/
def search (registry : Registry) : Component → Option Mark
  | .mk identity _ parents =>
    match registry.own? identity with
    | some mark => some mark
    | none => searchAll registry parents

/-- The first mark in force on one of some components. -/
def searchAll (registry : Registry) : List Component → Option Mark
  | [] => none
  | parent :: rest =>
    match search registry parent with
    | some mark => some mark
    | none => searchAll registry rest

end

mutual

/-- The mark in force is the first own mark in the lookup order. -/
theorem search_eq_findSome? (registry : Registry) :
    ∀ c : Component, registry.search c = c.order.findSome? registry.own?
  | .mk identity _ parents => by
    rw [search, Component.order, List.findSome?_cons, searchAll_eq_findSome? registry parents]
    cases registry.own? identity <;> rfl

/-- The first mark in force on one of some components is the first own mark in their orders. -/
theorem searchAll_eq_findSome? (registry : Registry) :
    ∀ parents : List Component,
      registry.searchAll parents = (Component.orderAll parents).findSome? registry.own?
  | [] => by simp [searchAll, Component.orderAll]
  | parent :: rest => by
    rw [searchAll, Component.orderAll, List.findSome?_append,
      search_eq_findSome? registry parent, searchAll_eq_findSome? registry rest]
    cases parent.order.findSome? registry.own? <;> rfl

end

/-- The condition in force on a component. A plain value is none. -/
def condition? (registry : Registry) (c : Component) : Option Condition :=
  match registry.search c with
  | some (.condition condition) => some condition
  | _ => none

/-- Why a condition cannot be attached: the component has a mark of its own. -/
structure AlreadyDeclared where
  label : String
deriving DecidableEq

/-- The diagnostic of a refused attachment. -/
def AlreadyDeclared.message (fault : AlreadyDeclared) : String :=
  fault.label ++ " already declares a property condition"

/-- The class of error as which a refused attachment is raised. -/
def AlreadyDeclared.errorClass (_ : AlreadyDeclared) : ErrorClass := .config

/-- The log line about an attachment. -/
def attachedLine (condition : Condition) (c : Component) : Log.Line where
  topic := .attachment
  message :=
    "Attached property condition " ++ (Json.list (condition.rule.keys.map .text)).literal
      ++ " to " ++ c.label

/-- What comes of attaching a condition: the marks from then on, the component that is handed
back, and the line that is logged. -/
structure Attachment where
  registry : Registry
  component : Component
  line : Log.Line

/-- Attach a condition to a component, which is handed back as it is. -/
def attach (registry : Registry) (condition : Condition) (c : Component) :
    Except AlreadyDeclared Attachment :=
  match registry.own? c.identity with
  | some _ => .error ⟨c.label⟩
  | none => .ok
    { registry := registry.write c.identity (.condition condition)
      component := c
      line := attachedLine condition c }

/-- A component without a mark of its own takes the condition and is handed back. -/
theorem attach_of_none {registry : Registry} {c : Component} (h : registry.own? c.identity = none)
    (condition : Condition) :
    registry.attach condition c =
      .ok ⟨registry.write c.identity (.condition condition), c, attachedLine condition c⟩ := by
  rw [attach, h]

/-- A component with a mark of its own refuses every condition. -/
theorem attach_of_some {registry : Registry} {c : Component} {mark : Mark}
    (h : registry.own? c.identity = some mark) (condition : Condition) :
    registry.attach condition c = .error ⟨c.label⟩ := by
  rw [attach, h]

/-- The report of a component's condition on a source, if it has one. -/
def evaluate (registry : Registry) (c : Component) (source : Source) : Option Report :=
  (registry.condition? c).map fun condition => condition.rule.report source

/-- Whether a component is active. One without a condition always is. -/
def isEnabled (registry : Registry) (c : Component) (source : Source) : Bool :=
  match registry.evaluate c source with
  | some report => report.matched
  | none => true

end Registry

end Activation
