import Activation.Proofs.Component.Exposure
import Activation.Proofs.Session.History

/-!
# Conditions over the Run of a Session

What a component depends on can be read off the history of a session. Its own mark is written once:
the **first condition applied** to a component that is never marked stays there for good, and every
later one is refused (`own?_of_firstApplied`). What is in force on a component is the first own
mark in its lookup order, so the conditions of all components at any time follow from the history
and the ancestry alone (`condition?_after`).

One application has a narrow effect. It is refused exactly by the components that carry a mark of
their own, whatever they inherit, and a refusal leaves no trace. When it is accepted it decides the
condition of the components on which the target is exposed, and of no other (`step_apply_exact`).

## Main statements

* `own?_eq_condition_iff` — whose condition is the own mark of a component.
* `condition?_after` — conditions, own marks and activity after any run.
* `step_apply_exact` — the effect of an application, and of a declaration, after any run.
-/

namespace Activation.Session

/-- The **first condition applied** to a component in a history. -/
def FirstApplied (past : List Deed) (x : Component) (d : Condition) : Prop :=
  ∃ before later, past = before ++ .applied d x :: later ∧ ∀ e, .applied e x ∉ before

/-! ### Runs in two parts -/

/-- The history of two runs, one after the other. -/
theorem history_append (s : Session) (first more : List Step) :
    s.history (first ++ more) = s.history first ++ (s.after first).history more := by
  induction first generalizing s with
  | nil => rfl
  | cons step rest ih =>
      rw [List.cons_append, history, ih (s.step step).1, history, List.append_assoc]
      rfl

/-- The first condition applied stays the first. -/
theorem FirstApplied.append {past : List Deed} {x : Component} {d : Condition}
    (h : FirstApplied past x d) (more : List Deed) : FirstApplied (past ++ more) x d := by
  obtain ⟨before, later, rfl, hbefore⟩ := h
  exact ⟨before, later ++ more, by rw [List.append_assoc, List.cons_append], hbefore⟩

/-- Among the conditions applied to a component there is a first. -/
theorem exists_firstApplied {past : List Deed} {x : Component} {d : Condition}
    (h : .applied d x ∈ past) : ∃ e, FirstApplied past x e := by
  induction past with
  | nil => cases h
  | cons deed rest ih =>
      by_cases hdeed : ∃ e, deed = .applied e x
      · obtain ⟨e, rfl⟩ := hdeed
        exact ⟨e, [], rest, rfl, by simp⟩
      · have hrest : .applied d x ∈ rest :=
          (List.mem_cons.mp h).resolve_left fun heq => hdeed ⟨d, heq.symm⟩
        obtain ⟨e, before, later, rfl, hbefore⟩ := ih hrest
        refine ⟨e, deed :: before, later, rfl, fun e' he' => ?_⟩
        rcases List.mem_cons.mp he' with heq | hmem
        · exact hdeed ⟨e', heq.symm⟩
        · exact hbefore e' hmem

/-! ### The own mark of one component -/

section Own

variable {past : List Deed} {s : Session} {x : Component}

/-- Components that were made under one identity are one component. -/
theorem Recorded.component_eq (h : Recorded past s) {y : Component} (hx : .created x ∈ past)
    (hy : .created y ∈ past) (heq : x.identity = y.identity) : x = y :=
  Deed.created.inj (h.distinct _ hx _ hy x.identity rfl (congrArg some heq.symm))

/-- An identity in the lookup order of a component that was made stands for one component. -/
theorem Recorded.existsUnique_created (h : Recorded past s) (hx : .created x ∈ past) :
    ∀ i ∈ x.order, ∃! a, .created a ∈ past ∧ a.identity = i := by
  intro i hi
  obtain ⟨a, ha, rfl⟩ := h.exists_created hx hi
  exact ⟨a, ⟨ha, rfl⟩, fun b hb => h.component_eq hb.1 ha hb.2⟩

/-- Conditions that were made under one identity are one condition. -/
theorem Recorded.condition_eq (h : Recorded past s) {d e : Condition} (hd : .declared d ∈ past)
    (he : .declared e ∈ past) (heq : d.identity = e.identity) : d = e :=
  Deed.declared.inj (h.distinct _ hd _ he d.identity rfl (congrArg some heq.symm))

/-- Deeds none of which changes the own mark under an identity do not change it together. -/
theorem foldl_onto_eq_self {i : Nat} {own : Option Mark} {deeds : List Deed}
    (h : ∀ deed ∈ deeds, deed.onto i own = own) : deeds.foldl (Deed.onto i) own = own := by
  induction deeds with
  | nil => rfl
  | cons deed rest ih =>
      obtain ⟨hdeed, hrest⟩ := List.forall_mem_cons.mp h
      rw [List.foldl_cons, hdeed, ih hrest]

/-- A deed of the past that neither applies a condition to a component nor marks it leaves its own
mark as it is. -/
theorem Recorded.onto_eq_self (h : Recorded past s) (hx : .created x ∈ past) {deed : Deed}
    (hdeed : deed ∈ past) {own : Option Mark}
    (happlied : ∀ d, deed = .applied d x → own.isSome)
    (hmarked : ∀ value, deed ≠ .marked x value) : deed.onto x.identity own = own := by
  cases deed with
  | created c => rfl
  | declared d => rfl
  | applied d c =>
      rw [Deed.onto]
      split
      · rename_i heq
        obtain rfl := h.component_eq (h.grounded _ hdeed).2 hx heq
        obtain ⟨mark, rfl⟩ := Option.isSome_iff_exists.mp (happlied d rfl)
        rfl
      · rfl
  | marked c value =>
      rw [Deed.onto]
      split
      · rename_i heq
        obtain rfl := h.component_eq (h.grounded _ hdeed) hx heq
        exact absurd rfl (hmarked value)
      · rfl

end Own

section Run

variable {steps : List Step} {x : Component}

/-- What a history refers to was made in it. -/
theorem created_of_firstApplied {d : Condition} (h : FirstApplied (empty.history steps) x d) :
    .declared d ∈ empty.history steps ∧ .created x ∈ empty.history steps := by
  obtain ⟨before, later, hpast, -⟩ := h
  exact (recorded_after steps).grounded (.applied d x) (hpast ▸ by simp)

/-- **The first condition applied to a component is its own mark**, unless the component is
marked. -/
theorem own?_of_firstApplied {d : Condition} (h : FirstApplied (empty.history steps) x d)
    (hmarked : ∀ value, .marked x value ∉ empty.history steps) :
    (empty.after steps).registry.own? x.identity = some (.condition d) := by
  have hrecorded := recorded_after steps
  have hx := (created_of_firstApplied h).2
  obtain ⟨before, later, hpast, hfirst⟩ := h
  have hkeep : ∀ deed ∈ empty.history steps, ∀ own : Option Mark,
      (∀ e, deed = .applied e x → own.isSome) → deed.onto x.identity own = own :=
    fun deed hdeed own happlied => hrecorded.onto_eq_self hx hdeed happlied
      fun value heq => hmarked value (heq ▸ hdeed)
  have hbefore : before.foldl (Deed.onto x.identity) none = none := by
    refine foldl_onto_eq_self fun deed hdeed => hkeep deed ?_ none fun e heq => ?_
    · exact hpast ▸ List.mem_append_left _ hdeed
    · exact absurd (heq ▸ hdeed) (hfirst e)
  have hlater : later.foldl (Deed.onto x.identity) (some (.condition d)) = some (.condition d) := by
    refine foldl_onto_eq_self fun deed hdeed => hkeep deed ?_ _ fun e heq => rfl
    exact hpast ▸ List.mem_append_right _ (List.mem_cons_of_mem _ hdeed)
  have hdeed : (Deed.applied d x).onto x.identity none = some (.condition d) := by
    rw [Deed.onto, if_pos rfl, Option.none_or]
  calc (empty.after steps).registry.own? x.identity
      = (empty.history steps).foldl (Deed.onto x.identity) none := own?_after empty steps x.identity
    _ = later.foldl (Deed.onto x.identity)
          ((Deed.applied d x).onto x.identity (before.foldl (Deed.onto x.identity) none)) := by
        rw [hpast, List.foldl_append, List.foldl_cons]
    _ = some (.condition d) := by rw [hbefore, hdeed, hlater]

/-- A component that no condition was applied to, and that was not marked, carries no mark. -/
theorem own?_eq_none_of_not_applied (hx : .created x ∈ empty.history steps)
    (happlied : ∀ d, .applied d x ∉ empty.history steps)
    (hmarked : ∀ value, .marked x value ∉ empty.history steps) :
    (empty.after steps).registry.own? x.identity = none := by
  rw [own?_after]
  refine foldl_onto_eq_self fun deed hdeed => ?_
  exact (recorded_after steps).onto_eq_self hx hdeed
    (fun d heq => absurd (heq ▸ hdeed) (happlied d)) fun value heq => hmarked value (heq ▸ hdeed)

/-- **The own mark of a component that is not marked is the first condition applied to it.** -/
theorem own?_eq_condition_iff (hx : .created x ∈ empty.history steps)
    (hmarked : ∀ value, .marked x value ∉ empty.history steps) {mark : Mark} :
    (empty.after steps).registry.own? x.identity = some mark ↔
      ∃ d, mark = .condition d ∧ FirstApplied (empty.history steps) x d := by
  constructor
  · intro hown
    by_cases happlied : ∃ d, .applied d x ∈ empty.history steps
    · obtain ⟨d, hd⟩ := happlied
      obtain ⟨e, he⟩ := exists_firstApplied hd
      rw [own?_of_firstApplied he hmarked] at hown
      exact ⟨e, (Option.some.inj hown).symm, he⟩
    · have hnone := own?_eq_none_of_not_applied hx (fun d hd => happlied ⟨d, hd⟩) hmarked
      rw [hnone] at hown
      cases hown
  · rintro ⟨d, rfl, hd⟩
    exact own?_of_firstApplied hd hmarked

end Run

/-! ### Conditions at any time -/

/-- **The conditions of a session.** Take any steps from the start.

* The identities in the lookup order of a component stand for one component each. The component's
  condition is that of the first of them that carries a mark, if this mark is a condition; there is
  none if the mark is a plain value, or if none of them carries a mark. The component is active if
  it has no condition, and otherwise as the evaluation of the condition decides.
* The first condition applied to a component is its own mark from then on, whatever steps follow,
  unless one of them marks the component; and it is the own mark of every other such component that
  it was applied to first.
* A component that nothing was applied to, and that was not marked, carries no mark.
* Conditions with one identity are one condition. -/
theorem condition?_after (steps : List Step) :
    let past := empty.history steps
    let registry := (empty.after steps).registry
    (∀ c, .created c ∈ past →
      (∀ i ∈ c.order, ∃! a, .created a ∈ past ∧ a.identity = i) ∧
        (∀ d, registry.condition? c = some d ↔
          ∃ i, registry.Exposed i c ∧ registry.own? i = some (.condition d)) ∧
        (registry.condition? c = none ↔
          (∀ i ∈ c.order, registry.own? i = none) ∨
            ∃ i value, registry.Exposed i c ∧ registry.own? i = some (.plain value)) ∧
        ∀ source, registry.isEnabled c source =
          (registry.condition? c).elim true fun d =>
            (d.rule.evaluate source Rule.defaultOwner).report.matched) ∧
    (∀ x d, FirstApplied past x d → ∀ more : List Step,
      (∀ value, .marked x value ∉ empty.history (steps ++ more)) →
        (empty.after (steps ++ more)).registry.own? x.identity = some (.condition d) ∧
          ∀ y, FirstApplied past y d →
            (∀ value, .marked y value ∉ empty.history (steps ++ more)) →
              (empty.after (steps ++ more)).registry.own? y.identity
                = (empty.after (steps ++ more)).registry.own? x.identity) ∧
    (∀ x, .created x ∈ past → (∀ d, .applied d x ∉ past) → (∀ value, .marked x value ∉ past) →
      registry.own? x.identity = none) ∧
    ∀ d e, .declared d ∈ past → .declared e ∈ past → d.identity = e.identity → d = e := by
  intro past registry
  have hrecorded : Recorded past (empty.after steps) := recorded_after steps
  have hstays : ∀ z d, FirstApplied past z d → ∀ more : List Step,
      (∀ value, .marked z value ∉ empty.history (steps ++ more)) →
        (empty.after (steps ++ more)).registry.own? z.identity = some (.condition d) := by
    intro z d hz more hmarked
    refine own?_of_firstApplied ?_ hmarked
    rw [history_append]
    exact hz.append _
  refine ⟨fun c hc => ⟨hrecorded.existsUnique_created hc, ?_, ?_, ?_⟩, ?_, ?_, ?_⟩
  · exact fun d => Registry.condition?_eq_some_iff
  · exact Registry.condition?_eq_none_iff
  · exact Registry.isEnabled_eq registry c
  · intro x d hx more hmarked
    have hown := hstays x d hx more hmarked
    exact ⟨hown, fun y hy hmarkedy => (hstays y d hy more hmarkedy).trans hown.symm⟩
  · exact fun x hx happlied hmarked => own?_eq_none_of_not_applied hx happlied hmarked
  · exact fun d e hd he heq => hrecorded.condition_eq hd he heq

/-- The base depends on the condition that was applied to it first, and keeps it when a second one
is applied; its subclass was marked with null, so it depends on nothing although it inherits; an
instance of the subclass has taken a condition of its own. -/
theorem condition?_after_shielded :
    let base : Component := ⟨0, "Base", []⟩
    let child : Component := ⟨1, "Child", [base]⟩
    let part : Component := ⟨2, "<component part>", [child]⟩
    let p : Condition := ⟨3, ⟨["x"], "", none, .bool false, .bool true⟩⟩
    let q : Condition := ⟨4, ⟨["y"], "", none, .bool false, .bool true⟩⟩
    let steps : List Step :=
      [.newClass "Base" [], .newClass "Child" ["Base"], .newInstance "part" "Child",
        .declare "p" { name := .text "x" }, .declare "q" { value := .text "y" },
        .apply "p" "Base", .mark "Child" .null, .apply "q" "part"]
    let more : List Step := [.apply "q" "Base"]
    let registry := (empty.after (steps ++ more)).registry
    FirstApplied (empty.history steps) base p ∧
      (∀ value, .marked base value ∉ empty.history (steps ++ more)) ∧
      registry.own? base.identity = some (.condition p) ∧
      registry.condition? child = none ∧ registry.condition? part = some q ∧
      registry.isEnabled child (.exact "s" []) = true := by
  intro base child part p q steps more registry
  have hhistory : empty.history (steps ++ more) =
      [.created base, .created child, .created part, .declared p, .declared q, .applied p base,
        .marked child .null, .applied q part, .applied q base] := by
    rfl
  have hregistry : registry =
      ⟨[(2, .condition q), (1, .plain .null), (0, .condition p)]⟩ := by
    rfl
  have hplain : registry.own? child.identity = some (.plain .null) := hregistry ▸ rfl
  have hq : registry.own? part.identity = some (.condition q) := hregistry ▸ rfl
  have hfirst : FirstApplied (empty.history steps) base p :=
    ⟨[.created base, .created child, .created part, .declared p, .declared q],
      [.marked child .null, .applied q part], rfl, by simp⟩
  have hmarked : ∀ value, .marked base value ∉ empty.history (steps ++ more) := by
    rw [hhistory]
    simp [base, child]
  obtain ⟨-, hfirstApplied, -, -⟩ := condition?_after steps
  obtain ⟨hlookup, -, -, -⟩ := condition?_after (steps ++ more)
  obtain ⟨-, -, hnone, henabled⟩ := hlookup child (hhistory ▸ by simp)
  obtain ⟨-, hsome, -, -⟩ := hlookup part (hhistory ▸ by simp)
  have hchild : registry.condition? child = none :=
    hnone.mpr (.inr ⟨1, .null, ⟨[], [0], rfl, by simp⟩, hplain⟩)
  have hpart : registry.condition? part = some q :=
    (hsome q).mpr ⟨2, ⟨[], [1, 0], rfl, by simp⟩, hq⟩
  refine ⟨hfirst, hmarked, (hfirstApplied base p hfirst more hmarked).1, hchild, hpart, ?_⟩
  rw [henabled, hchild]
  rfl

/-! ### The effect of one application -/

/-- A declaration that is refused leaves the session as it is. -/
theorem step_declare_of_error {s : Session} (id : String) {attributes : Rule.Attributes}
    {fault : Rule.Fault} (h : Rule.declare attributes = .error fault) :
    s.step (.declare id attributes) = (s, .refused fault) := by
  rw [step, attempt, h]
  rfl

/-- **The effect of an application.** Take any steps from the start and apply a condition to a
component, both of them by name.

* The application is refused exactly if the component carries a mark of its own, whatever kind of
  mark that is and whatever it inherits. This is an error of the configuration. Nothing is logged
  then, and the session is as before, with the conditions of all components.
* Otherwise one line is logged, and the component is handed back. The applied condition comes into
  force on the components whose lookup order has the target with no mark before it, and on all
  others the condition is as before.

In a lookup order an identity stands for one component. A declaration that is refused leaves the
session as it is, and none touches the marks. -/
theorem step_apply_exact (steps : List Step) :
    let past := empty.history steps
    let s := empty.after steps
    (∀ m n d x, s.condition? m = .ok d → s.component? n = .ok x →
      let outcome := s.step (.apply m n)
      ((∃ fault, outcome.2 = .alreadyDeclared fault) ↔
          ∃ mark, s.registry.own? x.identity = some mark) ∧
        (∀ fault, outcome.2 = .alreadyDeclared fault →
          fault.errorClass = .config ∧ fault.errorClass.name = "OnPropertyConfigError" ∧
            fault.message = x.label ++ " already declares a property condition" ∧
            outcome.2.attachments = [] ∧ outcome.1 = s ∧
            ∀ y, outcome.1.registry.condition? y = s.registry.condition? y) ∧
        (s.registry.own? x.identity = none →
          let line : Log.Line := ⟨.attachment, "Attached property condition "
            ++ (Json.list (d.rule.keys.map .text)).literal ++ " to " ++ x.label⟩
          outcome.2 = .attached true line ∧ outcome.2.attachments = [line] ∧
            ∀ y, (s.registry.Exposed x.identity y →
                outcome.1.registry.condition? y = some d) ∧
              (¬ s.registry.Exposed x.identity y →
                outcome.1.registry.condition? y = s.registry.condition? y))) ∧
    (∀ n y, s.component? n = .ok y → .created y ∈ past) ∧
    (∀ y, .created y ∈ past → ∀ i ∈ y.order, ∃! a, .created a ∈ past ∧ a.identity = i) ∧
    ∀ id attributes,
      (∀ fault, Rule.declare attributes = .error fault →
        s.step (.declare id attributes) = (s, .refused fault)) ∧
      (s.step (.declare id attributes)).1.registry = s.registry := by
  intro past s
  have hrecorded : Recorded past s := recorded_after steps
  refine ⟨fun m n d x hd hx => ?_, fun n y hy => ?_, fun y hy => ?_, fun id attributes => ?_⟩
  · intro outcome
    rcases hown : s.registry.own? x.identity with _ | mark
    · have houtcome : outcome = _ := step_apply_of_none hd hx hown
      rw [houtcome]
      refine ⟨by simp, nofun, fun _ => ⟨rfl, rfl, fun y => ⟨fun h => ?_, fun h => ?_⟩⟩⟩
      · exact Registry.condition?_write_of_exposed h
      · exact Registry.condition?_write_of_not_exposed h
    · have houtcome : outcome = _ := step_apply_of_some hd hx hown
      rw [houtcome]
      refine ⟨by simp, fun fault hfault => ?_, nofun⟩
      obtain rfl := Answer.alreadyDeclared.inj hfault
      exact ⟨rfl, rfl, rfl, rfl, rfl, fun y => rfl⟩
  · exact hrecorded.component y ⟨n, component?_eq_ok_iff.mp hy⟩
  · exact hrecorded.existsUnique_created hy
  · refine ⟨fun fault h => step_declare_of_error id h, ?_⟩
    rcases hrule : Rule.declare attributes with fault | rule
    · rw [step_declare_of_error id hrule]
    · rw [step, attempt, hrule]
      rfl

/-- The class inherits a condition and takes one of its own all the same; its instance now depends
on the new one, and a sibling does not. The base, which carries a mark, refuses. -/
theorem step_apply_exact_inherited :
    let base : Component := ⟨0, "Base", []⟩
    let child : Component := ⟨1, "Child", [base]⟩
    let part : Component := ⟨2, "<component part>", [child]⟩
    let other : Component := ⟨3, "Other", [base]⟩
    let p : Condition := ⟨4, ⟨["x"], "", none, .bool false, .bool true⟩⟩
    let q : Condition := ⟨5, ⟨["y"], "", none, .bool false, .bool true⟩⟩
    let steps : List Step :=
      [.newClass "Base" [], .newClass "Child" ["Base"], .newInstance "part" "Child",
        .newClass "Other" ["Base"], .declare "p" { name := .text "x" },
        .declare "q" { value := .text "y" }, .apply "p" "Base"]
    let s := empty.after steps
    let outcome := s.step (.apply "q" "Child")
    s.component? "Child" = .ok child ∧ s.registry.own? child.identity = none ∧
      s.registry.condition? child = some p ∧
      outcome.2 = .attached true ⟨.attachment, "Attached property condition ['y'] to Child"⟩ ∧
      outcome.2.attachments = [⟨.attachment, "Attached property condition ['y'] to Child"⟩] ∧
      outcome.1.registry.condition? part = some q ∧
      outcome.1.registry.condition? other = some p ∧
      (∃ fault, (s.step (.apply "q" "Base")).2 = .alreadyDeclared fault ∧
        fault.errorClass.name = "OnPropertyConfigError" ∧
        fault.message = "Base already declares a property condition") ∧
      (s.step (.apply "q" "Base")).2.attachments = [] ∧
      s.step (.declare "r" {}) = (s, .refused (.missing Rule.defaultOwner)) := by
  intro base child part other p q steps s outcome
  have hs : s =
      ⟨[("Base", .component base), ("Child", .component child), ("part", .component part),
        ("Other", .component other), ("p", .condition p), ("q", .condition q)], 6,
        ⟨[(0, .condition p)]⟩⟩ := by
    rfl
  have hq : s.condition? "q" = .ok q := hs ▸ rfl
  have hchild : s.component? "Child" = .ok child := hs ▸ rfl
  have hbase : s.component? "Base" = .ok base := hs ▸ rfl
  have hown : s.registry.own? child.identity = none := hs ▸ rfl
  have hmark : s.registry.own? base.identity = some (.condition p) := hs ▸ rfl
  have hother : s.registry.condition? other = some p := hs ▸ rfl
  have hpart : ∀ j ∈ [2], s.registry.own? j = none := by
    rw [hs]
    simp [Registry.own?]
  have hnot : ¬ s.registry.Exposed child.identity other := by
    rintro ⟨before, after, horder, -⟩
    have hmem : 1 ∈ other.order := horder ▸ List.mem_append_right _ List.mem_cons_self
    exact absurd hmem (by decide)
  obtain ⟨happly, -, -, hdeclare⟩ := step_apply_exact steps
  obtain ⟨-, -, haccepted⟩ := happly "q" "Child" q child hq hchild
  obtain ⟨hrefused, hframe, -⟩ := happly "q" "Base" q base hq hbase
  obtain ⟨hanswer, hlines, hconditions⟩ := haccepted hown
  have hkeys : (Json.list (q.rule.keys.map .text)).literal = "['y']" := by decide +kernel
  rw [hkeys] at hanswer hlines
  obtain ⟨fault, hfault⟩ := hrefused.mpr ⟨_, hmark⟩
  obtain ⟨-, hclass, hmessage, hnothing, -⟩ := hframe fault hfault
  refine ⟨hchild, hown, hs ▸ rfl, hanswer, hlines, ?_, ?_, ⟨fault, hfault, hclass, hmessage⟩,
    hnothing, ?_⟩
  · exact (hconditions part).1 ⟨[2], [0], rfl, hpart⟩
  · exact ((hconditions other).2 hnot).trans hother
  · exact (hdeclare "r" {}).1 _ rfl

end Activation.Session
