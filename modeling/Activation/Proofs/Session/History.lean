import Mathlib.Data.List.Basic
import Activation.Session

/-!
# The History of a Session

Steps speak of things by name, and a name can come to stand for something else. The **history** of
a run says what the steps have done to the things themselves: which components and conditions were
made, which condition was applied to which component, and which component was marked with which
value. An application is in the history whether it was accepted or refused; a step that only reads,
or that is about mappings and sources, or that uses a name in vain, leaves no trace there.

What one step can do is said once, as a relation between the session before, the deed and the
session after (`Move`, `move_step`). Everything below is derived from that relation: the own mark
of a component is what the deeds of the history add up to (`own?_after`), and identities are given
out once and for all (`Recorded`), so that an identity in a history stands for one thing.

## Main statements

* `move_step` — what a step does.
* `own?_after` — the own marks after a run, from its history.
* `recorded_after` — the things of a session are those of its history, told apart by identity.
-/

namespace Activation

/-- What a step does to components, conditions and marks, whatever the names it uses. -/
inductive Deed where
  | created (component : Component)
  | declared (condition : Condition)
  | applied (condition : Condition) (component : Component)
  | marked (component : Component) (value : Json)

namespace Deed

/-- The identity that a deed gives out. -/
def identity? : Deed → Option Nat
  | .created c => some c.identity
  | .declared d => some d.identity
  | .applied _ _ => none
  | .marked _ _ => none

/-- What a deed makes of the own mark under an identity. A condition becomes the mark only where
there is none; a value always does. -/
def onto (i : Nat) (own : Option Mark) : Deed → Option Mark
  | .created _ => own
  | .declared _ => own
  | .applied d c => if c.identity = i then own.or (some (.condition d)) else own
  | .marked c value => if c.identity = i then some (.plain value) else own

/-- A deed is **grounded** in a past when the things it is about were made there: the ancestors of
a new component, the condition and the component of an application, the component of a mark. -/
def Grounded (past : List Deed) : Deed → Prop
  | .created c => ∀ i ∈ c.order, i = c.identity ∨ ∃ a, .created a ∈ past ∧ a.identity = i
  | .declared _ => True
  | .applied d c => .declared d ∈ past ∧ .created c ∈ past
  | .marked c _ => .created c ∈ past

/-- A deed that is grounded in a past is grounded in a longer one. -/
theorem Grounded.mono {past more : List Deed} (hsub : past ⊆ more) {deed : Deed}
    (h : deed.Grounded past) : deed.Grounded more := by
  cases deed with
  | created c =>
      intro i hi
      exact (h i hi).imp_right fun ⟨a, ha, heq⟩ => ⟨a, hsub ha, heq⟩
  | declared d => trivial
  | applied d c => exact ⟨hsub h.1, hsub h.2⟩
  | marked c value => exact hsub h

end Deed

namespace Session

/-- The session after some steps. -/
def after (s : Session) : List Step → Session
  | [] => s
  | step :: rest => after (s.step step).1 rest

/-- What a step does in a session, if it does anything to components, conditions or marks. -/
def deed? (s : Session) : Step → Option Deed
  | .newClass id bases =>
    (s.components? bases).toOption.map fun parents => .created ⟨s.nextIdentity, id, parents⟩
  | .newFunction id => some (.created ⟨s.nextIdentity, id, []⟩)
  | .newInstance id parent =>
    (s.component? parent).toOption.map fun c =>
      .created ⟨s.nextIdentity, "<component " ++ id ++ ">", [c]⟩
  | .declare _ attributes =>
    (Rule.declare attributes).toOption.map fun rule => .declared ⟨s.nextIdentity, rule⟩
  | .apply condition component =>
    (s.condition? condition).toOption.bind fun d =>
      (s.component? component).toOption.map fun c => .applied d c
  | .mark component value => (s.component? component).toOption.map fun c => .marked c value
  | _ => none

/-- The **history** of some steps: their deeds, in order. -/
def history (s : Session) : List Step → List Deed
  | [] => []
  | step :: rest => (s.deed? step).toList ++ history (s.step step).1 rest

/-- Whether some name stands for a thing. -/
def Names (s : Session) (thing : Thing) : Prop :=
  ∃ name, s.things.get? name = some thing

/-! ### Names -/

/-- A name that is read as a component stands for it. -/
theorem component?_eq_ok_iff {s : Session} {name : String} {c : Component} :
    s.component? name = .ok c ↔ s.things.get? name = some (.component c) := by
  rw [component?]
  rcases s.things.get? name with _ | ⟨d⟩ | ⟨d⟩ | ⟨d⟩ | ⟨d⟩ <;> simp

/-- A name that is read as a condition stands for it. -/
theorem condition?_eq_ok_iff {s : Session} {name : String} {d : Condition} :
    s.condition? name = .ok d ↔ s.things.get? name = some (.condition d) := by
  rw [condition?]
  rcases s.things.get? name with _ | ⟨c⟩ | ⟨c⟩ | ⟨c⟩ | ⟨c⟩ <;> simp

/-- Names that are read as components stand for them. -/
theorem names_of_components? {s : Session} {names : List String} {cs : List Component}
    (h : s.components? names = .ok cs) : ∀ c ∈ cs, s.Names (.component c) := by
  induction names generalizing cs with
  | nil =>
      cases h
      simp
  | cons name rest ih =>
      rw [components?] at h
      rcases hc : s.component? name with fault | c
      · rw [hc] at h
        cases h
      · rcases hrest : s.components? rest with fault | more
        · rw [hc, hrest] at h
          cases h
        · rw [hc, hrest] at h
          cases h
          exact List.forall_mem_cons.mpr ⟨⟨name, component?_eq_ok_iff.mp hc⟩, ih hrest⟩

/-- After a name has come to stand for a thing, names stand for that thing and for what they stood
for before. -/
theorem names_bind {s : Session} {name : String} {thing other : Thing}
    (h : (s.bind name thing).Names other) : other = thing ∨ s.Names other := by
  obtain ⟨n, hn⟩ := h
  rw [bind, Entries.get?_put] at hn
  split at hn
  · exact .inl (Option.some.inj hn).symm
  · exact .inr ⟨n, hn⟩

/-! ### What a step does -/

/-- What a step can do to a session, with the deed that stands for it in the history. -/
inductive Move (s : Session) : Option Deed → Session → Prop
  /-- A new component takes the next identity. -/
  | create (name label : String) {parents : List Component}
      (h : ∀ c ∈ parents, s.Names (.component c)) :
      Move s (some (.created ⟨s.nextIdentity, label, parents⟩)) (s.addComponent name label parents)
  /-- A new condition takes the next identity. -/
  | declare (name : String) (rule : Rule) :
      Move s (some (.declared ⟨s.nextIdentity, rule⟩)) (s.addCondition name rule)
  /-- A condition becomes the own mark of a component that has none. -/
  | attach {d : Condition} {c : Component} (hd : s.Names (.condition d))
      (hc : s.Names (.component c)) (h : s.registry.own? c.identity = none) :
      Move s (some (.applied d c))
        { s with registry := s.registry.write c.identity (.condition d) }
  /-- A condition is refused by a component that has an own mark. -/
  | refuse {d : Condition} {c : Component} {mark : Mark} (hd : s.Names (.condition d))
      (hc : s.Names (.component c)) (h : s.registry.own? c.identity = some mark) :
      Move s (some (.applied d c)) s
  /-- A value becomes the own mark of a component. -/
  | mark {c : Component} (value : Json) (hc : s.Names (.component c)) :
      Move s (some (.marked c value))
        { s with registry := s.registry.write c.identity (.plain value) }
  /-- No component, condition or mark is touched. -/
  | idle {t : Session} (hregistry : t.registry = s.registry)
      (hnext : t.nextIdentity = s.nextIdentity)
      (hcomponent : ∀ c, t.Names (.component c) → s.Names (.component c))
      (hcondition : ∀ d, t.Names (.condition d) → s.Names (.condition d)) :
      Move s none t

/-- A session that stays as it is. -/
theorem Move.refl (s : Session) : Move s none s :=
  .idle rfl rfl (fun _ h => h) (fun _ h => h)

/-- Letting a name stand for something that is no component and no condition touches none. -/
theorem Move.bind {s : Session} (name : String) {thing : Thing}
    (hcomponent : ∀ c, thing ≠ .component c) (hcondition : ∀ d, thing ≠ .condition d) :
    Move s none (s.bind name thing) := by
  refine .idle rfl rfl (fun c h => ?_) (fun d h => ?_)
  · exact (names_bind h).resolve_left fun heq => hcomponent c heq.symm
  · exact (names_bind h).resolve_left fun heq => hcondition d heq.symm

/-- Changing a mapping in place touches no component, condition or mark. -/
theorem Move.change {s : Session} (name : String) (f : Entries Json → Entries Json) {step : Step}
    (h : s.attempt step = s.changeMapping name f) : Move s none (s.step step).1 := by
  rw [Session.step, h, changeMapping]
  rcases s.mapping? name with fault | properties
  · exact .refl s
  · exact .bind name nofun nofun

/-- The outcome of applying a condition to a component that has no own mark. -/
theorem step_apply_of_none {s : Session} {m n : String} {d : Condition} {c : Component}
    (hd : s.condition? m = .ok d) (hc : s.component? n = .ok c)
    (h : s.registry.own? c.identity = none) :
    s.step (.apply m n) =
      ({ s with registry := s.registry.write c.identity (.condition d) },
        .attached true (Registry.attachedLine d c)) := by
  have hattempt : s.attempt (.apply m n) =
      .ok ({ s with registry := s.registry.write c.identity (.condition d) },
        .attached (c.identity == c.identity) (Registry.attachedLine d c)) := by
    simp only [attempt, hd, hc, Bind.bind, Except.bind, Registry.attach_of_none h]
    rfl
  rw [step, hattempt, beq_self_eq_true]

/-- The outcome of applying a condition to a component that has an own mark. -/
theorem step_apply_of_some {s : Session} {m n : String} {d : Condition} {c : Component}
    {mark : Mark} (hd : s.condition? m = .ok d) (hc : s.component? n = .ok c)
    (h : s.registry.own? c.identity = some mark) :
    s.step (.apply m n) = (s, .alreadyDeclared ⟨c.label⟩) := by
  have hattempt : s.attempt (.apply m n) = .error (.alreadyDeclared ⟨c.label⟩) := by
    simp only [attempt, hd, hc, Bind.bind, Except.bind, Registry.attach_of_some h]
    rfl
  rw [step, hattempt]

/-- **What a step does** is one of the moves. -/
theorem move_step (s : Session) (step : Step) : Move s (s.deed? step) (s.step step).1 := by
  cases step with
  | newClass id bases =>
      rcases hbases : s.components? bases with fault | parents
      · rw [deed?, Session.step, attempt, hbases]
        exact .refl s
      · rw [deed?, Session.step, attempt, hbases]
        exact .create id id (names_of_components? hbases)
  | newFunction id => exact .create id id (by simp)
  | newInstance id parent =>
      rcases hparent : s.component? parent with fault | c
      · rw [deed?, Session.step, attempt, hparent]
        exact .refl s
      · rw [deed?, Session.step, attempt, hparent]
        refine .create id _ fun a ha => ?_
        obtain rfl := List.mem_singleton.mp ha
        exact ⟨parent, component?_eq_ok_iff.mp hparent⟩
  | declare id attributes =>
      rcases hrule : Rule.declare attributes with fault | rule
      · rw [deed?, Session.step, attempt, hrule]
        exact .refl s
      · rw [deed?, Session.step, attempt, hrule]
        exact .declare id rule
  | apply m n =>
      rcases hd : s.condition? m with fault | d
      · rw [deed?, Session.step, attempt, hd]
        exact .refl s
      · rcases hc : s.component? n with fault | c
        · rw [deed?, Session.step, attempt, hd, hc]
          exact .refl s
        · have hdeed : s.deed? (.apply m n) = some (.applied d c) := by
            rw [deed?, hd, hc]
            rfl
          have hnames : s.Names (.condition d) := ⟨m, condition?_eq_ok_iff.mp hd⟩
          have hnamec : s.Names (.component c) := ⟨n, component?_eq_ok_iff.mp hc⟩
          rw [hdeed]
          rcases hown : s.registry.own? c.identity with _ | mark
          · rw [step_apply_of_none hd hc hown]
            exact .attach hnames hnamec hown
          · rw [step_apply_of_some hd hc hown]
            exact .refuse hnames hnamec hown
  | mark component value =>
      rcases hc : s.component? component with fault | c
      · rw [deed?, Session.step, attempt, hc]
        exact .refl s
      · rw [deed?, Session.step, attempt, hc]
        exact .mark value ⟨component, component?_eq_ok_iff.mp hc⟩
  | condition component =>
      change Move s none (s.step (.condition component)).1
      rw [Session.step, attempt]
      rcases s.component? component with fault | c <;> exact .refl s
  | sameCondition a b =>
      change Move s none (s.step (.sameCondition a b)).1
      rw [Session.step, attempt]
      rcases s.component? a with fault | c <;> rcases s.component? b with fault | d <;>
        exact .refl s
  | mapping id properties => exact .bind id nofun nofun
  | put mapping key value => exact .change mapping (·.put key value) rfl
  | remove mapping key => exact .change mapping (·.without key) rfl
  | source id source => exact .bind id nofun nofun
  | snapshot id scheme name mapping =>
      change Move s none (s.step (.snapshot id scheme name mapping)).1
      rw [Session.step, attempt]
      rcases s.mapping? mapping with fault | properties
      · exact .refl s
      · exact .bind id nofun nofun
  | query source query =>
      change Move s none (s.step (.query source query)).1
      rw [Session.step, attempt]
      rcases s.source? source with fault | source <;> exact .refl s
  | evaluate component source =>
      change Move s none (s.step (.evaluate component source)).1
      rw [Session.step, attempt]
      rcases s.component? component with fault | c <;>
        rcases s.source? source with fault | source <;> exact .refl s
  | isEnabled component source =>
      change Move s none (s.step (.isEnabled component source)).1
      rw [Session.step, attempt]
      rcases s.component? component with fault | c <;>
        rcases s.source? source with fault | source <;> exact .refl s

/-! ### The own marks after a run -/

/-- What a step makes of the own marks is what its deed makes of them. -/
theorem own?_move {s t : Session} {deed : Option Deed} (h : Move s deed t) (i : Nat) :
    t.registry.own? i = deed.toList.foldl (Deed.onto i) (s.registry.own? i) := by
  cases h with
  | create name label hparents => rfl
  | declare name rule => rfl
  | @attach d c hd hc hown =>
      change (s.registry.write c.identity (.condition d)).own? i
        = if c.identity = i then (s.registry.own? i).or _ else s.registry.own? i
      rw [Registry.own?_write]
      by_cases heq : c.identity = i
      · rw [if_pos heq, if_pos heq, ← heq, hown, Option.none_or]
      · rw [if_neg heq, if_neg heq]
  | @refuse d c mark hd hc hown =>
      change s.registry.own? i
        = if c.identity = i then (s.registry.own? i).or _ else s.registry.own? i
      by_cases heq : c.identity = i
      · rw [if_pos heq, ← heq, hown, Option.some_or]
      · rw [if_neg heq]
  | @mark c value hc => exact Registry.own?_write _ _ _ i
  | idle hregistry hnext hcomponent hcondition => exact congrArg (Registry.own? · i) hregistry

/-- **The own marks after a run are what the deeds of its history add up to.** -/
theorem own?_after (s : Session) (steps : List Step) (i : Nat) :
    (s.after steps).registry.own? i
      = (s.history steps).foldl (Deed.onto i) (s.registry.own? i) := by
  induction steps generalizing s with
  | nil => rfl
  | cons step rest ih =>
      rw [after, history, List.foldl_append, ih, own?_move (move_step s step) i]

/-! ### The things of a session -/

/-- A session is **recorded** by a past: its names stand for things that were made there, what was
made there has identities of its own, all of them below the next one, and every deed is about
things that were made. -/
structure Recorded (past : List Deed) (s : Session) : Prop where
  component : ∀ c, s.Names (.component c) → .created c ∈ past
  condition : ∀ d, s.Names (.condition d) → .declared d ∈ past
  below : ∀ deed ∈ past, ∀ i, deed.identity? = some i → i < s.nextIdentity
  distinct : ∀ a ∈ past, ∀ b ∈ past, ∀ i, a.identity? = some i → b.identity? = some i → a = b
  grounded : ∀ deed ∈ past, deed.Grounded past

/-- Nothing is recorded of the session in which nothing has been named. -/
theorem recorded_empty : Recorded [] empty where
  component := by
    rintro c ⟨name, h⟩
    cases h
  condition := by
    rintro d ⟨name, h⟩
    cases h
  below := by simp
  distinct := by simp
  grounded := by simp

/-- A session stays recorded when a deed is added that is grounded in the past, gives out no
identity but the next one, and lets names stand for nothing but what it makes. -/
theorem Recorded.snoc {past : List Deed} {s t : Session} {deed : Deed} (h : Recorded past s)
    (hcomponent : ∀ c, t.Names (.component c) → deed = .created c ∨ s.Names (.component c))
    (hcondition : ∀ d, t.Names (.condition d) → deed = .declared d ∨ s.Names (.condition d))
    (hidentity : ∀ i, deed.identity? = some i → i = s.nextIdentity ∧ i < t.nextIdentity)
    (hnext : s.nextIdentity ≤ t.nextIdentity) (hgrounded : deed.Grounded past) :
    Recorded (past ++ [deed]) t where
  component := by
    intro c hc
    rcases hcomponent c hc with rfl | hold
    · simp
    · exact List.mem_append_left _ (h.component c hold)
  condition := by
    intro d hd
    rcases hcondition d hd with rfl | hold
    · simp
    · exact List.mem_append_left _ (h.condition d hold)
  below := by
    intro a ha i hi
    rcases List.mem_append.mp ha with hpast | hlast
    · exact Nat.lt_of_lt_of_le (h.below a hpast i hi) hnext
    · obtain rfl := List.mem_singleton.mp hlast
      exact (hidentity i hi).2
  distinct := by
    intro a ha b hb i hai hbi
    -- an identity of the past is below the next one, so the new deed shares none with the past
    rcases List.mem_append.mp ha with hapast | halast <;>
      rcases List.mem_append.mp hb with hbpast | hblast
    · exact h.distinct a hapast b hbpast i hai hbi
    · have hlt := h.below a hapast i hai
      have heq := (hidentity i (List.mem_singleton.mp hblast ▸ hbi)).1
      omega
    · have hlt := h.below b hbpast i hbi
      have heq := (hidentity i (List.mem_singleton.mp halast ▸ hai)).1
      omega
    · rw [List.mem_singleton.mp halast, List.mem_singleton.mp hblast]
  grounded := by
    intro a ha
    rcases List.mem_append.mp ha with hpast | hlast
    · exact (h.grounded a hpast).mono (List.subset_append_left past _)
    · obtain rfl := List.mem_singleton.mp hlast
      exact hgrounded.mono (List.subset_append_left past _)

/-- The lookup orders of components that were made hold identities of components that were made. -/
theorem Recorded.exists_created {past : List Deed} {s : Session} (h : Recorded past s)
    {c : Component} (hc : .created c ∈ past) {i : Nat} (hi : i ∈ c.order) :
    ∃ a, .created a ∈ past ∧ a.identity = i := by
  rcases h.grounded _ hc i hi with rfl | hmade
  · exact ⟨c, hc, rfl⟩
  · exact hmade

/-- **A step keeps a session recorded.** -/
theorem Recorded.move {past : List Deed} {s t : Session} {deed : Option Deed}
    (h : Recorded past s) (hmove : Move s deed t) : Recorded (past ++ deed.toList) t := by
  cases hmove with
  | @create name label parents hparents =>
      refine h.snoc (fun c hc => ?_) (fun d hd => ?_) ?_ (Nat.le_succ _) ?_
      · exact (names_bind hc).imp_left fun heq =>
          congrArg Deed.created (Thing.component.inj heq).symm
      · exact .inr ((names_bind hd).resolve_left nofun)
      · intro i hi
        obtain rfl := Option.some.inj hi
        exact ⟨rfl, Nat.lt_succ_self _⟩
      · intro i hi
        rw [Component.order, Component.orderAll_eq_flatMap, List.mem_cons] at hi
        refine hi.imp_right fun hparent => ?_
        obtain ⟨parent, hmem, hi⟩ := List.mem_flatMap.mp hparent
        exact h.exists_created (h.component parent (hparents parent hmem)) hi
  | @declare name rule =>
      refine h.snoc (fun c hc => ?_) (fun d hd => ?_) ?_ (Nat.le_succ _) trivial
      · exact .inr ((names_bind hc).resolve_left nofun)
      · exact (names_bind hd).imp_left fun heq =>
          congrArg Deed.declared (Thing.condition.inj heq).symm
      · intro i hi
        obtain rfl := Option.some.inj hi
        exact ⟨rfl, Nat.lt_succ_self _⟩
  | @attach d c hd hc hown =>
      exact h.snoc (fun _ => .inr) (fun _ => .inr) nofun (Nat.le_refl _)
        ⟨h.condition d hd, h.component c hc⟩
  | @refuse d c mark hd hc hown =>
      exact h.snoc (fun _ => .inr) (fun _ => .inr) nofun (Nat.le_refl _)
        ⟨h.condition d hd, h.component c hc⟩
  | @mark c value hc =>
      exact h.snoc (fun _ => .inr) (fun _ => .inr) nofun (Nat.le_refl _) (h.component c hc)
  | idle hregistry hnext hcomponent hcondition =>
      rw [Option.toList_none, List.append_nil]
      exact ⟨fun c hc => h.component c (hcomponent c hc),
        fun d hd => h.condition d (hcondition d hd), hnext ▸ h.below, h.distinct, h.grounded⟩

/-- A run keeps a session recorded. -/
theorem Recorded.after {past : List Deed} {s : Session} (h : Recorded past s)
    (steps : List Step) : Recorded (past ++ s.history steps) (s.after steps) := by
  induction steps generalizing past s with
  | nil => rwa [history, List.append_nil]
  | cons step rest ih =>
      rw [history, ← List.append_assoc]
      exact ih (h.move (move_step s step))

/-- **A session is recorded by its history.** -/
theorem recorded_after (steps : List Step) :
    Recorded (empty.history steps) (empty.after steps) :=
  recorded_empty.after steps

end Session

end Activation
