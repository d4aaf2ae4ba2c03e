import Mathlib.Data.List.Induction
import Activation.Proofs.Component.Exposure
import Activation.Proofs.Session.History

/-!
# Readers and Writers in a Session

The steps of a session are **reads**, which only ask, and writes. Two things keep them apart.

A source is made from the properties that its mapping has at that moment. What a step does to a name
is one of three things (`get?_things_step`): nothing, or a new thing takes the name, or the mapping
under the name is changed in place. The last never touches a source. So a source that has been made
stays what it is until its name is used again (`source?_after`), and conversely every source of a
session is one that some step has made and no step has touched since (`exists_makes`); its answers
are those of the properties it was made from. The mapping goes its own way meanwhile: it has what it
was made with, as what has been put and removed since has left it (`mapping?_after`).

A read leaves the session as it is (`step_of_isRead`), so how often it is taken, if at all, makes no
difference to any other step (`answers_flatMap_replicate`).

## Main statements

* `source?_after`, `mapping?_after` — what a source and a mapping are after any steps.
* `exists_makes` — where the sources of a session come from.
* `answers_flatMap_replicate` — the answers of a session whose reads are left out or repeated.
* `answers_isolated` — sources, mappings, and the answers to reads.
-/

namespace Activation

namespace Step

/-- Whether a step only asks. -/
def isRead : Step → Bool
  | .condition _ => true
  | .sameCondition _ _ => true
  | .query _ _ => true
  | .evaluate _ _ => true
  | .isEnabled _ _ => true
  | _ => false

/-- The name that a step gives to a new thing. -/
def newName? : Step → Option String
  | .newClass id _ => some id
  | .newFunction id => some id
  | .newInstance id _ => some id
  | .declare id _ => some id
  | .mapping id _ => some id
  | .source id _ => some id
  | .snapshot id _ _ _ => some id
  | _ => none

/-- What a step makes of the properties in the mapping that a name stands for. -/
def onto (name : String) (properties : Entries Json) : Step → Entries Json
  | .put id key value => if id = name then properties.put key value else properties
  | .remove id key => if id = name then properties.without key else properties
  | _ => properties

end Step

/-- A thing with other properties, if it is a mapping. Nothing else can be changed in place. -/
def Thing.change (f : Entries Json → Entries Json) : Thing → Thing
  | .mapping properties => .mapping (f properties)
  | thing => thing

/-- A change that keeps all properties keeps what a name stands for. -/
theorem Thing.map_change_id (found : Option Thing) :
    found.map (Thing.change fun properties => properties) = found := by
  rcases found with _ | ⟨c⟩ | ⟨c⟩ | ⟨c⟩ | ⟨c⟩ <;> rfl

namespace Session

/-! ### Reads -/

/-- **A read leaves the session as it is.** -/
theorem step_of_isRead (s : Session) {step : Step} (h : step.isRead = true) :
    (s.step step).1 = s := by
  cases step with
  | condition component =>
      rw [Session.step, attempt]
      rcases s.component? component with fault | c <;> rfl
  | sameCondition a b =>
      rw [Session.step, attempt]
      rcases s.component? a with fault | c <;> rcases s.component? b with fault | d <;> rfl
  | query source query =>
      rw [Session.step, attempt]
      rcases s.source? source with fault | source <;> rfl
  | evaluate component source =>
      rw [Session.step, attempt]
      rcases s.component? component with fault | c <;>
        rcases s.source? source with fault | source <;> rfl
  | isEnabled component source =>
      rw [Session.step, attempt]
      rcases s.component? component with fault | c <;>
        rcases s.source? source with fault | source <;> rfl
  | _ => cases h

/-! ### What a name stands for -/

/-- A name that is read as a source stands for it. -/
theorem source?_eq_ok_iff {s : Session} {name : String} {source : Source} :
    s.source? name = .ok source ↔ s.things.get? name = some (.source source) := by
  rw [source?]
  rcases s.things.get? name with _ | ⟨c⟩ | ⟨c⟩ | ⟨c⟩ | ⟨c⟩ <;> simp

/-- A name that is read as a mapping stands for it. -/
theorem mapping?_eq_ok_iff {s : Session} {name : String} {properties : Entries Json} :
    s.mapping? name = .ok properties ↔ s.things.get? name = some (.mapping properties) := by
  rw [mapping?]
  rcases s.things.get? name with _ | ⟨c⟩ | ⟨c⟩ | ⟨c⟩ | ⟨c⟩ <;> simp

/-- A thing under one name leaves what another name stands for. -/
theorem get?_things_bind_of_ne (s : Session) {id name : String} (h : some id ≠ some name)
    (thing : Thing) : (s.bind id thing).things.get? name = s.things.get? name := by
  rw [bind, Entries.get?_put, if_neg fun heq => h (congrArg some heq)]

/-- What a name stands for after a mapping has been changed in place. -/
theorem get?_things_step_change (s : Session) {step : Step} {id : String}
    {f : Entries Json → Entries Json} (hstep : s.attempt step = s.changeMapping id f)
    (name : String) :
    (s.step step).1.things.get? name =
      (s.things.get? name).map
        (Thing.change fun properties => if id = name then f properties else properties) := by
  rw [Session.step, hstep, changeMapping]
  by_cases hid : id = name
  · subst hid
    simp only [if_true]
    rw [mapping?]
    rcases hthing : s.things.get? id with _ | ⟨c⟩ | ⟨c⟩ | ⟨properties⟩ | ⟨c⟩
    · exact hthing
    · exact hthing
    · exact hthing
    · exact (Entries.get?_put ..).trans (if_pos rfl)
    · exact hthing
  · simp only [if_neg hid]
    rw [Thing.map_change_id]
    rcases s.mapping? id with fault | properties
    · rfl
    · exact get?_things_bind_of_ne s (fun heq => hid (Option.some.inj heq)) _

/-- **What a step does to a name** that it does not give to a new thing: the name stands for what it
stood for, with a change if that is a mapping and the step puts something there or removes
something. -/
theorem get?_things_step (s : Session) {step : Step} {name : String}
    (h : step.newName? ≠ some name) :
    (s.step step).1.things.get? name =
      (s.things.get? name).map (Thing.change (Step.onto name · step)) := by
  rcases hread : step.isRead with _ | _
  · cases step with
    | put id key value => exact get?_things_step_change s rfl name
    | remove id key => exact get?_things_step_change s rfl name
    | newClass id bases =>
        refine Eq.trans ?_ (Thing.map_change_id _).symm
        rw [Session.step, attempt]
        rcases s.components? bases with fault | parents
        · rfl
        · exact get?_things_bind_of_ne s h _
    | newFunction id => exact (get?_things_bind_of_ne s h _).trans (Thing.map_change_id _).symm
    | newInstance id parent =>
        refine Eq.trans ?_ (Thing.map_change_id _).symm
        rw [Session.step, attempt]
        rcases s.component? parent with fault | c
        · rfl
        · exact get?_things_bind_of_ne s h _
    | declare id attributes =>
        refine Eq.trans ?_ (Thing.map_change_id _).symm
        rw [Session.step, attempt]
        rcases Rule.declare attributes with fault | rule
        · rfl
        · exact get?_things_bind_of_ne s h _
    | apply m n =>
        refine Eq.trans ?_ (Thing.map_change_id _).symm
        rcases hd : s.condition? m with fault | d
        · rw [Session.step, attempt, hd]
          rfl
        · rcases hc : s.component? n with fault | c
          · rw [Session.step, attempt, hd, hc]
            rfl
          · rcases hown : s.registry.own? c.identity with _ | mark
            · rw [step_apply_of_none hd hc hown]
            · rw [step_apply_of_some hd hc hown]
    | mark component value =>
        refine Eq.trans ?_ (Thing.map_change_id _).symm
        rw [Session.step, attempt]
        rcases s.component? component with fault | c <;> rfl
    | mapping id properties =>
        exact (get?_things_bind_of_ne s h _).trans (Thing.map_change_id _).symm
    | source id source => exact (get?_things_bind_of_ne s h _).trans (Thing.map_change_id _).symm
    | snapshot id scheme title mapping =>
        refine Eq.trans ?_ (Thing.map_change_id _).symm
        rw [Session.step, attempt]
        rcases s.mapping? mapping with fault | properties
        · rfl
        · exact get?_things_bind_of_ne s h _
    | _ => cases hread
  · have hkeep : (Step.onto name · step) = fun properties => properties := by
      cases step with
      | put id key value => cases hread
      | remove id key => cases hread
      | _ => rfl
    rw [step_of_isRead s hread, hkeep, Thing.map_change_id]

/-- What a name stands for after some steps that do not give it to a new thing. -/
theorem get?_things_after (s : Session) {steps : List Step} {name : String}
    (h : ∀ step ∈ steps, step.newName? ≠ some name) :
    (s.after steps).things.get? name =
      (s.things.get? name).map
        (Thing.change fun properties => steps.foldl (Step.onto name) properties) := by
  induction steps generalizing s with
  | nil => exact (Thing.map_change_id _).symm
  | cons step rest ih =>
      obtain ⟨hstep, hrest⟩ := List.forall_mem_cons.mp h
      rw [after, ih _ hrest, get?_things_step s hstep, Option.map_map]
      congr 1
      funext thing
      cases thing <;> rfl

/-- **A source stays what it is** until its name is used again, however mappings are changed. -/
theorem source?_after {s : Session} {name : String} {source : Source}
    (hsource : s.source? name = .ok source) {steps : List Step}
    (h : ∀ step ∈ steps, step.newName? ≠ some name) :
    (s.after steps).source? name = .ok source := by
  rw [source?_eq_ok_iff] at hsource ⊢
  rw [get?_things_after s h, hsource]
  rfl

/-- **A mapping has what it was made with**, as what has been put and removed since has left it. -/
theorem mapping?_after {s : Session} {name : String} {properties : Entries Json}
    (hmapping : s.mapping? name = .ok properties) {steps : List Step}
    (h : ∀ step ∈ steps, step.newName? ≠ some name) :
    (s.after steps).mapping? name = .ok (steps.foldl (Step.onto name) properties) := by
  rw [mapping?_eq_ok_iff] at hmapping ⊢
  rw [get?_things_after s h, hmapping]
  rfl

/-! ### Where sources come from -/

/-- A step **makes** a source under a name: it is given the source, or it takes the properties that
a mapping has. -/
inductive Makes (s : Session) (name : String) : Step → Source → Prop
  | given (source : Source) : Makes s name (.source name source) source
  | snapshot (scheme : Source.Scheme) (title : Option String) {mapping : String}
      {properties : Entries Json} (h : s.mapping? mapping = .ok properties) :
      Makes s name (.snapshot name scheme title mapping) (.ofProperties scheme title properties)

/-- A source that a step makes is what its name stands for. -/
theorem Makes.source? {s : Session} {name : String} {step : Step} {source : Source}
    (h : s.Makes name step source) : (s.step step).1.source? name = .ok source := by
  cases h with
  | given source => exact source?_eq_ok_iff.mpr ((Entries.get?_put ..).trans (if_pos rfl))
  | snapshot scheme title hmapping =>
      rw [step, attempt, hmapping]
      exact source?_eq_ok_iff.mpr ((Entries.get?_put ..).trans (if_pos rfl))

/-- A name that has come to stand for a thing stands for a source only if the thing is one. -/
theorem source?_bind {s : Session} {name : String} {thing : Thing} {source : Source}
    (h : (s.bind name thing).source? name = .ok source) : thing = .source source := by
  rw [source?_eq_ok_iff, bind, Entries.get?_put, if_pos rfl] at h
  exact Option.some.inj h

/-- **The source that a name stands for after a step** is the one that it stood for before, or one
that the step makes. -/
theorem source?_step {s : Session} {step : Step} {name : String} {source : Source}
    (h : (s.step step).1.source? name = .ok source) :
    s.source? name = .ok source ∨ s.Makes name step source := by
  by_cases hnew : step.newName? = some name
  · cases step with
    | newClass id bases =>
        obtain rfl := Option.some.inj hnew
        rw [Session.step, attempt] at h
        rcases hbases : s.components? bases with fault | parents
        · rw [hbases] at h
          exact .inl h
        · rw [hbases] at h
          cases source?_bind h
    | newFunction id =>
        obtain rfl := Option.some.inj hnew
        cases source?_bind h
    | newInstance id parent =>
        obtain rfl := Option.some.inj hnew
        rw [Session.step, attempt] at h
        rcases hparent : s.component? parent with fault | c
        · rw [hparent] at h
          exact .inl h
        · rw [hparent] at h
          cases source?_bind h
    | declare id attributes =>
        obtain rfl := Option.some.inj hnew
        rw [Session.step, attempt] at h
        rcases hrule : Rule.declare attributes with fault | rule
        · rw [hrule] at h
          exact .inl h
        · rw [hrule] at h
          cases source?_bind h
    | mapping id properties =>
        obtain rfl := Option.some.inj hnew
        cases source?_bind h
    | source id given =>
        obtain rfl := Option.some.inj hnew
        cases source?_bind h
        exact .inr (.given source)
    | snapshot id scheme title mapping =>
        obtain rfl := Option.some.inj hnew
        rw [Session.step, attempt] at h
        rcases hmapping : s.mapping? mapping with fault | properties
        · rw [hmapping] at h
          exact .inl h
        · rw [hmapping] at h
          cases source?_bind h
          exact .inr (.snapshot scheme title hmapping)
    | _ => cases hnew
  · rw [source?_eq_ok_iff, get?_things_step s hnew] at h
    obtain ⟨thing, hthing, hsource⟩ := Option.map_eq_some_iff.mp h
    cases thing with
    | source found =>
        cases hsource
        exact .inl (source?_eq_ok_iff.mpr hthing)
    | component c => cases hsource
    | condition d => cases hsource
    | mapping properties => cases hsource

/-- A run of steps in two parts. -/
theorem after_append (s : Session) (first more : List Step) :
    s.after (first ++ more) = (s.after first).after more := by
  induction first generalizing s with
  | nil => rfl
  | cons step rest ih => exact ih _

/-- **Every source of a session has been made by one of its steps**, and has stood under its name
ever since. -/
theorem exists_makes {steps : List Step} {name : String} {source : Source}
    (h : (empty.after steps).source? name = .ok source) :
    ∃ before step later, steps = before ++ step :: later ∧
      (empty.after before).Makes name step source ∧
      ∀ more, more <+: later →
        (empty.after (before ++ step :: more)).source? name = .ok source := by
  induction steps using List.reverseRecOn with
  | nil => cases h
  | append_singleton steps last ih =>
      have hlast : ((empty.after steps).step last).1.source? name = .ok source := by
        rwa [after_append] at h
      rcases source?_step hlast with hbefore | hmakes
      · obtain ⟨before, step, later, rfl, hmakes, hsince⟩ := ih hbefore
        refine ⟨before, step, later ++ [last], by simp, hmakes, fun more hmore => ?_⟩
        rcases List.prefix_concat_iff.mp hmore with rfl | hmore
        · rwa [List.append_assoc, List.cons_append] at h
        · exact hsince more hmore
      · refine ⟨steps, last, [], rfl, hmakes, fun more hmore => ?_⟩
        obtain rfl := List.prefix_nil.mp hmore
        rw [after_append]
        exact hmakes.source?

/-! ### The answers of a source -/

/-- A query is answered by the source that its name stands for. -/
theorem answer_query {s : Session} {name : String} {source : Source}
    (h : s.source? name = .ok source) (query : Source.Query) :
    (s.step (.query name query)).2 = .value (source.answer query) := by
  rw [step, attempt, h]
  rfl

/-- A component is evaluated against the source that a name stands for: it is its condition that
is, if it has one. -/
theorem answer_evaluate {s : Session} {name : String} {source : Source}
    (h : s.source? name = .ok source) {component : String} {c : Component}
    (hc : s.component? component = .ok c) :
    (s.step (.evaluate component name)).2
      = .report ((s.registry.condition? c).map fun d => d.rule.report source) := by
  rw [step, attempt, hc, h]
  rfl

/-- Whether a component is active is decided by its condition on the source that a name stands
for. -/
theorem answer_isEnabled {s : Session} {name : String} {source : Source}
    (h : s.source? name = .ok source) {component : String} {c : Component}
    (hc : s.component? component = .ok c) :
    (s.step (.isEnabled component name)).2
      = .flag ((s.registry.condition? c).elim true fun d => d.rule.matches? source) := by
  rw [← Registry.isEnabled_eq, step, attempt, hc, h]
  rfl

/-! ### Reads left out and repeated -/

/-- A step that leaves the session as it is can be taken any number of times: it has the same answer
each time, and the steps that follow have the answers that they would have had at once. -/
theorem answers_replicate_append {s : Session} {step : Step} (h : (s.step step).1 = s) (n : Nat)
    (rest : List Step) :
    s.answers (List.replicate n step ++ rest)
      = List.replicate n (s.step step).2 ++ s.answers rest := by
  induction n with
  | zero => rfl
  | succ n ih =>
      rw [List.replicate_succ, List.cons_append, answers, h, ih, List.replicate_succ,
        List.cons_append]

/-- **Reads can be left out and repeated.** If each read of a session is taken any number of times,
and every other step once, then the answers are those of the session, each of them as many times as
its step is taken. -/
theorem answers_flatMap_replicate (s : Session) {plan : List (Step × Nat)}
    (h : ∀ p ∈ plan, p.1.isRead = false → p.2 = 1) :
    s.answers (plan.flatMap fun p => List.replicate p.2 p.1)
      = (plan.zip (s.answers (plan.map Prod.fst))).flatMap
          fun q => List.replicate q.1.2 q.2 := by
  induction plan generalizing s with
  | nil => rfl
  | cons p rest ih =>
      obtain ⟨step, n⟩ := p
      obtain ⟨hstep, hrest⟩ := List.forall_mem_cons.mp h
      rw [List.flatMap_cons, List.map_cons, answers, List.zip_cons_cons, List.flatMap_cons,
        ← ih _ hrest]
      rcases hread : step.isRead with _ | _
      · obtain rfl : n = 1 := hstep hread
        rfl
      · have hsame := step_of_isRead s hread
        rw [answers_replicate_append hsame, hsame]

/-! ### Sources, mappings and reads -/

/-- **Sources are isolated from mappings, and steps from reads.** Take any steps from the start.

* Every source of the session was made by one of the steps, from nothing but the properties that a
  mapping had just then or from those that it was given, and has stood under its name ever since.
  Every query is answered by this source, and every component is evaluated against it by the rule of
  its condition; what has happened to the mapping in the meantime has no part in it.
* A source that a step makes stands under its name through all steps that do not use the name again.
* A mapping has, after any such steps, the properties that it had, as what has been put and removed
  in the meantime has left them.
* Let each read be taken any number of times, or not at all, and every other step once. Then the
  answers are those of the session, each of them as many times as its step is taken. -/
theorem answers_isolated (steps : List Step) :
    let s := empty.after steps
    (∀ name source, s.source? name = .ok source →
      (∃ before step later, steps = before ++ step :: later ∧
        (empty.after before).Makes name step source ∧
        ∀ more, more <+: later →
          (empty.after (before ++ step :: more)).source? name = .ok source) ∧
      (∀ query, (s.step (.query name query)).2 = .value (source.answer query)) ∧
      ∀ component c, s.component? component = .ok c →
        (s.step (.evaluate component name)).2
          = .report ((s.registry.condition? c).map fun d => d.rule.report source) ∧
        (s.step (.isEnabled component name)).2
          = .flag ((s.registry.condition? c).elim true fun d => d.rule.matches? source)) ∧
    (∀ name step source, s.Makes name step source → ∀ more : List Step,
      (∀ later ∈ more, later.newName? ≠ some name) →
        (s.after (step :: more)).source? name = .ok source) ∧
    (∀ mapping properties, s.mapping? mapping = .ok properties → ∀ more : List Step,
      (∀ later ∈ more, later.newName? ≠ some mapping) →
        (s.after more).mapping? mapping = .ok (more.foldl (Step.onto mapping) properties)) ∧
    ∀ plan : List (Step × Nat), (∀ p ∈ plan, p.1.isRead = false → p.2 = 1) →
      s.answers (plan.flatMap fun p => List.replicate p.2 p.1)
        = (plan.zip (s.answers (plan.map Prod.fst))).flatMap
            fun q => List.replicate q.1.2 q.2 := by
  intro s
  refine ⟨fun name source hsource => ⟨exists_makes hsource, answer_query hsource, ?_⟩, ?_, ?_, ?_⟩
  · exact fun component c hc => ⟨answer_evaluate hsource hc, answer_isEnabled hsource hc⟩
  · exact fun name step source hmakes more h => source?_after hmakes.source? h
  · exact fun mapping properties hmapping more h => mapping?_after hmapping h
  · exact fun plan h => answers_flatMap_replicate s h

/-- The mapping turns to `false` after a source was made from it, and loses a property: the source
does not see that, and a second one does. A read taken twice and one left out change no other
answer. -/
theorem answers_isolated_mapping :
    let rule : Rule := ⟨["size"], "", none, .bool false, .bool true⟩
    let one : Entries Json := [("SIZE", .integer 1), ("shape", .text "round")]
    let two : Entries Json := [("SIZE", .bool false), ("colour", .text "red")]
    let first : List Step := [.newClass "Cache" [], .declare "sized" { name := .text "size" },
      .apply "sized" "Cache", .mapping "m" one]
    let changes : List Step := [.put "m" "SIZE" (.bool false), .remove "m" "shape",
      .put "m" "colour" (.text "red")]
    let early : Step := .snapshot "early" .canonical none "m"
    let late : Step := .snapshot "late" .canonical none "m"
    let steps := first ++ early :: changes ++ [late]
    let s := empty.after steps
    let plan : List (Step × Nat) := [(.isEnabled "Cache" "early", 2), (.query "early" .size, 0),
      (.remove "m" "colour", 1), (.query "early" .keys, 1)]
    (empty.after first).mapping? "m" = .ok one ∧
      (∀ later ∈ changes ++ [late], later.newName? ≠ some "early") ∧
      s.source? "early" = .ok (.ofProperties .canonical none one) ∧
      (s.step (.query "early" (.lookup "size"))).2 = .value (.text "1") ∧
      (s.step (.query "early" (.lookup "shape"))).2 = .value (.text "round") ∧
      (s.step (.evaluate "Cache" "early")).2
        = .report (some (rule.report (.ofProperties .canonical none one))) ∧
      (s.step (.isEnabled "Cache" "early")).2 = .flag true ∧
      (s.step (.isEnabled "Cache" "late")).2 = .flag false ∧
      (empty.after (first ++ early :: changes)).mapping? "m" = .ok two ∧
      s.answers (plan.flatMap fun p => List.replicate p.2 p.1)
        = [.flag true, .flag true, .done, .value (.list [.text "SIZE", .text "shape"])] := by
  intro rule one two first changes early late steps s plan
  have hmapping : (empty.after first).mapping? "m" = .ok one := rfl
  have hname : ∀ later ∈ changes ++ [late], later.newName? ≠ some "early" := by
    simp [changes, late, Step.newName?]
  obtain ⟨-, hmade, hchanged, -⟩ := answers_isolated first
  have hsplit : s = (empty.after first).after (early :: (changes ++ [late])) :=
    after_append empty first (early :: (changes ++ [late]))
  have hearly : s.source? "early" = .ok (.ofProperties .canonical none one) := by
    rw [hsplit]
    exact hmade "early" early _ (.snapshot .canonical none hmapping) (changes ++ [late]) hname
  have htwo : (empty.after (first ++ early :: changes)).mapping? "m" = .ok two := by
    rw [after_append]
    exact hchanged "m" one hmapping (early :: changes) (by simp [early, changes, Step.newName?])
  have hs : s =
      ⟨[("Cache", .component ⟨0, "Cache", []⟩), ("sized", .condition ⟨1, rule⟩),
        ("m", .mapping two),
        ("early", .source (.canonical "canonical" [("SIZE", "1"), ("shape", "round")])),
        ("late", .source (.canonical "canonical" [("SIZE", "False"), ("colour", "red")]))], 2,
        ⟨[(0, .condition ⟨1, rule⟩)]⟩⟩ := rfl
  have hcache : s.component? "Cache" = .ok ⟨0, "Cache", []⟩ := hs ▸ rfl
  have hlate : s.source? "late" = .ok (.ofProperties .canonical none two) := hs ▸ rfl
  obtain ⟨hanswers, -, -, hplan⟩ := answers_isolated steps
  obtain ⟨-, hquery, hcomponent⟩ := hanswers "early" _ hearly
  obtain ⟨hevaluate, henabled⟩ := hcomponent "Cache" _ hcache
  obtain ⟨-, -, hcomponentLate⟩ := hanswers "late" _ hlate
  obtain ⟨-, henabledLate⟩ := hcomponentLate "Cache" _ hcache
  have hcondition : s.registry.condition? ⟨0, "Cache", []⟩ = some ⟨1, rule⟩ := hs ▸ rfl
  rw [hcondition] at hevaluate henabled henabledLate
  have hsize : (Source.ofProperties .canonical none one).lookup "size" = some "1" := by decide
  have hshape : (Source.ofProperties .canonical none one).lookup "shape" = some "round" := by
    decide
  have hmet : rule.matches? (.ofProperties .canonical none one) = true := by decide
  have hmissed : rule.matches? (.ofProperties .canonical none two) = false := by decide
  have hactive : (s.step (.isEnabled "Cache" "early")).2 = .flag true :=
    henabled.trans (congrArg Answer.flag hmet)
  have hplanned : s.answers (plan.map Prod.fst)
      = [.flag true, .value (.integer 2), .done,
          .value (.list [.text "SIZE", .text "shape"])] := by
    rw [List.map_cons, answers, hactive, step_of_isRead s rfl, hs]
    rfl
  refine ⟨hmapping, hname, hearly, ?_, ?_, hevaluate, hactive,
    henabledLate.trans (congrArg Answer.flag hmissed), htwo, ?_⟩
  · rw [hquery, Source.answer, hsize]
  · rw [hquery, Source.answer, hshape]
  · rw [hplan plan (by simp [plan, Step.isRead]), hplanned]
    rfl

end Session

end Activation
