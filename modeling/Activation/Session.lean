import Activation.Component
import Activation.Source.Query

/-!
# Sessions

A **session** keeps things under names and works on them step by step: components, conditions,
sources, and mappings of properties that can be changed. Every step has an answer; a step that is
refused changes nothing, and the session goes on.

A mapping is changed in place, by putting a property into it or by removing one, which does nothing
if there is none. A source made from a mapping takes the properties as they are then, and a later
change to the mapping is not seen by it. A name that is used again stands for the new thing, while
things made from the old one keep it.
-/

namespace Activation

/-- What a name stands for. -/
inductive Thing where
  | component (component : Component)
  | condition (condition : Condition)
  | mapping (properties : Entries Json)
  | source (source : Source)

/-- The steps of a session. -/
inductive Step where
  | newClass (id : String) (bases : List String)
  | newFunction (id : String)
  | newInstance (id : String) (parent : String)
  | declare (id : String) (attributes : Rule.Attributes)
  | apply (condition : String) (component : String)
  | mark (component : String) (value : Json)
  | condition (component : String)
  | sameCondition (a b : String)
  | mapping (id : String) (properties : Entries Json)
  | put (mapping : String) (key : String) (value : Json)
  | remove (mapping : String) (key : String)
  | source (id : String) (source : Source)
  | snapshot (id : String) (scheme : Source.Scheme) (name : Option String) (mapping : String)
  | query (source : String) (query : Source.Query)
  | evaluate (component : String) (source : String)
  | isEnabled (component : String) (source : String)

/-- The answers to steps. A condition that was attached is answered by whether the component handed
back is the same as the one it was applied to, and by the line that was logged. -/
inductive Answer where
  | done
  | attached (same : Bool) (line : Log.Line)
  | rule (rule : Option Rule)
  | flag (value : Bool)
  | value (value : Json)
  | report (report : Option Report)
  | refused (fault : Rule.Fault)
  | alreadyDeclared (fault : Registry.AlreadyDeclared)
  | unknown (name : String)

/-- The lines that a step with this answer has logged about attachments. -/
def Answer.attachments : Answer → List Log.Line
  | .attached _ line => [line]
  | _ => []

/-- The state of a session: what its names stand for, the identity that the next thing gets, and
the marks of its components. -/
structure Session where
  things : Entries Thing
  nextIdentity : Nat
  registry : Registry

namespace Session

/-- Nothing has been named yet. -/
def empty : Session := ⟨[], 0, .empty⟩

/-- The component that a name stands for. -/
def component? (s : Session) (name : String) : Except Answer Component :=
  match s.things.get? name with
  | some (.component c) => .ok c
  | _ => .error (.unknown name)

/-- The components that some names stand for. -/
def components? (s : Session) : List String → Except Answer (List Component)
  | [] => .ok []
  | name :: rest => do
    let c ← s.component? name
    let cs ← s.components? rest
    return c :: cs

/-- The condition that a name stands for. -/
def condition? (s : Session) (name : String) : Except Answer Condition :=
  match s.things.get? name with
  | some (.condition condition) => .ok condition
  | _ => .error (.unknown name)

/-- The mapping that a name stands for. -/
def mapping? (s : Session) (name : String) : Except Answer (Entries Json) :=
  match s.things.get? name with
  | some (.mapping properties) => .ok properties
  | _ => .error (.unknown name)

/-- The source that a name stands for. -/
def source? (s : Session) (name : String) : Except Answer Source :=
  match s.things.get? name with
  | some (.source source) => .ok source
  | _ => .error (.unknown name)

/-- Let a name stand for a thing. -/
def bind (s : Session) (name : String) (thing : Thing) : Session :=
  { s with things := s.things.put name thing }

/-- Let a name stand for a new component. -/
def addComponent (s : Session) (name label : String) (parents : List Component) : Session :=
  { s.bind name (.component (.mk s.nextIdentity label parents)) with
    nextIdentity := s.nextIdentity + 1 }

/-- Let a name stand for a new condition. -/
def addCondition (s : Session) (name : String) (rule : Rule) : Session :=
  { s.bind name (.condition ⟨s.nextIdentity, rule⟩) with nextIdentity := s.nextIdentity + 1 }

/-- Change the properties of the mapping that a name stands for, in place. -/
def changeMapping (s : Session) (name : String) (f : Entries Json → Entries Json) :
    Except Answer (Session × Answer) := do
  let properties ← s.mapping? name
  return (s.bind name (.mapping (f properties)), .done)

/-- The outcome of a step that may be refused: the session after it and its answer, or the
answer alone, and then the session stays as it is. -/
def attempt (s : Session) : Step → Except Answer (Session × Answer)
  | .newClass id bases => do
    let parents ← s.components? bases
    return (s.addComponent id id parents, .done)
  | .newFunction id => return (s.addComponent id id [], .done)
  | .newInstance id parent => do
    let parent ← s.component? parent
    return (s.addComponent id ("<component " ++ id ++ ">") [parent], .done)
  | .declare id attributes =>
    match Rule.declare attributes with
    | .ok rule => return (s.addCondition id rule, .done)
    | .error fault => throw (.refused fault)
  | .apply condition component => do
    let condition ← s.condition? condition
    let c ← s.component? component
    match s.registry.attach condition c with
    | .ok attachment =>
      let same := attachment.component.identity == c.identity
      return ({ s with registry := attachment.registry }, .attached same attachment.line)
    | .error fault => throw (.alreadyDeclared fault)
  | .mark component value => do
    let c ← s.component? component
    return ({ s with registry := s.registry.write c.identity (.plain value) }, .done)
  | .condition component => do
    let c ← s.component? component
    return (s, .rule ((s.registry.condition? c).map (·.rule)))
  | .sameCondition a b => do
    let c ← s.component? a
    let d ← s.component? b
    return (s, .flag
      ((s.registry.condition? c).map (·.identity) == (s.registry.condition? d).map (·.identity)))
  | .mapping id properties => return (s.bind id (.mapping properties), .done)
  | .put mapping key value => s.changeMapping mapping (·.put key value)
  | .remove mapping key => s.changeMapping mapping (·.without key)
  | .source id source => return (s.bind id (.source source), .done)
  | .snapshot id scheme name mapping => do
    let properties ← s.mapping? mapping
    return (s.bind id (.source (.ofProperties scheme name properties)), .done)
  | .query source query => do
    let source ← s.source? source
    return (s, .value (source.answer query))
  | .evaluate component source => do
    let c ← s.component? component
    let source ← s.source? source
    return (s, .report (s.registry.evaluate c source))
  | .isEnabled component source => do
    let c ← s.component? component
    let source ← s.source? source
    return (s, .flag (s.registry.isEnabled c source))

/-- Take one step. -/
def step (s : Session) (step : Step) : Session × Answer :=
  match s.attempt step with
  | .ok outcome => outcome
  | .error answer => (s, answer)

/-- The answers to some steps, one after another. -/
def answers (s : Session) : List Step → List Answer
  | [] => []
  | step :: rest => (s.step step).2 :: answers (s.step step).1 rest

/-- The answers of a session from its start. -/
def run (steps : List Step) : List Answer :=
  empty.answers steps

end Session

end Activation
