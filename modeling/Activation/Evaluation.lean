import Activation.Log
import Activation.Report
import Activation.Rule.Declaration
import Activation.Source.Basic
import Activation.Spelling.Basic

/-!
# Evaluating rules

A rule is evaluated name by name. The candidates of a name are its key as declared and, if the
rule is relaxed, the keys with its other spellings; they are looked up in this order until one
is set. All names are resolved even if an earlier one has failed, so that the report is complete.

An **evaluation** keeps the report together with what the run did to the world: the look-ups it
made and the lines it logged, both in order.
-/

namespace Activation

/-- The property that a name resolves to, and the look-ups made for it. -/
structure Resolution where
  key : String
  value : Option String
  lookups : List String

/-- The run of one evaluation. -/
structure Evaluation where
  report : Report
  lookups : List String
  log : List Log.Line

namespace Rule

/-- The keys tried for a name, in order. -/
def candidates (r : Rule) (name : String) : List String :=
  if r.relaxed.truthy then (Spelling.variants name).map (r.scope ++ ·) else [r.scope ++ name]

/-- Look up keys one after another until one is set: the keys asked for, and the first that is
set with its value. -/
def firstSet (lookup : String → Option String) :
    List String → List String × Option (String × String)
  | [] => ([], none)
  | key :: rest =>
    match lookup key with
    | some value => ([key], some (key, value))
    | none =>
      let later := firstSet lookup rest
      (key :: later.1, later.2)

/-- Resolve a name: to the first candidate that is set, or to the key as declared. -/
def resolve (r : Rule) (lookup : String → Option String) (name : String) : Resolution :=
  let found := firstSet lookup (r.candidates name)
  match found.2 with
  | some (key, value) => ⟨key, some value, found.1⟩
  | none => ⟨r.scope ++ name, none, found.1⟩

/-- What holds of a property with this value, or that is not set. Letter case does not count. -/
def judge (r : Rule) : Option String → Json
  | none => r.ifMissing
  | some value =>
    match r.expected with
    | none => .bool (Text.lowered value != "false")
    | some expected => .bool (Text.lowered value == Text.lowered expected)

/-- The detail of a resolved name. -/
def detail (r : Rule) (resolution : Resolution) : Detail :=
  ⟨resolution.key, resolution.value, r.judge resolution.value⟩

end Rule

/-- The log line about one detail. -/
def Detail.line (d : Detail) : Log.Line where
  topic := .evaluation
  message :=
    "Property '" ++ d.key ++ "' resolved to "
      ++ (match d.value with
        | some value => Text.quoted value
        | none => Json.null.literal)
      ++ ": " ++ (if d.passes then "match" else "no match")

/-- The log line that closes an evaluation. -/
def Report.line (r : Report) : Log.Line :=
  ⟨.evaluation, r.message⟩

namespace Rule

/-- Resolve and judge some names one after another, keeping what the run has done. -/
def inspect (r : Rule) (lookup : String → Option String) :
    List String → List Detail × List String × List Log.Line
  | [] => ([], [], [])
  | name :: rest =>
    let resolution := r.resolve lookup name
    let later := inspect r lookup rest
    (r.detail resolution :: later.1, resolution.lookups ++ later.2.1,
      (r.detail resolution).line :: later.2.2)

/-- Evaluate a rule against a look-up. `owner` labels the report. -/
def evaluateWith (r : Rule) (owner : String) (lookup : String → Option String) : Evaluation :=
  let run := r.inspect lookup r.names
  let report : Report := ⟨run.1.all Detail.passes, run.1, owner⟩
  ⟨report, run.2.1, run.2.2 ++ [report.line]⟩

/-- Evaluate a rule against a source. -/
def evaluate (r : Rule) (source : Source) (owner : String) : Evaluation :=
  r.evaluateWith owner source.lookup

/-- The report of a rule on a source. -/
def report (r : Rule) (source : Source) : Report :=
  (r.evaluate source defaultOwner).report

/-- Whether a source meets a rule. -/
def matches? (r : Rule) (source : Source) : Bool :=
  (r.report source).matched

end Rule

end Activation
