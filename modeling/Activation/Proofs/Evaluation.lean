import Mathlib.Data.List.Basic
import Activation.Evaluation

/-!
# What an Evaluation Asks and Answers

The evaluator runs through the names of a rule and, within a name, through its candidates. This
module describes that run without running it. A key counts as **set** when the look-up has a
value for it; a name is **settled** by the first of its candidates that is set, and by its key as
declared when none is. The look-ups of a run are, name by name, the candidates up to the one that
settles the name (`upToSet`), and the details are those that the settling keys call for
(`settledDetail`).

Nothing in this description mentions an earlier name, so a name that fails does not cut the run
short, and nothing in it mentions a key that the run has not asked for.

## Main statements

* `inspect_eq` — the details, the look-ups and the log lines of a run over any names.
* `evaluateWith_eq` — the whole evaluation in closed form.
* `evaluateWith_congr` — look-ups that agree where the run asks give the same evaluation.
* `evaluate_exact` — the account of an evaluation: look-ups, details, verdict, log and frame.
-/

namespace Activation.Rule

/-- Whether a look-up has a value for a key. -/
def isSet (lookup : String → Option String) (key : String) : Bool :=
  (lookup key).isSome

/-- The keys **up to and including the first one that is set**; all of them if none is. -/
def upToSet (lookup : String → Option String) (keys : List String) : List String :=
  keys.takeWhile (fun key => !isSet lookup key) ++ (keys.find? (isSet lookup)).toList

/-- The first candidate of a name that is set. -/
def settledKey? (r : Rule) (lookup : String → Option String) (name : String) : Option String :=
  (r.candidates name).find? (isSet lookup)

/-- The value that a name resolves to: the one under its first candidate that is set. -/
def settledValue (r : Rule) (lookup : String → Option String) (name : String) : Option String :=
  (r.settledKey? lookup name).bind lookup

/-- The detail that a name calls for: the key that settles it, or its key as declared, with the
value there and the judgement of that value. -/
def settledDetail (r : Rule) (lookup : String → Option String) (name : String) : Detail where
  key := (r.settledKey? lookup name).getD (r.scope ++ name)
  value := r.settledValue lookup name
  outcome := r.judge (r.settledValue lookup name)

/-! ### The search within one name -/

theorem isSet_of_eq_none {lookup : String → Option String} {key : String}
    (h : lookup key = none) : isSet lookup key = false := by
  rw [isSet, h]
  rfl

theorem isSet_of_eq_some {lookup : String → Option String} {key value : String}
    (h : lookup key = some value) : isSet lookup key = true := by
  rw [isSet, h]
  rfl

/-- A key that is set ends the search. -/
theorem upToSet_cons_of_isSet {lookup : String → Option String} {key : String}
    (h : isSet lookup key = true) (rest : List String) :
    upToSet lookup (key :: rest) = [key] := by
  simp [upToSet, h]

/-- A key that is not set is asked for and passed over. -/
theorem upToSet_cons_of_not_isSet {lookup : String → Option String} {key : String}
    (h : isSet lookup key = false) (rest : List String) :
    upToSet lookup (key :: rest) = key :: upToSet lookup rest := by
  simp [upToSet, h]

/-- The search asks for the keys up to the first one that is set and finds that one. -/
theorem firstSet_eq (lookup : String → Option String) (keys : List String) :
    firstSet lookup keys =
      (upToSet lookup keys,
        (keys.find? (isSet lookup)).bind fun key => (lookup key).map (key, ·)) := by
  induction keys with
  | nil => rfl
  | cons key rest ih =>
      rcases hkey : lookup key with _ | value
      · have hset := isSet_of_eq_none hkey
        rw [upToSet_cons_of_not_isSet hset, List.find?_cons, hset]
        simp only [firstSet, hkey, ih]
      · have hset := isSet_of_eq_some hkey
        rw [upToSet_cons_of_isSet hset, List.find?_cons, hset]
        simp [firstSet, hkey]

/-- The key that settles a name is set. -/
theorem isSet_of_settledKey? {r : Rule} {lookup : String → Option String} {name key : String}
    (h : r.settledKey? lookup name = some key) : isSet lookup key = true :=
  List.find?_some h

/-- A name resolves to the value of the first candidate that has one. -/
theorem settledValue_eq_findSome? (r : Rule) (lookup : String → Option String) (name : String) :
    r.settledValue lookup name = (r.candidates name).findSome? lookup := by
  rw [settledValue, settledKey?]
  induction r.candidates name with
  | nil => rfl
  | cons key rest ih =>
      rcases hkey : lookup key with _ | value
      · rw [List.find?_cons, isSet_of_eq_none hkey, List.findSome?_cons, hkey]
        exact ih
      · rw [List.find?_cons, isSet_of_eq_some hkey, List.findSome?_cons, hkey]
        exact hkey

/-- Resolving a name yields the key that settles it and the value there, and asks for the
candidates up to that key. -/
theorem resolve_eq (r : Rule) (lookup : String → Option String) (name : String) :
    r.resolve lookup name =
      ⟨(r.settledKey? lookup name).getD (r.scope ++ name), r.settledValue lookup name,
        upToSet lookup (r.candidates name)⟩ := by
  have hsearch := firstSet_eq lookup (r.candidates name)
  rcases hkey : r.settledKey? lookup name with _ | key
  · have hnone : firstSet lookup (r.candidates name)
        = (upToSet lookup (r.candidates name), none) := by
      rw [settledKey?] at hkey
      rw [hsearch, hkey]
      rfl
    rw [resolve, hnone, settledValue, hkey]
    rfl
  · obtain ⟨value, hvalue⟩ := Option.isSome_iff_exists.mp (isSet_of_settledKey? hkey)
    have hsome : firstSet lookup (r.candidates name)
        = (upToSet lookup (r.candidates name), some (key, value)) := by
      rw [settledKey?] at hkey
      rw [hsearch, hkey, Option.bind_some, hvalue]
      rfl
    rw [resolve, hsome, settledValue, hkey, Option.bind_some, hvalue]
    rfl

/-- The detail of a resolved name is the one that the name calls for. -/
theorem detail_resolve (r : Rule) (lookup : String → Option String) (name : String) :
    r.detail (r.resolve lookup name) = r.settledDetail lookup name := by
  rw [resolve_eq]
  rfl

/-- **A name that nothing has been found for** is reported under its key as declared. -/
theorem settledDetail_of_isMissing {r : Rule} {lookup : String → Option String} {name : String}
    (h : (r.settledDetail lookup name).isMissing = true) :
    r.settledDetail lookup name = ⟨r.scope ++ name, none, r.ifMissing⟩ := by
  have hvalue : r.settledValue lookup name = none := Option.isNone_iff_eq_none.mp h
  rcases hkey : r.settledKey? lookup name with _ | key
  · rw [settledDetail, hvalue, hkey]
    rfl
  · obtain ⟨value, hset⟩ := Option.isSome_iff_exists.mp (isSet_of_settledKey? hkey)
    rw [settledValue, hkey, Option.bind_some, hset] at hvalue
    cases hvalue

/-- **Any other name** is reported under a key that is set, with the value there. -/
theorem exists_settledDetail_of_not_isMissing {r : Rule} {lookup : String → Option String}
    {name : String} (h : (r.settledDetail lookup name).isMissing = false) :
    ∃ key value, lookup key = some value ∧
      r.settledDetail lookup name = ⟨key, some value, r.judge (some value)⟩ := by
  rcases hkey : r.settledKey? lookup name with _ | key
  · rw [Detail.isMissing, settledDetail, settledValue, hkey] at h
    cases h
  · obtain ⟨value, hvalue⟩ := Option.isSome_iff_exists.mp (isSet_of_settledKey? hkey)
    refine ⟨key, value, hvalue, ?_⟩
    rw [settledDetail, settledValue, hkey, Option.bind_some, hvalue]
    rfl

/-! ### The key as declared -/

/-- The first candidate of a name is its key as declared. -/
theorem exists_candidates_eq_cons (r : Rule) (name : String) :
    ∃ more, r.candidates name = (r.scope ++ name) :: more := by
  rw [candidates]
  split
  · obtain ⟨more, hmore⟩ := List.head?_eq_some_iff.mp (Spelling.head?_variants name)
    exact ⟨more.map (r.scope ++ ·), by rw [hmore, List.map_cons]⟩
  · exact ⟨[], rfl⟩

/-- Where no other candidate is set without the key as declared, a name is settled by its key as
declared. -/
theorem settledDetail_eq_declared {r : Rule} {lookup : String → Option String} {name : String}
    (h : lookup (r.scope ++ name) = none → ∀ key ∈ r.candidates name, lookup key = none) :
    r.settledDetail lookup name =
      ⟨r.scope ++ name, lookup (r.scope ++ name), r.judge (lookup (r.scope ++ name))⟩ := by
  rcases hvalue : lookup (r.scope ++ name) with _ | value
  · have hkey : r.settledKey? lookup name = none := by
      rw [settledKey?, List.find?_eq_none]
      intro key hk
      rw [isSet_of_eq_none (h hvalue key hk)]
      exact Bool.false_ne_true
    rw [settledDetail, settledValue, hkey]
    rfl
  · have hkey : r.settledKey? lookup name = some (r.scope ++ name) := by
      obtain ⟨more, hmore⟩ := exists_candidates_eq_cons r name
      rw [settledKey?, hmore, List.find?_cons, isSet_of_eq_some hvalue]
    rw [settledDetail, settledValue, hkey, Option.getD_some, Option.bind_some, hvalue]

/-! ### The run over the names -/

/-- The run over some names, one detail and one log line a name, whatever the outcomes. -/
theorem inspect_eq (r : Rule) (lookup : String → Option String) (names : List String) :
    r.inspect lookup names =
      (names.map (r.settledDetail lookup),
        names.flatMap fun name => upToSet lookup (r.candidates name),
        names.map fun name => (r.settledDetail lookup name).line) := by
  induction names with
  | nil => rfl
  | cons name rest ih =>
      have hlookups : (r.resolve lookup name).lookups = upToSet lookup (r.candidates name) := by
        rw [resolve_eq]
      simp only [inspect, ih, detail_resolve, hlookups, List.map_cons, List.flatMap_cons]

/-- The report that the details of a rule's names add up to. -/
def settledReport (r : Rule) (owner : String) (lookup : String → Option String) : Report where
  matched := (r.names.map (r.settledDetail lookup)).all Detail.passes
  details := r.names.map (r.settledDetail lookup)
  owner := owner

/-- An evaluation in closed form. -/
theorem evaluateWith_eq (r : Rule) (owner : String) (lookup : String → Option String) :
    r.evaluateWith owner lookup =
      ⟨r.settledReport owner lookup,
        r.names.flatMap fun name => upToSet lookup (r.candidates name),
        (r.settledReport owner lookup).details.map Detail.line
          ++ [(r.settledReport owner lookup).line]⟩ := by
  rw [evaluateWith, inspect_eq]
  simp [settledReport, Function.comp_def]

/-- The report of an evaluation. -/
theorem report_evaluate (r : Rule) (source : Source) (owner : String) :
    (r.evaluate source owner).report = r.settledReport owner source.lookup := by
  rw [evaluate, evaluateWith_eq]

/-- The details of an evaluation. -/
theorem details_evaluate (r : Rule) (source : Source) (owner : String) :
    (r.evaluate source owner).report.details = r.names.map (r.settledDetail source.lookup) := by
  rw [report_evaluate]
  rfl

/-- The verdict of an evaluation. -/
theorem matched_evaluate (r : Rule) (source : Source) (owner : String) :
    (r.evaluate source owner).report.matched
      = (r.evaluate source owner).report.details.all Detail.passes := by
  rw [report_evaluate]
  rfl

/-- The look-ups of an evaluation. -/
theorem lookups_evaluate (r : Rule) (source : Source) (owner : String) :
    (r.evaluate source owner).lookups
      = r.names.flatMap fun name => upToSet source.lookup (r.candidates name) := by
  rw [evaluate, evaluateWith_eq]

/-- The log of an evaluation is made from its report. -/
theorem log_evaluate (r : Rule) (source : Source) (owner : String) :
    (r.evaluate source owner).log
      = (r.evaluate source owner).report.details.map Detail.line
        ++ [(r.evaluate source owner).report.line] := by
  rw [evaluate, evaluateWith_eq]

/-! ### Only what is asked for matters -/

/-- Two look-ups that agree on the keys that one of them is asked for are asked for the same keys
and find the same one. -/
theorem upToSet_congr {f g : String → Option String} {keys : List String}
    (h : ∀ key ∈ upToSet f keys, f key = g key) :
    upToSet g keys = upToSet f keys ∧ keys.find? (isSet g) = keys.find? (isSet f) := by
  induction keys with
  | nil => exact ⟨rfl, rfl⟩
  | cons key rest ih =>
      rcases hset : isSet f key with _ | _
      · rw [upToSet_cons_of_not_isSet hset] at h ⊢
        have hg : isSet g key = false := by
          rw [isSet, ← h key List.mem_cons_self]
          exact hset
        obtain ⟨hasked, hfound⟩ := ih fun k hk => h k (List.mem_cons_of_mem _ hk)
        rw [upToSet_cons_of_not_isSet hg, List.find?_cons, List.find?_cons, hg, hset]
        exact ⟨congrArg _ hasked, hfound⟩
      · rw [upToSet_cons_of_isSet hset] at h ⊢
        have hg : isSet g key = true := by
          rw [isSet, ← h key List.mem_cons_self]
          exact hset
        rw [upToSet_cons_of_isSet hg, List.find?_cons, List.find?_cons, hg, hset]
        exact ⟨rfl, rfl⟩

/-- The key that settles a name is among those asked for. -/
theorem mem_upToSet_of_settledKey? {r : Rule} {lookup : String → Option String}
    {name key : String} (h : r.settledKey? lookup name = some key) :
    key ∈ upToSet lookup (r.candidates name) := by
  rw [settledKey?] at h
  simp [upToSet, h]

/-- Two look-ups that agree on the keys asked for under a name call for the same detail. -/
theorem settledDetail_congr {r : Rule} {f g : String → Option String} {name : String}
    (h : ∀ key ∈ upToSet f (r.candidates name), f key = g key) :
    r.settledDetail g name = r.settledDetail f name := by
  have hkey : r.settledKey? g name = r.settledKey? f name := (upToSet_congr h).2
  have hvalue : r.settledValue g name = r.settledValue f name := by
    rw [settledValue, settledValue, hkey]
    rcases hfound : r.settledKey? f name with _ | key
    · rfl
    · exact (h key (mem_upToSet_of_settledKey? hfound)).symm
  rw [settledDetail, settledDetail, hkey, hvalue]

/-- **The frame of an evaluation.** Two look-ups that agree on the keys that the evaluation asks
for give the same evaluation, whatever else they hold. -/
theorem evaluateWith_congr {r : Rule} {owner : String} {f g : String → Option String}
    (h : ∀ key ∈ (r.evaluateWith owner f).lookups, f key = g key) :
    r.evaluateWith owner g = r.evaluateWith owner f := by
  rw [evaluateWith_eq] at h
  have hname : ∀ name ∈ r.names, ∀ key ∈ upToSet f (r.candidates name), f key = g key :=
    fun name hn key hk => h key (List.mem_flatMap.mpr ⟨name, hn, hk⟩)
  have hdetails : r.names.map (r.settledDetail g) = r.names.map (r.settledDetail f) :=
    List.map_congr_left fun name hn => settledDetail_congr (hname name hn)
  have hlookups : (r.names.flatMap fun name => upToSet g (r.candidates name))
      = r.names.flatMap fun name => upToSet f (r.candidates name) :=
    List.flatMap_congr fun name hn => (upToSet_congr (hname name hn)).1
  have hreport : r.settledReport owner g = r.settledReport owner f := by
    rw [settledReport, settledReport, hdetails]
  rw [evaluateWith_eq, evaluateWith_eq, hreport, hlookups]

/-- **The account of an evaluation.** The keys looked up are, name by name, the candidates up to
and including the first one that is set; every name has its detail, in order, with the judgement
of the value it resolves to; the verdict is the conjunction of the details; the log has one line a
detail and closes with the message of the report. A source that agrees with the given one on the
keys looked up has the very same evaluation. -/
theorem evaluate_exact (r : Rule) (source : Source) (owner : String) :
    (r.evaluate source owner).lookups
        = r.names.flatMap (fun name => upToSet source.lookup (r.candidates name)) ∧
      (r.evaluate source owner).report.details = r.names.map (r.settledDetail source.lookup) ∧
      (r.evaluate source owner).report.matched
        = (r.evaluate source owner).report.details.all (fun d => d.outcome.truthy) ∧
      (r.evaluate source owner).report.owner = owner ∧
      (r.evaluate source owner).log
        = (r.evaluate source owner).report.details.map Detail.line
          ++ [⟨.evaluation, (r.evaluate source owner).report.message⟩] ∧
      ∀ other : Source,
        (∀ key ∈ (r.evaluate source owner).lookups, source.lookup key = other.lookup key) →
          r.evaluate other owner = r.evaluate source owner := by
  refine ⟨lookups_evaluate r source owner, details_evaluate r source owner,
    matched_evaluate r source owner, rfl, log_evaluate r source owner, ?_⟩
  intro other h
  exact evaluateWith_congr h

/-- A table that holds more than the look-ups of an evaluation touch changes nothing: the first
name is settled by its kebab spelling, so its camel spelling is not asked for, and the second is
asked for although the first has failed. -/
theorem evaluate_beyond_lookups :
    let r : Rule := ⟨["myUrl", "port"], "app.", some "on", .bool false, .bool true⟩
    let small : Source := .exact "small" [("app.my-url", "off")]
    let large : Source := .exact "large" [("app.my-url", "off"), ("app.host", "local")]
    (r.evaluate small "w").lookups = ["app.myUrl", "app.my-url", "app.port"] ∧
      (∀ key ∈ (r.evaluate small "w").lookups, small.lookup key = large.lookup key) ∧
      r.evaluate large "w" = r.evaluate small "w" := by
  intro r small large
  have hlookups : (r.evaluate small "w").lookups = ["app.myUrl", "app.my-url", "app.port"] := by
    decide +kernel
  have hagree : ∀ key ∈ (r.evaluate small "w").lookups, small.lookup key = large.lookup key := by
    rw [hlookups]
    decide +kernel
  obtain ⟨-, -, -, -, -, hframe⟩ := evaluate_exact r small "w"
  exact ⟨hlookups, hagree, hframe large hagree⟩

end Activation.Rule
