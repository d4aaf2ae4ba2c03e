import Activation.Json.Basic

/-!
# Reports

The outcome of an evaluation: for every name of the rule a **detail** with the key the property
was found under, its value, and the outcome, and one verdict over all. The report sums it up in
one line, which names the missing properties before those that hold another value.
-/

namespace Activation

/-- The outcome for one name of a rule. -/
structure Detail where
  /-- The key under which the property is set, or the key as declared if it is not set. -/
  key : String
  /-- The value of the property, if it is set. -/
  value : Option String
  /-- Whether the property is as required, read by its truth. -/
  outcome : Json

namespace Detail

/-- Whether the property is as required. -/
def passes (d : Detail) : Bool :=
  d.outcome.truthy

/-- Whether the property is not set. -/
def isMissing (d : Detail) : Bool :=
  d.value.isNone

end Detail

/-- The outcome of an evaluation. -/
structure Report where
  matched : Bool
  details : List Detail
  owner : String

namespace Report

/-- The keys of the properties that are required and not set. -/
def missingKeys (r : Report) : List String :=
  (r.details.filter fun d => !d.passes && d.isMissing).map (·.key)

/-- The keys of the properties that are set to another value. -/
def mismatchedKeys (r : Report) : List String :=
  (r.details.filter fun d => !d.passes && !d.isMissing).map (·.key)

/-- What a failed evaluation found, one part for each kind of failure. -/
def reasons (r : Report) : List String :=
  (if r.missingKeys.isEmpty then []
    else ["missing required properties " ++ ", ".intercalate r.missingKeys])
  ++ (if r.mismatchedKeys.isEmpty then []
    else ["found different value in property " ++ ", ".intercalate r.mismatchedKeys])

/-- The report in one line. -/
def message (r : Report) : String :=
  if r.matched then r.owner ++ " (" ++ ", ".intercalate (r.details.map (·.key)) ++ ") matched"
  else r.owner ++ " " ++ "; ".intercalate r.reasons

end Report

end Activation
