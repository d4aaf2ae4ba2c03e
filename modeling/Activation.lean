import Activation.Text.Blank
import Activation.Text.Hexadecimal
import Activation.Text.LineBreak
import Activation.Text.LowerCase
import Activation.Text.Quoted
import Activation.Text.Utf8
import Activation.Decimal.Layout
import Activation.Entries
import Activation.ErrorClass
import Activation.Json.Literal
import Activation.Json.Reader
import Activation.Json.Writer
import Activation.Spelling.Basic
import Activation.Spelling.Canonical
import Activation.Rule.Entry
import Activation.RuleBook
import Activation.Source.Pairs
import Activation.Source.Query
import Activation.Report
import Activation.Evaluation
import Activation.Component
import Activation.Session
import Activation.Proofs.Entries
import Activation.Proofs.Evaluation
import Activation.Proofs.Text.LetterCase
import Activation.Proofs.Text.Lowered
import Activation.Proofs.Spelling.Folding
import Activation.Proofs.Source.Canonical
import Activation.Proofs.Decimal.Bits
import Activation.Proofs.Json.Flags
import Activation.Proofs.Rule.Scope
import Activation.Proofs.Rule.WellFormed
import Activation.Proofs.Rule.Redeclaration
import Activation.Proofs.Rule.Relaxed
import Activation.Proofs.Rule.ValueCase
import Activation.Proofs.Text.Utf8
import Activation.Proofs.Text.Utf8Exact
import Activation.Proofs.Json.Strings
import Activation.Proofs.Json.Numerals
import Activation.Proofs.Json.RoundTrip
import Activation.Proofs.Json.Oversized
import Activation.Proofs.Report
import Activation.Proofs.Report.Reasons
import Activation.Proofs.Rule.RoundTrip
import Activation.Proofs.Spelling.Joints
import Activation.Proofs.Spelling.Return
import Activation.Proofs.Spelling.Positions
import Activation.Proofs.Spelling.Twice
import Activation.Proofs.Rule.EitherSpelling
import Activation.Proofs.Rule.IdleSpellings
import Activation.Proofs.Rule.NullFields
import Activation.Proofs.Component.Exposure
import Activation.Proofs.Session.History
import Activation.Proofs.Session.Conditions
import Activation.Proofs.Session.Isolation
import Activation.Proofs.RuleBook.Acceptance
import Activation.Proofs.RuleBook.RoundTrip
import Activation.Proofs.RuleBook.Loading
import Activation.Proofs.RuleBook.Faults
import Activation.Proofs.Source.Distinct
import Activation.Proofs.Source.Lookup
import Activation.Proofs.Source.Inline
import Activation.Proofs.Spelling.Segments
import Activation.Proofs.Spelling.CanonicalForm
import Activation.Proofs.Spelling.KebabPaths
import Activation.Proofs.Rule.Flat
import Activation.Proofs.Rule.Outcome
import Activation.Proofs.Rule.Diagnostics
import Activation.Proofs.Rule.Exchange
import Activation.Proofs.Rule.FieldFaults
import Activation.Proofs.Rule.Candidates
