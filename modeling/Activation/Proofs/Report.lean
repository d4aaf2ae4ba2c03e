import Mathlib.Data.List.Basic
import Activation.Evaluation

/-!
# What a Report Reads of its Details

The outcome of a detail can be any value, but a report reads it by its truth alone. The **plain**
form of a detail has a truth value in place of the outcome. Replacing all details by their plain
forms leaves everything that is derived from them as it was: which of them pass, the keys that the
message names, the message, and the log lines.
-/

namespace Activation

namespace Detail

/-- A detail with the truth of its outcome in place of the outcome. -/
def plain (d : Detail) : Detail :=
  { d with outcome := .bool d.passes }

@[simp] theorem key_plain (d : Detail) : d.plain.key = d.key := rfl

@[simp] theorem passes_plain (d : Detail) : d.plain.passes = d.passes := rfl

@[simp] theorem isMissing_plain (d : Detail) : d.plain.isMissing = d.isMissing := rfl

@[simp] theorem line_plain (d : Detail) : d.plain.line = d.line := rfl

end Detail

namespace Report

/-- A report with all its details in plain form. -/
def plain (r : Report) : Report :=
  { r with details := r.details.map Detail.plain }

@[simp] theorem matched_plain (r : Report) : r.plain.matched = r.matched := rfl

@[simp] theorem owner_plain (r : Report) : r.plain.owner = r.owner := rfl

/-- The keys of the details that pass a test of what plain forms keep are the same in plain
form. -/
theorem keys_filter_plain (details : List Detail) {p : Detail → Bool}
    (h : ∀ d : Detail, p d.plain = p d) :
    ((details.map Detail.plain).filter p).map (·.key) = (details.filter p).map (·.key) := by
  have hp : p ∘ Detail.plain = p := funext h
  rw [List.filter_map, List.map_map, hp]
  exact List.map_congr_left fun d _ => d.key_plain

@[simp] theorem missingKeys_plain (r : Report) : r.plain.missingKeys = r.missingKeys :=
  keys_filter_plain r.details fun d => by rw [d.passes_plain, d.isMissing_plain]

@[simp] theorem mismatchedKeys_plain (r : Report) : r.plain.mismatchedKeys = r.mismatchedKeys :=
  keys_filter_plain r.details fun d => by rw [d.passes_plain, d.isMissing_plain]

/-- **The message of a report reads its outcomes by their truth.** -/
@[simp] theorem message_plain (r : Report) : r.plain.message = r.message := by
  have hkeys : r.plain.details.map (·.key) = r.details.map (·.key) := by
    rw [plain, List.map_map]
    exact List.map_congr_left fun d _ => d.key_plain
  have hreasons : r.plain.reasons = r.reasons := by
    rw [reasons, missingKeys_plain, mismatchedKeys_plain, reasons]
  rw [message, hkeys, hreasons, matched_plain, owner_plain, message]

@[simp] theorem line_plain (r : Report) : r.plain.line = r.line := by
  rw [line, message_plain, line]

end Report

end Activation
