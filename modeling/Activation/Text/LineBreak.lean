/-!
# Line breaks

A text file may end its lines with a line feed, a carriage return, or both. Before the text is
read each of the three becomes one line feed, so positions count a line break as one character.
-/

namespace Activation.Text

/-- Write every line break as one line feed. -/
def unifyLineBreaks : List Char → List Char
  | [] => []
  | '\r' :: '\n' :: rest => '\n' :: unifyLineBreaks rest
  | '\r' :: rest => '\n' :: unifyLineBreaks rest
  | c :: rest => c :: unifyLineBreaks rest

/-- A text without carriage returns is left as it is. -/
theorem unifyLineBreaks_of_not_mem {s : List Char} (h : '\r' ∉ s) : unifyLineBreaks s = s := by
  induction s with
  | nil => rfl
  | cons c rest ih =>
    have hc : c ≠ '\r' := fun e => h (e ▸ List.mem_cons_self)
    have hr : '\r' ∉ rest := fun m => h (List.mem_cons_of_mem c m)
    rw [unifyLineBreaks, ih hr]
    · intro _ e _; exact hc e
    · exact hc

end Activation.Text
