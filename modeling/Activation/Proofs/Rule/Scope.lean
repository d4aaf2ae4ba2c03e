import Activation.Proofs.Text.Trimming
import Activation.Rule.Basic

/-!
# Scopes in Normal Form

The normal form of a scope is empty, or a **body** closed by one full stop, where a body is not
empty, does not begin with a blank, and does not end with a full stop. A body may end with a
blank: trimming comes first and the full stops at the end are dropped then, so blanks between them
stay. Such a blank is shielded by the closing full stop when the scope is trimmed again, and so
every normal form is its own normal form (`normalScope_normalScope`).

Around a trimmed scope the two steps undo what they are there for. Blanks on either side go first,
and with them gone the full stops put behind the scope go together with its own
(`normalScopeChars_surrounded`).

## Main statements

* `normalScope_eq_self_iff` — which scopes are their own normal form.
* `normalScope_exact` — normal forms, their fixed points, and what does not count around a scope.
-/

namespace Activation.Rule

/-- What stands before the closing full stop of a scope in normal form. -/
structure ScopeBody (body : List Char) : Prop where
  ne_nil : body ≠ []
  head : ∀ c, body.head? = some c → Text.isBlank c = false
  last : ∀ c, body.getLast? = some c → (c == '.') = false

/-- A normal form is empty or a body closed by one full stop. -/
theorem normalScopeChars_cases (scope : List Char) :
    normalScopeChars scope = [] ∨
      ∃ body, ScopeBody body ∧ normalScopeChars scope = body ++ ['.'] := by
  rcases hbody : Text.dropEndWhile (· == '.') (Text.trim scope) with _ | ⟨c, rest⟩
  · left
    rw [normalScopeChars, hbody]
    rfl
  · right
    refine ⟨c :: rest, ⟨List.cons_ne_nil c rest, ?_, ?_⟩, by rw [normalScopeChars, hbody]; rfl⟩
    · intro d hd
      have hpre := Text.prefix_dropEndWhile (· == '.') (Text.trim scope)
      rw [hbody] at hpre
      exact (Text.trimmed_trim scope).head d (Text.head?_eq_of_isPrefixed hpre hd)
    · intro d hd
      rw [← hbody] at hd
      exact Text.getLast?_dropEndWhile_eq_false (p := (· == '.')) hd

/-- A body closed by one full stop is its own normal form. -/
theorem normalScopeChars_of_body {body : List Char} (h : ScopeBody body) :
    normalScopeChars (body ++ ['.']) = body ++ ['.'] := by
  have htrimmed : Text.Trimmed (body ++ ['.']) := by
    refine ⟨fun c hc => h.head c ?_, fun c hc => ?_⟩
    · obtain ⟨d, rest, rfl⟩ := List.exists_cons_of_ne_nil h.ne_nil
      exact hc
    · rw [List.getLast?_concat] at hc
      obtain rfl := Option.some.inj hc
      decide
  have hbody : Text.dropEndWhile (· == '.') (body ++ ['.']) = body := by
    change (body ++ ['.']).rdropWhile (· == '.') = body
    rw [List.rdropWhile_concat_pos _ _ _ rfl]
    exact Text.dropEndWhile_eq_self h.last
  rw [normalScopeChars, Text.trim_eq_self_iff.mpr htrimmed, hbody]
  exact if_neg (by simpa using h.ne_nil)

/-- The normal form of a normal form is that normal form. -/
theorem normalScopeChars_normalScopeChars (scope : List Char) :
    normalScopeChars (normalScopeChars scope) = normalScopeChars scope := by
  rcases normalScopeChars_cases scope with hnil | ⟨body, hbody, heq⟩
  · rw [hnil]
    rfl
  · rw [heq, normalScopeChars_of_body hbody]

/-- **Bringing a scope into normal form is idempotent.** -/
theorem normalScope_normalScope (scope : String) :
    normalScope (normalScope scope) = normalScope scope := by
  rw [normalScope, toList_normalScope, normalScopeChars_normalScopeChars, normalScope]

/-- **The scopes in normal form** are the empty one and those that are a body closed by one full
stop. -/
theorem normalScope_eq_self_iff {scope : String} :
    normalScope scope = scope ↔
      scope = "" ∨ ∃ body, ScopeBody body ∧ scope.toList = body ++ ['.'] := by
  have hchars : normalScope scope = scope ↔ normalScopeChars scope.toList = scope.toList := by
    rw [← String.toList_inj, toList_normalScope]
  rw [hchars]
  constructor
  · intro h
    rcases normalScopeChars_cases scope.toList with hnil | ⟨body, hbody, heq⟩
    · exact .inl (String.toList_eq_nil_iff.mp (h.symm.trans hnil))
    · exact .inr ⟨body, hbody, h.symm.trans heq⟩
  · rintro (rfl | ⟨body, hbody, heq⟩)
    · rfl
    · rw [heq, normalScopeChars_of_body hbody]

/-! ### Blanks and full stops around a scope -/

/-- A trimmed text is trimmed as well with full stops behind it. -/
theorem trimmed_append_dots {scope : List Char} (h : Text.Trimmed scope) (count : Nat) :
    Text.Trimmed (scope ++ List.replicate count '.') := by
  cases count with
  | zero => rwa [List.replicate_zero, List.append_nil]
  | succ n =>
      have hdots : Text.Trimmed (List.replicate (n + 1) '.') := by
        refine ⟨fun c hc => ?_, fun c hc => ?_⟩
        · rw [List.eq_of_mem_replicate (List.mem_of_mem_head? hc)]
          decide
        · rw [List.eq_of_mem_replicate (List.mem_of_mem_getLast? hc)]
          decide
      exact .append h.head hdots (by simp)

/-- **Around a trimmed scope blanks do not count, and neither do full stops behind it.** -/
theorem normalScopeChars_surrounded {before scope after : List Char}
    (hbefore : ∀ c ∈ before, Text.isBlank c = true) (hscope : Text.Trimmed scope)
    (hafter : ∀ c ∈ after, Text.isBlank c = true) (count : Nat) :
    normalScopeChars (before ++ scope ++ List.replicate count '.' ++ after)
      = normalScopeChars scope := by
  have htrim : Text.trim (before ++ scope ++ List.replicate count '.' ++ after)
      = scope ++ List.replicate count '.' := by
    rw [List.append_assoc before]
    exact Text.trim_surrounded hbefore (trimmed_append_dots hscope count) hafter
  have hdots : ∀ c ∈ List.replicate count '.', (c == '.') = true := fun c hc =>
    beq_iff_eq.mpr (List.eq_of_mem_replicate hc)
  rw [normalScopeChars, htrim, Text.dropEndWhile_append hdots, normalScopeChars,
    Text.trim_eq_self_iff.mpr hscope]

/-- **The account of normal forms.** The normal form of a scope is empty or a body closed by one
full stop, and these are the scopes that are their own normal form. So a second pass changes
nothing. A scope with no blank at either end keeps its normal form when any number of full stops is
put behind it, and any blanks before it and behind that. -/
theorem normalScope_exact (scope : String) :
    (normalScope scope = "" ∨
        ∃ body, ScopeBody body ∧ (normalScope scope).toList = body ++ ['.']) ∧
      (normalScope scope = scope ↔
        scope = "" ∨ ∃ body, ScopeBody body ∧ scope.toList = body ++ ['.']) ∧
      normalScope (normalScope scope) = normalScope scope ∧
      (Text.Trimmed scope.toList → ∀ before after : String,
        (∀ c ∈ before.toList, Text.isBlank c = true) →
        (∀ c ∈ after.toList, Text.isBlank c = true) → ∀ count,
          normalScope (before ++ scope ++ String.ofList (List.replicate count '.') ++ after)
            = normalScope scope) := by
  refine ⟨normalScope_eq_self_iff.mp (normalScope_normalScope scope), normalScope_eq_self_iff,
    normalScope_normalScope scope, fun hscope before after hbefore hafter count => ?_⟩
  rw [← String.toList_inj, toList_normalScope, toList_normalScope]
  simp only [String.toList_append, String.toList_ofList]
  exact normalScopeChars_surrounded hbefore hscope hafter count

/-- The scope keeps the full stop at its front and the blank before its last one. What is put around
it goes, an ideographic space and a line break among it. -/
theorem normalScope_exact_innerBlank :
    Text.Trimmed ". a .".toList ∧ (∀ c ∈ "\u3000\t".toList, Text.isBlank c = true) ∧
      (∀ c ∈ " \n".toList, Text.isBlank c = true) ∧ normalScope ". a ." = ". a ." ∧
      ScopeBody ". a ".toList ∧ normalScope "\u3000\t. a ... \n" = ". a ." := by
  have hscope : Text.Trimmed ". a .".toList := Text.trim_eq_self_iff.mp (by decide)
  have hbefore : ∀ c ∈ "\u3000\t".toList, Text.isBlank c = true :=
    List.all_eq_true.mp (by decide)
  have hafter : ∀ c ∈ " \n".toList, Text.isBlank c = true := List.all_eq_true.mp (by decide)
  obtain ⟨-, hfixed, -, hsurrounded⟩ := normalScope_exact ". a ."
  have hbody : ScopeBody ". a ".toList := by
    refine ⟨by decide, fun c hc => ?_, fun c hc => ?_⟩
    · obtain rfl := Option.some.inj hc
      decide
    · obtain rfl := Option.some.inj hc
      decide
  have hself : normalScope ". a ." = ". a ." := hfixed.mpr (.inr ⟨". a ".toList, hbody, rfl⟩)
  refine ⟨hscope, hbefore, hafter, hself, hbody, ?_⟩
  exact (hsurrounded hscope "\u3000\t" " \n" hbefore hafter 2).trans hself

end Activation.Rule
