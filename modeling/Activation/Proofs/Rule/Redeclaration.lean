import Activation.Proofs.Rule.WellFormed

/-!
# What Declaring a Rule Leaves, and Declaring It Again

However a rule was declared, its parts are in a normal form: names are trimmed, a scope is empty or
a body closed by one full stop, an expected value is not empty. So every key is a text without a
blank at either end, even though a scope may hold blanks before its closing full stop.

The normal form is reached in one step. A rule that is built once more from its own parts, from
names given by themselves or through one of the channels of a declaration, comes out unchanged.

## Main statements

* `trimmed_of_mem_keys` — the keys of a well-formed rule.
* `ofNames_names` — a well-formed rule is built from its own names and options.
* `normal_of_declared` — the parts of a declared rule, and the rule built from them again.
-/

namespace Activation.Rule

variable {r : Rule}

/-- The scope of a well-formed rule is empty or a body closed by one full stop. -/
theorem WellFormed.scope_cases (h : WellFormed r) :
    r.scope = "" ∨ ∃ body, ScopeBody body ∧ r.scope.toList = body ++ ['.'] :=
  normalScope_eq_self_iff.mp h.scope

/-- The scope of a well-formed rule does not begin with a blank. -/
theorem WellFormed.isBlank_head_scope (h : WellFormed r) {c : Char}
    (hc : r.scope.toList.head? = some c) : Text.isBlank c = false := by
  obtain hempty | ⟨body, hbody, heq⟩ := h.scope_cases
  · rw [hempty] at hc
    cases hc
  · obtain ⟨d, rest, rfl⟩ := List.exists_cons_of_ne_nil hbody.ne_nil
    rw [heq] at hc
    exact hbody.head c hc

/-- A name as it stands is not empty and has no blank at either end. -/
theorem ProperName.trimmed {name : String} (h : ProperName name) :
    name ≠ "" ∧ Text.Trimmed name.toList :=
  ⟨h.ne_empty, Text.trimmed_of_stripped_eq_self h.stripped⟩

/-- **A key of a well-formed rule** is not empty and has no blank at either end. -/
theorem trimmed_of_mem_keys (h : WellFormed r) {key : String} (hkey : key ∈ r.keys) :
    key ≠ "" ∧ Text.Trimmed key.toList := by
  obtain ⟨name, hname, rfl⟩ := List.mem_map.mp hkey
  obtain ⟨hne, htrimmed⟩ := (h.properName name hname).trimmed
  have hnil : name.toList ≠ [] := fun hnil => hne (String.toList_eq_nil_iff.mp hnil)
  rw [ne_eq, ← String.toList_eq_nil_iff, String.toList_append]
  refine ⟨fun happend => hnil (List.append_eq_nil_iff.mp happend).2, ?_⟩
  exact Text.Trimmed.append (fun _ hc => h.isBlank_head_scope hc) htrimmed hnil

/-- **A well-formed rule is built from its own names and options.** -/
theorem ofNames_names (h : WellFormed r) :
    ofNames (.list (r.names.map .text)) r.options = .ok r := by
  refine bind_eq_ok.mpr ⟨r.names.map .text, rfl, ?_⟩
  refine bind_eq_ok.mpr ⟨r.names, readNames_map_text .name h.properName, ?_⟩
  have hrule := withNames_options h
  obtain ⟨name, more, hcons⟩ := List.exists_cons_of_ne_nil h.names_ne_nil
  rw [hcons] at hrule ⊢
  exact hrule

/-- **Every declared rule is in normal form and is declared again by its own parts.** It has at
least one name; no name is empty or has a blank at either end; its scope is empty, or a body that
begins with no blank and ends with no full stop, closed by one full stop; its expected value, if
there is one, is not empty; and no key is empty or has a blank at either end. The rule is built once
more from its names and options, and by a declaration with its names in either channel if the other
channel is not populated. -/
theorem normal_of_declared (h : Declared r) :
    r.names ≠ [] ∧ (∀ name ∈ r.names, name ≠ "" ∧ Text.Trimmed name.toList) ∧
      (r.scope = "" ∨ ∃ body, ScopeBody body ∧ r.scope.toList = body ++ ['.']) ∧
      r.expected ≠ some "" ∧ (∀ key ∈ r.keys, key ≠ "" ∧ Text.Trimmed key.toList) ∧
      ofNames (.list (r.names.map .text)) r.options = .ok r ∧
      ∀ (channel : Channel) (other : Json), entries other = .ok [] →
        declare (r.attributesThrough channel other) = .ok r := by
  have hwell := wellFormed_of_declared h
  refine ⟨hwell.names_ne_nil, fun name hname => (hwell.properName name hname).trimmed,
    hwell.scope_cases, hwell.expected, fun key hkey => trimmed_of_mem_keys hwell hkey,
    ofNames_names hwell, fun channel other hother => ?_⟩
  exact validate_attributesThrough hwell defaultOwner channel hother

/-- The scope was declared as two full stops with blanks around each of them. The blank in the
middle stays, and the full stop behind it is the one that closes the scope. -/
theorem normal_of_declared_dottedScope :
    let a : Attributes :=
      { value := .list [.text " port", .text "host\t"], scope := .text " . . ",
        expected := .text "", ifMissing := .integer 0, relaxed := .null }
    let r : Rule := ⟨["port", "host"], ". .", none, .integer 0, .null⟩
    declare a = .ok r ∧ entries (.object []) = .ok [] ∧
      r.keys = [". .port", ". .host"] ∧ Text.Trimmed ". .port".toList ∧
      ofNames (.list [.text "port", .text "host"]) r.options = .ok r ∧
      declare (r.attributesThrough .value (.object [])) = .ok r := by
  intro a r
  have hdeclare : declare a = .ok r := rfl
  have hkeys : r.keys = [". .port", ". .host"] := rfl
  obtain ⟨-, -, -, -, htrimmed, hnames, hchannels⟩ := normal_of_declared (.ofDeclare hdeclare)
  refine ⟨hdeclare, rfl, hkeys, ?_, hnames, hchannels .value (.object []) rfl⟩
  exact (htrimmed ". .port" (hkeys ▸ List.mem_cons_self)).2

end Activation.Rule
