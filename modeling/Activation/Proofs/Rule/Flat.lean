import Activation.Proofs.Evaluation
import Activation.Proofs.Rule.Redeclaration
import Activation.Proofs.Spelling.Segments

/-!
# Scopes Moved into Names

A rule has a **flat** form without a scope, in which what was the scope stands at the front of every
name. The keys as declared are the same. Other spellings need not be: a relaxed rule respells its
names alone, and its flat form respells what was the scope with them.

A scope ends with a full stop and both spellings are segmentwise, so behind each spelling of the
scope the flat form tries the same spelling of the name (`kebab_append`, `camel_append`). If both
spellings leave the scope alone, the candidates are the same. If one does not, the flat form has a
candidate that is longer, or one that is shorter, than all candidates of the rule, since the kebab
spelling never shortens a text and the camel spelling never lengthens one
(`candidates_flat_eq_iff`).

## Main statements

* `candidates_flat_eq_iff` — when a name has the same candidates in both forms.
* `evaluateWith_flat` — then the evaluations are the same.
* `evaluate_flat` — the flat form of a declared rule.
-/

namespace Activation

/-! ### Respelling behind a scope -/

namespace Spelling

/-- A text that is empty or ends with a full stop. -/
def Closed (scope : String) : Prop :=
  scope = "" ∨ ∃ body, scope.toList = body ++ ['.']

/-- A text that both spellings leave alone. -/
def Unspelled (scope : String) : Prop :=
  kebab scope = scope ∧ camel scope = scope

/-- A segmentwise rewriting that makes nothing of nothing rewrites what stands behind a closed text
on its own. -/
theorem Segmentwise.append_closed {f : List Char → List Char} (hf : Segmentwise f)
    (hnil : f [] = []) {scope : String} (hscope : Closed scope) (name : List Char) :
    f (scope.toList ++ name) = f scope.toList ++ f name := by
  obtain rfl | ⟨body, heq⟩ := hscope
  · exact (congrArg (· ++ f name) hnil).symm
  · rw [heq, List.append_assoc, List.singleton_append, hf.append, hf.append body [], hnil,
      List.append_assoc]
    rfl

/-- The kebab spelling of a name behind a closed text. -/
theorem kebab_append {scope : String} (hscope : Closed scope) (name : String) :
    kebab (scope ++ name) = kebab scope ++ kebab name := by
  rw [← String.toList_inj, String.toList_append, toList_kebab, toList_kebab, toList_kebab,
    String.toList_append, segmentwise_kebabChars.append_closed rfl hscope]

/-- The camel spelling of a name behind a closed text. -/
theorem camel_append {scope : String} (hscope : Closed scope) (name : String) :
    camel (scope ++ name) = camel scope ++ camel name := by
  rw [← String.toList_inj, String.toList_append, toList_camel, toList_camel, toList_camel,
    String.toList_append, segmentwise_camelChars.append_closed rfl hscope]

/-- The kebab spelling of a name is not shorter than the name, and only the name itself is not
longer. -/
theorem length_kebab (name : String) :
    name.length ≤ (kebab name).length ∧
      ((kebab name).length ≤ name.length → kebab name = name) := by
  rw [← String.length_toList, ← String.length_toList, toList_kebab, ← String.toList_inj,
    toList_kebab]
  refine ⟨?_, kebabChars_eq_self_iff_length.mpr⟩
  have hlength := length_kebabPass false name.toList
  rw [kebabPass_eq] at hlength
  omega

/-- The camel spelling of a name is not longer than the name, and only the name itself is not
shorter. -/
theorem length_camel (name : String) :
    (camel name).length ≤ name.length ∧
      (name.length ≤ (camel name).length → camel name = name) := by
  rw [← String.length_toList, ← String.length_toList, toList_camel, ← String.toList_inj,
    toList_camel]
  refine ⟨?_, camelChars_eq_self_iff_length.mpr⟩
  have hlength := length_camelChars name.toList
  omega

/-- No spelling of a name is longer than the kebab spelling or shorter than the camel spelling. -/
theorem length_of_mem_variants {name spelling : String} (h : spelling ∈ variants name) :
    (camel name).length ≤ spelling.length ∧ spelling.length ≤ (kebab name).length := by
  have hkebab := (length_kebab name).1
  have hcamel := (length_camel name).1
  obtain rfl | rfl | rfl := mem_variants_iff.mp h <;> omega

/-- Leaving out repetitions commutes with an injective map. -/
theorem eraseDups_map {f : String → String} (hf : Function.Injective f) (names : List String) :
    (names.map f).eraseDups = names.eraseDups.map f := by
  rcases names with _ | ⟨name, rest⟩
  · rfl
  · have hsame : ((fun b => !b == f name) ∘ f) = fun b => !b == name := by
      funext b
      rw [Function.comp_apply, Bool.eq_iff_iff]
      simp [hf.eq_iff]
    rw [List.map_cons, List.eraseDups_cons, List.eraseDups_cons, List.map_cons, List.filter_map,
      hsame, eraseDups_map hf]
termination_by names.length
decreasing_by exact Nat.lt_succ_of_le (List.length_filter_le _ _)

/-- **Behind a closed text that both spellings leave alone, a name has its own spellings.** -/
theorem variants_append {scope : String} (hscope : Closed scope) (h : Unspelled scope)
    (name : String) : variants (scope ++ name) = (variants name).map (scope ++ ·) := by
  have hinj : Function.Injective (scope ++ ·) := fun a b hab =>
    (String.append_right_inj scope).mp hab
  rw [variants, variants, kebab_append hscope, camel_append hscope, h.1, h.2, ← eraseDups_map hinj]
  rfl

/-- **A closed text behind which a name has its own spellings is left alone by both spellings.** -/
theorem unspelled_of_variants_append {scope name : String} (hscope : Closed scope)
    (h : variants (scope ++ name) = (variants name).map (scope ++ ·)) : Unspelled scope := by
  have hlength : ∀ {spelling}, spelling ∈ variants (scope ++ name) →
      scope.length + (camel name).length ≤ spelling.length ∧
        spelling.length ≤ scope.length + (kebab name).length := by
    intro spelling hspelling
    rw [h] at hspelling
    obtain ⟨own, hown, rfl⟩ := List.mem_map.mp hspelling
    have hbounds := length_of_mem_variants hown
    rw [String.length_append]
    omega
  constructor
  · have hkebab := (hlength (mem_variants_iff.mpr (.inr (.inl rfl)))).2
    rw [kebab_append hscope, String.length_append] at hkebab
    exact (length_kebab scope).2 (by omega)
  · have hcamel := (hlength (mem_variants_iff.mpr (.inr (.inr rfl)))).1
    rw [camel_append hscope, String.length_append] at hcamel
    exact (length_camel scope).2 (by omega)

end Spelling

namespace Rule

open Spelling

variable {r : Rule}

/-- The **flat** form of a rule: what was its scope is the front of every name. -/
def flat (r : Rule) : Rule :=
  { r with names := r.names.map (r.scope ++ ·), scope := "" }

/-- The keys as declared stay the same. -/
theorem keys_flat (r : Rule) : r.flat.keys = r.keys := by
  have hempty : (("" : String) ++ ·) = id := funext fun name => String.empty_append
  rw [keys, flat, hempty, List.map_id, keys]

/-- The scope of a well-formed rule is closed. -/
theorem WellFormed.closed_scope (h : WellFormed r) : Closed r.scope :=
  h.scope_cases.imp id fun ⟨body, _, heq⟩ => ⟨body, heq⟩

/-- **The flat form of a well-formed rule is well-formed:** its names are keys, and these have no
blank at either end. -/
theorem WellFormed.flat (h : WellFormed r) : WellFormed r.flat where
  names_ne_nil := fun hnil => h.names_ne_nil (List.map_eq_nil_iff.mp hnil)
  properName name hname := by
    have hkey : name ∈ r.keys := hname
    obtain ⟨hne, htrimmed⟩ := trimmed_of_mem_keys h hkey
    refine ⟨?_, hne⟩
    rw [← String.toList_inj, Text.toList_stripped, Text.trim_eq_self_iff.mpr htrimmed]
  scope := rfl
  expected := h.expected

/-! ### Candidates -/

/-- The candidates of a name of the flat form. -/
theorem candidates_flat (r : Rule) (name : String) :
    r.flat.candidates (r.scope ++ name) =
      if r.relaxed.truthy then variants (r.scope ++ name) else [r.scope ++ name] := by
  have hempty : (("" : String) ++ ·) = id := funext fun name => String.empty_append
  change (if r.relaxed.truthy then (variants (r.scope ++ name)).map ("" ++ ·)
    else ["" ++ (r.scope ++ name)]) = _
  rw [hempty, List.map_id, String.empty_append]

/-- A strict rule has the same candidates in both forms. -/
theorem candidates_flat_of_strict (h : r.relaxed.truthy = false) (name : String) :
    r.flat.candidates (r.scope ++ name) = r.candidates name := by
  rw [candidates_flat, candidates, h]
  rfl

/-- **A name of a relaxed rule has the same candidates in both forms exactly if both spellings leave
the scope alone.** -/
theorem candidates_flat_eq_iff (hscope : Closed r.scope) (hrelaxed : r.relaxed.truthy = true)
    (name : String) :
    r.flat.candidates (r.scope ++ name) = r.candidates name ↔ Unspelled r.scope := by
  rw [candidates_flat, candidates, if_pos hrelaxed, if_pos hrelaxed]
  exact ⟨unspelled_of_variants_append hscope, fun h => variants_append hscope h name⟩

/-! ### Evaluations -/

/-- A name with the same candidates in both forms calls for the same detail. -/
theorem settledDetail_flat {name : String}
    (h : r.flat.candidates (r.scope ++ name) = r.candidates name)
    (lookup : String → Option String) :
    r.flat.settledDetail lookup (r.scope ++ name) = r.settledDetail lookup name := by
  have hkey : r.flat.settledKey? lookup (r.scope ++ name) = r.settledKey? lookup name := by
    rw [settledKey?, h, settledKey?]
  have hdeclared : r.flat.scope ++ (r.scope ++ name) = r.scope ++ name := String.empty_append
  rw [settledDetail, settledValue, hkey, hdeclared]
  rfl

/-- **If all names have the same candidates in both forms, the evaluations are the same.** -/
theorem evaluateWith_flat
    (h : ∀ name ∈ r.names, r.flat.candidates (r.scope ++ name) = r.candidates name)
    (owner : String) (lookup : String → Option String) :
    r.flat.evaluateWith owner lookup = r.evaluateWith owner lookup := by
  have hnames : r.flat.names = r.names.map (r.scope ++ ·) := rfl
  have hdetails : r.flat.names.map (r.flat.settledDetail lookup)
      = r.names.map (r.settledDetail lookup) := by
    rw [hnames, List.map_map]
    exact List.map_congr_left fun name hname => settledDetail_flat (h name hname) lookup
  have hlookups : (r.flat.names.flatMap fun name => upToSet lookup (r.flat.candidates name))
      = r.names.flatMap fun name => upToSet lookup (r.candidates name) := by
    rw [hnames, List.flatMap_map]
    exact List.flatMap_congr fun name hname => congrArg (upToSet lookup) (h name hname)
  have hreport : r.flat.settledReport owner lookup = r.settledReport owner lookup := by
    rw [settledReport, hdetails, settledReport]
  rw [evaluateWith_eq, evaluateWith_eq, hreport, hlookups]

/-- **The flat form of a declared rule.** The names that it is given stay as they are when it is
built, by itself or through either channel of a declaration, and its keys are those of the rule. If
the rule is relaxed, a name has the same candidates in both forms exactly if the kebab and the camel
spelling leave the scope alone. If they do, or if the rule is strict, every evaluation of the flat
form is the evaluation of the rule: the same look-ups in the same order, the same report, and the
same log. -/
theorem evaluate_flat (h : Declared r) :
    r.flat.scope = "" ∧ r.flat.names = r.names.map (r.scope ++ ·) ∧
      ofNames (.list (r.flat.names.map .text)) r.flat.options = .ok r.flat ∧
      (∀ (channel : Channel) (other : Json), entries other = .ok [] →
        declare (r.flat.attributesThrough channel other) = .ok r.flat) ∧
      r.flat.keys = r.keys ∧
      (r.relaxed.truthy = true → ∀ name ∈ r.names,
        (r.flat.candidates (r.scope ++ name) = r.candidates name ↔
          kebab r.scope = r.scope ∧ camel r.scope = r.scope)) ∧
      ((kebab r.scope = r.scope ∧ camel r.scope = r.scope) ∨ r.relaxed.truthy = false →
        ∀ (source : Source) (owner : String),
          r.flat.evaluate source owner = r.evaluate source owner) := by
  have hwell := wellFormed_of_declared h
  have hscope := hwell.closed_scope
  refine ⟨rfl, rfl, ofNames_names hwell.flat, ?_, keys_flat r, ?_, ?_⟩
  · intro channel other hother
    exact validate_attributesThrough hwell.flat defaultOwner channel hother
  · intro hrelaxed name _
    exact candidates_flat_eq_iff hscope hrelaxed name
  · intro hsame source owner
    refine evaluateWith_flat (fun name _ => ?_) owner source.lookup
    cases hrelaxed : r.relaxed.truthy with
    | false => exact candidates_flat_of_strict hrelaxed name
    | true =>
        have hunspelled := hsame.resolve_right (ne_false_of_eq_true hrelaxed)
        exact (candidates_flat_eq_iff hscope hrelaxed name).mpr hunspelled

/-- Behind a scope in camel case the flat form tries a spelling that the rule does not, and is met
by a source that does not meet the rule. The strict rule, and the relaxed rule with a scope that has
no other spelling, are evaluated like their flat forms. -/
theorem evaluate_flat_camelScope :
    let a : Attributes :=
      { name := .list [.text "my-url", .text "port"], scope := .text " myApp.." }
    let r : Rule := ⟨["my-url", "port"], "myApp.", none, .bool false, .bool true⟩
    let source : Source := .exact "s" [("my-app.my-url", "on"), ("myApp.port", "80")]
    let strict : Rule := { r with relaxed := .null }
    let plain : Rule := { r with scope := "app." }
    declare a = .ok r ∧ r.flat.names = ["myApp.my-url", "myApp.port"] ∧
      kebab r.scope = "my-app." ∧
      r.flat.candidates "myApp.my-url" ≠ r.candidates "my-url" ∧
      (r.evaluate source "w").report.matched = false ∧
      (r.flat.evaluate source "w").report.matched = true ∧
      strict.flat.evaluate source "w" = strict.evaluate source "w" ∧
      kebab plain.scope = plain.scope ∧ camel plain.scope = plain.scope ∧
      plain.flat.evaluate source "w" = plain.evaluate source "w" := by
  intro a r source strict plain
  have hdeclare : declare a = .ok r := rfl
  have hstrict : declare { a with relaxed := .null } = .ok strict := rfl
  have hplain : declare { a with scope := .text "app" } = .ok plain := rfl
  have hkebab : kebab r.scope = "my-app." := by decide +kernel
  have hfixed : kebab plain.scope = plain.scope ∧ camel plain.scope = plain.scope := by
    decide +kernel
  obtain ⟨-, -, -, -, -, hcandidates, -⟩ := evaluate_flat (.ofDeclare hdeclare)
  obtain ⟨-, -, -, -, -, -, hstrictSame⟩ := evaluate_flat (.ofDeclare hstrict)
  obtain ⟨-, -, -, -, -, -, hplainSame⟩ := evaluate_flat (.ofDeclare hplain)
  refine ⟨hdeclare, by decide +kernel, hkebab, fun heq => ?_, by decide +kernel,
    by decide +kernel, hstrictSame (.inr rfl) source "w", hfixed.1, hfixed.2,
    hplainSame (.inl hfixed) source "w"⟩
  obtain ⟨hscope, -⟩ := (hcandidates rfl "my-url" List.mem_cons_self).mp heq
  rw [hkebab] at hscope
  exact absurd hscope (by decide)

end Rule

end Activation
