import Activation.Proofs.Evaluation
import Activation.Proofs.Spelling.Joints

/-!
# Rules in Either Spelling

A relaxed rule may name a property in camel case or in kebab case. The two spellings of a name
that leads back from its kebab spelling are tried in either case, each rule beginning with its own.
So the order is all that can tell the two rules apart, and it does so only where a source has both
spellings set, to different values.

## Main statements

* `settledValue_of_camel_kebab` — what such a name resolves to, and what its kebab spelling does.
* `evaluate_map_kebab` — the two rules reach the same values, outcomes and verdict.
-/

namespace Activation.Rule

open Spelling

/-- Two values of which neither contradicts the other can be preferred in either order. -/
theorem or_comm_of_agree {α : Type} {x y : Option α}
    (h : ∀ u v, x = some u → y = some v → u = v) : x.or y = y.or x := by
  rcases x with _ | u
  · rw [Option.none_or, Option.or_none]
  · rcases y with _ | v
    · rfl
    · rw [Option.some_or, Option.some_or, h u v rfl rfl]

/-- The first value of two is the one that is there, the first before the second. -/
theorem findSome?_two {α β : Type} (f : α → Option β) (a b : α) :
    [a, b].findSome? f = (f a).or (f b) := by
  rcases ha : f a with _ | value
  · rw [List.findSome?_cons, ha, List.findSome?_singleton, Option.none_or]
  · rw [List.findSome?_cons, ha, Option.some_or]

/-- A relaxed rule resolves a name to the first value among its spellings. -/
theorem settledValue_of_relaxed {r : Rule} (h : r.relaxed.truthy = true)
    (lookup : String → Option String) (name : String) :
    r.settledValue lookup name = (variants name).findSome? fun n => lookup (r.scope ++ n) := by
  rw [settledValue_eq_findSome?, candidates, if_pos h, List.findSome?_map]
  rfl

/-- A name that its kebab spelling leads back to resolves to the value under it and else to the one
under its kebab spelling. -/
theorem settledValue_of_camel_kebab {r : Rule} (hrelaxed : r.relaxed.truthy = true)
    (lookup : String → Option String) {c : String} (h : camel (kebab c) = c) :
    r.settledValue lookup c = (lookup (r.scope ++ c)).or (lookup (r.scope ++ kebab c)) := by
  rw [settledValue_of_relaxed hrelaxed, variants_of_camel_kebab h]
  split
  · rename_i heq
    rw [← heq, Option.or_self, List.findSome?_singleton]
  · rw [findSome?_two]

/-- Its kebab spelling resolves to the same two, in the other order. -/
theorem settledValue_kebab_of_camel_kebab {r : Rule} (hrelaxed : r.relaxed.truthy = true)
    (lookup : String → Option String) {c : String} (h : camel (kebab c) = c) :
    r.settledValue lookup (kebab c) = (lookup (r.scope ++ kebab c)).or (lookup (r.scope ++ c)) := by
  rw [settledValue_of_relaxed hrelaxed, variants_kebab_of_camel_kebab h]
  split
  · rename_i heq
    rw [← heq, Option.or_self, List.findSome?_singleton]
  · rw [findSome?_two]

/-- Where a source does not set the two spellings of a name to different values, the name and its
kebab spelling resolve to the same value. -/
theorem settledValue_kebab {r : Rule} (hrelaxed : r.relaxed.truthy = true)
    {lookup : String → Option String} {c : String} (h : camel (kebab c) = c)
    (hagree : ∀ u v, lookup (r.scope ++ c) = some u →
      lookup (r.scope ++ kebab c) = some v → u = v) :
    r.settledValue lookup (kebab c) = r.settledValue lookup c := by
  rw [settledValue_kebab_of_camel_kebab hrelaxed lookup h,
    settledValue_of_camel_kebab hrelaxed lookup h, or_comm_of_agree hagree]

/-- **Camel and kebab spellings are the same property.** A name that its kebab spelling leads back
to has exactly these two spellings, its own first, and so has its kebab spelling. Let all names of
a relaxed rule be of this kind, and let a source set no two spellings of a name to different
values. Then the rule with all names in kebab spelling resolves every name to the value that the
rule itself resolves it to, with the same outcome, and reaches the same verdict. -/
theorem evaluate_map_kebab :
    (∀ c : String, camel (kebab c) = c →
      variants c = (if c = kebab c then [c] else [c, kebab c]) ∧
        variants (kebab c) = (if c = kebab c then [kebab c] else [kebab c, c])) ∧
    ∀ (r : Rule) (source : Source) (owner : String), r.relaxed.truthy = true →
      (∀ c ∈ r.names, camel (kebab c) = c) →
      (∀ c ∈ r.names, ∀ u v, source.lookup (r.scope ++ c) = some u →
        source.lookup (r.scope ++ kebab c) = some v → u = v) →
      let s : Rule := { r with names := r.names.map kebab }
      (∀ c ∈ r.names,
        (s.resolve source.lookup (kebab c)).value = (r.resolve source.lookup c).value) ∧
        (s.evaluate source owner).report.details.map (fun d => (d.value, d.outcome))
          = (r.evaluate source owner).report.details.map (fun d => (d.value, d.outcome)) ∧
        (s.evaluate source owner).report.matched = (r.evaluate source owner).report.matched := by
  refine ⟨fun c h => ⟨variants_of_camel_kebab h, variants_kebab_of_camel_kebab h⟩, ?_⟩
  intro r source owner hrelaxed hnames hagree s
  have hvalue : ∀ c ∈ r.names,
      s.settledValue source.lookup (kebab c) = r.settledValue source.lookup c :=
    fun c hc => settledValue_kebab hrelaxed (hnames c hc) (hagree c hc)
  have hdetails : (s.evaluate source owner).report.details.map (fun d => (d.value, d.outcome))
      = (r.evaluate source owner).report.details.map (fun d => (d.value, d.outcome)) := by
    have hsnames : s.names = r.names.map kebab := rfl
    rw [details_evaluate, details_evaluate, hsnames, List.map_map, List.map_map, List.map_map]
    refine List.map_congr_left fun c hc => ?_
    simp only [Function.comp_apply, settledDetail, hvalue c hc]
    rfl
  refine ⟨?_, hdetails, ?_⟩
  · intro c hc
    rw [resolve_eq, resolve_eq]
    exact hvalue c hc
  · have hpasses : Detail.passes = (fun p : Option String × Json => p.2.truthy) ∘
        fun d : Detail => (d.value, d.outcome) := rfl
    rw [matched_evaluate, matched_evaluate, hpasses, ← List.all_map, hdetails, List.all_map]

/-- Each of the two names is set in the spelling that one of the rules does not begin with, and the
third is set in neither; an acronym would not lead back, and is not among them. -/
theorem evaluate_map_kebab_mixed :
    let r : Rule := ⟨["myUrl", "server.httpPort", "host"], "app.", none, .bool false, .bool true⟩
    let source : Source := .exact "s" [("app.my-url", "on"), ("app.server.httpPort", "80")]
    let s : Rule := { r with names := ["my-url", "server.http-port", "host"] }
    r.names.map kebab = s.names ∧
      (∀ c ∈ r.names, ∀ u v, source.lookup (r.scope ++ c) = some u →
        source.lookup (r.scope ++ kebab c) = some v → u = v) ∧
      (r.evaluate source "w").report.details.map (·.value) = [some "on", some "80", none] ∧
      (s.evaluate source "w").report.details.map (fun d => (d.value, d.outcome))
        = (r.evaluate source "w").report.details.map (fun d => (d.value, d.outcome)) ∧
      variants "myUrl" = ["myUrl", "my-url"] := by
  intro r source s
  have hkebab : r.names.map kebab = s.names := by decide +kernel
  have hback : ∀ c ∈ r.names, camel (kebab c) = c := by decide +kernel
  have hagree : ∀ c ∈ r.names, ∀ u v, source.lookup (r.scope ++ c) = some u →
      source.lookup (r.scope ++ kebab c) = some v → u = v := by
    have hone : ∀ c ∈ r.names,
        source.lookup (r.scope ++ c) = none ∨ source.lookup (r.scope ++ kebab c) = none := by
      decide +kernel
    intro c hc u v hu hv
    rcases hone c hc with hnone | hnone
    · rw [hnone] at hu
      cases hu
    · rw [hnone] at hv
      cases hv
  obtain ⟨hvariants, hrules⟩ := evaluate_map_kebab
  obtain ⟨-, hdetails, -⟩ := hrules r source "w" rfl hback hagree
  refine ⟨hkebab, hagree, by decide +kernel, ?_, ?_⟩
  · rwa [hkebab] at hdetails
  · rw [(hvariants "myUrl" (hback _ List.mem_cons_self)).1]
    decide +kernel

end Activation.Rule
