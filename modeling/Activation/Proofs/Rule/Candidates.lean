import Activation.Proofs.Report.Reasons
import Activation.Proofs.Spelling.Twice

/-!
# The Keys Tried for a Name

A relaxed rule that finds nothing under a name has tried the name under all its spellings. How many
these are shows in the name. The kebab spelling is one of its own exactly if a word other than the
first starts in the name, at a **boundary**; the camel spelling is one of its own exactly if the
name has a joint. Boundaries and joints have nothing to do with each other, so a name may have both,
and then its three spellings differ, for the kebab spelling is longer than the name and the camel
spelling shorter (`kebab_eq_camel_iff`). Hence the two tests alone say whether one, two or three
keys are tried.

## Main statements

* `kebab_eq_self_iff`, `camel_eq_self_iff` — the two tests.
* `lookups_resolve_of_unset` — a name that nothing is found under has had all its candidates tried.
* `variants_tried` — the spellings of a name, and the keys tried for it in vain.
-/

namespace Activation

namespace Spelling

/-! ### The two tests -/

/-- A name **has a boundary**: a word other than the first starts in it. -/
def HasBoundary (name : List Char) : Prop :=
  ∃ i, StartsAt name i

/-- The names without a boundary are those of one word. -/
theorem oneWord_iff_not_hasBoundary {name : List Char} : OneWord name ↔ ¬HasBoundary name :=
  oneWord_iff.trans not_exists.symm

instance (name : List Char) : Decidable (HasBoundary name) :=
  decidable_of_iff ((words name).2 ≠ []) (not_iff_comm.mp oneWord_iff_not_hasBoundary.symm)

instance (name : List Char) : Decidable (HasJoint name) :=
  decidable_of_iff (joints name ≠ 0) (not_iff_comm.mp joints_eq_zero_iff.symm)

/-- **The kebab spelling changes exactly the names with a boundary.** -/
theorem kebab_eq_self_iff {name : String} : kebab name = name ↔ ¬HasBoundary name.toList := by
  rw [← String.toList_inj, toList_kebab, kebabChars_eq_self_iff, oneWord_iff_not_hasBoundary]

/-- **The camel spelling changes exactly the names with a joint.** -/
theorem camel_eq_self_iff {name : String} : camel name = name ↔ ¬HasJoint name.toList := by
  rw [← String.toList_inj, toList_camel, camelChars_eq_self_iff, joints_eq_zero_iff]

/-- The spellings of a name as the two tests tell them. -/
theorem variants_eq_of_tests (name : String) :
    variants name =
      name :: ((if HasBoundary name.toList then [kebab name] else [])
        ++ if HasJoint name.toList then [camel name] else []) := by
  simp only [variants_eq, kebab_eq_self_iff, camel_eq_self_iff, ite_not]

/-- The number of spellings of a name. -/
theorem length_variants (name : String) :
    (variants name).length =
      1 + (if HasBoundary name.toList then 1 else 0) + if HasJoint name.toList then 1 else 0 := by
  rw [variants_eq_of_tests]
  split
  · split
    · rfl
    · rfl
  · split
    · rfl
    · rfl

end Spelling

namespace Rule

open Spelling

variable {r : Rule} {lookup : String → Option String} {name : String}

/-! ### Names that nothing is found under -/

/-- No key is a candidate of a name twice. -/
theorem nodup_candidates (r : Rule) (name : String) : (r.candidates name).Nodup := by
  rw [candidates]
  split
  · exact (nodup_variants name).map fun a b hab => (String.append_right_inj r.scope).mp hab
  · exact List.nodup_singleton (r.scope ++ name)

/-- A name has no value exactly if none of its candidates is set. -/
theorem value_resolve_eq_none_iff :
    (r.resolve lookup name).value = none ↔ r.isUnset lookup name = true := by
  rw [← isMissing_settledDetail, resolve_eq]
  exact Option.isNone_iff_eq_none.symm

/-- **A name that nothing is found under has had all its candidates tried.** -/
theorem lookups_resolve_of_unset (h : (r.resolve lookup name).value = none) :
    (r.resolve lookup name).lookups = r.candidates name := by
  have hunset : ∀ key ∈ r.candidates name, (!isSet lookup key) = true :=
    List.all_eq_true.mp (value_resolve_eq_none_iff.mp h)
  have hnone : (r.candidates name).find? (isSet lookup) = none :=
    List.find?_eq_none.mpr fun key hkey => by simpa using hunset key hkey
  rw [resolve_eq, upToSet, hnone, List.takeWhile_eq_self_iff.mpr hunset]
  exact List.append_nil _

/-- What is looked up for a name of a rule is looked up in one go in every evaluation. -/
theorem lookups_resolve_infix (hname : name ∈ r.names) (source : Source) (owner : String) :
    (r.resolve source.lookup name).lookups <:+: (r.evaluate source owner).lookups := by
  rw [lookups_evaluate, resolve_eq]
  exact List.infix_flatMap_of_mem hname fun name => upToSet source.lookup (r.candidates name)

/-- **The spellings of a name, and the keys tried for it in vain.** The spellings are pairwise
different. They are the name, then the kebab spelling if the name has a boundary, then the camel
spelling if it has a joint; these two coincide only if both are the name. A relaxed rule that finds
nothing under the name looks up the key with each of the spellings, in this order and none of them
twice: one key, one more if the name has a boundary, and one more if it has a joint. In an
evaluation of a rule with this name, these look-ups stand one right after the other. -/
theorem variants_tried (name : String) :
    (variants name).Nodup ∧
      variants name =
        name :: ((if HasBoundary name.toList then [kebab name] else [])
          ++ if HasJoint name.toList then [camel name] else []) ∧
      (kebab name = camel name ↔ kebab name = name ∧ camel name = name) ∧
      ∀ (r : Rule) (source : Source), r.relaxed.truthy = true →
        (r.resolve source.lookup name).value = none →
          let tried := (r.resolve source.lookup name).lookups
          tried = (variants name).map (r.scope ++ ·) ∧ tried.Nodup ∧
            tried.length =
              1 + (if HasBoundary name.toList then 1 else 0)
                + (if HasJoint name.toList then 1 else 0) ∧
            (name ∈ r.names → ∀ owner, tried <:+: (r.evaluate source owner).lookups) := by
  refine ⟨nodup_variants name, variants_eq_of_tests name, kebab_eq_camel_iff, ?_⟩
  intro r source hrelaxed hunset tried
  have htried : tried = r.candidates name := lookups_resolve_of_unset hunset
  have hkeys : r.candidates name = (variants name).map (r.scope ++ ·) := if_pos hrelaxed
  refine ⟨htried.trans hkeys, htried ▸ nodup_candidates r name, ?_,
    fun hname owner => lookups_resolve_infix hname source owner⟩
  rw [htried, hkeys, List.length_map, length_variants]

/-- The name has a boundary behind its small letters and a joint before its second word, so three
keys are tried. None of them is set: the table has the property without its hyphen and in small
letters, which is no spelling of the name. -/
theorem variants_tried_allThree :
    let r : Rule := ⟨["port", "myURL-base"], "app.", none, .bool false, .integer 1⟩
    let source : Source := .exact "s" [("app.port", "80"), ("app.myurlbase", "/")]
    r.relaxed.truthy = true ∧ (r.resolve source.lookup "myURL-base").value = none ∧
      HasBoundary "myURL-base".toList ∧ HasJoint "myURL-base".toList ∧
      (r.resolve source.lookup "myURL-base").lookups
        = ["app.myURL-base", "app.my-url-base", "app.myURLBase"] ∧
      ["app.myURL-base", "app.my-url-base", "app.myURLBase"]
        <:+: (r.evaluate source "w").lookups := by
  intro r source
  have hunset : (r.resolve source.lookup "myURL-base").value = none := by decide +kernel
  have hvariants : variants "myURL-base" = ["myURL-base", "my-url-base", "myURLBase"] := by
    decide +kernel
  obtain ⟨-, -, -, htried⟩ := variants_tried "myURL-base"
  obtain ⟨hkeys, -, -, hinfix⟩ := htried r source rfl hunset
  rw [hvariants] at hkeys
  have hrun := hinfix (List.mem_cons_of_mem _ List.mem_cons_self) "w"
  rw [hkeys] at hrun
  exact ⟨rfl, hunset, by decide, by decide, hkeys, hrun⟩

end Rule

end Activation
