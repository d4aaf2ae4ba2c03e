import Activation.Proofs.Source.Canonical

/-!
# Sources over Distinct Keys

A canonical source answers for all keys with one canonical form at once, so it can only tell apart
what differs in canonical form. If the keys of its table do, it answers every key with the value of
the one entry that has its canonical form (`lookup_canonical_of_mem`), and so it finds whatever an
exact source over the same table finds under any spelling of a name: the value is the same, though
the canonical source has it under the key as declared and the exact source perhaps under another.

The converse fails, since the canonical source folds more than the two spellings of a name.

## Main statements

* `lookup_canonical_of_mem` — what a canonical source answers over distinct keys.
* `matches?_canonical_of_exact` — what an exact source resolves, the canonical one resolves alike.
-/

namespace Activation

namespace Source

variable {table : Entries String}

/-- What a canonical source finds stands in its table, under a key with the canonical form of the
key asked for. -/
theorem exists_mem_of_lookup_canonical {name key value : String}
    (h : (Source.canonical name table).lookup key = some value) :
    ∃ p ∈ table, Spelling.canonical p.1 = Spelling.canonical key ∧ p.2 = value := by
  rw [lookup_canonical_eq, Option.or_eq_some_iff] at h
  rcases h with hfound | ⟨-, hfirst⟩
  · exact ⟨(key, value), Entries.mem_of_get?_eq_some hfound, rfl, rfl⟩
  · rw [firstLike, Option.map_eq_some_iff] at hfirst
    obtain ⟨p, hp, rfl⟩ := hfirst
    have hform := List.find?_some hp
    exact ⟨p, List.mem_of_find?_eq_some hp, beq_iff_eq.mp hform, rfl⟩

/-- **Over keys with distinct canonical forms** a canonical source answers every key with the value
of the entry that has its canonical form. -/
theorem lookup_canonical_of_mem (h : (table.keys.map Spelling.canonical).Nodup) (name : String)
    {key other value : String} (hmem : (key, value) ∈ table)
    (heq : Spelling.canonical other = Spelling.canonical key) :
    (Source.canonical name table).lookup other = some value := by
  have hinj : ∀ p ∈ table, ∀ q ∈ table,
      Spelling.canonical p.1 = Spelling.canonical q.1 → p = q := by
    rw [Entries.keys, List.map_map] at h
    exact fun p hp q hq => List.inj_on_of_nodup_map h hp hq
  rcases hfound : (Source.canonical name table).lookup other with _ | found
  · have hnone := (lookup_canonical_eq_none_iff name table other).mp hfound
    exact absurd heq.symm (hnone (key, value) hmem)
  · obtain ⟨p, hp, hform, rfl⟩ := exists_mem_of_lookup_canonical hfound
    rw [hinj p hp (key, value) hmem (hform.trans heq)]

end Source

namespace Rule

variable {r : Rule} {table : Entries String}

/-- What a name resolves to in an exact source stands in its table, under a key with the canonical
form of the key as declared. -/
theorem exists_mem_of_settledValue_exact {name n value : String}
    (h : r.settledValue (Source.exact name table).lookup n = some value) :
    ∃ key, (key, value) ∈ table ∧
      Spelling.canonical (r.scope ++ n) = Spelling.canonical key := by
  rw [settledValue_eq_findSome?] at h
  obtain ⟨key, hkey, hvalue⟩ := List.exists_of_findSome?_eq_some h
  obtain ⟨spelling, hspelling, rfl⟩ := exists_spelling_of_mem_candidates hkey
  exact ⟨r.scope ++ spelling, Entries.mem_of_get?_eq_some hvalue,
    (Spelling.canonical_append_eq_of_mem_variants r.scope hspelling).symm⟩

/-- Over distinct keys, a name that an exact source resolves is resolved to the same value by a
canonical source. -/
theorem settledValue_canonical_of_exact (h : (table.keys.map Spelling.canonical).Nodup)
    {exactName canonicalName n value : String}
    (hvalue : r.settledValue (Source.exact exactName table).lookup n = some value) :
    r.settledValue (Source.canonical canonicalName table).lookup n = some value := by
  obtain ⟨key, hmem, hform⟩ := exists_mem_of_settledValue_exact hvalue
  have hdetail := congrArg Detail.value (settledDetail_canonical r canonicalName table n)
  exact hdetail.trans (Source.lookup_canonical_of_mem h canonicalName hmem hform)

/-- A name that passes although a missing property does not has been resolved. -/
theorem exists_settledValue_of_passes (hmissing : r.ifMissing.truthy = false)
    {lookup : String → Option String} {n : String}
    (h : (r.settledDetail lookup n).passes = true) :
    ∃ value, r.settledValue lookup n = some value := by
  rcases hvalue : r.settledValue lookup n with _ | value
  · rw [Detail.passes, settledDetail, hvalue] at h
    exact absurd (h.symm.trans hmissing) (by decide)
  · exact ⟨value, rfl⟩

/-- **A canonical source resolves what an exact source resolves.** Let the keys under which some
properties are set have distinct canonical forms. Whatever value a name of a rule has in the exact
source of these properties, it has in the canonical one, and the details of the two evaluations
agree in value and outcome wherever the exact source has found the property. So if a missing
property is not accepted, a rule that the exact source meets is met by the canonical one. -/
theorem matches?_canonical_of_exact (properties : Entries Json)
    (h : ((Source.tableOf properties).keys.map Spelling.canonical).Nodup)
    (exactName canonicalName : Option String) (r : Rule) :
    let plain := Source.ofProperties .exact exactName properties
    let folding := Source.ofProperties .canonical canonicalName properties
    (∀ n value, (r.resolve plain.lookup n).value = some value →
      (r.resolve folding.lookup n).value = some value) ∧
    (∀ owner, List.Forall₂
      (fun d e : Detail => d.isMissing = false → e.value = d.value ∧ e.outcome = d.outcome)
      (r.evaluate plain owner).report.details (r.evaluate folding owner).report.details) ∧
    (r.ifMissing.truthy = false → r.matches? plain = true → r.matches? folding = true) := by
  intro plain folding
  have hvalue : ∀ n value, r.settledValue plain.lookup n = some value →
      r.settledValue folding.lookup n = some value :=
    fun n value hn => settledValue_canonical_of_exact h hn
  have houtcome : ∀ n value, r.settledValue plain.lookup n = some value →
      (r.settledDetail folding.lookup n).outcome = (r.settledDetail plain.lookup n).outcome := by
    intro n value hn
    rw [settledDetail, settledDetail, hvalue n value hn, hn]
  refine ⟨fun n value hn => ?_, fun owner => ?_, fun hmissing hmatch => ?_⟩
  · rw [resolve_eq] at hn ⊢
    exact hvalue n value hn
  · rw [details_evaluate, details_evaluate, List.forall₂_map_left_iff, List.forall₂_map_right_iff,
      List.forall₂_same]
    intro n _ hset
    obtain ⟨value, hn⟩ := Option.isSome_iff_exists.mp (Option.isNone_eq_false_iff.mp hset)
    exact ⟨(hvalue n value hn).trans hn.symm, houtcome n value hn⟩
  · rw [matches?, report, matched_evaluate, details_evaluate, List.all_map, List.all_eq_true]
      at hmatch ⊢
    intro n hn
    have hpasses : (r.settledDetail plain.lookup n).passes = true := hmatch n hn
    obtain ⟨value, hset⟩ := exists_settledValue_of_passes hmissing hpasses
    rw [Function.comp_apply, Detail.passes, houtcome n value hset]
    exact hpasses

/-- The exact source has the property under the other spelling of its name, the canonical one under
the key as declared. The key that is null has the same canonical form and does not count, because
nothing is set under it. -/
theorem matches?_canonical_of_exact_spellings :
    let properties : Entries Json :=
      [("app.my-url", .null), ("app.myUrl", .text "on"), ("APP.http_port", .integer 80)]
    let r : Rule := ⟨["my-url"], "app.", none, .null, .bool true⟩
    ((Source.tableOf properties).keys.map Spelling.canonical).Nodup ∧
      r.ifMissing.truthy = false ∧
      r.matches? (.ofProperties .exact none properties) = true ∧
      r.matches? (.ofProperties .canonical none properties) = true ∧
      (r.resolve (Source.ofProperties .canonical none properties).lookup "my-url").value
        = some "on" := by
  intro properties r
  have hdistinct : ((Source.tableOf properties).keys.map Spelling.canonical).Nodup := by
    decide +kernel
  have hmatch : r.matches? (.ofProperties .exact none properties) = true := by decide +kernel
  obtain ⟨hvalue, -, hmatches⟩ := matches?_canonical_of_exact properties hdistinct none none r
  exact ⟨hdistinct, rfl, hmatch, hmatches rfl hmatch, hvalue "my-url" "on" (by decide +kernel)⟩

end Rule

end Activation
