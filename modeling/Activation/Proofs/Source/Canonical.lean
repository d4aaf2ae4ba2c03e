import Activation.Proofs.Entries
import Activation.Proofs.Evaluation
import Activation.Proofs.Spelling.Folding

/-!
# Rules on Canonical Sources

A canonical source does by itself what a relaxed rule does by trying other spellings, and more.
Whether it has a value for a key depends on the canonical form of the key alone
(`lookup_canonical_eq_none_iff`): the table itself is consulted first, but a key that stands in the
table also stands, under its canonical form, in the index made from the table.

All spellings of a name have one canonical form behind the scope of a rule. So on a canonical
source the key as declared is set if any candidate is, the other candidates never come into play,
and the flag that allows them changes nothing in the report.

## Main statements

* `lookup_canonical_eq_none_iff` — what a canonical source does not find.
* `report_relaxed_canonical` — relaxed and strict rules have the same report on canonical sources.
-/

namespace Activation

namespace Source

/-- A canonical source looks into its table first and into the index then. -/
theorem lookup_canonical_eq (name : String) (table : Entries String) (key : String) :
    (Source.canonical name table).lookup key
      = (table.get? key).or (firstLike table (Spelling.canonical key)) := by
  rw [lookup, get?_index]
  cases table.get? key with
  | none => rfl
  | some value => rfl

/-- A canonical source **finds nothing exactly if no key of its table has the canonical form** of
the key asked for. -/
theorem lookup_canonical_eq_none_iff (name : String) (table : Entries String) (key : String) :
    (Source.canonical name table).lookup key = none ↔
      ∀ p ∈ table, Spelling.canonical p.1 ≠ Spelling.canonical key := by
  rw [lookup_canonical_eq, Option.or_eq_none_iff, firstLike, Option.map_eq_none_iff,
    List.find?_eq_none]
  simp only [beq_iff_eq]
  refine ⟨And.right, fun h => ⟨Entries.get?_eq_none fun hmem => ?_, h⟩⟩
  -- the key itself would have its canonical form
  obtain ⟨p, hp, rfl⟩ := List.mem_map.mp hmem
  exact h p hp rfl

/-- Keys with one canonical form are both found by a canonical source or both not. -/
theorem isSet_canonical_congr (name : String) (table : Entries String) {a b : String}
    (h : Spelling.canonical a = Spelling.canonical b) :
    Rule.isSet (Source.canonical name table).lookup a
      = Rule.isSet (Source.canonical name table).lookup b := by
  have hnone : (Source.canonical name table).lookup a = none ↔
      (Source.canonical name table).lookup b = none := by
    rw [lookup_canonical_eq_none_iff, lookup_canonical_eq_none_iff, h]
  rw [Rule.isSet, Rule.isSet, Bool.eq_iff_iff, ← not_iff_not]
  simpa using hnone

end Source

namespace Rule

/-- On a canonical source the other spellings of a name are set exactly if its key as declared
is. -/
theorem isSet_canonical_of_mem_variants (name : String) (table : Entries String) (scope : String)
    {n spelling : String} (h : spelling ∈ Spelling.variants n) :
    isSet (Source.canonical name table).lookup (scope ++ spelling)
      = isSet (Source.canonical name table).lookup (scope ++ n) :=
  Source.isSet_canonical_congr name table (Spelling.canonical_append_eq_of_mem_variants scope h)

/-- Every candidate of a name is its scope followed by one of its spellings. -/
theorem exists_spelling_of_mem_candidates {r : Rule} {n key : String}
    (h : key ∈ r.candidates n) : ∃ spelling ∈ Spelling.variants n, r.scope ++ spelling = key := by
  rw [candidates] at h
  split at h
  · exact List.mem_map.mp h
  · obtain rfl := List.mem_singleton.mp h
    obtain ⟨more, hmore⟩ := List.head?_eq_some_iff.mp (Spelling.head?_variants n)
    exact ⟨n, hmore ▸ List.mem_cons_self, rfl⟩

/-- On a canonical source every name is settled by its key as declared. -/
theorem settledDetail_canonical (r : Rule) (name : String) (table : Entries String) (n : String) :
    r.settledDetail (Source.canonical name table).lookup n =
      ⟨r.scope ++ n, (Source.canonical name table).lookup (r.scope ++ n),
        r.judge ((Source.canonical name table).lookup (r.scope ++ n))⟩ := by
  apply settledDetail_eq_declared
  intro hnone key hkey
  obtain ⟨spelling, hspelling, rfl⟩ := exists_spelling_of_mem_candidates hkey
  have hset := isSet_canonical_of_mem_variants name table r.scope hspelling
  simpa [isSet, hnone] using hset

/-- **Spellings make no difference on a canonical source.** Whatever its table, a rule has there
the same report and the same log whether other spellings of its names are tried or not; every
detail is under the key as declared; and another spelling of a name is never set unless the key as
declared is. -/
theorem report_relaxed_canonical (r : Rule) (flag : Json) (name : String)
    (table : Entries String) (owner : String) :
    let source := Source.canonical name table
    ({ r with relaxed := flag }.evaluate source owner).report
        = (r.evaluate source owner).report ∧
      ({ r with relaxed := flag }.evaluate source owner).log = (r.evaluate source owner).log ∧
      (r.evaluate source owner).report.details.map (·.key) = r.keys ∧
      ∀ n, ∀ spelling ∈ Spelling.variants n,
        isSet source.lookup (r.scope ++ spelling) = isSet source.lookup (r.scope ++ n) := by
  intro source
  have hreport : { r with relaxed := flag }.settledReport owner source.lookup
      = r.settledReport owner source.lookup := by
    have hdetails : r.names.map ({ r with relaxed := flag }.settledDetail source.lookup)
        = r.names.map (r.settledDetail source.lookup) := by
      refine List.map_congr_left fun n _ => ?_
      rw [settledDetail_canonical, settledDetail_canonical]
      rfl
    rw [settledReport, settledReport, hdetails]
  have hreport' : ({ r with relaxed := flag }.evaluate source owner).report
      = (r.evaluate source owner).report := by
    rw [report_evaluate, report_evaluate, hreport]
  refine ⟨hreport', ?_, ?_, ?_⟩
  · rw [log_evaluate, log_evaluate, hreport']
  · rw [details_evaluate, keys, List.map_map]
    refine List.map_congr_left fun n _ => ?_
    rw [Function.comp_apply, settledDetail_canonical]
  · intro n spelling h
    exact isSet_canonical_of_mem_variants name table r.scope h

/-- The acronym and the capital sigma are folded by the source, so the strict rule finds what the
relaxed one finds, although the table has neither of the spellings that the relaxed one tries. -/
theorem report_relaxed_canonical_acronym :
    let r : Rule := ⟨["myURLΣ"], "app.", none, .bool false, .bool true⟩
    let table : Entries String := [("APP.my-url_ς", "on")]
    "my-urlΣ" ∈ Spelling.variants "myURLΣ" ∧
      isSet (Source.canonical "c" table).lookup "app.my-urlΣ" = true ∧
      isSet (Source.canonical "c" table).lookup ("app." ++ "my-urlΣ")
        = isSet (Source.canonical "c" table).lookup ("app." ++ "myURLΣ") ∧
      ({ r with relaxed := .bool false }.evaluate (.canonical "c" table) "w").report
        = (r.evaluate (.canonical "c" table) "w").report := by
  intro r table
  have hmem : "my-urlΣ" ∈ Spelling.variants "myURLΣ" := by decide +kernel
  obtain ⟨hreport, -, -, hset⟩ := report_relaxed_canonical r (.bool false) "c" table "w"
  exact ⟨hmem, by decide +kernel, hset "myURLΣ" "my-urlΣ" hmem, hreport⟩

end Rule

end Activation
