import Mathlib.Data.List.Nodup
import Activation.RuleBook

/-!
# Which Documents are Rule Books

Reading a document runs through its entries and compares every identifier with those before it.
What comes of it can be said without the run. An entry **stands for** a rule under an identifier
(`StandsFor`), and a document is a rule book exactly if all its entries do and no identifier occurs
twice; the book then has the rules of the entries, in their order (`ofJson_eq_ok_iff`).

Otherwise there is a first entry that **offends** (`Offends`): it is no object, it has no usable
identifier, it repeats the identifier of an earlier entry, or its fields are refused, and the first
of these that applies is the fault. Offence is a matter of the entry, its index and the identifiers
before it, so what follows in the document has no influence on the fault (`ofJson_eq_error_iff`).

## Main statements

* `addEntry_eq_ok_iff`, `addEntry_eq_error_iff` — what one entry does.
* `addEntries_eq_ok_iff`, `addEntries_eq_error_iff` — what a run over entries does.
* `read_exact` — which documents are read, what comes of them, and what is logged.
-/

namespace Activation.RuleBook

/-- An entry **stands for** a rule under an identifier: it is an object, the identifier is the text
that it has as its own, which is not empty, and the rule is the one that its fields declare. -/
def StandsFor (entry : Json) (p : String × Rule) : Prop :=
  ∃ members, entry = .object members ∧ Entries.get? members "id" = some (.text p.1) ∧ p.1 ≠ "" ∧
    Rule.ofEntry members = .ok p.2

/-- An entry **offends** after the identifiers of earlier entries, with the fault that it is charged
with. The four kinds exclude one another: each is about entries to which the kinds before it do not
apply. -/
inductive Offends (earlier : List String) (index : Nat) : Json → Fault → Prop
  | notAnObject {entry : Json} (h : ∀ members, entry ≠ .object members) :
      Offends earlier index entry (.entryNotAnObject index)
  | missingId {members : Entries Json}
      (h : ∀ id, members.get? "id" = some (.text id) → id = "") :
      Offends earlier index (.object members) (.missingId index)
  | duplicateId {members : Entries Json} {id : String}
      (hid : members.get? "id" = some (.text id)) (hne : id ≠ "") (h : id ∈ earlier) :
      Offends earlier index (.object members) (.duplicateId index id)
  | refused {members : Entries Json} {id : String} {fault : Rule.EntryFault}
      (hid : members.get? "id" = some (.text id)) (hne : id ≠ "") (hnew : id ∉ earlier)
      (h : Rule.ofEntry members = .error fault) :
      Offends earlier index (.object members) (.entry fault)

/-- The first entry of a list that offends, and its fault: the entries before it stand for rules
under distinct identifiers. -/
def FirstOffence (entries : List Json) (fault : Fault) : Prop :=
  ∃ (before : List Json) (entry : Json) (after : List Json) (book : RuleBook),
    entries = before ++ entry :: after ∧ List.Forall₂ StandsFor before book ∧ book.keys.Nodup ∧
      Offends book.keys before.length entry fault

/-- The entries that a document lists: those in its `rules` field, or none if it has no such
field. -/
def Lists (members : Entries Json) (entries : List Json) : Prop :=
  members.get? "rules" = none ∧ entries = [] ∨ members.get? "rules" = some (.list entries)

/-! ### One entry -/

/-- An entry has a usable identifier exactly if it has a text there that is not empty. -/
theorem entryId?_eq_some_iff {members : Entries Json} {id : String} :
    entryId? members = some id ↔ members.get? "id" = some (.text id) ∧ id ≠ "" := by
  rw [entryId?]
  split
  · rename_i found hfound
    rw [hfound]
    split
    · rename_i hempty
      subst hempty
      simp only [reduceCtorEq, Option.some.injEq, Json.text.injEq, ne_eq, false_iff, not_and,
        not_not]
      exact Eq.symm
    · rename_i hne
      simp only [Option.some.injEq, Json.text.injEq, ne_eq]
      exact ⟨fun heq => ⟨heq, heq ▸ hne⟩, fun h => h.1⟩
  · rename_i hother
    exact iff_of_false nofun fun h => hother id h.1

/-- An entry has no usable identifier exactly if every text it has there is empty. -/
theorem entryId?_eq_none_iff {members : Entries Json} :
    entryId? members = none ↔ ∀ id, members.get? "id" = some (.text id) → id = "" := by
  rw [Option.eq_none_iff_forall_ne_some]
  refine forall_congr' fun id => ?_
  rw [ne_eq, entryId?_eq_some_iff, not_and, not_not]

/-- An entry is added exactly if it stands for a rule under a new identifier. -/
theorem addEntry_eq_ok_iff {book larger : RuleBook} {index : Nat} {entry : Json} :
    addEntry book index entry = .ok larger ↔
      ∃ p, StandsFor entry p ∧ p.1 ∉ book.keys ∧ larger = book ++ [p] := by
  constructor
  · intro h
    cases entry with
    | object members =>
        rw [addEntry] at h
        split at h
        · cases h
        · rename_i id hid
          obtain ⟨hid, hne⟩ := entryId?_eq_some_iff.mp hid
          split at h
          · cases h
          · rename_i hnew
            split at h
            · rename_i rule hrule
              cases h
              exact ⟨(id, rule), ⟨members, rfl, hid, hne, hrule⟩, hnew, rfl⟩
            · cases h
    | null | bool b | integer n | real x | text t | list items => cases h
  · rintro ⟨⟨id, rule⟩, ⟨members, rfl, hid, hne, hrule⟩, hnew, rfl⟩
    rw [addEntry, entryId?_eq_some_iff.mpr ⟨hid, hne⟩]
    simp only [hnew, if_false, hrule]

/-- An entry is refused with a fault exactly if it offends with that fault. -/
theorem addEntry_eq_error_iff {book : RuleBook} {index : Nat} {entry : Json} {fault : Fault} :
    addEntry book index entry = .error fault ↔ Offends book.keys index entry fault := by
  constructor
  · intro h
    cases entry with
    | object members =>
        rw [addEntry] at h
        split at h
        · rename_i hid
          cases h
          exact .missingId (entryId?_eq_none_iff.mp hid)
        · rename_i id hid
          obtain ⟨hid, hne⟩ := entryId?_eq_some_iff.mp hid
          split at h
          · rename_i hmem
            cases h
            exact .duplicateId hid hne hmem
          · rename_i hnew
            split at h
            · cases h
            · rename_i refusal hrefused
              cases h
              exact .refused hid hne hnew hrefused
    | null | bool b | integer n | real x | text t | list items =>
        cases h
        exact .notAnObject nofun
  · intro h
    cases h with
    | notAnObject h =>
        cases entry with
        | object members => exact absurd rfl (h members)
        | null | bool b | integer n | real x | text t | list items => rfl
    | missingId h => rw [addEntry, entryId?_eq_none_iff.mpr h]
    | duplicateId hid hne h =>
        rw [addEntry, entryId?_eq_some_iff.mpr ⟨hid, hne⟩]
        exact if_pos h
    | refused hid hne hnew h =>
        rw [addEntry, entryId?_eq_some_iff.mpr ⟨hid, hne⟩]
        simp only [hnew, if_false, h]

/-! ### A run over entries -/

/-- The identifiers of a book to which a rule has been added. -/
theorem keys_snoc (book : RuleBook) (p : String × Rule) :
    Entries.keys (book ++ [p]) = book.keys ++ [p.1] :=
  List.map_append

/-- Distinct identifiers stay distinct exactly if the rule added has a new one. -/
theorem nodup_keys_snoc_iff {book : RuleBook} {p : String × Rule} (h : book.keys.Nodup) :
    (Entries.keys (book ++ [p])).Nodup ↔ p.1 ∉ book.keys := by
  rw [keys_snoc, List.nodup_append]
  constructor
  · rintro ⟨-, -, hne⟩ hmem
    exact hne p.1 hmem p.1 (List.mem_singleton_self p.1) rfl
  · intro hnew
    refine ⟨h, List.nodup_singleton p.1, ?_⟩
    rintro id hid _ hlast rfl
    exact hnew (List.mem_singleton.mp hlast ▸ hid)

/-- The identifiers of the first part of a book are distinct if those of the book are. -/
theorem nodup_keys_of_append {book more : RuleBook} (h : (Entries.keys (book ++ more)).Nodup) :
    book.keys.Nodup := by
  rw [Entries.keys, List.map_append, List.nodup_append] at h
  exact h.1

/-- **A run over entries succeeds exactly if every one of them stands for a rule** and all
identifiers of the larger book differ; it adds the rules in order. -/
theorem addEntries_eq_ok_iff {book larger : RuleBook} {index : Nat} {entries : List Json}
    (h : book.keys.Nodup) :
    addEntries book index entries = .ok larger ↔
      larger.keys.Nodup ∧ ∃ more, List.Forall₂ StandsFor entries more ∧ larger = book ++ more := by
  induction entries generalizing book index larger with
  | nil =>
      rw [addEntries]
      constructor
      · intro hsame
        cases hsame
        exact ⟨h, [], .nil, (List.append_nil _).symm⟩
      · rintro ⟨-, more, hmore, rfl⟩
        cases hmore
        rw [List.append_nil]
  | cons entry rest ih =>
      rw [addEntries]
      constructor
      · intro hrun
        split at hrun
        · rename_i step hstep
          obtain ⟨p, hp, hnew, rfl⟩ := addEntry_eq_ok_iff.mp hstep
          obtain ⟨hnodup, more, hmore, rfl⟩ := (ih ((nodup_keys_snoc_iff h).mpr hnew)).mp hrun
          exact ⟨hnodup, p :: more, .cons hp hmore, List.append_assoc ..⟩
        · cases hrun
      · rintro ⟨hnodup, _, hmore, rfl⟩
        cases hmore with
        | @cons _ p _ more hp hmore =>
            rw [List.append_cons] at hnodup ⊢
            have hstep : (Entries.keys (book ++ [p])).Nodup := nodup_keys_of_append hnodup
            have hnew : p.1 ∉ book.keys := (nodup_keys_snoc_iff h).mp hstep
            rw [addEntry_eq_ok_iff.mpr ⟨p, hp, hnew, rfl⟩]
            exact (ih hstep).mpr ⟨hnodup, more, hmore, rfl⟩

/-- A run over entries that follow others goes on from the book of those. -/
theorem addEntries_append {book : RuleBook} {index : Nat} (before after : List Json) :
    addEntries book index (before ++ after) =
      (addEntries book index before).bind fun larger =>
        addEntries larger (index + before.length) after := by
  induction before generalizing book index with
  | nil => rfl
  | cons entry rest ih =>
      rw [List.cons_append, addEntries, addEntries]
      cases addEntry book index entry with
      | error fault => rfl
      | ok larger =>
          simp only
          rw [ih, List.length_cons, Nat.add_right_comm, Nat.add_assoc]

/-- **A run over entries fails exactly at the first that offends**, with the fault of that entry:
all before it have been added, and those after it are not looked at. -/
theorem addEntries_eq_error_iff {book : RuleBook} {index : Nat} {entries : List Json}
    {fault : Fault} :
    addEntries book index entries = .error fault ↔
      ∃ before entry after larger, entries = before ++ entry :: after ∧
        addEntries book index before = .ok larger ∧
        Offends larger.keys (index + before.length) entry fault := by
  constructor
  · intro h
    induction entries generalizing book index with
    | nil => cases h
    | cons entry rest ih =>
        rw [addEntries] at h
        split at h
        · rename_i step hstep
          obtain ⟨before, offender, after, larger, rfl, hbefore, hoffends⟩ := ih h
          refine ⟨entry :: before, offender, after, larger, rfl, ?_, ?_⟩
          · rw [addEntries, hstep]
            exact hbefore
          · rwa [List.length_cons, Nat.add_comm before.length, ← Nat.add_assoc]
        · rename_i refusal hrefused
          cases h
          exact ⟨[], entry, rest, book, rfl, rfl, addEntry_eq_error_iff.mp hrefused⟩
  · rintro ⟨before, entry, after, larger, rfl, hbefore, hoffends⟩
    rw [addEntries_append, hbefore]
    change addEntries larger (index + before.length) (entry :: after) = _
    rw [addEntries, addEntry_eq_error_iff.mpr hoffends]

/-- A fault is not changed by entries that follow. -/
theorem addEntries_append_of_error {book : RuleBook} {index : Nat} {entries : List Json}
    {fault : Fault} (h : addEntries book index entries = .error fault) (after : List Json) :
    addEntries book index (entries ++ after) = .error fault := by
  rw [addEntries_append, h]
  rfl

/-- A run from the start succeeds exactly if the entries stand for the rules of a book in which no
identifier repeats. -/
theorem addEntries_nil_eq_ok_iff {entries : List Json} {book : RuleBook} :
    addEntries [] 0 entries = .ok book ↔ List.Forall₂ StandsFor entries book ∧ book.keys.Nodup := by
  have hempty : (Entries.keys ([] : RuleBook)).Nodup := List.nodup_nil
  rw [addEntries_eq_ok_iff hempty, and_comm]
  simp only [List.nil_append, exists_eq_right']

/-- A run from the start fails exactly with the fault of the first entry that offends. -/
theorem addEntries_nil_eq_error_iff {entries : List Json} {fault : Fault} :
    addEntries [] 0 entries = .error fault ↔ FirstOffence entries fault := by
  simp only [addEntries_eq_error_iff, addEntries_nil_eq_ok_iff, Nat.zero_add, FirstOffence,
    and_assoc]

/-! ### A document -/

/-- A document is no object, or an object that lists no entries, or an object that lists some. -/
theorem document_cases (document : Json) :
    (∀ members, document ≠ .object members) ∨
      (∃ members, document = .object members ∧ ∀ entries, ¬Lists members entries) ∨
      ∃ members entries, document = .object members ∧ Lists members entries := by
  by_cases hobject : ∃ members, document = .object members
  · obtain ⟨members, rfl⟩ := hobject
    by_cases hlists : ∃ entries, Lists members entries
    · obtain ⟨entries, hlists⟩ := hlists
      exact .inr (.inr ⟨members, entries, rfl, hlists⟩)
    · exact .inr (.inl ⟨members, rfl, not_exists.mp hlists⟩)
  · exact .inl (not_exists.mp hobject)

/-- A document that is no object is charged with that. -/
theorem ofJson_of_not_object {document : Json} (h : ∀ members, document ≠ .object members) :
    ofJson document = .error .notAnObject := by
  cases document with
  | object members => exact absurd rfl (h members)
  | null | bool b | integer n | real x | text t | list items => rfl

/-- A document with something else than a list in its `rules` field is charged with that. -/
theorem ofJson_of_not_lists {members : Entries Json} (h : ∀ entries, ¬Lists members entries) :
    ofJson (.object members) = .error .notAList := by
  rw [ofJson]
  cases hrules : members.get? "rules" with
  | none => exact absurd (.inl ⟨hrules, rfl⟩) (h [])
  | some value =>
      cases value with
      | list entries => exact absurd (.inr hrules) (h entries)
      | null | bool b | integer n | real x | text t | object inner => rfl

/-- A document that lists entries is read by a run over them. -/
theorem ofJson_of_lists {members : Entries Json} {entries : List Json} (h : Lists members entries) :
    ofJson (.object members) = addEntries [] 0 entries := by
  rw [ofJson]
  obtain ⟨habsent, rfl⟩ | hpresent := h
  · rw [habsent]
    rfl
  · rw [hpresent]
    rfl

/-- The book of a document is the one for which its entries stand, if no identifier repeats. -/
theorem ofJson_eq_ok_iff {document : Json} {book : RuleBook} :
    ofJson document = .ok book ↔
      ∃ members entries, document = .object members ∧ Lists members entries ∧
        List.Forall₂ StandsFor entries book ∧ book.keys.Nodup := by
  constructor
  · intro h
    rcases document_cases document with
      hother | ⟨members, rfl, hnone⟩ | ⟨members, entries, rfl, hlists⟩
    · rw [ofJson_of_not_object hother] at h
      cases h
    · rw [ofJson_of_not_lists hnone] at h
      cases h
    · rw [ofJson_of_lists hlists] at h
      exact ⟨members, entries, rfl, hlists, addEntries_nil_eq_ok_iff.mp h⟩
  · rintro ⟨members, entries, rfl, hlists, hbook⟩
    rw [ofJson_of_lists hlists]
    exact addEntries_nil_eq_ok_iff.mpr hbook

/-- A document without a book is charged with the first thing that is wrong with it: it is no
object, it does not list entries, or an entry offends. -/
theorem ofJson_eq_error_iff {document : Json} {fault : Fault} :
    ofJson document = .error fault ↔
      ((∀ members, document ≠ .object members) ∧ fault = .notAnObject) ∨
      (∃ members, document = .object members ∧ (∀ entries, ¬Lists members entries) ∧
        fault = .notAList) ∨
      ∃ members entries, document = .object members ∧ Lists members entries ∧
        FirstOffence entries fault := by
  constructor
  · intro h
    rcases document_cases document with
      hother | ⟨members, rfl, hnone⟩ | ⟨members, entries, rfl, hlists⟩
    · rw [ofJson_of_not_object hother] at h
      exact .inl ⟨hother, (Except.error.inj h).symm⟩
    · rw [ofJson_of_not_lists hnone] at h
      exact .inr (.inl ⟨members, rfl, hnone, (Except.error.inj h).symm⟩)
    · rw [ofJson_of_lists hlists] at h
      exact .inr (.inr ⟨members, entries, rfl, hlists, addEntries_nil_eq_error_iff.mp h⟩)
  · rintro (⟨hother, rfl⟩ | ⟨members, rfl, hnone, rfl⟩ | ⟨members, entries, rfl, hlists, hfirst⟩)
    · exact ofJson_of_not_object hother
    · exact ofJson_of_not_lists hnone
    · rw [ofJson_of_lists hlists]
      exact addEntries_nil_eq_error_iff.mpr hfirst

/-- The outcome of reading a document is the book of the document, or the fault. -/
theorem outcome_read (document : Json) : (read document).outcome = ofJson document := by
  rw [read]
  cases ofJson document with
  | ok book => rfl
  | error fault => rfl

/-- What is logged of a document is decided by its outcome. -/
theorem log_read (document : Json) :
    (read document).log = match ofJson document with
      | .ok book => [loadedLine book]
      | .error _ => [] := by
  rw [read]
  cases ofJson document with
  | ok book => rfl
  | error fault => rfl

/-- **Reading a document, exactly.** A document is read as a book exactly if it is an object, its
`rules` field lists entries or is absent, every entry stands for a rule, and no identifier occurs
twice: then the book has the rules of the entries under their identifiers in document order, and one
line with the number of entries is logged. Any other document is charged with the first thing that
is wrong with it, and nothing is logged. What makes a document faulty is not made good, and is not
covered up by another fault, by any entries that follow. -/
theorem read_exact (document : Json) :
    (∀ book, (read document).outcome = .ok book ↔
      ∃ members entries, document = .object members ∧ Lists members entries ∧
        List.Forall₂ StandsFor entries book ∧ book.keys.Nodup) ∧
    (∀ members entries book, document = .object members → Lists members entries →
      (read document).outcome = .ok book →
        (read document).log =
          [⟨.loading, "Loaded " ++ toString entries.length ++ " property rules"⟩]) ∧
    (∀ fault, (read document).outcome = .error fault ↔
      ((∀ members, document ≠ .object members) ∧ fault = .notAnObject) ∨
      (∃ members, document = .object members ∧ (∀ entries, ¬Lists members entries) ∧
        fault = .notAList) ∨
      ∃ members entries, document = .object members ∧ Lists members entries ∧
        FirstOffence entries fault) ∧
    (∀ fault, (read document).outcome = .error fault → (read document).log = []) ∧
    (∀ members entries fault, document = .object members → Lists members entries →
      (read document).outcome = .error fault →
        ∀ more after, Lists more (entries ++ after) →
          (read (.object more)).outcome = .error fault) := by
  simp only [outcome_read]
  refine ⟨fun book => ofJson_eq_ok_iff, ?_, fun fault => ofJson_eq_error_iff, ?_, ?_⟩
  · rintro members entries book rfl hlists h
    rw [log_read, h]
    rw [ofJson_of_lists hlists] at h
    have hlength : entries.length = book.length := (addEntries_nil_eq_ok_iff.mp h).1.length_eq
    rw [hlength]
    rfl
  · intro fault h
    rw [log_read, h]
  · rintro members entries fault rfl hlists h more after hmore
    rw [ofJson_of_lists hlists] at h
    rw [ofJson_of_lists hmore]
    exact addEntries_append_of_error h after

/-- Of an entry that repeats an identifier and has an unknown field as well the identifier is
reported, and a null among the entries that follow is not looked at. -/
theorem read_exact_duplicate :
    let first : Json := .object [("id", .text "cache"), ("name", .text "enabled")]
    let second : Json := .object [("id", .text "cache"), ("colour", .text "red")]
    let document : List Json → Json := fun entries => .object [("rules", .list entries)]
    let rule : Rule := ⟨["enabled"], "", none, .bool false, .bool true⟩
    (read (document [first])).outcome = .ok [("cache", rule)] ∧
      (read (document [first])).log = [⟨.loading, "Loaded 1 property rules"⟩] ∧
      (read (document [first, second])).outcome = .error (.duplicateId 1 "cache") ∧
      (read (document [first, second])).log = [] ∧
      (read (document [first, second, .null])).outcome = .error (.duplicateId 1 "cache") := by
  intro first second document rule
  have hlists : ∀ entries, Lists [("rules", .list entries)] entries := fun _ => .inr rfl
  have hfields : Rule.fieldFaults [("id", .text "cache"), ("name", .text "enabled")] = [] := by
    decide +kernel
  have hrule : Rule.ofEntry [("id", .text "cache"), ("name", .text "enabled")] = .ok rule := by
    rw [Rule.ofEntry, hfields]
    rfl
  have hstands : StandsFor first ("cache", rule) := ⟨_, rfl, rfl, by decide, hrule⟩
  obtain ⟨hok, hlogged, -, -, -⟩ := read_exact (document [first])
  have hbook : (read (document [first])).outcome = .ok [("cache", rule)] :=
    (hok _).mpr ⟨_, [first], rfl, hlists _, .cons hstands .nil, by decide⟩
  obtain ⟨-, -, hfault, hsilent, hfollow⟩ := read_exact (document [first, second])
  have hduplicate : (read (document [first, second])).outcome = .error (.duplicateId 1 "cache") :=
    (hfault _).mpr (.inr (.inr ⟨_, [first, second], rfl, hlists _, [first], second, [],
      [("cache", rule)], rfl, .cons hstands .nil, by decide,
      .duplicateId rfl (by decide) (by decide)⟩))
  have hline : "Loaded " ++ toString [first].length ++ " property rules" =
      "Loaded 1 property rules" := by decide +kernel
  exact ⟨hbook, hline ▸ hlogged _ _ _ rfl (hlists _) hbook, hduplicate, hsilent _ hduplicate,
    hfollow _ _ _ rfl (hlists _) hduplicate _ [.null] (hlists _)⟩

end Activation.RuleBook
