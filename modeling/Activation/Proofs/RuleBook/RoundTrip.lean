import Activation.Proofs.Rule.RoundTrip
import Activation.Proofs.RuleBook.Acceptance

/-!
# Rule Books Written and Read Back

The document of a book lists one entry for each rule: the entry that the rule is written as, with
the identifier in front. The identifier is no concern of the rule, so what is read from such an
entry is what is read from the rule's own (`ofEntry_cons_id`), and the entry stands for that rule
under that identifier and for nothing else (`standsFor_entry_iff`).

Hence a book of rules that can be declared is read back exactly if its identifiers are distinct and
none of them is empty, and what is read differs from it in nothing but the flags, which have become
truth values. Writing does not tell a flag from its truth, so the book that has been read is written
as the same document again.

## Main statements

* `ofJson_toJson_eq_ok_iff` — which books are read back, and as what.
* `exists_read_toJson` — the round trip of a book through its document.
-/

namespace Activation

namespace Rule

/-! ### Entries with an identifier -/

/-- An identifier in front does not change what stands in the other fields. -/
theorem get?_cons_id (id : Json) (members : Entries Json) {field : String} (h : field ≠ "id") :
    Entries.get? (("id", id) :: members) field = members.get? field :=
  if_neg (Ne.symm h)

/-- An identifier in front is no unknown field. -/
theorem unknownFields_cons_id (id : Json) (members : Entries Json) :
    unknownFields (("id", id) :: members) = unknownFields members := by
  have hkeys : Entries.keys (("id", id) :: members) = "id" :: members.keys := rfl
  have hfield : fields.contains "id" = true := by decide
  simp only [unknownFields, hkeys, List.filter_cons, hfield, Bool.not_true, Bool.false_eq_true,
    if_false]

/-- An identifier in front does not change the faults among other fields. -/
theorem faultsAmong_cons_id (id : Json) (members : Entries Json) {names : List String}
    (h : "id" ∉ names) (test : Json → Bool) (problem : FieldProblem) :
    faultsAmong (("id", id) :: members) names test problem
      = faultsAmong members names test problem := by
  refine List.filterMap_congr fun field hfield => ?_
  have hne : field ≠ "id" := fun heq => h (heq ▸ hfield)
  rw [get?_cons_id id members hne]

/-- An identifier in front does not change the faults of an entry. -/
theorem fieldFaults_cons_id (id : Json) (members : Entries Json) :
    fieldFaults (("id", id) :: members) = fieldFaults members := by
  rw [fieldFaults, unknownFields_cons_id, faultsAmong_cons_id id members (by decide),
    faultsAmong_cons_id id members (by decide), faultsAmong_cons_id id members (by decide),
    fieldFaults]

/-- An identifier in front does not change the declaration that an entry makes up. -/
theorem entryAttributes_cons_id (id : Json) (members : Entries Json) :
    entryAttributes (("id", id) :: members) = entryAttributes members := by
  have hget : ∀ field ∈ ["name", "value", "prefix", "having_value", "match_if_missing",
      "relaxed_names"], Entries.get? (("id", id) :: members) field = members.get? field := by
    intro field hfield
    refine get?_cons_id id members ?_
    rintro rfl
    exact absurd hfield (by decide)
  simp only [List.forall_mem_cons] at hget
  obtain ⟨hname, hvalue, hscope, hexpected, hmissing, hrelaxed, -⟩ := hget
  simp only [entryAttributes, entryScope, hname, hvalue, hscope, hexpected, hmissing, hrelaxed]

/-- **The identifier of an entry is no concern of the rule**: an entry that is accepted stands for
the same rule with an identifier in front. -/
theorem ofEntry_cons_id (id : Json) {members : Entries Json} {r : Rule}
    (h : ofEntry members = .ok r) : ofEntry (("id", id) :: members) = .ok r := by
  obtain ⟨hfaults, hdeclare⟩ := declare_of_ofEntry h
  rw [ofEntry, fieldFaults_cons_id, hfaults, entryAttributes_cons_id, hdeclare]
  rfl

/-! ### Rules with truth values for flags -/

/-- A rule is left alone by taking the truth of its flags exactly if both are truth values. -/
theorem withPlainFlags_eq_self_iff {r : Rule} :
    r.withPlainFlags = r ↔ (∃ b, r.ifMissing = .bool b) ∧ ∃ b, r.relaxed = .bool b := by
  obtain ⟨names, scope, expected, ifMissing, relaxed⟩ := r
  simp only [withPlainFlags, mk.injEq, true_and]
  constructor
  · rintro ⟨hmissing, hrelaxed⟩
    exact ⟨⟨_, hmissing.symm⟩, ⟨_, hrelaxed.symm⟩⟩
  · rintro ⟨⟨b, rfl⟩, ⟨c, rfl⟩⟩
    exact ⟨rfl, rfl⟩

end Rule

namespace RuleBook

/-! ### The entries of a book -/

/-- A book with the truth of all flags in place of the flags. -/
def withPlainFlags (book : RuleBook) : RuleBook :=
  book.map fun p => (p.1, p.2.withPlainFlags)

@[simp] theorem keys_withPlainFlags (book : RuleBook) :
    (withPlainFlags book).keys = book.keys :=
  Entries.keys_map Rule.withPlainFlags book

/-- A book of rules with truth values for flags is left alone by taking their truth. -/
theorem withPlainFlags_eq_self {book : RuleBook}
    (h : ∀ p ∈ book, (∃ b, p.2.ifMissing = .bool b) ∧ ∃ b, p.2.relaxed = .bool b) :
    withPlainFlags book = book := by
  refine (List.map_congr_left fun p hp => ?_).trans (List.map_id book)
  rw [Rule.withPlainFlags_eq_self_iff.mpr (h p hp), id]

/-- A book with the truth of its flags is written as the book is. -/
theorem toJson_withPlainFlags (book : RuleBook) : toJson (withPlainFlags book) = toJson book := by
  rw [toJson, withPlainFlags, List.map_map]
  rfl

/-- **The entry of a well-formed rule under an identifier stands for that rule under that
identifier**, provided it is not empty, and for nothing else. -/
theorem standsFor_entry_iff {p q : String × Rule} (h : Rule.WellFormed p.2) :
    StandsFor (.object (("id", .text p.1) :: p.2.toEntry)) q ↔
      p.1 ≠ "" ∧ q = (p.1, p.2.withPlainFlags) := by
  have hrule : Rule.ofEntry (("id", .text p.1) :: p.2.toEntry) = .ok p.2.withPlainFlags :=
    Rule.ofEntry_cons_id _ (Rule.ofEntry_toEntry h)
  constructor
  · rintro ⟨members, hmembers, hid, hne, hq⟩
    obtain rfl := Json.object.inj hmembers
    have hsame : p.1 = q.1 := Json.text.inj (Option.some.inj hid)
    exact ⟨hsame ▸ hne, Prod.ext hsame.symm (Except.ok.inj (hq.symm.trans hrule))⟩
  · rintro ⟨hne, rfl⟩
    exact ⟨_, rfl, rfl, hne, hrule⟩

/-- The entries of a book stand for the book with the truth of its flags, provided that no
identifier is empty, and for no other. -/
theorem forall₂_standsFor_iff {book back : RuleBook} (h : ∀ p ∈ book, Rule.WellFormed p.2) :
    List.Forall₂ StandsFor
        (book.map fun p => .object (("id", .text p.1) :: p.2.toEntry)) back ↔
      "" ∉ book.keys ∧ back = withPlainFlags book := by
  rw [List.forall₂_map_left_iff]
  induction book generalizing back with
  | nil =>
      rw [List.forall₂_nil_left_iff]
      exact ⟨fun hback => ⟨List.not_mem_nil, hback⟩, fun hback => hback.2⟩
  | cons p rest ih =>
      obtain ⟨hp, hrest⟩ := List.forall_mem_cons.mp h
      rw [List.forall₂_cons_left_iff]
      constructor
      · rintro ⟨q, more, hq, hmore, rfl⟩
        obtain ⟨hne, rfl⟩ := (standsFor_entry_iff hp).mp hq
        obtain ⟨hids, rfl⟩ := (ih hrest).mp hmore
        exact ⟨fun hmem => (List.mem_cons.mp hmem).elim (fun heq => hne heq.symm) hids, rfl⟩
      · rintro ⟨hids, rfl⟩
        obtain ⟨hne, hids⟩ := not_or.mp fun hmem => hids (List.mem_cons.mpr hmem)
        exact ⟨_, withPlainFlags rest, (standsFor_entry_iff hp).mpr ⟨Ne.symm hne, rfl⟩,
          (ih hrest).mpr ⟨hids, rfl⟩, rfl⟩

/-! ### The document of a book -/

/-- **The document of a book of well-formed rules is a rule book exactly if** the identifiers are
distinct and none is empty, and then it is the book with the truth of its flags. -/
theorem ofJson_toJson_eq_ok_iff {book back : RuleBook} (h : ∀ p ∈ book, Rule.WellFormed p.2) :
    ofJson (toJson book) = .ok back ↔
      book.keys.Nodup ∧ "" ∉ book.keys ∧ back = withPlainFlags book := by
  rw [toJson, ofJson_of_lists (.inr rfl), addEntries_nil_eq_ok_iff, forall₂_standsFor_iff h]
  constructor
  · rintro ⟨⟨hids, rfl⟩, hnodup⟩
    exact ⟨keys_withPlainFlags book ▸ hnodup, hids, rfl⟩
  · rintro ⟨hnodup, hids, rfl⟩
    exact ⟨⟨hids, rfl⟩, (keys_withPlainFlags book).symm ▸ hnodup⟩

/-- **The round trip of a book through its document.** Let a book hold rules, declared in whatever
way, under distinct identifiers of which none is empty. Its document is accepted. The book that is
read has the same identifiers in the same order and is written as the very same document, and if
the flags of all rules are truth values it is the book itself. -/
theorem exists_read_toJson {book : RuleBook} (hids : book.keys.Nodup) (hne : "" ∉ book.keys)
    (hdeclared : ∀ p ∈ book, Rule.Declared p.2) :
    ∃ back, (read (toJson book)).outcome = .ok back ∧ back.keys = book.keys ∧
      toJson back = toJson book ∧
      ((∀ p ∈ book, (∃ b, p.2.ifMissing = .bool b) ∧ ∃ b, p.2.relaxed = .bool b) →
        back = book) := by
  have hwell : ∀ p ∈ book, Rule.WellFormed p.2 :=
    fun p hp => Rule.wellFormed_of_declared (hdeclared p hp)
  refine ⟨withPlainFlags book, ?_, keys_withPlainFlags book, toJson_withPlainFlags book,
    withPlainFlags_eq_self⟩
  rw [outcome_read]
  exact (ofJson_toJson_eq_ok_iff hwell).mpr ⟨hids, hne, rfl⟩

/-- One rule has every field that is written only if it differs from its default, the other has none
of them. -/
theorem exists_read_toJson_defaults :
    let full : Rule := ⟨["enabled", "size"], "app.cache.", some "true", .bool true, .bool false⟩
    let bare : Rule := ⟨["port"], "", none, .bool false, .bool true⟩
    let book : RuleBook := [("cache", full), (" ", bare)]
    let document : Json := .object [("rules", .list
      [.object [("id", .text "cache"), ("name", .list [.text "enabled", .text "size"]),
        ("prefix", .text "app.cache."), ("having_value", .text "true"),
        ("match_if_missing", .bool true), ("relaxed_names", .bool false)],
      .object [("id", .text " "), ("name", .list [.text "port"])]])]
    toJson book = document ∧ book.keys.Nodup ∧ "" ∉ book.keys ∧
      (read document).outcome = .ok book := by
  intro full bare book document
  have hdocument : toJson book = document := rfl
  have hids : book.keys.Nodup := by decide
  have hne : "" ∉ book.keys := by decide
  have hfull : Rule.declare
      { name := .list [.text " enabled", .text "size"], scope := .text "app.cache",
        expected := .text "true", ifMissing := .bool true, relaxed := .bool false }
      = .ok ⟨["enabled", "size"], "app.cache.", some "true", .bool true, .bool false⟩ := rfl
  have hbare : Rule.declare { value := .text "port" }
      = .ok ⟨["port"], "", none, .bool false, .bool true⟩ := rfl
  have hdeclared : ∀ p ∈ book, Rule.Declared p.2 :=
    List.forall_mem_cons.mpr ⟨.ofDeclare hfull, List.forall_mem_singleton.mpr (.ofDeclare hbare)⟩
  have hflags : ∀ p ∈ book, (∃ b, p.2.ifMissing = .bool b) ∧ ∃ b, p.2.relaxed = .bool b :=
    List.forall_mem_cons.mpr ⟨⟨⟨true, rfl⟩, ⟨false, rfl⟩⟩,
      List.forall_mem_singleton.mpr ⟨⟨false, rfl⟩, ⟨true, rfl⟩⟩⟩
  obtain ⟨back, hback, -, -, hsame⟩ := exists_read_toJson hids hne hdeclared
  rw [hdocument, hsame hflags] at hback
  exact ⟨hdocument, hids, hne, hback⟩

end RuleBook

end Activation
