import Activation.Proofs.Entries
import Activation.Proofs.Text.Trimming
import Activation.Source.Pairs

/-!
# Properties Given Inline

A property can be written inline in many ways: with either separator, and with any blanks around its
key and its value. A **written property** (`Written`) is one such way, and carries what makes it
readable: the key is not empty and holds no separator, and neither key nor value has blanks of its
own at the ends. The value may hold separators, since the first one in the text divides it, and this
is the one behind the key. So a written property is read back as its key and its value
(`parsePair_text`).

What some inline pairs set up is a matter of the entries that their keys and values make, with the
pairs that have no key left out. Hence the last pair with a key decides, wherever in the list it
stands.

## Main statements

* `parsePair_of_divided` — a pair is divided at its first separator.
* `lookup_ofPairs_eq_some_iff` — the value of a key is that of the last pair with the key.
* `tableOfPairs_text` — written properties are read back.
* `ofPairs_exact` — what a source of inline pairs holds.
-/

namespace Activation.Source

/-- A text of blanks. -/
abbrev Blanks := { s : String // s.toList.all Text.isBlank = true }

/-- A **written property**: a key and a value with a separator between them, and blanks around
each. -/
structure Written where
  key : String
  value : String
  separator : Char
  beforeKey : Blanks
  afterKey : Blanks
  beforeValue : Blanks
  afterValue : Blanks
  key_ne : key ≠ ""
  key_trimmed : Text.Trimmed key.toList
  key_undivided : key.toList.any isSeparator = false
  value_trimmed : Text.Trimmed value.toList
  separates : isSeparator separator = true

/-- The text of a written property. -/
def Written.text (w : Written) : String :=
  (w.beforeKey.val ++ w.key ++ w.afterKey.val) ++ String.singleton w.separator
    ++ (w.beforeValue.val ++ w.value ++ w.afterValue.val)

/-! ### One pair -/

/-- No separator is blank. -/
theorem isBlank_of_isSeparator {c : Char} (h : isSeparator c = true) : Text.isBlank c = false := by
  rw [isSeparator, Bool.or_eq_true, beq_iff_eq, beq_iff_eq] at h
  rcases h with rfl | rfl <;> decide

/-- Blanks do not divide a pair. -/
theorem any_isSeparator_blanks (blanks : Blanks) : blanks.val.toList.any isSeparator = false := by
  rw [List.any_eq_false]
  intro c hc hsep
  have hblank : Text.isBlank c = true := List.all_eq_true.mp blanks.property c hc
  rw [isBlank_of_isSeparator hsep] at hblank
  cases hblank

/-- A text without separators is passed over as a whole. -/
theorem not_isSeparator_of_undivided {s : List Char} (h : s.any isSeparator = false) :
    ∀ c ∈ s, (!isSeparator c) = true := by
  intro c hc
  rw [Bool.not_eq_true']
  exact Bool.eq_false_iff.mpr (List.any_eq_false.mp h c hc)

/-- A pair without a separator is all key. -/
theorem parsePair_of_undivided {pair : String} (h : pair.toList.any isSeparator = false) :
    parsePair pair = (Text.stripped pair, "") := by
  have hkeep := not_isSeparator_of_undivided h
  rw [parsePair, List.takeWhile_eq_self_iff.mpr hkeep, List.dropWhile_eq_nil_iff.mpr hkeep]
  rfl

/-- **A pair is divided at its first separator.** -/
theorem parsePair_of_divided {front back : String} {separator : Char}
    (hfront : front.toList.any isSeparator = false) (hsep : isSeparator separator = true) :
    parsePair (front ++ String.singleton separator ++ back)
      = (Text.stripped front, Text.stripped back) := by
  have hkeep := not_isSeparator_of_undivided hfront
  have hchars : (front ++ String.singleton separator ++ back).toList
      = front.toList ++ separator :: back.toList := by simp
  have hfirst : front.toList ++ List.takeWhile (fun c => !isSeparator c) (separator :: back.toList)
      = front.toList := by
    rw [List.takeWhile_cons, hsep]
    exact List.append_nil _
  have hrest : (List.dropWhile (fun c => !isSeparator c) (separator :: back.toList)).drop 1
      = back.toList := by
    rw [List.dropWhile_cons, hsep]
    rfl
  rw [parsePair, hchars, List.takeWhile_append_of_pos hkeep, List.dropWhile_append_of_pos hkeep,
    hfirst, hrest]
  rfl

/-- A trimmed text is what is left of it with blanks around. -/
theorem stripped_surrounded {s : String} (before after : Blanks) (hs : Text.Trimmed s.toList) :
    Text.stripped (before.val ++ s ++ after.val) = s := by
  rw [Text.stripped, String.toList_append, String.toList_append,
    Text.trim_surrounded (List.all_eq_true.mp before.property) hs
      (List.all_eq_true.mp after.property), String.ofList_toList]

/-- **A written property is read back.** -/
theorem parsePair_text (w : Written) : parsePair w.text = (w.key, w.value) := by
  have hundivided :
      (w.beforeKey.val ++ w.key ++ w.afterKey.val).toList.any isSeparator = false := by
    rw [String.toList_append, String.toList_append, List.any_append, List.any_append,
      any_isSeparator_blanks, w.key_undivided, any_isSeparator_blanks]
    rfl
  rw [Written.text, parsePair_of_divided hundivided w.separates,
    stripped_surrounded _ _ w.key_trimmed, stripped_surrounded _ _ w.value_trimmed]

/-! ### What pairs set up -/

/-- The keys that some pairs set are those of the pairs, without the empty one. -/
theorem keys_tableOfPairs (pairs : List String) :
    (tableOfPairs pairs).keys
      = ((pairs.map fun pair => (parsePair pair).1).filter (· != "")).eraseDups := by
  rw [tableOfPairs, Entries.keys_ofList, List.filter_map, List.map_map, List.filter_map]
  rfl

/-- The values that some pairs set are those of the pairs, except that the empty key is not set. -/
theorem get?_tableOfPairs (pairs : List String) (key : String) :
    (tableOfPairs pairs).get? key
      = if key != "" then (Entries.ofList (pairs.map parsePair)).get? key else none :=
  Entries.get?_ofList_filter (pairs.map parsePair) (· != "") key

/-- **The value of a key is that of the last pair with the key.** -/
theorem get?_tableOfPairs_eq_some_iff {pairs : List String} {key value : String} :
    (tableOfPairs pairs).get? key = some value ↔
      key ≠ "" ∧ ∃ before pair after, pairs = before ++ pair :: after ∧
        parsePair pair = (key, value) ∧ ∀ later ∈ after, (parsePair later).1 ≠ key := by
  rw [get?_tableOfPairs, Option.ite_none_right_eq_some, bne_iff_ne, Entries.get?_ofList_eq_some_iff]
  refine and_congr_right fun _ => ?_
  constructor
  · rintro ⟨_, _, hsplit, hlast⟩
    obtain ⟨before, _, rfl, rfl, hrest⟩ := List.map_eq_append_iff.mp hsplit
    obtain ⟨pair, after, rfl, hpair, rfl⟩ := List.map_eq_cons_iff.mp hrest
    exact ⟨before, pair, after, rfl, hpair,
      fun later hlater => hlast _ (List.mem_map_of_mem hlater)⟩
  · rintro ⟨before, pair, after, rfl, hpair, hlast⟩
    refine ⟨before.map parsePair, after.map parsePair, ?_, ?_⟩
    · rw [List.map_append, List.map_cons, hpair]
    · intro p hp
      obtain ⟨later, hlater, rfl⟩ := List.mem_map.mp hp
      exact hlast later hlater

/-- Of two lists of pairs the later one decides, where it sets the key. -/
theorem get?_tableOfPairs_append (pairs more : List String) (key : String) :
    (tableOfPairs (pairs ++ more)).get? key
      = ((tableOfPairs more).get? key).or ((tableOfPairs pairs).get? key) := by
  rw [get?_tableOfPairs, get?_tableOfPairs, get?_tableOfPairs, List.map_append,
    Entries.get?_ofList_append]
  split <;> rfl

/-- **Written properties are read back**, if their keys are distinct. -/
theorem tableOfPairs_text {written : List Written} (h : (written.map (·.key)).Nodup) :
    tableOfPairs (written.map (·.text)) = written.map fun w => (w.key, w.value) := by
  have hparsed : (written.map (·.text)).map parsePair = written.map fun w => (w.key, w.value) := by
    rw [List.map_map]
    exact List.map_congr_left fun w _ => parsePair_text w
  have hkept : (written.map fun w => (w.key, w.value)).filter (fun p => p.1 != "")
      = written.map fun w => (w.key, w.value) := by
    rw [List.filter_eq_self, List.forall_mem_map]
    exact fun w _ => bne_iff_ne.mpr w.key_ne
  rw [tableOfPairs, hparsed, hkept]
  refine Entries.ofList_eq_self ?_
  rw [List.map_map]
  exact h

/-- **What a source of inline pairs holds.** A pair is divided at its first separator, and both
parts are stripped; without a separator it is all key. The keys of the source are those of the
pairs, other than the empty one, each where it is first set, and their values those of the last
pairs that set them; so of two lists of pairs the later one decides, where it sets the key. And if
properties with distinct keys are written inline in any way, the source has these keys in this order
with these values. -/
theorem ofPairs_exact (name : Option String) :
    ((∀ pair : String, pair.toList.any isSeparator = false →
        parsePair pair = (Text.stripped pair, "")) ∧
      ∀ (front back : String) (separator : Char), front.toList.any isSeparator = false →
        isSeparator separator = true →
        parsePair (front ++ String.singleton separator ++ back)
          = (Text.stripped front, Text.stripped back)) ∧
    (∀ pairs : List String,
      (ofPairs .exact name pairs).keys
          = ((pairs.map fun pair => (parsePair pair).1).filter (· != "")).eraseDups ∧
        ∀ key value, (ofPairs .exact name pairs).lookup key = some value ↔
          key ≠ "" ∧ ∃ before pair after, pairs = before ++ pair :: after ∧
            parsePair pair = (key, value) ∧ ∀ later ∈ after, (parsePair later).1 ≠ key) ∧
    (∀ (pairs more : List String) (key : String),
      (ofPairs .exact name (pairs ++ more)).lookup key
        = ((ofPairs .exact name more).lookup key).or ((ofPairs .exact name pairs).lookup key)) ∧
    (∀ written : List Written, (written.map (·.key)).Nodup →
      let source := ofPairs .exact name (written.map (·.text))
      source.keys = written.map (·.key) ∧ ∀ w ∈ written, source.lookup w.key = some w.value) := by
  refine ⟨⟨fun _ => parsePair_of_undivided, fun _ _ _ => parsePair_of_divided⟩,
    fun pairs => ⟨keys_tableOfPairs pairs, fun _ _ => get?_tableOfPairs_eq_some_iff⟩,
    get?_tableOfPairs_append, fun written hkeys => ?_⟩
  have htable := tableOfPairs_text hkeys
  have hback : (tableOfPairs (written.map (·.text))).keys = written.map (·.key) := by
    rw [htable, Entries.keys, List.map_map]
    rfl
  refine ⟨hback, fun w hw => ?_⟩
  have hmem : (w.key, w.value) ∈ tableOfPairs (written.map (·.text)) :=
    htable ▸ List.mem_map_of_mem hw
  exact (Entries.get?_eq_some_iff_mem (hback ▸ hkeys)).mpr hmem

/-- A value with both separators and blanks of several kinds around is read back, and so is an empty
one. A pair without a separator is all key, and one with both is divided at the first. -/
theorem ofPairs_exact_address :
    (∃ written : List Written,
      let source := ofPairs .exact none (written.map (·.text))
      written.map (·.text) = ["\t app.url\u00a0=  http://x:80?a=b", "flag :"] ∧
        (written.map (·.key)).Nodup ∧ source.keys = ["app.url", "flag"] ∧
        source.lookup "app.url" = some "http://x:80?a=b" ∧ source.lookup "flag" = some "") ∧
    (" some.property".toList.any isSeparator = false ∧
      parsePair " some.property" = ("some.property", "")) ∧
    ("url ".toList.any isSeparator = false ∧ isSeparator ':' = true ∧
      parsePair ("url " ++ String.singleton ':' ++ " a=b") = ("url", "a=b")) := by
  obtain ⟨⟨hundivided, hdivided⟩, -, -, hwritten⟩ := ofPairs_exact none
  have hplain : " some.property".toList.any isSeparator = false := by decide
  have hfront : "url ".toList.any isSeparator = false := by decide
  let url : Written :=
    { key := "app.url", value := "http://x:80?a=b", separator := '='
      beforeKey := ⟨"\t ", by decide⟩, afterKey := ⟨"\u00a0", by decide⟩
      beforeValue := ⟨"  ", by decide⟩, afterValue := ⟨"", by decide⟩
      key_ne := by decide
      key_trimmed := Text.trim_eq_self_iff.mp (by decide)
      key_undivided := by decide
      value_trimmed := Text.trim_eq_self_iff.mp (by decide)
      separates := by decide }
  let flag : Written :=
    { key := "flag", value := "", separator := ':'
      beforeKey := ⟨"", by decide⟩, afterKey := ⟨" ", by decide⟩
      beforeValue := ⟨"", by decide⟩, afterValue := ⟨"", by decide⟩
      key_ne := by decide
      key_trimmed := Text.trim_eq_self_iff.mp (by decide)
      key_undivided := by decide
      value_trimmed := Text.trim_eq_self_iff.mp (by decide)
      separates := by decide }
  have hkeys : ([url, flag].map (·.key)).Nodup := by decide
  obtain ⟨hback, hvalue⟩ := hwritten [url, flag] hkeys
  exact ⟨⟨[url, flag], by decide, hkeys, hback, hvalue url (by simp), hvalue flag (by simp)⟩,
    ⟨hplain, hundivided _ hplain⟩, hfront, by decide, hdivided "url " " a=b" ':' hfront (by decide)⟩

end Activation.Source
