import Activation.Json.Reader
import Activation.Proofs.Entries
import Activation.Proofs.Json.Numerals
import Activation.Proofs.Json.Strings
import Activation.Text.LineBreak

/-!
# Values Written and Read Back

A value is **portable** (`Portable`) if it holds no reals, no integers with too many digits, and no
objects in which a key occurs twice. What such a value is written as is read as that value.

The reader is a machine with a stack of open containers, so the round trip of a value has to be
stated for a value within any of them: from a state that expects a value (`Expects`), the reader
goes through the text of the value, and is then in the state in which the value has been accepted
(`ReadsBack`). This is what passes from the items of a list to the list, and from the members of an
object to the object. The rest of the text is arbitrary, but it must end a numeral, since the value
may be one.

## Main statements

* `readsBack_of_portable` — every portable value is read back within every container.
* `parse_write` — the text of a portable value is read as that value.
* `plain_write` — that text is plain.
-/

namespace Activation

namespace Json

/-- A value is **portable** if it holds no reals, no integers with too many digits, and no objects
in which a key occurs twice. -/
inductive Portable : Json → Prop
  | null : Portable .null
  | bool (b : Bool) : Portable (.bool b)
  | integer {n : Int} (h : (Nat.toDigits 10 n.natAbs).length ≤ maxDigits) : Portable (.integer n)
  | text (s : String) : Portable (.text s)
  | list {items : List Json} (h : ∀ item ∈ items, Portable item) : Portable (.list items)
  | object {members : Entries Json} (hkeys : members.keys.Nodup)
      (h : ∀ member ∈ members, Portable member.2) : Portable (.object members)

/-! ### The reader at work -/

/-- What a text is read as from a state on. -/
def readFrom (state : State) (s : List Char) : Except Halt Json :=
  assemble state (lex s)

/-- A text that does not start with a blank is cut after its first lexeme. -/
theorem lex_cons {c : Char} (hc : isSpace c = false) (s : List Char) :
    lex (c :: s) = (c :: s, (firstLexeme c s).1) :: lex (firstLexeme c s).2 := by
  have hblank : (c :: s).dropWhile isSpace = c :: s :=
    List.dropWhile_cons_of_neg (Bool.eq_false_iff.mp hc)
  rw [lex]
  split
  · rename_i hnil
    rw [hblank] at hnil
    cases hnil
  · rename_i d t hcons
    rw [hblank] at hcons
    cases hcons
    rfl

/-- The reader takes one lexeme after the other. -/
theorem readFrom_cons {state next : State} {c : Char} {s rest : List Char} {lexeme : Lexeme}
    (hc : isSpace c = false) (hlexeme : firstLexeme c s = (lexeme, rest))
    (hstep : state.step (c :: s) lexeme = .ok next) :
    readFrom state (c :: s) = readFrom next rest := by
  rw [readFrom, lex_cons hc, hlexeme, assemble, hstep]
  rfl

/-- The reader takes a token of one character. -/
theorem readFrom_punctuation {state next : State} {c : Char} {token : Token}
    (h : punctuation? c = some token) {s : List Char}
    (hstep : state.step (c :: s) (.token token) = .ok next) :
    readFrom state (c :: s) = readFrom next s := by
  have hc : isSpace c = false := by
    unfold punctuation? at h
    split at h
    all_goals first
      | rfl
      | cases h
  refine readFrom_cons hc ?_ hstep
  rw [firstLexeme, h]

/-- A state **expects a value** within some containers: every lexeme is read as the start of one,
except the end of a list, which may stand in place of the first item. -/
def Expects (state : State) (stack : List Frame) : Prop :=
  ∀ place lexeme, lexeme ≠ .token .closeList →
    state.step place lexeme = State.startValue stack place lexeme

theorem expects_wantValue (stack : List Frame) : Expects (.wantValue stack) stack :=
  fun _ _ _ => rfl

theorem expects_firstItem (stack : List Frame) :
    Expects (.firstItem stack) (.list [] :: stack) := by
  intro place lexeme h
  rw [State.step]
  exact h

/-- A state **expects a key** in an object that has some members: every lexeme is read as one,
except the end of the object, which may stand in place of the first key. -/
def ExpectsKey (state : State) (members : Entries Json) (stack : List Frame) : Prop :=
  ∀ place lexeme, lexeme ≠ .token .closeObject →
    state.step place lexeme = State.startMember members stack place lexeme

theorem expectsKey_wantKey (members : Entries Json) (stack : List Frame) :
    ExpectsKey (.wantKey members stack) members stack :=
  fun _ _ _ => rfl

theorem expectsKey_firstKey (stack : List Frame) : ExpectsKey (.firstKey stack) [] stack := by
  intro place lexeme h
  rw [State.step]
  exact h

/-- A number does not start with a blank. -/
theorem isSpace_of_startsNumber {c : Char} (h : c = '-' ∨ c.isDigit = true) :
    isSpace c = false := by
  rw [Bool.eq_false_iff]
  intro hspace
  simp only [isSpace, Bool.or_eq_true, beq_iff_eq] at hspace
  rcases hspace with ((rfl | rfl) | rfl) | rfl <;> exact absurd h (by decide)

/-! ### Values in containers -/

/-- A value is **read back** if from every state that expects a value the reader goes through what
the value is written as, and has then accepted it. -/
def ReadsBack (value : Json) : Prop :=
  ∀ {state : State} {stack : List Frame}, Expects state stack → ∀ rest, EndsNumeral rest →
    readFrom state (value.write ++ rest) = readFrom (.accept value stack) rest

/-- A lexeme that is a value by itself is accepted. -/
theorem readFrom_scalar {state : State} {stack : List Frame} (hstate : Expects state stack)
    {c : Char} (hc : isSpace c = false) {s rest : List Char} {value : Json}
    (h : firstLexeme c s = (.token (.scalar value), rest)) :
    readFrom state (c :: s) = readFrom (.accept value stack) rest :=
  readFrom_cons hc h (hstate _ _ nofun)

/-- A string is accepted. -/
theorem readFrom_writeText {state : State} {stack : List Frame} (hstate : Expects state stack)
    (s : String) (rest : List Char) :
    readFrom state (writeText s ++ rest) = readFrom (.accept (.text s) stack) rest :=
  readFrom_cons rfl (firstLexeme_writeText s rest) (hstate _ _ nofun)

/-- Where a value is expected a list can be opened. -/
theorem readFrom_openList {state : State} {stack : List Frame} (hstate : Expects state stack)
    (s : List Char) : readFrom state ('[' :: s) = readFrom (.firstItem stack) s :=
  readFrom_punctuation rfl (hstate _ (.token .openList) nofun)

/-- Where a value is expected an object can be opened. -/
theorem readFrom_openObject {state : State} {stack : List Frame} (hstate : Expects state stack)
    (s : List Char) : readFrom state ('\x7b' :: s) = readFrom (.firstKey stack) s :=
  readFrom_punctuation rfl (hstate _ (.token .openObject) nofun)

/-- The further items of a list end a numeral, and so do the further members of an object. -/
theorem endsNumeral_writeItems (items : List Json) (rest : List Char) :
    EndsNumeral (writeItems items ++ rest) := by
  cases items with
  | nil => exact endsNumeral_cons (.inr (.inl rfl)) _
  | cons item items => exact endsNumeral_cons (.inl rfl) _

theorem endsNumeral_writeMembers (members : Entries Json) (rest : List Char) :
    EndsNumeral (writeMembers members ++ rest) := by
  cases members with
  | nil => exact endsNumeral_cons (.inr (.inr rfl)) _
  | cons member members => exact endsNumeral_cons (.inl rfl) _

/-- **The further items of a list are read back** if each of them is. -/
theorem readFrom_writeItems {items : List Json} (h : ∀ item ∈ items, ReadsBack item)
    (done : List Json) (stack : List Frame) (rest : List Char) :
    readFrom (.afterItem done stack) (writeItems items ++ rest)
      = readFrom (.accept (.list (done.reverse ++ items)) stack) rest := by
  -- the reader keeps the items it has read latest first, so `done` grows at its front
  induction items generalizing done with
  | nil =>
      rw [List.append_nil]
      exact readFrom_punctuation rfl rfl
  | cons item items ih =>
      obtain ⟨hitem, hitems⟩ := List.forall_mem_cons.mp h
      have htext : writeItems (item :: items) ++ rest
          = ',' :: (item.write ++ (writeItems items ++ rest)) := by
        rw [writeItems, List.append_assoc, List.cons_append]
      have hlist : (item :: done).reverse ++ items = done.reverse ++ item :: items := by
        rw [List.reverse_cons, List.append_assoc, List.singleton_append]
      calc readFrom (.afterItem done stack) (writeItems (item :: items) ++ rest)
          = readFrom (.wantValue (.list done :: stack))
              (item.write ++ (writeItems items ++ rest)) := by
            rw [htext]
            exact readFrom_punctuation rfl rfl
        _ = readFrom (.afterItem (item :: done) stack) (writeItems items ++ rest) :=
            hitem (expects_wantValue _) _ (endsNumeral_writeItems items rest)
        _ = readFrom (.accept (.list (done.reverse ++ item :: items)) stack) rest := by
            rw [ih hitems, hlist]

/-- **A list is read back** if all its items are. -/
theorem readsBack_list {items : List Json} (h : ∀ item ∈ items, ReadsBack item) :
    ReadsBack (.list items) := by
  intro state stack hstate rest _
  cases items with
  | nil =>
      calc readFrom state ('[' :: ']' :: rest)
          = readFrom (.firstItem stack) (']' :: rest) := readFrom_openList hstate _
        _ = readFrom (.accept (.list []) stack) rest := readFrom_punctuation rfl rfl
  | cons item items =>
      obtain ⟨hitem, hitems⟩ := List.forall_mem_cons.mp h
      have htext : (Json.list (item :: items)).write ++ rest
          = '[' :: (item.write ++ (writeItems items ++ rest)) := by
        rw [write, List.append_assoc, List.cons_append]
      calc readFrom state ((Json.list (item :: items)).write ++ rest)
          = readFrom (.firstItem stack) (item.write ++ (writeItems items ++ rest)) := by
            rw [htext, readFrom_openList hstate]
        _ = readFrom (.afterItem [item] stack) (writeItems items ++ rest) :=
            hitem (expects_firstItem stack) _ (endsNumeral_writeItems items rest)
        _ = readFrom (.accept (.list (item :: items)) stack) rest :=
            readFrom_writeItems hitems [item] stack rest

/-- A member is read back if its value is. -/
theorem readFrom_member {state : State} {members : Entries Json} {stack : List Frame}
    (hstate : ExpectsKey state members stack) (key : String) {value : Json} (h : ReadsBack value)
    {rest : List Char} (hrest : EndsNumeral rest) :
    readFrom state (writeText key ++ ':' :: (value.write ++ rest))
      = readFrom (.afterMember (members.put key value) stack) rest :=
  calc readFrom state (writeText key ++ ':' :: (value.write ++ rest))
      = readFrom (.wantColon members key stack) (':' :: (value.write ++ rest)) :=
        readFrom_cons rfl (firstLexeme_writeText key _) (hstate _ _ nofun)
    _ = readFrom (.wantValue (.member members key :: stack)) (value.write ++ rest) :=
        readFrom_punctuation rfl rfl
    _ = readFrom (.afterMember (members.put key value) stack) rest :=
        h (expects_wantValue _) _ hrest

/-- **The further members of an object are read back** if their values are, and if no key occurs
twice. -/
theorem readFrom_writeMembers {members : Entries Json} (h : ∀ member ∈ members, ReadsBack member.2)
    {done : Entries Json} (hkeys : (Entries.keys (done ++ members)).Nodup) (stack : List Frame)
    (rest : List Char) :
    readFrom (.afterMember done stack) (writeMembers members ++ rest)
      = readFrom (.accept (.object (done ++ members)) stack) rest := by
  induction members generalizing done with
  | nil =>
      rw [List.append_nil]
      exact readFrom_punctuation rfl rfl
  | cons member members ih =>
      obtain ⟨hmember, hmembers⟩ := List.forall_mem_cons.mp h
      obtain ⟨key, value⟩ := member
      have htext : writeMembers ((key, value) :: members) ++ rest
          = ',' :: (writeText key ++ ':' :: (value.write ++ (writeMembers members ++ rest))) := by
        simp only [writeMembers, List.append_assoc, List.cons_append]
      -- a key that occurred before would replace the earlier value in place
      have hnew : key ∉ Entries.keys done := by
        rw [Entries.keys, List.map_append, List.nodup_append] at hkeys
        exact fun hmem => hkeys.2.2 key hmem key List.mem_cons_self rfl
      have hobject : done ++ (key, value) :: members = done ++ [(key, value)] ++ members := by
        rw [List.append_assoc, List.singleton_append]
      calc readFrom (.afterMember done stack) (writeMembers ((key, value) :: members) ++ rest)
          = readFrom (.wantKey done stack)
              (writeText key ++ ':' :: (value.write ++ (writeMembers members ++ rest))) := by
            rw [htext]
            exact readFrom_punctuation rfl rfl
        _ = readFrom (.afterMember (done ++ [(key, value)]) stack)
              (writeMembers members ++ rest) := by
            rw [readFrom_member (expectsKey_wantKey done stack) key hmember
              (endsNumeral_writeMembers members rest), Entries.put_of_not_mem hnew]
        _ = readFrom (.accept (.object (done ++ (key, value) :: members)) stack) rest := by
            rw [hobject] at hkeys ⊢
            exact ih hmembers hkeys

/-- **An object is read back** if all its values are, and if no key occurs twice. -/
theorem readsBack_object {members : Entries Json} (hkeys : members.keys.Nodup)
    (h : ∀ member ∈ members, ReadsBack member.2) : ReadsBack (.object members) := by
  intro state stack hstate rest _
  cases members with
  | nil =>
      calc readFrom state ('\x7b' :: '\x7d' :: rest)
          = readFrom (.firstKey stack) ('\x7d' :: rest) := readFrom_openObject hstate _
        _ = readFrom (.accept (.object []) stack) rest := readFrom_punctuation rfl rfl
  | cons member members =>
      obtain ⟨hmember, hmembers⟩ := List.forall_mem_cons.mp h
      obtain ⟨key, value⟩ := member
      have htext : (Json.object ((key, value) :: members)).write ++ rest
          = '\x7b' :: (writeText key
              ++ ':' :: (value.write ++ (writeMembers members ++ rest))) := by
        simp only [write, List.append_assoc, List.cons_append]
      calc readFrom state ((Json.object ((key, value) :: members)).write ++ rest)
          = readFrom (.firstKey stack)
              (writeText key ++ ':' :: (value.write ++ (writeMembers members ++ rest))) := by
            rw [htext, readFrom_openObject hstate]
        _ = readFrom (.afterMember [(key, value)] stack) (writeMembers members ++ rest) :=
            readFrom_member (expectsKey_firstKey stack) key hmember
              (endsNumeral_writeMembers members rest)
        _ = readFrom (.accept (.object ((key, value) :: members)) stack) rest :=
            readFrom_writeMembers hmembers hkeys stack rest

/-! ### Portable values -/

/-- **Every portable value is read back**, within whatever containers it stands. -/
theorem readsBack_of_portable {value : Json} (h : Portable value) : ReadsBack value := by
  induction h with
  | null =>
      intro state stack hstate rest _
      exact readFrom_scalar hstate rfl (firstLexeme_name rest).1
  | bool b =>
      intro state stack hstate rest _
      cases b with
      | true => exact readFrom_scalar hstate rfl (firstLexeme_name rest).2.1
      | false => exact readFrom_scalar hstate rfl (firstLexeme_name rest).2.2
  | integer hdigits =>
      intro state stack hstate rest hrest
      obtain ⟨c, s, hwrite, hstart, hlexeme⟩ := firstLexeme_integer hdigits
      rw [write, hwrite]
      exact readFrom_scalar hstate (isSpace_of_startsNumber hstart) (hlexeme rest hrest)
  | text s =>
      intro state stack hstate rest _
      exact readFrom_writeText hstate s rest
  | list _ ih => exact readsBack_list ih
  | object hkeys _ ih => exact readsBack_object hkeys ih

/-- A text that is read to its end is the text of a value: it does not start with a byte order mark,
at which no lexeme could be read. -/
theorem parse_of_readFrom {s : List Char} {value : Json}
    (h : readFrom (.wantValue []) s = .ok value) : parse s = .ok value := by
  unfold parse
  split
  · rename_i t
    have hmark : firstLexeme '\uFEFF' t
        = (.badScalar (.malformed .valueExpected ('\uFEFF' :: t)), []) := rfl
    rw [readFrom, lex_cons rfl, hmark] at h
    cases h
  · rw [← readFrom, h]
    rfl

/-- **The text of a portable value is read as that value.** -/
theorem parse_write {value : Json} (h : Portable value) : parse value.write = .ok value := by
  have hback := readsBack_of_portable h (expects_wantValue []) [] endsNumeral_nil
  rw [List.append_nil] at hback
  refine parse_of_readFrom (hback.trans ?_)
  rw [readFrom, lex]
  rfl

/-! ### Line breaks -/

/-- Integers are written plainly. -/
theorem plain_integerDigits (n : Int) : Plain (integerDigits n) := by
  have hdigits : ∀ n : Nat, Plain (Nat.toDigits 10 n) := by
    intro n c hc
    have h := isDigit_of_mem_toDigits hc
    simp only [Char.isDigit, Bool.and_eq_true, decide_eq_true_eq, ge_iff_le,
      UInt32.le_iff_toNat_le] at h
    exact Nat.le_trans (by decide) h.1
  cases n with
  | ofNat n => exact hdigits n
  | negSucc n => exact plain_cons_iff.mpr ⟨by decide, hdigits (n + 1)⟩

/-- The further items of a list are written plainly if each of them is. -/
theorem plain_writeItems {items : List Json} (h : ∀ item ∈ items, Plain item.write) :
    Plain (writeItems items) := by
  induction items with
  | nil => decide
  | cons item items ih =>
      obtain ⟨hitem, hitems⟩ := List.forall_mem_cons.mp h
      rw [writeItems, plain_append_iff, plain_cons_iff]
      exact ⟨⟨by decide, hitem⟩, ih hitems⟩

/-- The further members of an object are written plainly if their values are. -/
theorem plain_writeMembers {members : Entries Json} (h : ∀ member ∈ members, Plain member.2.write) :
    Plain (writeMembers members) := by
  induction members with
  | nil => decide
  | cons member members ih =>
      obtain ⟨hmember, hmembers⟩ := List.forall_mem_cons.mp h
      rw [writeMembers, plain_append_iff, plain_append_iff, plain_cons_iff, plain_cons_iff]
      exact ⟨⟨⟨by decide, plain_writeText _⟩, by decide, hmember⟩, ih hmembers⟩

/-- **The text of a portable value is plain.** -/
theorem plain_write {value : Json} (h : Portable value) : Plain value.write := by
  induction h with
  | null => decide
  | bool b =>
      cases b with
      | true => decide
      | false => decide
  | @integer n _ =>
      rw [write]
      exact plain_integerDigits n
  | text s => exact plain_writeText s
  | @list items _ ih =>
      cases items with
      | nil => decide
      | cons item items =>
          obtain ⟨hitem, hitems⟩ := List.forall_mem_cons.mp ih
          rw [write, plain_append_iff, plain_cons_iff]
          exact ⟨⟨by decide, hitem⟩, plain_writeItems hitems⟩
  | @object members _ _ ih =>
      cases members with
      | nil => decide
      | cons member members =>
          obtain ⟨hmember, hmembers⟩ := List.forall_mem_cons.mp ih
          rw [write, plain_append_iff, plain_append_iff, plain_cons_iff, plain_cons_iff]
          exact ⟨⟨⟨by decide, plain_writeText _⟩, by decide, hmember⟩, plain_writeMembers hmembers⟩

/-- The text of a portable value has no carriage returns, so no line break in it is changed. -/
theorem unifyLineBreaks_write {value : Json} (h : Portable value) :
    Text.unifyLineBreaks value.write = value.write :=
  Text.unifyLineBreaks_of_not_mem fun hmem => absurd (plain_write h _ hmem) (by decide)

end Json

end Activation
