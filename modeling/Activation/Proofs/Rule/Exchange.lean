import Activation.Proofs.Rule.Outcome

/-!
# Exchanging the Channels

The two channels of a declaration are two spellings of one field. If what is given for them is
**exchanged**, the declaration stands for the same rule, or is refused for the same cause with the
label of the other channel (`Outcome.exchanged`). A cause is seen differently in one case only: of
two channels that are single values, the one called `name` is the one complained about, and so the
kind that the complaint names changes.

It does not matter either in which form a channel is given. A channel counts by its entries, and
those of null are those of everything empty, those of a text are those of the list that holds it.

## Main statements

* `Outcome.exchanged` — the outcome of a declaration whose channels are exchanged.
* `validate_exchanged_exact` — exchanged channels, and channels in another form.
-/

namespace Activation.Rule

/-- A declaration with what is given for its channels exchanged. -/
def Attributes.exchanged (a : Attributes) : Attributes :=
  { a with name := a.value, value := a.name }

/-- A declaration with something else given for a channel. -/
def Attributes.giving (a : Attributes) (channel : Channel) (given : Json) : Attributes :=
  match channel with
  | .name => { a with name := given }
  | .value => { a with value := given }

/-- A fault with the label of the other channel. -/
def Fault.relabelled : Fault → Fault
  | .notText channel kind => .notText channel.other kind
  | .blankName channel => .blankName channel.other
  | fault => fault

/-- Two messages are the same **but for the label** of the channel that they are about, if they are
about one. -/
def SameButLabel (message message' : String) : Prop :=
  message' = message ∨ ∃ (channel : Channel) (complaint : String),
    message = "Invalid " ++ channel.label ++ complaint ∧
      message' = "Invalid " ++ channel.other.label ++ complaint

variable {owner : String} {a : Attributes} {channel : Channel} {items : List Json}

/-! ### Faults with the other label -/

/-- A fault with the other label is raised as an error of the same class. -/
theorem errorClass_relabelled (fault : Fault) : fault.relabelled.errorClass = fault.errorClass := by
  cases fault <;> rfl

/-- The message of a fault with the other label is the same but for the label. -/
theorem sameButLabel_relabelled (fault : Fault) :
    SameButLabel fault.message fault.relabelled.message := by
  cases fault with
  | notText channel kind =>
      exact .inr ⟨channel, " attribute: expected strings, got " ++ kind.name,
        String.append_assoc, String.append_assoc⟩
  | blankName channel => exact .inr ⟨channel, " attribute: blank property name", rfl, rfl⟩
  | notIterable _ | conflicting _ | missing _ | badScope _ | badExpected _ => exact .inl rfl

/-! ### Exchanged channels -/

/-- An exchanged declaration chooses the other channel, with the same entries. -/
theorem Chooses.exchanged (h : Chooses a channel items) :
    Chooses a.exchanged channel.other items := by
  cases channel with
  | name => exact h
  | value => exact h

/-- What names nothing through one channel names nothing through the other one. -/
theorem NamesNothing.relabelled {entry : Json} {fault : Fault}
    (h : NamesNothing channel entry fault) : NamesNothing channel.other entry fault.relabelled := by
  cases h with
  | notText h => exact .notText h
  | blank h => exact .blank h

/-- The first entry that names nothing is the same through either channel. -/
theorem FirstNameless.relabelled {fault : Fault} (h : FirstNameless channel items fault) :
    FirstNameless channel.other items fault.relabelled := by
  obtain ⟨before, entry, after, names, hitems, hbefore, hfault⟩ := h
  exact ⟨before, entry, after, names, hitems, hbefore, hfault.relabelled⟩

/-- **The outcome of an exchanged declaration** is that of the declaration, up to the label of the
channel. Only if both channels are single values does it depend on their order. -/
theorem Outcome.exchanged {result : Except Fault Rule} (h : Outcome owner a result)
    (hscalars : ¬(Scalar a.name ∧ Scalar a.value)) :
    Outcome owner a.exchanged (result.mapError Fault.relabelled) := by
  cases h with
  | scalarName h => exact .scalarValue (fun hvalue => hscalars ⟨h, hvalue⟩) h
  | scalarValue hname h => exact .scalarName h
  | conflicting hname hvalue => exact .conflicting hvalue hname
  | missing hname hvalue => exact .missing hvalue hname
  | nameless hchannel h => exact .nameless hchannel.exchanged h.relabelled
  | badScope hchannel hnames h => exact .badScope hchannel.exchanged hnames h
  | badExpected hchannel hnames hscope h => exact .badExpected hchannel.exchanged hnames hscope h
  | rule hchannel hnames hscope hexpected => exact .rule hchannel.exchanged hnames hscope hexpected

/-! ### Forms of a channel -/

/-- A channel counts by its entries. -/
theorem validate_giving_congr {given other : Json} (h : entries given = entries other)
    (owner : String) (a : Attributes) (channel : Channel) :
    validate owner (a.giving channel given) = validate owner (a.giving channel other) := by
  cases channel with
  | name => rw [Attributes.giving, Attributes.giving, validate, validate, h]
  | value => rw [Attributes.giving, Attributes.giving, validate, validate, h]

/-- A result of an exchanged declaration is one of the declaration, up to the label of the
channel. -/
theorem validate_exchanged (hscalars : ¬(Scalar a.name ∧ Scalar a.value)) (owner : String) :
    validate owner a.exchanged = (validate owner a).mapError Fault.relabelled :=
  validate_of_outcome ((outcome_validate owner a).exchanged hscalars)

/-- **Which channel is used, and in which form, makes no difference.** If what is given for the two
channels is exchanged, the declaration stands for the same rule, or it is refused again, as an error
of the same class and with the same message but for the label of the channel, and for the kind that
it names if both channels are single values. Null and an empty text, list or object given for a
channel come to the same, and so do a text that is not empty and the list of that text. -/
theorem validate_exchanged_exact (owner : String) (a : Attributes) :
    (∀ r, validate owner a = .ok r → validate owner a.exchanged = .ok r) ∧
    (∀ fault, validate owner a = .error fault → ∃ fault', validate owner a.exchanged = .error fault' ∧
      fault'.errorClass = fault.errorClass ∧
      (SameButLabel fault.message fault'.message ∨
        Scalar a.name ∧ Scalar a.value ∧
          fault.message = "'" ++ a.name.kind.name ++ "' object is not iterable" ∧
          fault'.message = "'" ++ a.value.kind.name ++ "' object is not iterable")) ∧
    (∀ channel, ∀ empty ∈ [.null, .text "", .list [], .object []],
      validate owner (a.giving channel empty) = validate owner (a.giving channel .null)) ∧
    (∀ channel s, s ≠ "" →
      validate owner (a.giving channel (.text s))
        = validate owner (a.giving channel (.list [.text s]))) := by
  refine ⟨fun r h => ?_, fun fault h => ?_, fun channel empty hempty => ?_, fun channel s hs => ?_⟩
  · have hscalars : ¬(Scalar a.name ∧ Scalar a.value) := by
      rintro ⟨hname, -⟩
      have hrefused : validate owner a = .error (.notIterable a.name.kind) :=
        validate_of_outcome (.scalarName hname)
      rw [h] at hrefused
      cases hrefused
    rw [validate_exchanged hscalars, h]
    rfl
  · by_cases hscalars : Scalar a.name ∧ Scalar a.value
    · obtain ⟨hname, hvalue⟩ := hscalars
      have hrefused : validate owner a = .error (.notIterable a.name.kind) :=
        validate_of_outcome (.scalarName hname)
      have hrefused' : validate owner a.exchanged = .error (.notIterable a.value.kind) :=
        validate_of_outcome (.scalarName hvalue)
      obtain rfl := Except.error.inj (h.symm.trans hrefused)
      exact ⟨_, hrefused', rfl, .inr ⟨hname, hvalue, rfl, rfl⟩⟩
    · refine ⟨fault.relabelled, ?_, errorClass_relabelled fault,
        .inl (sameButLabel_relabelled fault)⟩
      rw [validate_exchanged hscalars, h]
      rfl
  · apply validate_giving_congr
    simp only [List.mem_cons, List.not_mem_nil, or_false] at hempty
    obtain rfl | rfl | rfl | rfl := hempty <;> rfl
  · have hentries : entries (.text s) = entries (.list [.text s]) :=
      congrArg Except.ok (if_neg hs)
    exact validate_giving_congr hentries owner a channel

/-- The number among the names is complained about under the label of the channel that it is given
through, and of two numbers the one called `name` is. A blank text populates a channel, in a list or
by itself, and an empty one does not. -/
theorem validate_exchanged_exact_numbers :
    let port : Attributes := { name := .text " port " }
    let mixed : Attributes := { name := .list [.text "port", .integer 3], value := .object [] }
    let numbers : Attributes := { name := .integer 3, value := .real 0.5 }
    validate "w" port.exchanged = .ok ⟨["port"], "", none, .bool false, .bool true⟩ ∧
      (∃ fault, validate "w" mixed.exchanged = .error fault ∧ fault.errorClass = .config) ∧
      (∃ fault, validate "w" numbers.exchanged = .error fault ∧ fault.errorClass = .type) ∧
      validate "w" (port.giving .name (.text "")) = validate "w" (port.giving .name .null) ∧
      validate "w" (port.giving .name (.text " "))
        = validate "w" (port.giving .name (.list [.text " "])) := by
  intro port mixed numbers
  have hport : validate "w" port = .ok ⟨["port"], "", none, .bool false, .bool true⟩ :=
    rfl
  have hmixed : validate "w" mixed = .error (.notText .name .integer) := rfl
  have hnumbers : validate "w" numbers = .error (.notIterable .integer) := rfl
  obtain ⟨hok, -, hempty, htext⟩ := validate_exchanged_exact "w" port
  obtain ⟨-, hlabel, -, -⟩ := validate_exchanged_exact "w" mixed
  obtain ⟨-, hkind, -, -⟩ := validate_exchanged_exact "w" numbers
  obtain ⟨fault, hfault, hclass, -⟩ := hlabel _ hmixed
  obtain ⟨fault', hfault', hclass', -⟩ := hkind _ hnumbers
  exact ⟨hok _ hport, ⟨fault, hfault, hclass⟩, ⟨fault', hfault', hclass'⟩,
    hempty .name (.text "") (by simp), htext .name " " (by decide)⟩

end Activation.Rule
