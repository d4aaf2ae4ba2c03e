import Activation.Proofs.Rule.Outcome

/-!
# What is Said about Refused Declarations

A declaration that is refused raises an error of some class with a message, and that is all that its
user gets to see. The **diagnostic** of a declaration (`Diagnosed`) gives the name of the class and
the message in full, and says from the declaration alone when they are raised. Its cases are those
of the outcome, in the same order of precedence. An entry that names nothing is one case there and
two here, since a blank text and a value of another kind are told apart in the message; and both
messages begin with the label of the channel in which the entry stands.

## Main statements

* `refusedWith_iff_diagnosed` — a refusal and its diagnostic.
* `validate_exact` — the account of a declaration.
-/

namespace Activation.Rule

/-- A declaration is **refused with** an error of the class of a name, and a message. -/
def RefusedWith (owner : String) (a : Attributes) (kind message : String) : Prop :=
  ∃ fault, validate owner a = .error fault ∧ fault.errorClass.name = kind ∧
    fault.message = message

/-- The label of a channel in diagnostics. -/
inductive Channel.Labelled : Channel → String → Prop
  | name : Labelled .name "name"
  | value : Labelled .value "value"

/-- The name of a value's kind in diagnostics. -/
inductive OfKind : Json → String → Prop
  | null : OfKind .null "NoneType"
  | bool (b : Bool) : OfKind (.bool b) "bool"
  | integer (n : Int) : OfKind (.integer n) "int"
  | real (x : Float) : OfKind (.real x) "float"
  | text (s : String) : OfKind (.text s) "str"
  | list (items : List Json) : OfKind (.list items) "list"
  | object (members : List (String × Json)) : OfKind (.object members) "dict"

/-- The entry of a channel that comes after some which all name something. -/
def Reached (items : List Json) (entry : Json) : Prop :=
  ∃ before after names, items = before ++ entry :: after ∧ List.Forall₂ Names before names

/-- The **diagnostic** of a refused declaration: the name of the class of the error, and the
message. The cases stand in the order of precedence. -/
inductive Diagnosed (owner : String) (a : Attributes) : String → String → Prop
  | scalarName {kind : String} (h : Scalar a.name) (hkind : OfKind a.name kind) :
      Diagnosed owner a "TypeError" ("'" ++ kind ++ "' object is not iterable")
  | scalarValue {kind : String} (hname : ¬Scalar a.name) (h : Scalar a.value)
      (hkind : OfKind a.value kind) :
      Diagnosed owner a "TypeError" ("'" ++ kind ++ "' object is not iterable")
  | conflicting {names values : List Json} (hname : Populated a.name names)
      (hvalue : Populated a.value values) :
      Diagnosed owner a "ConflictingAttributesError"
        ("The name and value attributes of " ++ owner ++ " are exclusive")
  | missing (hname : Unpopulated a.name) (hvalue : Unpopulated a.value) :
      Diagnosed owner a "MissingAttributeError"
        ("The name or value attribute of " ++ owner ++ " must be specified")
  | notText {channel : Channel} {items : List Json} {entry : Json} {label kind : String}
      (hchannel : Chooses a channel items) (hlabel : channel.Labelled label)
      (hentry : Reached items entry) (h : entry.kind ≠ .text) (hkind : OfKind entry kind) :
      Diagnosed owner a "OnPropertyConfigError"
        ("Invalid " ++ label ++ " attribute: expected strings, got " ++ kind)
  | blank {channel : Channel} {items : List Json} {s label : String}
      (hchannel : Chooses a channel items) (hlabel : channel.Labelled label)
      (hentry : Reached items (.text s)) (h : Text.stripped s = "") :
      Diagnosed owner a "OnPropertyConfigError"
        ("Invalid " ++ label ++ " attribute: blank property name")
  | badScope {channel : Channel} {items : List Json} {names : List String}
      (hchannel : Chooses a channel items) (hnames : List.Forall₂ Names items names)
      (h : a.scope.kind ≠ .text) :
      Diagnosed owner a "OnPropertyConfigError" ("Invalid prefix: " ++ a.scope.literal)
  | badExpected {channel : Channel} {items : List Json} {names : List String} {scope : String}
      (hchannel : Chooses a channel items) (hnames : List.Forall₂ Names items names)
      (hscope : a.scope = .text scope) (h : a.expected.kind ≠ .null ∧ a.expected.kind ≠ .text) :
      Diagnosed owner a "OnPropertyConfigError" ("Invalid having_value: " ++ a.expected.literal)

/-! ### Labels and kinds -/

/-- Every channel has its label. -/
theorem labelled_label (channel : Channel) : channel.Labelled channel.label := by
  cases channel with
  | name => exact .name
  | value => exact .value

/-- A channel has no other label. -/
theorem Channel.Labelled.label_eq {channel : Channel} {label : String}
    (h : channel.Labelled label) : channel.label = label := by
  cases h <;> rfl

/-- Every value is of its kind. -/
theorem ofKind_name (value : Json) : OfKind value value.kind.name := by
  cases value with
  | null => exact .null
  | bool b => exact .bool b
  | integer n => exact .integer n
  | real x => exact .real x
  | text s => exact .text s
  | list items => exact .list items
  | object members => exact .object members

/-- A value is of no other kind. -/
theorem OfKind.name_eq {value : Json} {kind : String} (h : OfKind value kind) :
    value.kind.name = kind := by
  cases h <;> rfl

/-! ### Refusals -/

/-- The fault with which a declaration comes out is told as its diagnostic says. -/
theorem diagnosed_of_outcome {owner : String} {a : Attributes} {fault : Fault}
    (h : Outcome owner a (.error fault)) :
    Diagnosed owner a fault.errorClass.name fault.message := by
  cases h with
  | scalarName h => exact .scalarName h (ofKind_name a.name)
  | scalarValue hname h => exact .scalarValue hname h (ofKind_name a.value)
  | conflicting hname hvalue => exact .conflicting hname hvalue
  | missing hname hvalue => exact .missing hname hvalue
  | @nameless channel items _ hchannel hfirst =>
      obtain ⟨before, entry, after, names, hitems, hbefore, hfault⟩ := hfirst
      have hentry : Reached items entry := ⟨before, after, names, hitems, hbefore⟩
      cases hfault with
      | notText hkind =>
          exact .notText hchannel (labelled_label channel) hentry hkind (ofKind_name entry)
      | blank hblank => exact .blank hchannel (labelled_label channel) hentry hblank
  | badScope hchannel hnames hscope => exact .badScope hchannel hnames hscope
  | badExpected hchannel hnames hscope hexpected =>
      exact .badExpected hchannel hnames hscope hexpected

/-- What a declaration is diagnosed with is how it is refused. -/
theorem refusedWith_of_diagnosed {owner : String} {a : Attributes} {kind message : String}
    (h : Diagnosed owner a kind message) : RefusedWith owner a kind message := by
  have hrefused : ∀ {fault : Fault}, Outcome owner a (.error fault) →
      RefusedWith owner a fault.errorClass.name fault.message :=
    fun houtcome => ⟨_, validate_of_outcome houtcome, rfl, rfl⟩
  cases h with
  | scalarName h hkind =>
      obtain rfl := hkind.name_eq
      exact hrefused (.scalarName h)
  | scalarValue hname h hkind =>
      obtain rfl := hkind.name_eq
      exact hrefused (.scalarValue hname h)
  | conflicting hname hvalue => exact hrefused (.conflicting hname hvalue)
  | missing hname hvalue => exact hrefused (.missing hname hvalue)
  | notText hchannel hlabel hentry h hkind =>
      obtain ⟨before, after, names, hitems, hbefore⟩ := hentry
      obtain rfl := hlabel.label_eq
      obtain rfl := hkind.name_eq
      exact hrefused (.nameless hchannel ⟨before, _, after, names, hitems, hbefore, .notText h⟩)
  | blank hchannel hlabel hentry h =>
      obtain ⟨before, after, names, hitems, hbefore⟩ := hentry
      obtain rfl := hlabel.label_eq
      exact hrefused (.nameless hchannel ⟨before, _, after, names, hitems, hbefore, .blank h⟩)
  | badScope hchannel hnames h => exact hrefused (.badScope hchannel hnames h)
  | badExpected hchannel hnames hscope h => exact hrefused (.badExpected hchannel hnames hscope h)

/-- **A declaration is refused with an error and a message exactly if these are its diagnostic.** -/
theorem refusedWith_iff_diagnosed {owner : String} {a : Attributes} {kind message : String} :
    RefusedWith owner a kind message ↔ Diagnosed owner a kind message := by
  refine ⟨?_, refusedWith_of_diagnosed⟩
  rintro ⟨fault, h, rfl, rfl⟩
  exact diagnosed_of_outcome (validate_eq_iff.mp h)

/-! ### The account of a declaration -/

/-- What names nothing is refused as a fault of the configuration. -/
theorem NamesNothing.errorClass_eq {channel : Channel} {entry : Json} {fault : Fault}
    (h : NamesNothing channel entry fault) : fault.errorClass = .config := by
  cases h <;> rfl

/-- **The account of a declaration.** It comes to a result exactly if that is its outcome, and it is
refused with an error and a message exactly if these are its diagnostic. So if it is refused, the
error is a type error because a channel is a single value; or the error for
conflicting attributes, with the owner of the declaration, because both channels are populated; or
the error for a missing attribute, with the same owner, because neither is; or any other error of
the configuration, and then one channel is populated. No error has another owner. Building a rule by
itself from the names that have been read finds no further fault in them and leaves them as they
are. -/
theorem validate_exact (owner : String) (a : Attributes) :
    (∀ result, validate owner a = result ↔ Outcome owner a result) ∧
    (∀ kind message, RefusedWith owner a kind message ↔ Diagnosed owner a kind message) ∧
    (∀ fault, validate owner a = .error fault →
      (fault.errorClass = .type ∧ (Scalar a.name ∨ Scalar a.value)) ∨
      (fault.errorClass = .conflictingAttributes ∧ fault = .conflicting owner ∧
        (∃ names, Populated a.name names) ∧ ∃ values, Populated a.value values) ∨
      (fault.errorClass = .missingAttribute ∧ fault = .missing owner ∧
        Unpopulated a.name ∧ Unpopulated a.value) ∨
      (fault.errorClass = .config ∧ ∃ channel items, Chooses a channel items)) ∧
    (∀ other, validate owner a = .error (.missing other) ∨
      validate owner a = .error (.conflicting other) → other = owner) ∧
    (∀ channel items names, Chooses a channel items → List.Forall₂ Names items names →
      ofNames (.list (names.map .text)) a.toOptions = withNames names a.toOptions) := by
  have hclasses : ∀ fault, validate owner a = .error fault →
      (fault.errorClass = .type ∧ (Scalar a.name ∨ Scalar a.value)) ∨
      (fault.errorClass = .conflictingAttributes ∧ fault = .conflicting owner ∧
        (∃ names, Populated a.name names) ∧ ∃ values, Populated a.value values) ∨
      (fault.errorClass = .missingAttribute ∧ fault = .missing owner ∧
        Unpopulated a.name ∧ Unpopulated a.value) ∨
      (fault.errorClass = .config ∧ ∃ channel items, Chooses a channel items) := by
    intro fault h
    cases validate_eq_iff.mp h with
    | scalarName hscalar => exact .inl ⟨rfl, .inl hscalar⟩
    | scalarValue hname hscalar => exact .inl ⟨rfl, .inr hscalar⟩
    | conflicting hname hvalue => exact .inr (.inl ⟨rfl, rfl, ⟨_, hname⟩, _, hvalue⟩)
    | missing hname hvalue => exact .inr (.inr (.inl ⟨rfl, rfl, hname, hvalue⟩))
    | nameless hchannel hfirst =>
        obtain ⟨_, _, _, _, _, _, hfault⟩ := hfirst
        exact .inr (.inr (.inr ⟨hfault.errorClass_eq, _, _, hchannel⟩))
    | badScope hchannel => exact .inr (.inr (.inr ⟨rfl, _, _, hchannel⟩))
    | badExpected hchannel => exact .inr (.inr (.inr ⟨rfl, _, _, hchannel⟩))
  refine ⟨fun result => validate_eq_iff, fun kind message => refusedWith_iff_diagnosed, hclasses,
    ?_, ?_⟩
  · rintro other (h | h)
    · obtain ⟨hclass, -⟩ | ⟨hclass, -⟩ | ⟨-, heq, -⟩ | ⟨hclass, -⟩ := hclasses _ h
      · cases hclass
      · cases hclass
      · cases heq
        rfl
      · cases hclass
    · obtain ⟨hclass, -⟩ | ⟨-, heq, -⟩ | ⟨hclass, -⟩ | ⟨hclass, -⟩ := hclasses _ h
      · cases hclass
      · cases heq
        rfl
      · cases hclass
      · cases hclass
  · intro channel items names hchannel hnames
    exact ofNames_of_forall₂_names hchannel.1.ne_nil hnames a.toOptions

/-- A declaration with a blank name, a number among the names, null for the scope and a truth value
as what is expected is refused for the blank name, the first of its entries that names nothing. The
message has the label of the channel in which the names stand. The declaration is refused for its
channels instead if the other one is populated too, or is a number, or if the names are taken away;
and for the scope, and then for what is expected, if nothing is wrong with the names. -/
theorem validate_exact_manyFaults :
    let a : Attributes :=
      { name := .list [.text " port ", .text "\t", .integer 3], value := .object [],
        scope := .null, expected := .bool true }
    let turned : Attributes := { a with name := .null, value := .list [.integer 3, .text "\t"] }
    let both : Attributes := { a with value := .list [.text ""] }
    let number : Attributes := { both with value := .integer 0 }
    let neither : Attributes := { a with name := .text "" }
    let named : Attributes := { a with name := .text " port " }
    let unscoped : Attributes := { named with scope := .text "" }
    validate "w" a = .error (.blankName .name) ∧
      validate "w" both = .error (.conflicting "w") ∧
      validate "w" number = .error (.notIterable .integer) ∧
      validate "w" neither = .error (.missing "w") ∧ Unpopulated neither.value ∧
      (∀ other, validate "w" neither = .error (.missing other) → other = "w") ∧
      ofNames (.list [.text "port"]) a.toOptions = withNames ["port"] a.toOptions ∧
      RefusedWith "w" a "OnPropertyConfigError" "Invalid name attribute: blank property name" ∧
      RefusedWith "w" turned "OnPropertyConfigError"
        "Invalid value attribute: expected strings, got int" ∧
      RefusedWith "w" both "ConflictingAttributesError"
        "The name and value attributes of w are exclusive" ∧
      RefusedWith "w" number "TypeError" "'int' object is not iterable" ∧
      RefusedWith "w" neither "MissingAttributeError"
        "The name or value attribute of w must be specified" ∧
      RefusedWith "w" named "OnPropertyConfigError" "Invalid prefix: None" ∧
      RefusedWith "w" unscoped "OnPropertyConfigError" "Invalid having_value: True" := by
  intro a turned both number neither named unscoped
  have hvalue : Unpopulated a.value := by
    refine ⟨fun h => by simp [Scalar, Json.kind, a] at h, fun items h => ?_⟩
    cases h with
    | object h => exact h rfl
  have hport : Names (.text " port ") "port" := ⟨" port ", rfl, by decide +kernel, by decide⟩
  have hblank : Text.stripped "\t" = "" := by decide +kernel
  have hchooses : Chooses a .name [.text " port ", .text "\t", .integer 3] :=
    ⟨.list (List.cons_ne_nil _ _), hvalue⟩
  have hturned : Chooses turned .value [.integer 3, .text "\t"] :=
    ⟨.list (List.cons_ne_nil _ _), unpopulated_null⟩
  have hnamed : Chooses named .name [.text " port "] := ⟨.text (by decide), hvalue⟩
  have hunscoped : Chooses unscoped .name [.text " port "] := ⟨.text (by decide), hvalue⟩
  have hpopulated : Populated both.name [.text " port ", .text "\t", .integer 3] :=
    .list (List.cons_ne_nil _ _)
  have hother : Populated both.value [.text ""] := .list (List.cons_ne_nil _ _)
  have hnot : ¬Scalar number.name := fun h => by simp [Scalar, Json.kind, number, both, a] at h
  have hempty : Unpopulated neither.name := by
    refine ⟨fun h => by simp [Scalar, Json.kind, neither] at h, fun items h => ?_⟩
    cases h with
    | text h => exact h rfl
  have hnumber : Json.kind (.integer 3) ≠ .text := by decide
  have hscope : Json.kind .null ≠ .text := by decide
  have hexpected : Json.kind (.bool true) ≠ .null ∧ Json.kind (.bool true) ≠ .text := by decide
  have hneither : validate "w" neither = .error (.missing "w") := rfl
  have htold : ∀ {b kind message}, Diagnosed "w" b kind message → RefusedWith "w" b kind message :=
    fun h => ((validate_exact "w" _).2.1 _ _).mpr h
  obtain ⟨hresult, -, -, -, -⟩ := validate_exact "w" a
  obtain ⟨hresultBoth, -, -, -, -⟩ := validate_exact "w" both
  obtain ⟨hresultNumber, -, -, -, -⟩ := validate_exact "w" number
  obtain ⟨-, -, hclass, howner, -⟩ := validate_exact "w" neither
  obtain ⟨-, -, -, -, hagain⟩ := validate_exact "w" named
  refine ⟨(hresult _).mpr ?_, (hresultBoth _).mpr (.conflicting hpopulated hother),
    (hresultNumber _).mpr (.scalarValue hnot (.inr (.inl rfl))), hneither, ?_,
    fun other h => howner other (.inl h), hagain .name _ _ hnamed (.cons hport .nil),
    htold (.blank hchooses .name ⟨[_], [_], _, rfl, .cons hport .nil⟩ hblank),
    htold (.notText hturned .value ⟨[], [_], [], rfl, .nil⟩ hnumber (.integer 3)),
    htold (.conflicting hpopulated hother),
    htold (.scalarValue hnot (.inr (.inl rfl)) (.integer 0)),
    htold (.missing hempty hvalue), htold (.badScope hnamed (.cons hport .nil) hscope),
    htold (.badExpected hunscoped (.cons hport .nil) rfl hexpected)⟩
  · exact .nameless hchooses ⟨[_], _, [_], _, rfl, .cons hport .nil, .blank hblank⟩
  · obtain ⟨h, -⟩ | ⟨h, -⟩ | ⟨-, -, -, h⟩ | ⟨h, -⟩ := hclass _ hneither
    · cases h
    · cases h
    · exact h
    · cases h

end Activation.Rule
