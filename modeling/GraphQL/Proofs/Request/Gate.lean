import GraphQL.Proofs.Request.RoundTrip
import GraphQL.Request.Node
import GraphQL.Schema.Class

/-!
# What the gate for names lets through

Every place that takes a name has the same gate.  It lets through every name, and every
name with one line feed behind it; only the words for constants are no enum symbols, and
`on` is the name of no fragment.  As a line feed is passed over when a text is read, what
got through with one reads as the name before it, even where that name is refused.
-/

namespace GraphQL

open Source (tokenize lexed Lexed)
open Text

/-! ## Places that take names -/

/-- What comes of making something that has a name. -/
inductive Verdict
  /-- It is made. -/
  | made
  /-- Some data is no name. -/
  | refused (kind : String) (given : Datum)
  /-- Something else is wrong. -/
  | failed

/-- What comes of making a node. -/
def Fault.verdict {α : Type} : Except Fault α → Verdict
  | .ok _ => .made
  | .error (.invalidName kind given) => .refused kind given
  | .error _ => .failed

/-- What comes of making a part of a schema. -/
def Schema.SchemaFault.verdict {α : Type} : Except SchemaFault α → Verdict
  | .ok _ => .made
  | .error (.invalidName kind given) => .refused kind given
  | .error _ => .failed

/-- A place that takes a name, with what else is given there.  Where another name is
looked at before, that one has got through. -/
inductive NamePlace
  | typeName
  | enumSymbol
  | objectField (value : Datum)
  | declaration (type default : Datum)
  | argument (value : Datum)
  | directive (arguments : Datum)
  | field (label arguments directives selections : Datum)
  | fieldLabel {name : Datum} {passed : Label}
      (checked : Node.checkName "field name" name = .ok passed)
      (arguments directives selections : Datum)
  | fragmentSpread (directives : Datum)
  | inlineFragment (directives selections : Datum)
  | operation (kind declared directives selections : Datum)
  | fragment (condition directives selections : Datum)
  | fragmentCondition {name : Datum} {passed : Label}
      (checked : Node.checkName "fragment name" name = .ok passed)
      (notOn : passed.text ≠ "on")
      (directives selections : Datum)
  | schemaType (cls : Schema.Class) (description? : Option String) (isInput : Bool)
  | schemaField (kind : Schema.ClassKind) (spec : Schema.FieldSpec)

namespace NamePlace

/-- What a name is called at the place. -/
def kind : NamePlace → String
  | typeName | schemaType _ _ _ => "type name"
  | enumSymbol => "enum value"
  | objectField _ => "input field name"
  | declaration _ _ => "variable name"
  | argument _ => "argument name"
  | directive _ => "directive name"
  | field _ _ _ _ | schemaField _ _ => "field name"
  | fieldLabel _ _ _ _ => "alias"
  | fragmentSpread _ | fragment _ _ _ => "fragment name"
  | inlineFragment _ _ | fragmentCondition _ _ _ _ => "type condition"
  | operation _ _ _ _ => "operation name"

/-- What comes of giving a text for a name at the place. -/
def verdict (text : String) : NamePlace → Verdict
  | typeName => Fault.verdict (Node.namedType (.text text))
  | enumSymbol => Fault.verdict (Node.enumValue (.text text))
  | objectField value => Fault.verdict (Node.objectField (.text text) value)
  | declaration type default => Fault.verdict (Node.declaration (.text text) type default)
  | argument value => Fault.verdict (Node.argument (.text text) value)
  | directive arguments => Fault.verdict (Node.directive (.text text) arguments)
  | field label arguments directives selections =>
    Fault.verdict (Node.field (.text text) label arguments directives selections)
  | @fieldLabel name _ _ arguments directives selections =>
    Fault.verdict (Node.field name (.text text) arguments directives selections)
  | fragmentSpread directives => Fault.verdict (Node.fragmentSpread (.text text) directives)
  | inlineFragment directives selections =>
    Fault.verdict (Node.inlineFragment (.text text) directives selections)
  | operation kind declared directives selections =>
    Fault.verdict (Node.operation kind (.text text) declared directives selections)
  | fragment condition directives selections =>
    Fault.verdict (Node.fragmentDefinition (.text text) condition directives selections)
  | @fragmentCondition name _ _ _ directives selections =>
    Fault.verdict (Node.fragmentDefinition name (.text text) directives selections)
  | schemaType cls description? isInput =>
    Schema.SchemaFault.verdict (cls.addMark (.type ⟨some text, description?, isInput⟩))
  | schemaField kind spec =>
    Schema.SchemaFault.verdict ({ spec with schemaName := .text text }.recordField kind)

/-- The text is no name for what is at the place. -/
def excludes (text : String) : NamePlace → Bool
  | enumSymbol => Name.isReserved text
  | fragment _ _ _ => text = "on"
  | _ => false

end NamePlace

/-! ## The gate -/

theorem Node.checkName_of_accepts
    {text : String}
    (accepted : Name.accepts text = true)
    (kind : String) :
    checkName kind (.text text) = .ok (.plain text) :=
  if_pos accepted

theorem Node.checkName_of_not_accepts
    {text : String}
    (refused : ¬Name.accepts text = true)
    (kind : String) :
    checkName kind (.text text) = .error (.invalidName kind (.text text)) :=
  if_neg refused

theorem Schema.checkName_of_not_accepts
    {text : String}
    (refused : ¬Name.accepts text = true)
    (kind : String) :
    checkName kind text = .error (.invalidName kind (.text text)) :=
  if_neg refused

theorem Fault.verdict_eq_made_iff {α : Type} (outcome : Except Fault α) :
    verdict outcome = .made ↔ ∃ value, outcome = .ok value := by
  cases outcome with
  | ok value => simp [verdict]
  | error fault => cases fault <;> simp [verdict]

/-- Whether all names are different does not depend on what has them. -/
theorem Node.checkDistinct_owner
    {kind owner : String}
    (other : String)
    {items seen : List Datum}
    (distinct : checkDistinct kind owner seen items = .ok ()) :
    checkDistinct kind other seen items = .ok () := by
  induction items generalizing seen with
  | nil => rfl
  | cons item items inductionHypothesis =>
    rw [checkDistinct] at distinct ⊢
    obtain ⟨name, part, distinct⟩ := Outcome.bind_eq_ok_iff.mp distinct
    obtain ⟨_, isKey, distinct⟩ := Outcome.bind_eq_ok_iff.mp distinct
    rw [part, Outcome.ok_bind, isKey, Outcome.ok_bind]
    split at distinct
    case isTrue =>
      obtain ⟨_, -, refused⟩ := Outcome.bind_eq_ok_iff.mp distinct
      cases refused
    case isFalse new =>
      rw [if_neg new]
      exact inductionHypothesis distinct

theorem Node.checkUnique_owner
    {kind owner : String}
    (other : String)
    {given : Datum}
    (unique : checkUnique kind owner given = .ok ()) :
    checkUnique kind other given = .ok () := by
  obtain ⟨items, found, distinct⟩ := Outcome.bind_eq_ok_iff.mp unique
  rw [checkUnique, found]
  exact checkDistinct_owner other distinct

theorem Node.checkName?_of_accepts
    {text : String}
    (accepted : Name.accepts text = true)
    (kind : String) :
    checkName? kind (.text text) = .ok (some (.plain text)) := by
  rw [checkName?, checkName_of_accepts accepted]
  · rfl
  · nofun

/-! ## Nodes with another name -/

namespace Node

section Renaming

variable
  {text other : String}
  (accepted : Name.accepts text = true)

include accepted

/-- A variable that can be declared under one name can be declared under another. -/
theorem exists_declaration_of_accepts
    {type default : Datum}
    (made : ∃ given, declaration (.text other) type default = .ok given) :
    ∃ given, declaration (.text text) type default = .ok given := by
  obtain ⟨_, made⟩ := made
  obtain ⟨_, -, made⟩ := Outcome.bind_eq_ok_iff.mp made
  rw [declaration, checkName_of_accepts accepted, Outcome.ok_bind]
  split at made
  case h_1 => exact ⟨_, rfl⟩
  case h_2 =>
    obtain ⟨mentions, found, made⟩ := Outcome.bind_eq_ok_iff.mp made
    cases mentions with
    | true => cases made
    | false =>
      rw [found]
      exact ⟨_, rfl⟩

/-- Whether the arguments of a directive are different does not depend on its name. -/
theorem exists_directive_of_accepts
    {arguments : Datum}
    (made : ∃ given, directive (.text other) arguments = .ok given) :
    ∃ given, directive (.text text) arguments = .ok given := by
  obtain ⟨_, made⟩ := made
  obtain ⟨_, -, made⟩ := Outcome.bind_eq_ok_iff.mp made
  obtain ⟨_, unique, -⟩ := Outcome.bind_eq_ok_iff.mp made
  rw [directive, checkName_of_accepts accepted, Outcome.ok_bind, checkUnique_owner _ unique]
  exact ⟨_, rfl⟩

/-- Whether the arguments of a field are different does not depend on its name. -/
theorem exists_field_of_accepts
    {label arguments directives selections : Datum}
    (made : ∃ given, field (.text other) label arguments directives selections = .ok given) :
    ∃ given, field (.text text) label arguments directives selections = .ok given := by
  obtain ⟨_, made⟩ := made
  obtain ⟨_, -, made⟩ := Outcome.bind_eq_ok_iff.mp made
  obtain ⟨alias?, found, made⟩ := Outcome.bind_eq_ok_iff.mp made
  obtain ⟨_, unique, -⟩ := Outcome.bind_eq_ok_iff.mp made
  rw [field, checkName_of_accepts accepted, Outcome.ok_bind, found, Outcome.ok_bind,
    checkUnique_owner _ unique]
  exact ⟨_, rfl⟩

/-- A field that can have one alias can have another. -/
theorem exists_field_of_accepts_label
    {name arguments directives selections : Datum}
    (made : ∃ given, field name (.text other) arguments directives selections = .ok given) :
    ∃ given, field name (.text text) arguments directives selections = .ok given := by
  obtain ⟨_, made⟩ := made
  obtain ⟨passed, checked, made⟩ := Outcome.bind_eq_ok_iff.mp made
  obtain ⟨_, -, made⟩ := Outcome.bind_eq_ok_iff.mp made
  obtain ⟨_, unique, -⟩ := Outcome.bind_eq_ok_iff.mp made
  rw [field, checked, Outcome.ok_bind, checkName?_of_accepts accepted, Outcome.ok_bind, unique]
  exact ⟨_, rfl⟩

/-- Whether the variables of an operation are different does not depend on its name. -/
theorem exists_operation_of_accepts
    {kind declared directives selections : Datum}
    (made : ∃ given, operation kind (.text other) declared directives selections = .ok given) :
    ∃ given, operation kind (.text text) declared directives selections = .ok given := by
  obtain ⟨_, made⟩ := made
  obtain ⟨name?, checked, made⟩ := Outcome.bind_eq_ok_iff.mp made
  obtain ⟨name, -, rfl⟩ := Outcome.map_eq_ok_iff.mp checked
  change (checkUnique "variable" _ declared >>= _) = _ at made
  obtain ⟨_, unique, -⟩ := Outcome.bind_eq_ok_iff.mp made
  rw [operation, checkName?_of_accepts accepted, Outcome.ok_bind]
  change ∃ _, (checkUnique "variable" _ declared >>= _) = _
  rw [checkUnique_owner _ unique]
  exact ⟨_, rfl⟩

/-- A fragment that can have one name can have any other but `on`. -/
theorem exists_fragmentDefinition_of_accepts
    {condition directives selections : Datum}
    (notOn : text ≠ "on")
    (made : ∃ given,
      fragmentDefinition (.text other) condition directives selections = .ok given) :
    ∃ given, fragmentDefinition (.text text) condition directives selections = .ok given := by
  obtain ⟨_, made⟩ := made
  obtain ⟨_, -, made⟩ := Outcome.bind_eq_ok_iff.mp made
  split at made
  case isTrue => cases made
  case isFalse =>
    obtain ⟨passed, found, -⟩ := Outcome.bind_eq_ok_iff.mp made
    have free : ¬(Label.plain text).text = "on" := notOn
    rw [fragmentDefinition, checkName_of_accepts accepted, Outcome.ok_bind, if_neg free, found]
    exact ⟨_, rfl⟩

end Renaming

end Node

namespace NamePlace

/-- No place takes what does not get through the gate. -/
theorem verdict_of_not_accepts
    {text : String}
    (refused : ¬Name.accepts text = true)
    (place : NamePlace) :
    place.verdict text = .refused place.kind (.text text) := by
  have notName := Node.checkName_of_not_accepts refused
  have notName? (kind : String) : Node.checkName? kind (.text text) =
      .error (.invalidName kind (.text text)) := by
    simp [Node.checkName?, notName, Except.map]
  have notNameOf (kind : String) : Schema.checkNameOf kind (.text text) =
      .error (.invalidName kind (.text text)) :=
    Schema.checkName_of_not_accepts refused kind
  cases place with
  | typeName => simp [verdict, kind, Node.namedType, notName, Except.map, Fault.verdict]
  | enumSymbol => simp [verdict, kind, Node.enumValue, notName, Fault.verdict]
  | objectField _ => simp [verdict, kind, Node.objectField, notName, Except.map, Fault.verdict]
  | declaration _ _ => simp [verdict, kind, Node.declaration, notName, Fault.verdict]
  | argument _ => simp [verdict, kind, Node.argument, notName, Except.map, Fault.verdict]
  | directive _ => simp [verdict, kind, Node.directive, notName, Fault.verdict]
  | field _ _ _ _ => simp [verdict, kind, Node.field, notName, Fault.verdict]
  | fieldLabel checked _ _ _ =>
    simp [verdict, kind, Node.field, checked, notName?, Fault.verdict]
  | fragmentSpread _ =>
    simp [verdict, kind, Node.fragmentSpread, notName, Except.map, Fault.verdict]
  | inlineFragment _ _ =>
    simp [verdict, kind, Node.inlineFragment, notName?, Except.map, Fault.verdict]
  | operation _ _ _ _ => simp [verdict, kind, Node.operation, notName?, Fault.verdict]
  | fragment _ _ _ => simp [verdict, kind, Node.fragmentDefinition, notName, Fault.verdict]
  | fragmentCondition checked notOn _ _ =>
    simp [verdict, kind, Node.fragmentDefinition, checked, notOn, notName, Fault.verdict]
  | schemaType _ _ _ =>
    simp [verdict, kind, Schema.Class.addMark, Schema.checkName_of_not_accepts refused,
      Except.map, Schema.SchemaFault.verdict]
  | schemaField _ _ =>
    simp [verdict, kind, Schema.FieldSpec.recordField, Datum.isNull, notNameOf, Except.map,
      Schema.SchemaFault.verdict]

/-- If anything can be made at a place, it can be made with every text that gets through
the gate and is not excluded there. -/
theorem verdict_of_accepts
    {text : String}
    (accepted : Name.accepts text = true)
    {place : NamePlace}
    (free : place.excludes text = false)
    {other : String}
    (made : place.verdict other = .made) :
    place.verdict text = .made := by
  have isName := Node.checkName_of_accepts accepted
  have isName? := Node.checkName?_of_accepts accepted
  cases place with
  | typeName => simp [verdict, Node.namedType, isName, Except.map, Fault.verdict]
  | enumSymbol =>
    have notReserved : Name.isReserved text = false := free
    simp [verdict, Node.enumValue, isName, notReserved, Fault.verdict, Label.plain]
  | objectField _ => simp [verdict, Node.objectField, isName, Except.map, Fault.verdict]
  | declaration _ _ =>
    rw [verdict, Fault.verdict_eq_made_iff] at made ⊢
    exact Node.exists_declaration_of_accepts accepted made
  | argument _ => simp [verdict, Node.argument, isName, Except.map, Fault.verdict]
  | directive _ =>
    rw [verdict, Fault.verdict_eq_made_iff] at made ⊢
    exact Node.exists_directive_of_accepts accepted made
  | field _ _ _ _ =>
    rw [verdict, Fault.verdict_eq_made_iff] at made ⊢
    exact Node.exists_field_of_accepts accepted made
  | fieldLabel _ _ _ _ =>
    rw [verdict, Fault.verdict_eq_made_iff] at made ⊢
    exact Node.exists_field_of_accepts_label accepted made
  | fragmentSpread _ => simp [verdict, Node.fragmentSpread, isName, Except.map, Fault.verdict]
  | inlineFragment _ _ =>
    simp [verdict, Node.inlineFragment, isName?, Except.map, Fault.verdict]
  | operation _ _ _ _ =>
    rw [verdict, Fault.verdict_eq_made_iff] at made ⊢
    exact Node.exists_operation_of_accepts accepted made
  | fragment _ _ _ =>
    rw [verdict, Fault.verdict_eq_made_iff] at made ⊢
    exact Node.exists_fragmentDefinition_of_accepts accepted (of_decide_eq_false free) made
  | fragmentCondition checked notOn _ _ =>
    simp [verdict, Node.fragmentDefinition, checked, notOn, isName, Fault.verdict]
  | schemaType _ _ _ =>
    simp [verdict, Schema.Class.addMark, Schema.checkName, accepted, Except.map,
      Schema.SchemaFault.verdict]
  | schemaField _ _ =>
    simp [verdict, Schema.FieldSpec.recordField, Datum.isNull, Schema.checkNameOf,
      Schema.checkName, accepted, Datum.asText?, Except.map, Schema.SchemaFault.verdict]

/-- Nothing is made with a word that is excluded. -/
theorem verdict_ne_made_of_excludes
    {text : String}
    {place : NamePlace}
    (excluded : place.excludes text = true) :
    place.verdict text ≠ .made := by
  by_cases accepted : Name.accepts text = true
  · have isName := Node.checkName_of_accepts accepted
    cases place with
    | enumSymbol =>
      have reserved : Name.isReserved (Label.plain text).text = true := excluded
      rw [verdict, Node.enumValue, isName, Outcome.ok_bind, if_pos reserved]
      nofun
    | fragment condition directives selections =>
      have isOn : (Label.plain text).text = "on" := of_decide_eq_true excluded
      rw [verdict, Node.fragmentDefinition, isName, Outcome.ok_bind, if_pos isOn]
      nofun
    | _ => cases excluded
  · rw [verdict_of_not_accepts accepted]
    nofun

/-- Where anything can be made, it can be made with exactly the texts that get through the
gate and are not excluded. -/
theorem verdict_eq_made_iff
    {place : NamePlace}
    (usable : ∃ other, place.verdict other = .made)
    (text : String) :
    place.verdict text = .made ↔
      Name.accepts text = true ∧ place.excludes text = false := by
  constructor
  · intro made
    constructor
    · by_contra refused
      rw [verdict_of_not_accepts refused] at made
      cases made
    · rw [Bool.eq_false_iff]
      intro excluded
      exact verdict_ne_made_of_excludes excluded made
  · rintro ⟨accepted, free⟩
    obtain ⟨other, made⟩ := usable
    exact verdict_of_accepts accepted free made

end NamePlace

/-! ## Names in texts -/

theorem Node.of_checkName
    {kind text : String}
    {name : Label}
    (checked : checkName kind (.text text) = .ok name) :
    Name.accepts text = true ∧ name = .plain text := by
  by_cases accepted : Name.accepts text = true
  · rw [checkName_of_accepts accepted] at checked
    exact ⟨accepted, (Except.ok.inj checked).symm⟩
  · rw [checkName_of_not_accepts accepted] at checked
    cases checked

/-- The symbol of an enum is written as one name token. -/
theorem Node.lexed_enumValue
    {text : String}
    {given : Datum}
    (made : enumValue (.text text) = .ok given) :
    given.valueText = .ok text ∧ Name.isReserved text = false ∧
      lexed text.toList = .of [.name (Name.stem text)] := by
  obtain ⟨symbol, checked, made⟩ := Outcome.bind_eq_ok_iff.mp made
  obtain ⟨accepted, rfl⟩ := of_checkName checked
  split at made
  case isTrue => cases made
  case isFalse notReserved =>
    obtain rfl := Except.ok.inj made
    exact ⟨rfl, Bool.eq_false_iff.mpr notReserved, (Name.spells_of_accepts accepted).lexed_eq⟩

/-- The text of a fragment is read from its keyword and its name on. -/
theorem Layout.lexed_fragment
    {text : String}
    (accepted : Name.accepts text = true)
    (condition : String)
    (applied : List Written.Directive)
    (selected? : Option (List Written.Selection))
    (layout : Layout) :
    ∃ rest, lexed (layout.definition (.fragment text condition applied selected?)).toList =
      .of [.name "fragment", .name (Name.stem text)] ++ lexed rest := by
  let ending := " on " ++ (condition ++ directives applied ++ " " ++
    layout.selectionSet selected?)
  have opens : Source.Opens ending := Source.Opens.append (by decide) _
  have whole : (layout.definition (.fragment text condition applied selected?)).toList =
      ("fragment" ++ " " ++ text).toList ++ ending.toList := by
    rw [← String.toList_append]
    unfold definition
    simp only [ending, ← String.append_assoc]
    rfl
  have spells := spells_word_name namesRead_of_accepts "fragment" (by decide) accepted
  have read := spells ending.toList (by simpa using opens.parts [] (by simp))
  rw [whole]
  exact ⟨ending.toList, read⟩

/-- The name of a fragment is written as the second token of the fragment. -/
theorem Node.lexed_fragmentDefinition
    {text : String}
    {condition directives selections given : Datum}
    (made : fragmentDefinition (.text text) condition directives selections = .ok given)
    {layout : Layout}
    {written : String}
    (shown : given.definitionText layout = .ok written) :
    text ≠ "on" ∧ ∃ rest, lexed written.toList =
      .of [.name "fragment", .name (Name.stem text)] ++ lexed rest := by
  obtain ⟨name, checked, made⟩ := Outcome.bind_eq_ok_iff.mp made
  obtain ⟨accepted, rfl⟩ := of_checkName checked
  split at made
  case isTrue => cases made
  case isFalse notOn =>
    obtain ⟨passed, -, made⟩ := Outcome.bind_eq_ok_iff.mp made
    obtain rfl := Except.ok.inj made
    obtain ⟨definition, found, rfl⟩ := Outcome.map_eq_ok_iff.mp shown
    obtain ⟨applied, -, found⟩ := Outcome.bind_eq_ok_iff.mp found
    obtain ⟨selected?, -, found⟩ := Outcome.bind_eq_ok_iff.mp found
    obtain rfl := Except.ok.inj found
    exact ⟨notOn, Layout.lexed_fragment accepted passed.shown applied selected? layout⟩

/-! ## The gate as a whole -/

/-- A text that is neither a name nor a name with a line feed behind it is refused at every
place for names, and any other text is taken there unless it is excluded.  A name reads
as itself; a name with a line feed behind it reads as the name, which may be a word for
a constant where the symbol of an enum should be, or `on` where a fragment has its name. -/
theorem names_exact (text : String) :
    (∀ place : NamePlace, ¬Name.IsNameLine text →
      place.verdict text = .refused place.kind (.text text)) ∧
    (∀ place : NamePlace, (∃ other, place.verdict other = .made) →
      (place.verdict text = .made ↔ Name.IsNameLine text ∧ place.excludes text = false)) ∧
    (Name.IsName text → ∀ kind, Node.checkName kind (.text text) = .ok (.plain text)) ∧
    (Name.IsNameLine text → (Name.stem text = text ↔ Name.IsName text)) ∧
    (∀ document layout built, Typed.Document Label.PassedText document →
      document.build layout = .ok built →
      (tokenize built).lexed = .naming (fun name => .of [.name (Name.stem name)])
        (Mirror.document document).lexemes) ∧
    (∀ given, Node.enumValue (.text text) = .ok given →
      given.valueText = .ok text ∧ ∀ word, Name.isReserved word = true →
        ((tokenize text).lexed = .of [.name word] ↔ text = word ++ "\n")) ∧
    (∀ condition directives selections given layout written,
      Node.fragmentDefinition (.text text) condition directives selections = .ok given →
      given.definitionText layout = .ok written →
      ((tokenize written).lexed.lexemes[1]? = some (.name "on") ↔ text = "on\n")) := by
  refine ⟨?refused, ?taken, ?checked, ?value, ?tokens, ?symbol, ?fragment⟩
  case refused =>
    intro place notLine
    apply NamePlace.verdict_of_not_accepts
    rwa [Name.accepts_iff]
  case taken =>
    intro place usable
    rw [NamePlace.verdict_eq_made_iff usable, Name.accepts_iff]
  case checked =>
    intro isName kind
    exact Node.checkName_of_accepts (Name.accepts_of_isName isName) kind
  case value =>
    intro line
    apply Name.stem_eq_self_iff
    rwa [Name.accepts_iff]
  case tokens =>
    intro document layout built typed isBuilt
    exact Datum.lexed_of_build typed isBuilt
  case symbol =>
    intro given made
    obtain ⟨shown, notReserved, read⟩ := Node.lexed_enumValue made
    refine ⟨shown, ?_⟩
    intro word reserved
    have different : text ≠ word := by
      rintro rfl
      exact Bool.false_ne_true (notReserved.symm.trans reserved)
    rw [Source.lexed_tokenize, read, ← Name.stem_eq_iff different]
    simp [Lexed.of]
  case fragment =>
    intro condition directives selections given layout written made shown
    obtain ⟨notOn, rest, read⟩ := Node.lexed_fragmentDefinition made shown
    have sameName : Name.stem text = "on" ↔ text = "on\n" := Name.stem_eq_iff notOn
    rw [Source.lexed_tokenize, read, ← sameName, Lexed.append_def]
    simp [Lexed.append, Lexed.of]

/-- A line feed behind a name gets it through. -/
theorem names_exact_lineFeed :
    ¬Name.IsName "a\n" ∧ NamePlace.typeName.verdict "a\n" = .made ∧
      Name.stem "a\n" ≠ "a\n" := by
  have notName : ¬Name.IsName "a\n" := by decide
  have isName : Name.IsName "a" := by decide
  have line : Name.IsNameLine "a\n" := .inr ⟨"a", isName, rfl⟩
  have usable : NamePlace.typeName.verdict "a" = .made := rfl
  obtain ⟨-, taken, -, value, -⟩ := names_exact "a\n"
  refine ⟨notName, (taken .typeName ⟨"a", usable⟩).mpr ⟨line, rfl⟩, ?_⟩
  intro same
  exact notName ((value line).mp same)

end GraphQL
