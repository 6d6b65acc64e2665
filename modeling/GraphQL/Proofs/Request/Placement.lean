import GraphQL.Proofs.Request.Apart
import GraphQL.Proofs.Request.Built
import GraphQL.Proofs.Request.Writing

/-!
# Where the writing of a document stops

A document is written place by place, and each place either says what is wrong with what
stands there or lets the writing go on.  Of values and selections it can only be said that
they cannot be written, or that a whole number has too many digits.  Other places hold what
a factory took on trust: the arguments of a directive, the fields of an object, the directives
of a reference to a fragment, the type of a variable and the kind of an operation.  What
stands there may have no name, no value or no arguments, and then it is that which stops the
writing.
-/

namespace GraphQL

open Outcome

/-- A number without a numeral, or something that cannot be written where it stands. -/
def Fault.isSerialization : Fault → Bool
  | noLiteral _ | misplaced _ _ => true
  | _ => false

/-- Texts can be added to a list and to what counts as a text. -/
def Datum.isExtendable : Datum → Bool
  | list _ => true
  | given => given.asText?.isSome

/-! ## Places -/

/-- A place that is looked at when a document is written, with what stands there.  A
stranger is something else than what belongs to its place. -/
inductive Place
  /-- A value that is neither a list nor an object. -/
  | value (given : Datum)
  /-- A selection that is of no kind. -/
  | selection (given : Datum)
  /-- A stranger among the arguments of a directive or the fields of an object. -/
  | argument (stranger : Datum)
  /-- A stranger among the directives of a reference to a fragment. -/
  | directive (stranger : Datum)
  /-- A reference to a type. -/
  | type (given : Datum)
  /-- The kind of an operation, which opens with the value of the kind. -/
  | kind (given : Datum)
  /-- The kind of an operation, to the value of which something is added. -/
  | head (given : Datum)
  /-- The kind of an operation, the value of which is shown with what was added to it. -/
  | shownHead (given : Datum)

namespace Place

/-- What stands at the place was taken on trust by the factory that put it there. -/
def isTrusted : Place → Bool
  | value _ | selection _ => false
  | _ => true

/-- The fault of data that is asked for its name and for another part. -/
def lack (other : String) (stranger : Datum) : Fault :=
  .noPart stranger.fullName (if (stranger.part? "name").isSome then other else "name")

/-- What is wrong at a place, if anything is.  A record may well have the parts that it is
asked for, and so may a member of an enum, so these are read as what belongs there. -/
def fault? : Place → Option Fault
  | value (.intValue (.int number)) =>
    if Number.Whole.isLong number then some .tooLongToWrite else none
  | value (.floatValue (.float number)) =>
    if number.isFinite then none else some (.noLiteral number.text)
  | value (.floatValue (.decimal number)) =>
    if number.isFinite then none else some (.noLiteral number.text)
  | value (.bare sort serial) => some (.misplaced .value (Datum.bare sort serial).className)
  | value given => if given.isValue then none else some (.misplaced .value given.className)
  | selection given => some (.misplaced .selection given.className)
  | argument (.model serial fields) => Outcome.fault? (Written.entry (.model serial fields))
  | argument stranger => some (lack "value" stranger)
  | directive (.model serial fields) => Outcome.fault? (Written.directive (.model serial fields))
  | directive (.member family name given others) =>
    Outcome.fault? (Written.directive (.member family name given others))
  | directive stranger => some (lack "arguments" stranger)
  | type (.namedType _) => none
  | type _ => some .noTypeText
  | kind given =>
    if (given.part? "value").isSome then none else some (.noPart given.fullName "value")
  | head given =>
    match given.part? "value" with
    | some found => if found.isExtendable then none else some (.notExtendable found.fullName)
    | none => none
  | shownHead given =>
    match given.part? "value" with
    | some (.list items) => if Datum.itemsShowLong items then some .tooLongToWrite else none
    | _ => none

end Place

namespace Datum

mutual

/-- The places of a value. -/
def valuePlaces : Datum → List Place
  | listValue (.tuple items) => placesOfValues items
  | objectValue (.tuple fields) => placesOfArguments fields
  | given => [.value given]

/-- The places of an argument, or of a field of an object. -/
def argumentPlaces : Datum → List Place
  | argument _ given | objectField _ given | member _ _ given _ => valuePlaces given
  | stranger => [.argument stranger]

/-- The places of values. -/
def placesOfValues : List Datum → List Place
  | [] => []
  | item :: items => valuePlaces item ++ placesOfValues items

/-- The places of arguments. -/
def placesOfArguments : List Datum → List Place
  | [] => []
  | item :: items => argumentPlaces item ++ placesOfArguments items

end

/-- The places of the items of a tuple. -/
def placesOf (places : Datum → List Place) : Datum → List Place
  | tuple items => items.flatMap places
  | _ => []

/-- The places of a directive.  A field has arguments too. -/
def directivePlaces : Datum → List Place
  | directive _ arguments | field _ _ arguments _ _ => placesOf argumentPlaces arguments
  | stranger => [.directive stranger]

mutual

/-- The places of a selection. -/
def selectionPlaces : Datum → List Place
  | field _ _ arguments directives (.tuple selections) =>
    placesOf argumentPlaces arguments ++
      (placesOf directivePlaces directives ++ placesOfSelections selections)
  | fragmentSpread _ directives => placesOf directivePlaces directives
  | inlineFragment _ directives (.tuple selections) =>
    placesOf directivePlaces directives ++ placesOfSelections selections
  | given => [.selection given]

/-- The places of selections. -/
def placesOfSelections : List Datum → List Place
  | [] => []
  | item :: items => selectionPlaces item ++ placesOfSelections items

end

/-- The place of a reference to a type. -/
def typePlaces : Datum → List Place
  | listType of | nonNullType of => typePlaces of
  | given => [.type given]

/-- The places of the declaration of a variable. -/
def declarationPlaces : Datum → List Place
  | .variable _ type .null => typePlaces type
  | .variable _ type default => typePlaces type ++ valuePlaces default
  | _ => []

/-- The place where something is added to what an operation opens with, if it is. -/
def headPlaces (kind : Datum) (isAdded : Bool) : List Place :=
  if isAdded then [.head kind] else []

/-- The places of a definition. -/
def definitionPlaces : Datum → List Place
  | operation kind name? declared directives selections =>
    .kind kind :: (headPlaces kind name?.isSome ++
      (placesOf declarationPlaces declared ++ (headPlaces kind declared.truthy ++
        (placesOf directivePlaces directives ++ (headPlaces kind true ++
          .shownHead kind :: placesOf selectionPlaces selections)))))
  | fragmentDefinition _ _ directives selections =>
    placesOf directivePlaces directives ++ placesOf selectionPlaces selections
  | _ => []

/-- The places of a document, in the order in which they are written. -/
def places : Datum → List Place
  | document definitions => placesOf definitionPlaces definitions
  | _ => []

theorem placesOfValues_eq (items : List Datum) :
    placesOfValues items = items.flatMap valuePlaces := by
  induction items with
  | nil => rfl
  | cons item items inductionHypothesis =>
    rw [placesOfValues, inductionHypothesis, List.flatMap_cons]

theorem placesOfArguments_eq (items : List Datum) :
    placesOfArguments items = items.flatMap argumentPlaces := by
  induction items with
  | nil => rfl
  | cons item items inductionHypothesis =>
    rw [placesOfArguments, inductionHypothesis, List.flatMap_cons]

theorem placesOfSelections_eq (items : List Datum) :
    placesOfSelections items = items.flatMap selectionPlaces := by
  induction items with
  | nil => rfl
  | cons item items inductionHypothesis =>
    rw [placesOfSelections, inductionHypothesis, List.flatMap_cons]

end Datum

/-! ## Following the places -/

namespace Datum

/-- What is true of data if it is true of all that is held in it is true of all data. -/
theorem induction_within
    {motive : Datum → Prop}
    (step : ∀ whole : Datum, (∀ direct ∈ whole.held, ∀ part, Within part direct → motive part) →
      motive whole)
    (datum : Datum) :
    motive datum := by
  suffices climbs : Climbs fun whole => ∀ part, Within part whole → motive part from
    climbs.all datum datum .self
  intro whole ofHeld part inside
  cases inside with
  | self => exact step whole ofHeld
  | held present further => exact ofHeld _ present part further

end Datum

namespace Written

open Datum (Throughout Shaped Within)

theorem stops_entry
    {item : Datum}
    (ofHeld : ∀ direct ∈ item.held, Stops Place.fault? (value direct) direct.valuePlaces) :
    Stops Place.fault? (entry item) item.argumentPlaces := by
  cases item with
  | argument name given | objectField name given =>
    exact ((ofHeld given (by simp [Datum.held, Datum.parts])).map (embed given)).bind_ok _
  | member family name given others =>
    exact ((ofHeld given List.mem_cons_self).map (embed given)).bind_ok _
  -- What can be asked of a scalar depends on what it is, but a name never can.
  | scalar given => cases given <;> exact .single rfl
  | _ => exact .single rfl

theorem stops_argumentsOf
    {items : List Datum}
    (stops : ∀ item ∈ items, Stops Place.fault? (entry item) item.argumentPlaces) :
    Stops Place.fault? (argumentsOf (.tuple items)) (items.flatMap Datum.argumentPlaces) := by
  rw [argumentsOf_tuple]
  exact .unlessEmpty stops

/-- The writing of a value follows its places. -/
theorem stops_value
    {given : Datum}
    (shaped : Throughout Shaped given) :
    Stops Place.fault? (value given) given.valuePlaces := by
  induction given using Datum.induction_within with
  | step given inductionHypothesis =>
  have ofDirect : ∀ direct ∈ given.held, ∀ part, Within part direct →
      Stops Place.fault? (value part) part.valuePlaces := by
    intro direct present part inside
    exact inductionHypothesis direct present part inside (shaped.of_within (.held present inside))
  have shape := shaped given .self
  cases given with
  | listValue values =>
    obtain ⟨items, rfl, -⟩ := shape
    rw [value, valuesOf, values_eq_mapM, Datum.valuePlaces, Datum.placesOfValues_eq]
    refine (Stops.mapM fun item present => ?_).map _
    exact ofDirect (.tuple items) List.mem_cons_self item (.held present .self)
  | objectValue fields =>
    obtain ⟨items, rfl, -⟩ := shape
    rw [value, Datum.valuePlaces, Datum.placesOfArguments_eq]
    refine (stops_argumentsOf fun item present => stops_entry fun direct isHeld => ?_).map _
    exact ofDirect (.tuple items) List.mem_cons_self direct (.held present (.held isHeld .self))
  | floatValue number =>
    refine .single ?_
    rcases shape with ⟨number, rfl⟩ | ⟨number, rfl⟩
    · rw [value, Numeral.fractional_float, Place.fault?]
      cases number.isFinite <;> rfl
    · rw [value, Numeral.fractional_decimal, Place.fault?]
      cases number.isFinite <;> rfl
  | intValue given =>
    obtain ⟨number, rfl⟩ := shape
    refine .single ?_
    rw [value, Numeral.whole_of_asInt? rfl, Place.fault?]
    cases Number.Whole.isLong number <;> rfl
  | booleanValue given | stringValue given =>
    obtain ⟨flag, rfl⟩ := shape
    exact .single rfl
  | _ => exact .single rfl

/-- The writing of a tuple of arguments follows their places. -/
theorem stops_arguments
    {given : Datum}
    (shaped : Throughout Shaped given)
    {kind : Datum → Prop}
    (isTuple : Datum.IsTuple kind given) :
    Stops Place.fault? (argumentsOf given) (Datum.placesOf Datum.argumentPlaces given) := by
  obtain ⟨items, rfl, -⟩ := isTuple
  refine stops_argumentsOf fun item present => stops_entry fun direct isHeld => ?_
  exact stops_value ((shaped.of_held present).of_held isHeld)

theorem stops_directive
    {item : Datum}
    (shaped : Throughout Shaped item) :
    Stops Place.fault? (directive item) item.directivePlaces := by
  have ofArguments {arguments : Datum} (isHeld : arguments ∈ item.held) {kind : Datum → Prop}
      (isTuple : Datum.IsTuple kind arguments) :
      Stops Place.fault? (argumentsOf arguments) (Datum.placesOf Datum.argumentPlaces arguments) :=
    stops_arguments (shaped.of_held isHeld) isTuple
  have shape := shaped item .self
  cases item with
  | directive name arguments =>
    exact (ofArguments (by simp [Datum.held, Datum.parts]) shape).bind_ok _
  | field name alias? arguments directives selections =>
    exact (ofArguments (by simp [Datum.held, Datum.parts]) shape.1).bind_ok _
  | scalar given => cases given <;> exact .single rfl
  | _ => exact .single rfl

/-- The writing of a tuple of directives follows their places. -/
theorem stops_directives
    {given : Datum}
    (shaped : Throughout Shaped given)
    {kind : Datum → Prop}
    (isTuple : Datum.IsTuple kind given) :
    Stops Place.fault? (directivesOf given) (Datum.placesOf Datum.directivePlaces given) := by
  obtain ⟨items, rfl, -⟩ := isTuple
  rw [directivesOf, directives_eq_mapM]
  exact .mapM fun item present => stops_directive (shaped.of_held present)

theorem stops_selectionsOf
    {items : List Datum}
    (stops : ∀ item ∈ items, Stops Place.fault? (selection item) item.selectionPlaces) :
    Stops Place.fault? (selectionsOf (.tuple items)) (items.flatMap Datum.selectionPlaces) := by
  rw [selectionsOf_tuple]
  exact .unlessEmpty stops

/-- The writing of a selection follows its places. -/
theorem stops_selection
    {given : Datum}
    (shaped : Throughout Shaped given) :
    Stops Place.fault? (selection given) given.selectionPlaces := by
  induction given using Datum.induction_within with
  | step given inductionHypothesis =>
  have ofSelections {items : List Datum} (isHeld : .tuple items ∈ given.held) :
      Stops Place.fault? (selectionsOf (.tuple items)) (Datum.placesOfSelections items) := by
    rw [Datum.placesOfSelections_eq]
    refine stops_selectionsOf fun item present => ?_
    exact inductionHypothesis _ isHeld item (.held present .self)
      ((shaped.of_held isHeld).of_held present)
  have shape := shaped given .self
  cases given with
  | field name alias? arguments directives selections =>
    obtain ⟨areArguments, areDirectives, items, rfl, -⟩ := shape
    have ofArguments :=
      stops_arguments (shaped.of_held (by simp [Datum.held, Datum.parts])) areArguments
    have ofDirectives :=
      stops_directives (shaped.of_held (by simp [Datum.held, Datum.parts])) areDirectives
    have ofItems := @ofSelections items (by simp [Datum.held, Datum.parts])
    cases alias? with
    | none => exact ofArguments.bind fun _ _ => ofDirectives.bind fun _ _ => ofItems.bind_ok _
    | some label => exact ofArguments.bind fun _ _ => ofDirectives.bind fun _ _ => ofItems.bind_ok _
  | fragmentSpread name directives =>
    exact (stops_directives (shaped.of_held (by simp [Datum.held, Datum.parts])) shape).map _
  | inlineFragment condition? directives selections =>
    obtain ⟨areDirectives, items, rfl, -⟩ := shape
    have ofDirectives :=
      stops_directives (shaped.of_held (by simp [Datum.held, Datum.parts])) areDirectives
    have ofItems := @ofSelections items (by simp [Datum.held, Datum.parts])
    exact ofDirectives.bind fun _ _ => ofItems.bind_ok _
  | _ => exact .single rfl

/-- The writing of a tuple of selections follows their places. -/
theorem stops_selections
    {given : Datum}
    (shaped : Throughout Shaped given)
    {kind : Datum → Prop}
    (isTuple : Datum.IsTuple kind given) :
    Stops Place.fault? (selectionsOf given) (Datum.placesOf Datum.selectionPlaces given) := by
  obtain ⟨items, rfl, -⟩ := isTuple
  exact stops_selectionsOf fun item present =>
    stops_selection (shaped.of_held present)

theorem stops_typeRef
    {given : Datum}
    (shaped : Throughout Shaped given)
    (isTypeRef : given.isTypeRef = true) :
    Stops Place.fault? (typeRef given) given.typePlaces := by
  induction given using Datum.induction_within with
  | step given inductionHypothesis =>
  have ofPart {part : Datum} (isHeld : part ∈ given.held) (isTypeRef : part.isTypeRef = true) :
      Stops Place.fault? (typeRef part) part.typePlaces :=
    inductionHypothesis part isHeld part .self (shaped.of_held isHeld) isTypeRef
  have shape := shaped given .self
  cases given with
  | namedType name => exact .single rfl
  | listType of | nonNullType of =>
    exact (ofPart (by simp [Datum.held, Datum.parts]) shape).map _
  | bare sort serial =>
    cases sort with
    | typeRef => exact .single rfl
    | _ => cases isTypeRef
  | _ => cases isTypeRef

theorem defaultOf_of_isValue
    {default : Datum}
    (isValue : default.isValue = true)
    (name : Label)
    (type : Datum) :
    defaultOf (.variable name type default) =
      (value default).map fun written => some (embed default written) := by
  cases default with
  | null => cases isValue
  | _ => rfl

theorem declarationPlaces_of_isValue
    {default : Datum}
    (isValue : default.isValue = true)
    (name : Label)
    (type : Datum) :
    (Datum.variable name type default).declarationPlaces =
      type.typePlaces ++ default.valuePlaces := by
  cases default with
  | null => cases isValue
  | _ => rfl

theorem stops_variableDefinition
    {given : Datum}
    (shaped : Throughout Shaped given)
    (isVariable : given.isVariable = true) :
    Stops Place.fault? (variableDefinition given) given.declarationPlaces := by
  cases given with
  | «variable» name type default =>
    obtain ⟨isTypeRef, isDefault⟩ := shaped _ .self
    have ofType := stops_typeRef (shaped.of_held (by simp [Datum.held, Datum.parts])) isTypeRef
    rw [variableDefinition_variable]
    rcases isDefault with rfl | isValue
    · exact ofType.bind_ok _
    · have isHeld : default ∈ (Datum.variable name type default).held := by
        simp [Datum.held, Datum.parts]
      have ofDefault := stops_value (shaped.of_held isHeld)
      rw [defaultOf_of_isValue isValue, declarationPlaces_of_isValue isValue]
      exact ofType.bind fun _ _ => (ofDefault.map _).bind_ok _
  | _ => cases isVariable

/-- The writing of a tuple of declarations follows their places. -/
theorem stops_variables
    {given : Datum}
    (shaped : Throughout Shaped given)
    (isTuple : Datum.IsTuple (·.isVariable = true) given) :
    Stops Place.fault? (variablesOf given) (Datum.placesOf Datum.declarationPlaces given) := by
  obtain ⟨items, rfl, areVariables⟩ := isTuple
  rw [variablesOf_tuple]
  exact .unlessEmpty fun item present =>
    stops_variableDefinition (shaped.of_held present) (areVariables item present)

/-! ## Definitions -/

theorem fault?_headOf (kind : Datum) : fault? (Head.of kind) = (Place.kind kind).fault? := by
  rw [Place.fault?, Head.of, Datum.part]
  cases kind.part? "value" with
  | none => rfl
  | some value =>
    rw [ok_bind]
    split <;> rfl

/-- Something is added to what an operation opens with, if that can be added to. -/
def extend (head : Head) (isAdded : Bool) : Except Fault Unit :=
  if isAdded then head.check else .ok ()

theorem extend_bind
    {α : Type}
    (head : Head)
    (isAdded : Bool)
    (next : Unit → Except Fault α) :
    (extend head isAdded >>= next) = if isAdded then head.check >>= next else next () := by
  cases isAdded with
  | false => rfl
  | true => rfl

/-- What an operation opens with is told by the value of its kind. -/
theorem cases_headOf
    {kind : Datum}
    {head : Head}
    (opens : Head.of kind = .ok head) :
    ∃ given, kind.part? "value" = some given ∧
      ((∃ text, given.asText? = some text ∧ head = .word text) ∨
        (∃ items, given = .list items ∧ head = .list items) ∨
        given.isExtendable = false ∧ head = .fixed given.fullName) := by
  rw [Head.of] at opens
  obtain ⟨given, found, opens⟩ := bind_eq_ok_iff.mp opens
  refine ⟨given, Datum.part_eq_ok_iff.mp found, ?_⟩
  generalize isText : given.asText? = text? at opens
  cases text? with
  | some text => exact .inl ⟨text, rfl, (Except.ok.inj opens).symm⟩
  | none =>
    cases given with
    | list items => exact .inr (.inl ⟨items, rfl, (Except.ok.inj opens).symm⟩)
    | _ =>
      refine .inr (.inr ⟨?_, (Except.ok.inj opens).symm⟩)
      rw [Datum.isExtendable, isText]
      · rfl
      · nofun

theorem fault?_check
    {kind : Datum}
    {head : Head}
    (opens : Head.of kind = .ok head) :
    fault? head.check = (Place.head kind).fault? := by
  obtain ⟨given, isPart, cases⟩ := cases_headOf opens
  rw [Place.fault?, isPart]
  obtain ⟨text, isText, rfl⟩ | ⟨items, rfl, rfl⟩ | ⟨fixed, rfl⟩ := cases
  · have extendable : given.isExtendable = true := by
      unfold Datum.isExtendable
      split
      case h_1 => rfl
      case h_2 => rw [isText, Option.isSome_some]
    exact (if_pos extendable).symm
  · rfl
  · simp [fixed, Head.check, fault?]

theorem fault?_checkShown
    {kind : Datum}
    {head : Head}
    (opens : Head.of kind = .ok head) :
    fault? head.checkShown = (Place.shownHead kind).fault? := by
  obtain ⟨given, isPart, cases⟩ := cases_headOf opens
  rw [Place.fault?, isPart]
  obtain ⟨text, isText, rfl⟩ | ⟨items, rfl, rfl⟩ | ⟨fixed, rfl⟩ := cases
  · cases given with
    | list items => cases isText
    | _ => rfl
  · dsimp only [Head.checkShown]
    cases Datum.itemsShowLong items <;> rfl
  · cases given with
    | list items => cases fixed
    | _ => rfl

theorem stops_extend
    {kind : Datum}
    {head : Head}
    (opens : Head.of kind = .ok head)
    (isAdded : Bool) :
    Stops Place.fault? (extend head isAdded) (Datum.headPlaces kind isAdded) := by
  cases isAdded with
  | false => exact .ok ()
  | true => exact .single (fault?_check opens)

theorem definition_eq
    (kind : Datum)
    (name? : Option Label)
    (declared directives selections : Datum) :
    definition (.operation kind name? declared directives selections) = (do
      let head ← Head.of kind
      extend head name?.isSome
      let declared? ← variablesOf declared
      extend head declared?.isSome
      let applied ← directivesOf directives
      head.check
      head.checkShown
      let selected? ← selectionsOf selections
      head.operation (name?.map Label.shown) declared? applied selected?) := by
  rw [definition]
  simp only [extend_bind]

/-- Variables are left out exactly if there are none. -/
theorem isSome_of_variablesOf
    {declared : Datum}
    {declared? : Option (List VariableDefinition)}
    (isTuple : Datum.IsTuple (·.isVariable = true) declared)
    (written : variablesOf declared = .ok declared?) :
    declared?.isSome = declared.truthy := by
  obtain ⟨items, rfl, -⟩ := isTuple
  rw [variablesOf_tuple] at written
  split at written
  case isTrue isEmpty =>
    obtain rfl := Except.ok.inj written
    rw [Datum.truthy, isEmpty]
    rfl
  case isFalse notEmpty =>
    obtain ⟨_, -, rfl⟩ := map_eq_ok_iff.mp written
    simp [Datum.truthy, notEmpty]

/-- An operation that can be added to is written. -/
theorem stops_operation
    {head : Head}
    (checked : head.check = .ok ())
    (name? : Option String)
    (declared? : Option (List VariableDefinition))
    (directives : List Directive)
    (selections? : Option (List Selection)) :
    Stops Place.fault? (head.operation name? declared? directives selections?) [] := by
  cases head with
  | word text => exact .ok _
  | list items => exact .ok _
  | fixed found => cases checked

/-- The writing of a definition follows its places. -/
theorem stops_definition
    {given : Datum}
    (shaped : Throughout Shaped given)
    (isDefinition : given.isOperation = true ∨ given.isFragment = true) :
    Stops Place.fault? (definition given) given.definitionPlaces := by
  have shape := shaped given .self
  cases given with
  | operation kind name? declared directives selections =>
    obtain ⟨areVariables, areDirectives, areSelections⟩ := shape
    have ofVariables :=
      stops_variables (shaped.of_held (by simp [Datum.held, Datum.parts])) areVariables
    have ofDirectives :=
      stops_directives (shaped.of_held (by simp [Datum.held, Datum.parts])) areDirectives
    have ofSelections :=
      stops_selections (shaped.of_held (by simp [Datum.held, Datum.parts])) areSelections
    rw [definition_eq, Datum.definitionPlaces]
    -- The head is looked at again wherever something is added to it, so each step has its places.
    refine .cons (fault?_headOf kind) fun head opens => ?_
    refine (stops_extend opens name?.isSome).bind fun _ _ => ?_
    refine ofVariables.bind fun declared? written => ?_
    rw [← isSome_of_variablesOf areVariables written]
    refine (stops_extend opens declared?.isSome).bind fun _ _ => ?_
    refine ofDirectives.bind fun applied _ => ?_
    refine (stops_extend opens true).bind fun _ checked => ?_
    refine .cons (fault?_checkShown opens) fun _ _ => ?_
    rw [← List.append_nil (Datum.placesOf _ selections)]
    exact ofSelections.bind fun selected? _ => stops_operation checked _ _ _ _
  | fragmentDefinition name condition directives selections =>
    obtain ⟨areDirectives, areSelections⟩ := shape
    have ofDirectives :=
      stops_directives (shaped.of_held (by simp [Datum.held, Datum.parts])) areDirectives
    have ofSelections :=
      stops_selections (shaped.of_held (by simp [Datum.held, Datum.parts])) areSelections
    exact ofDirectives.bind fun _ _ => ofSelections.bind_ok _
  | _ => simp [Datum.isOperation, Datum.isFragment] at isDefinition

/-- The writing of a document follows its places. -/
theorem stops_document
    {definitions : Datum}
    (shaped : Throughout Shaped (.document definitions)) :
    Stops Place.fault? (document (.document definitions)) (Datum.document definitions).places := by
  obtain ⟨items, rfl, areDefinitions⟩ := shaped _ .self
  rw [document, definitionsOf, definitions_eq_mapM]
  refine .mapM fun item present => stops_definition ?_ (areDefinitions item present)
  exact (shaped.of_held List.mem_cons_self).of_held present

end Written

/-! ## Documents -/

/-- Where nothing was taken on trust, there can only be something that cannot be written or
a whole number that has too many digits. -/
theorem Place.isSerialization_or_eq_of_fault?
    {place : Place}
    {fault : Fault}
    (notTrusted : place.isTrusted = false)
    (isFault : place.fault? = some fault) :
    fault.isSerialization = true ∨ fault = .tooLongToWrite := by
  unfold fault? at isFault
  split at isFault
  case h_1 =>
    split at isFault
    case isTrue => exact .inr (Option.some.inj isFault).symm
    case isFalse => cases isFault
  case h_2 | h_3 | h_5 =>
    split at isFault
    case isTrue => cases isFault
    case isFalse =>
      obtain rfl := Option.some.inj isFault
      exact .inl rfl
  case h_4 | h_6 =>
    obtain rfl := Option.some.inj isFault
    exact .inl rfl
  all_goals cases notTrusted

namespace Datum

/-- Everything in data from factories has the shape that factories give it. -/
theorem kept_shaped : Kept Shaped where
  elsewhere datum noParts := by
    cases datum with
    | listType | nonNullType | booleanValue | intValue | floatValue | stringValue | listValue
    | objectField | argument | objectValue | directive | «variable» | field | fragmentSpread
    | inlineFragment | fragmentDefinition | operation | document => cases noParts
    | _ => trivial
  fresh _ isFresh := isFresh.1

/-- The writing of a document that was put together by factories stops at the first place
where something is wrong, with the fault of that place, and gives a text if there is no such
place.  If nothing is wrong where a factory took something on trust, then the writing stops
at nothing but a number without a numeral, something that cannot be written or a whole number
that has too many digits. -/
theorem build_exact
    {definitions : Datum}
    (isBuilt : Built Factory (.document definitions))
    (layout : Layout) :
    (∀ fault, (document definitions).build layout = .error fault ↔
      (document definitions).places.findSome? Place.fault? = some fault) ∧
    ((∃ text, (document definitions).build layout = .ok text) ↔
      ∀ place ∈ (document definitions).places, place.fault? = none) ∧
    ((∀ place ∈ (document definitions).places, place.isTrusted = true → place.fault? = none) →
      (∃ text, (document definitions).build layout = .ok text) ∨
        ∃ fault, (document definitions).build layout = .error fault ∧
          (fault.isSerialization = true ∨ fault = .tooLongToWrite)) := by
  have shaped : Throughout Shaped (.document definitions) :=
    isBuilt.throughout kept_shaped.elsewhere fun _ _ => kept_shaped.factory
  have stops : Stops Place.fault? ((document definitions).build layout)
      (document definitions).places :=
    (Written.stops_document shaped).map layout.document
  refine ⟨fun fault => ?first, ?text, fun fine => ?trusted⟩
  case first => exact stops.error_iff fault
  case text => exact stops.exists_ok_iff
  case trusted =>
    cases isOutcome : (document definitions).build layout with
    | ok text => exact .inl ⟨text, rfl⟩
    | error fault =>
      obtain ⟨place, present, isFault⟩ := stops.exists_of_error isOutcome
      refine .inr ⟨fault, rfl, Place.isSerialization_or_eq_of_fault? ?_ isFault⟩
      cases isTrusted : place.isTrusted with
      | false => rfl
      | true =>
        rw [fine place present isTrusted] at isFault
        cases isFault

/-- A field that a directive was given for an argument has a name, but no value. -/
theorem build_exact_field :
    let given : Datum := .field (.plain "b") none (.tuple []) (.tuple []) (.tuple [])
    let applied : Datum := .directive (.plain "d") (.tuple [given])
    let selected : Datum := .field (.plain "a") none (.tuple []) (.tuple [applied]) (.tuple [])
    let definitions : Datum :=
      .tuple [.operation .query none (.tuple []) (.tuple []) (.tuple [selected])]
    Built Factory (.document definitions) ∧
      ∀ layout, (document definitions).build layout = .error (.noPart "Field" "value") := by
  intro given applied selected definitions
  have plain (value : String) : Built Factory (.text value) := .data rfl (List.forall_mem_nil _)
  have null : Built Factory .null := .data rfl (List.forall_mem_nil _)
  have builtGiven : Built Factory given :=
    .call (.field (show Build.field (.text "b") [] .null = .ok given from rfl))
      (by simp [plain, null])
  have builtApplied : Built Factory applied :=
    .call (.directive (show Build.directive (.text "d") [given] = .ok applied from rfl))
      (by simp [plain, builtGiven])
  have builtSelected : Built Factory selected :=
    .call (.field (show Build.field (.text "a") [applied] .null = .ok selected from rfl))
      (by simp [plain, null, builtApplied])
  have query : Built Factory .query := .data rfl (List.forall_mem_singleton.mpr (plain "query"))
  have isBuilt : Built Factory (.document definitions) :=
    .call (.document (show Build.document [_] = .ok (.document definitions) from rfl))
      (List.forall_mem_singleton.mpr (.call
        (.operation (show Build.operation .query [selected] .null = .ok _ from rfl))
        (by simp [query, null, builtSelected])))
  refine ⟨isBuilt, fun layout => ?_⟩
  exact ((build_exact isBuilt layout).1 _).mpr rfl

end Datum
end GraphQL
