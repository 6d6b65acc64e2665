import GraphQL.Proofs.Request.Alike

/-!
# Writing requests that are alike

Two requests that are alike node by node are written alike: both are refused, or the text
is the same.  The proof follows the writer, with a lemma for each kind of node.
-/

namespace GraphQL

open Outcome

/-! ## Values, arguments and selections -/

namespace Written

open Datum (Alike LooksLike Throughout Shaped Within sameParts_of_same)

/-- Equal numbers with the same numeral are written alike. -/
theorem agree_fractional
    {given other : Datum}
    (shape : (Datum.floatValue given).Shaped)
    (shapeToo : (Datum.floatValue other).Shaped)
    (same : given.same other = true)
    (sameNumeral : (Datum.floatValue given).numeral? = (Datum.floatValue other).numeral?) :
    Agree (Numeral.fractional given) (Numeral.fractional other) := by
  have sameFate := Datum.isUnprintable_of_same shape shapeToo same
  have sameText := Option.some.inj sameNumeral
  have decided {given : Datum} (shape : (Datum.floatValue given).Shaped) :
      (Numeral.fractional given).toOption.isNone = (Datum.floatValue given).isUnprintable := by
    obtain ⟨number, rfl⟩ | ⟨number, rfl⟩ := shape
    · rw [Numeral.fractional_float, Datum.isUnprintable]
      cases number.isFinite <;> rfl
    · rw [Numeral.fractional_decimal, Datum.isUnprintable]
      cases number.isFinite <;> rfl
  rw [← decided shape, ← decided shapeToo] at sameFate
  rw [Agree]
  cases found : (Numeral.fractional given).toOption with
  | none =>
    rw [found, Option.isNone_none] at sameFate
    rw [Option.isNone_iff_eq_none.mp sameFate.symm]
  | some text =>
    rw [found, Option.isNone_some] at sameFate
    obtain ⟨other, foundOther⟩ :=
      Option.isSome_iff_exists.mp (Option.isNone_eq_false_iff.mp sameFate.symm)
    rw [found, foundOther] at sameText
    rw [foundOther]
    exact congrArg some sameText

/-- A value is put into running text as its equal is. -/
theorem embed_eq
    {given other : Datum}
    (alike : Alike Datum.nodes given other) :
    embed given = embed other := by
  funext written
  cases sameParts_of_same alike.same with
  | enumValue =>
    have names := (List.forall₂_cons.mp alike.looksLike).1.names
    obtain ⟨⟩ := names
    rfl
  | _ => rfl

theorem agree_entry
    {item other : Datum}
    (alike : Alike Datum.nodes item other)
    (ofHeld : ∀ direct ∈ item.held, ∀ other, Alike Datum.nodes direct other →
      Agree (value direct) (value other)) :
    Agree (entry item) (entry other) := by
  have ofGiven {name name' : Label} {given given' : Datum}
      (sameNames : [some name] = [some name'])
      (isHeld : given ∈ item.held)
      (alikeGiven : Alike Datum.nodes given given') :
      Agree (do return (name.shown, ← (value given).map (embed given)))
        (do return (name'.shown, ← (value given').map (embed given'))) := by
    obtain ⟨⟩ := sameNames
    rw [embed_eq alikeGiven]
    exact ((ofHeld given isHeld given' alikeGiven).map fun _ => rfl).bind fun _ _ => .refl _
  cases sameParts_of_same alike.same with
  | objectField _ sameValue | argument _ sameValue =>
    obtain ⟨looksLike, inside⟩ := List.forall₂_cons.mp alike.looksLike
    refine ofGiven looksLike.names (by simp [Datum.held, Datum.parts]) ?_
    exact alike.part (by simp [Datum.held, Datum.parts]) (by simp [Datum.held, Datum.parts])
      sameValue inside
  | members | model =>
    obtain ⟨looksLike, -⟩ := List.forall₂_cons.mp alike.looksLike
    rw [Option.some.inj looksLike.standIn?]
    exact .refl _
  | memberScalar | scalarMember =>
    obtain ⟨looksLike, -⟩ := List.forall₂_cons.mp alike.looksLike
    cases looksLike.standIn?
  | _ => exact .errors _ _

theorem agree_argumentsOf
    {items others : List Datum}
    (agree : List.Forall₂ (fun item other => Agree (entry item) (entry other)) items others) :
    Agree (argumentsOf (.tuple items)) (argumentsOf (.tuple others)) := by
  rw [argumentsOf_tuple, argumentsOf_tuple]
  exact .unlessEmpty agree

/-- Values that are alike are written alike. -/
theorem agree_value
    {given other : Datum}
    (alike : Alike Datum.nodes given other) :
    Agree (value given) (value other) := by
  induction given using Datum.induction_within generalizing other with
  | step given inductionHypothesis =>
  have ofDirect : ∀ direct ∈ given.held, ∀ part, Within part direct →
      ∀ other, Alike Datum.nodes part other → Agree (value part) (value other) :=
    fun direct isHeld part inside _ alike => inductionHypothesis direct isHeld part inside alike
  have shape := alike.ofFirst given .self
  have shapeToo := alike.ofSecond other .self
  cases sameParts_of_same alike.same with
  | nullValue => exact .refl _
  | «variable» | enumValue =>
    have names := (List.forall₂_cons.mp alike.looksLike).1.names
    rw [value, value, Option.some.inj (List.head_eq_of_cons_eq names)]
    exact .refl _
  | booleanValue same =>
    obtain ⟨⟨flag, rfl⟩, ⟨flagToo, rfl⟩⟩ := And.intro shape shapeToo
    rw [Datum.eq_of_same_bool same]
    exact .refl _
  | intValue same =>
    obtain ⟨⟨number, rfl⟩, ⟨numberToo, rfl⟩⟩ := And.intro shape shapeToo
    rw [Datum.eq_of_same_int same]
    exact .refl _
  | stringValue same =>
    obtain ⟨⟨text, rfl⟩, ⟨textToo, rfl⟩⟩ := And.intro shape shapeToo
    rw [Datum.same_text, decide_eq_true_eq] at same
    rw [same]
    exact .refl _
  | floatValue same =>
    have sameNumeral := (List.forall₂_cons.mp alike.looksLike).1.numeral?
    exact (agree_fractional shape shapeToo same sameNumeral).map fun _ => rfl
  | listValue same =>
    obtain ⟨⟨items, rfl, -⟩, ⟨others, rfl, -⟩⟩ := And.intro shape shapeToo
    have inside := (List.forall₂_cons.mp alike.looksLike).2
    have alikeItems := (alike.part List.mem_cons_self List.mem_cons_self same inside).nodesOfItems
    rw [value, value, valuesOf, valuesOf, values_eq_mapM, values_eq_mapM]
    refine Agree.map (.mapM ?_) fun _ => rfl
    refine Datum.forall₂_imp_of_mem alikeItems fun item among => ?_
    exact ofDirect (.tuple items) List.mem_cons_self item (.held among .self)
  | objectValue same =>
    obtain ⟨⟨items, rfl, -⟩, ⟨others, rfl, -⟩⟩ := And.intro shape shapeToo
    have inside := (List.forall₂_cons.mp alike.looksLike).2
    have alikeItems := (alike.part List.mem_cons_self List.mem_cons_self same inside).nodesOfItems
    refine Agree.map (agree_argumentsOf ?_) fun _ => rfl
    refine Datum.forall₂_imp_of_mem alikeItems fun item among other alikeItem => ?_
    refine agree_entry alikeItem fun direct isHeld => ?_
    exact ofDirect (.tuple items) List.mem_cons_self direct (.held among (.held isHeld .self))
  | _ => exact .errors _ _

/-- Tuples of arguments that are alike are written alike. -/
theorem agree_arguments
    {given other : Datum}
    {kind kind' : Datum → Prop}
    (alike : Alike Datum.nodes given other)
    (isTuple : Datum.IsTuple kind given)
    (isTupleToo : Datum.IsTuple kind' other) :
    Agree (argumentsOf given) (argumentsOf other) := by
  obtain ⟨⟨items, rfl, -⟩, ⟨others, rfl, -⟩⟩ := And.intro isTuple isTupleToo
  refine agree_argumentsOf (alike.nodesOfItems.imp fun item other alikeItem => ?_)
  exact agree_entry alikeItem fun direct _ other alikeDirect => agree_value alikeDirect

theorem agree_directive
    {item other : Datum}
    (alike : Alike Datum.nodes item other) :
    Agree (directive item) (directive other) := by
  have shape := alike.ofFirst item .self
  have shapeToo := alike.ofSecond other .self
  cases sameParts_of_same alike.same with
  | directive _ sameArguments =>
    obtain ⟨looksLike, inside⟩ := List.forall₂_cons.mp alike.looksLike
    have names := Option.some.inj (List.head_eq_of_cons_eq looksLike.names)
    have alikeArguments := alike.part (by simp [Datum.held, Datum.parts])
      (by simp [Datum.held, Datum.parts]) sameArguments inside
    rw [directive, directive, nameOf, nameOf, names]
    exact (agree_arguments alikeArguments shape shapeToo).bind fun _ _ => .refl _
  | field =>
    obtain ⟨⟨rfl, rfl⟩, alikeArguments, -, -⟩ := alike.fieldParts
    exact (agree_arguments alikeArguments shape.1 shapeToo.1).bind fun _ _ => .refl _
  | members | model =>
    obtain ⟨looksLike, -⟩ := List.forall₂_cons.mp alike.looksLike
    rw [Option.some.inj looksLike.standIn?]
    exact .refl _
  | memberScalar | scalarMember =>
    obtain ⟨looksLike, -⟩ := List.forall₂_cons.mp alike.looksLike
    cases looksLike.standIn?
  | _ => exact .errors _ _

/-- Tuples of directives that are alike are written alike. -/
theorem agree_directives
    {given other : Datum}
    {kind kind' : Datum → Prop}
    (alike : Alike Datum.nodes given other)
    (isTuple : Datum.IsTuple kind given)
    (isTupleToo : Datum.IsTuple kind' other) :
    Agree (directivesOf given) (directivesOf other) := by
  obtain ⟨⟨items, rfl, -⟩, ⟨others, rfl, -⟩⟩ := And.intro isTuple isTupleToo
  rw [directivesOf, directivesOf, directives_eq_mapM, directives_eq_mapM]
  exact .mapM (alike.nodesOfItems.imp fun item other alikeItem => agree_directive alikeItem)

/-- Selections that are alike are written alike. -/
theorem agree_selection
    {given other : Datum}
    (alike : Alike Datum.nodes given other) :
    Agree (selection given) (selection other) := by
  induction given using Datum.induction_within generalizing other with
  | step given inductionHypothesis =>
  have ofSelections {selections selections' : Datum} (isHeld : selections ∈ given.held)
      (isTuple : Datum.IsTuple (·.isSelection = true) selections)
      (isTupleToo : Datum.IsTuple (·.isSelection = true) selections')
      (alike : Alike Datum.nodes selections selections') :
      Agree (selectionsOf selections) (selectionsOf selections') := by
    obtain ⟨⟨items, rfl, -⟩, ⟨others, rfl, -⟩⟩ := And.intro isTuple isTupleToo
    rw [selectionsOf_tuple, selectionsOf_tuple]
    refine .unlessEmpty (Datum.forall₂_imp_of_mem alike.nodesOfItems
      fun item among _ alikeItem => ?_)
    exact inductionHypothesis _ isHeld item (.held among .self) alikeItem
  have shape := alike.ofFirst given .self
  have shapeToo := alike.ofSecond other .self
  cases sameParts_of_same alike.same with
  | @field name name' alias? alias?' =>
    obtain ⟨⟨rfl, rfl⟩, alikeArguments, alikeDirectives, alikeSelections⟩ := alike.fieldParts
    have agreeArguments := agree_arguments alikeArguments shape.1 shapeToo.1
    have agreeDirectives := agree_directives alikeDirectives shape.2.1 shapeToo.2.1
    have agreeSelections := ofSelections (by simp [Datum.held, Datum.parts]) shape.2.2
      shapeToo.2.2 alikeSelections
    cases alias? with
    | none =>
      exact agreeArguments.bind fun _ _ => agreeDirectives.bind fun _ _ =>
        agreeSelections.bind fun _ _ => .refl _
    | some label =>
      exact agreeArguments.bind fun _ _ => agreeDirectives.bind fun _ _ =>
        agreeSelections.bind fun _ _ => .refl _
  | fragmentSpread _ sameDirectives =>
    obtain ⟨looksLike, inside⟩ := List.forall₂_cons.mp alike.looksLike
    have names := Option.some.inj (List.head_eq_of_cons_eq looksLike.names)
    have alikeDirectives := alike.part (by simp [Datum.held, Datum.parts])
      (by simp [Datum.held, Datum.parts]) sameDirectives inside
    rw [selection, selection, names]
    exact (agree_directives alikeDirectives shape shapeToo).map fun _ => rfl
  | inlineFragment =>
    obtain ⟨rfl, alikeDirectives, alikeSelections⟩ := alike.inlineFragmentParts
    have agreeDirectives := agree_directives alikeDirectives shape.1 shapeToo.1
    have agreeSelections := ofSelections (by simp [Datum.held, Datum.parts]) shape.2
      shapeToo.2 alikeSelections
    exact agreeDirectives.bind fun _ _ => agreeSelections.bind fun _ _ => .refl _
  | _ => exact .errors _ _

/-- Tuples of selections that are alike are written alike. -/
theorem agree_selections
    {given other : Datum}
    {kind kind' : Datum → Prop}
    (alike : Alike Datum.nodes given other)
    (isTuple : Datum.IsTuple kind given)
    (isTupleToo : Datum.IsTuple kind' other) :
    Agree (selectionsOf given) (selectionsOf other) := by
  obtain ⟨⟨items, rfl, -⟩, ⟨others, rfl, -⟩⟩ := And.intro isTuple isTupleToo
  rw [selectionsOf_tuple, selectionsOf_tuple]
  exact .unlessEmpty (alike.nodesOfItems.imp fun item other alikeItem => agree_selection alikeItem)

/-- References to types that are alike are written alike. -/
theorem agree_typeRef
    {given other : Datum}
    (alike : Alike Datum.nodes given other) :
    Agree (typeRef given) (typeRef other) := by
  induction given using Datum.induction_within generalizing other with
  | step given inductionHypothesis =>
  cases sameParts_of_same alike.same with
  | namedType =>
    have names := (List.forall₂_cons.mp alike.looksLike).1.names
    rw [typeRef, typeRef, Option.some.inj (List.head_eq_of_cons_eq names)]
    exact .refl _
  | listType sameOf | nonNullType sameOf =>
    have inside := (List.forall₂_cons.mp alike.looksLike).2
    have alikeOf := alike.part List.mem_cons_self List.mem_cons_self sameOf inside
    exact (inductionHypothesis _ List.mem_cons_self _ .self alikeOf).map fun _ => rfl
  | bare => exact .refl _
  | _ => exact .errors _ _

/-- Variables that are declared alike are written alike. -/
theorem agree_variableDefinition
    {given other : Datum}
    (alike : Alike Datum.declaredNodes given other)
    (isVariable : given.isVariable = true) :
    Agree (variableDefinition given) (variableDefinition other) := by
  have shape := alike.ofFirst given .self
  have shapeToo := alike.ofSecond other .self
  cases sameParts_of_same alike.same with
  | @«variable» name name' type type' default default' =>
    obtain ⟨rfl, alikeType, alikeDefault⟩ := alike.variableParts
    rw [variableDefinition_variable, variableDefinition_variable]
    refine (agree_typeRef alikeType).bind fun _ _ => Agree.bind ?_ fun _ _ => .refl _
    rcases shape.2 with rfl | isValue
    · cases sameParts_of_same alikeDefault.same with
      | null => exact .refl _
    rcases shapeToo.2 with rfl | isValueToo
    · cases sameParts_of_same alikeDefault.same with
      | null => exact .refl _
    rw [defaultOf_of_isValue isValue, defaultOf_of_isValue isValueToo, embed_eq alikeDefault]
    exact (agree_value alikeDefault).map fun _ => rfl
  | _ => cases isVariable

/-- Tuples of variables that are declared alike are written alike. -/
theorem agree_variables
    {given other : Datum}
    (alike : Alike Datum.declaredNodes given other)
    (isTuple : Datum.IsTuple (·.isVariable = true) given)
    (isTupleToo : Datum.IsTuple (·.isVariable = true) other) :
    Agree (variablesOf given) (variablesOf other) := by
  obtain ⟨⟨items, rfl, areVariables⟩, ⟨others, rfl, -⟩⟩ := And.intro isTuple isTupleToo
  rw [variablesOf_tuple, variablesOf_tuple]
  refine .unlessEmpty (Datum.forall₂_imp_of_mem alike.declaredItems
    fun item among _ alikeItem => ?_)
  exact agree_variableDefinition alikeItem (areVariables item among)

/-! ## Kinds of operations -/

/-- An operation of a kind opens with something that can be added to and shown. -/
def Opens (kind : Datum) (head : Head) : Prop :=
  Head.of kind = .ok head ∧ head.check = .ok () ∧ head.checkShown = .ok ()

/-- An operation is written exactly if all of it is, and what it opens with can be added
to and shown. -/
theorem definition_operation_eq_ok_iff
    {kind declared directives selections : Datum}
    {name? : Option Label}
    {written : Definition} :
    definition (.operation kind name? declared directives selections) = .ok written ↔
      ∃ head declared? applied selected?, Opens kind head ∧ variablesOf declared = .ok declared? ∧
        directivesOf directives = .ok applied ∧ selectionsOf selections = .ok selected? ∧
        head.operation (name?.map Label.shown) declared? applied selected? = .ok written := by
  have extend_ok {head : Head} (checked : head.check = .ok ()) (isAdded : Bool) :
      extend head isAdded = .ok () := by
    cases isAdded with
    | false => rfl
    | true => exact checked
  rw [definition_eq]
  simp only [bind_eq_ok_iff, Opens]
  constructor
  · rintro ⟨head, opens, -, -, declared?, writtenDeclared, -, -, applied, writtenApplied, _,
      checked, _, shown, selected?, writtenSelected, made⟩
    exact ⟨head, declared?, applied, selected?, ⟨opens, checked, shown⟩, writtenDeclared,
      writtenApplied, writtenSelected, made⟩
  · rintro ⟨head, declared?, applied, selected?, ⟨opens, checked, shown⟩, writtenDeclared,
      writtenApplied, writtenSelected, made⟩
    exact ⟨head, opens, (), extend_ok checked _, declared?, writtenDeclared, (),
      extend_ok checked _, applied, writtenApplied, (), checked, (), shown, selected?,
      writtenSelected, made⟩

/-- What can be added to is a text or a list. -/
theorem not_opens
    {kind : Datum}
    {head : Head}
    (notExtendable : (kind.part? "value").any Datum.isExtendable = false) :
    ¬Opens kind head := by
  rintro ⟨opens, checked, -⟩
  have fine := fault?_check opens
  rw [checked, fault?, Place.fault?] at fine
  cases isPart : kind.part? "value" with
  | none =>
    rw [Head.of, Datum.part, isPart] at opens
    cases opens
  | some value =>
    rw [isPart, Option.any_some] at notExtendable
    rw [isPart] at fine
    simp [notExtendable] at fine

theorem isExtendable_of_isValue
    {value : Datum}
    (isValue : value.isValue = true) :
    value.isExtendable = false := by
  cases value with
  | scalar | member | list => cases isValue
  | _ => rfl

theorem opens_iff_of_alike
    {kind kind' : Datum}
    (ofFirst : Throughout Shaped kind)
    (ofSecond : Throughout Shaped kind')
    (same : kind.same kind' = true)
    (sameOperator : kind.operator? = kind'.operator?)
    (head : Head) :
    Opens kind head ↔ Opens kind' head := by
  have shape := ofFirst kind .self
  have shapeToo := ofSecond kind' .self
  cases sameParts_of_same same with
  | members | model | enumValue => rw [Option.some.inj sameOperator]
  | scalarMember | memberScalar => cases sameOperator
  | stringValue sameText =>
    obtain ⟨⟨text, rfl⟩, ⟨textToo, rfl⟩⟩ := And.intro shape shapeToo
    rw [Datum.same_text, decide_eq_true_eq] at sameText
    rw [sameText]
  | booleanValue | intValue =>
    obtain ⟨⟨value, rfl⟩, ⟨valueToo, rfl⟩⟩ := And.intro shape shapeToo
    exact iff_of_false (not_opens rfl) (not_opens rfl)
  | floatValue =>
    have never {given : Datum} (shape : (Datum.floatValue given).Shaped) :
        ¬Opens (.floatValue given) head := by
      rcases shape with ⟨value, rfl⟩ | ⟨value, rfl⟩ <;> exact not_opens rfl
    exact iff_of_false (never shape) (never shapeToo)
  | objectField | argument =>
    exact iff_of_false (not_opens (isExtendable_of_isValue shape))
      (not_opens (isExtendable_of_isValue shapeToo))
  | @scalars value valueToo =>
    have never (value : Scalar) : ¬Opens (.scalar value) head := by
      cases value <;> exact not_opens rfl
    exact iff_of_false (never value) (never valueToo)
  | _ => exact iff_of_false (not_opens rfl) (not_opens rfl)

/-! ## Documents -/

/-- Definitions that are alike are written alike. -/
theorem agree_definition
    {given other : Datum}
    (alike : Alike Datum.nodes given other) :
    Agree (definition given) (definition other) := by
  have shape := alike.ofFirst given .self
  have shapeToo := alike.ofSecond other .self
  cases sameParts_of_same alike.same with
  | operation sameKind =>
    obtain ⟨rfl, alikeDeclared, alikeDirectives, alikeSelections⟩ := alike.operationParts
    have opens := opens_iff_of_alike (alike.ofFirst.of_held (by simp [Datum.held, Datum.parts]))
      (alike.ofSecond.of_held (by simp [Datum.held, Datum.parts])) sameKind
      (List.forall₂_cons.mp alike.looksLike).1.standIn?
    have agreeDeclared := Agree.iff_ok_iff.mp (agree_variables alikeDeclared shape.1 shapeToo.1)
    have agreeDirectives :=
      Agree.iff_ok_iff.mp (agree_directives alikeDirectives shape.2.1 shapeToo.2.1)
    have agreeSelections :=
      Agree.iff_ok_iff.mp (agree_selections alikeSelections shape.2.2 shapeToo.2.2)
    refine Agree.iff_ok_iff.mpr fun written => ?_
    simp only [definition_operation_eq_ok_iff, opens, agreeDeclared, agreeDirectives,
      agreeSelections]
  | fragmentDefinition =>
    obtain ⟨⟨rfl, rfl⟩, alikeDirectives, alikeSelections⟩ := alike.fragmentDefinitionParts
    have agreeDirectives := agree_directives alikeDirectives shape.1 shapeToo.1
    have agreeSelections := agree_selections alikeSelections shape.2 shapeToo.2
    exact agreeDirectives.bind fun _ _ => agreeSelections.bind fun _ _ => .refl _
  | _ => exact .errors _ _

/-- Documents that are alike are written alike. -/
theorem agree_document
    {definitions others : Datum}
    (alike : Alike Datum.nodes (.document definitions) (.document others)) :
    Agree (document (.document definitions)) (document (.document others)) := by
  obtain ⟨items, rfl, -⟩ := alike.ofFirst _ .self
  obtain ⟨othersItems, rfl, -⟩ := alike.ofSecond _ .self
  cases sameParts_of_same alike.same with
  | document same =>
  have inside := (List.forall₂_cons.mp alike.looksLike).2
  have alikeItems := (alike.part List.mem_cons_self List.mem_cons_self same inside).nodesOfItems
  rw [document, document, definitionsOf, definitionsOf, definitions_eq_mapM, definitions_eq_mapM]
  exact .mapM (alikeItems.imp fun item other alikeItem => agree_definition alikeItem)

end Written

/-- Documents that are alike are built alike, whatever the layout. -/
theorem Datum.agree_build
    {definitions others : Datum}
    (alike : Alike nodes (.document definitions) (.document others))
    (layout : Layout) :
    Agree ((document definitions).build layout) ((document others).build layout) :=
  (Written.agree_document alike).map fun _ => rfl

end GraphQL
