import GraphQL.Proofs.Request.Placement

/-!
# Equal requests node by node

Equality goes by the value of numbers and by the text of names, and what is written for
them goes by more than that: a number can have several numerals, and a name can be a text
or a member of an enum.  Nodes of two equal requests that stand at the same place are of
one kind.  The two requests are alike if the text shows the same of the nodes at each
place, and then so are the parts that stand at the same place.
-/

namespace GraphQL

/-! ## Equal data -/

namespace Datum

/-- Two that are equal are of one kind, and their parts are equal.  Scalars and members of
enums are told apart from the rest only. -/
inductive SameParts : Datum → Datum → Prop
  | null : SameParts null null
  | unset : SameParts unset unset
  | scalars {value other : Scalar} :
      value.same other = true →
      SameParts (scalar value) (scalar other)
  | scalarMember {value : Scalar} {family : Family} {name : String} {counted : Datum}
      {others : List (String × Datum)} :
      SameParts (scalar value) (member family name counted others)
  | memberScalar {value : Scalar} {family : Family} {name : String} {counted : Datum}
      {others : List (String × Datum)} :
      SameParts (member family name counted others) (scalar value)
  | members {family family' : Family} {name name' : String} {counted counted' : Datum}
      {others others' : List (String × Datum)} :
      SameParts (member family name counted others) (member family' name' counted' others')
  | bare (kind : Bare) (serial : Nat) : SameParts (bare kind serial) (bare kind serial)
  | list {items others : List Datum} : SameParts (list items) (list others)
  | tuple {items others : List Datum} :
      List.Forall₂ (fun item other => item.same other = true) items others →
      SameParts (tuple items) (tuple others)
  | set {items others : List Datum} : SameParts (set items) (set others)
  | dict {entries others : List (Datum × Datum)} : SameParts (dict entries) (dict others)
  | model {serial : Nat} {fields others : List (FieldName × Datum)} :
      SameParts (model serial fields) (model serial others)
  | namedType {name other : Label} :
      name.text = other.text →
      SameParts (namedType name) (namedType other)
  | listType {of other : Datum} :
      of.same other = true →
      SameParts (listType of) (listType other)
  | nonNullType {of other : Datum} :
      of.same other = true →
      SameParts (nonNullType of) (nonNullType other)
  | nullValue : SameParts nullValue nullValue
  | booleanValue {value other : Datum} :
      value.same other = true →
      SameParts (booleanValue value) (booleanValue other)
  | intValue {value other : Datum} :
      value.same other = true →
      SameParts (intValue value) (intValue other)
  | floatValue {value other : Datum} :
      value.same other = true →
      SameParts (floatValue value) (floatValue other)
  | stringValue {value other : Datum} :
      value.same other = true →
      SameParts (stringValue value) (stringValue other)
  | enumValue {symbol other : Label} :
      symbol.text = other.text →
      SameParts (enumValue symbol) (enumValue other)
  | listValue {values others : Datum} :
      values.same others = true →
      SameParts (listValue values) (listValue others)
  | objectField {name name' : Label} {value value' : Datum} :
      name.text = name'.text →
      value.same value' = true →
      SameParts (objectField name value) (objectField name' value')
  | objectValue {fields others : Datum} :
      fields.same others = true →
      SameParts (objectValue fields) (objectValue others)
  | variable {name name' : Label} {type type' default default' : Datum} :
      name.text = name'.text →
      type.same type' = true →
      default.same default' = true →
      SameParts (.variable name type default) (.variable name' type' default')
  | argument {name name' : Label} {value value' : Datum} :
      name.text = name'.text →
      value.same value' = true →
      SameParts (argument name value) (argument name' value')
  | directive {name name' : Label} {arguments arguments' : Datum} :
      name.text = name'.text →
      arguments.same arguments' = true →
      SameParts (directive name arguments) (directive name' arguments')
  | field
      {name name' : Label}
      {alias? alias?' : Option Label}
      {arguments arguments' directives directives' selections selections' : Datum} :
      name.text = name'.text →
      alias?.map Label.text = alias?'.map Label.text →
      arguments.same arguments' = true →
      directives.same directives' = true →
      selections.same selections' = true →
      SameParts (field name alias? arguments directives selections)
        (field name' alias?' arguments' directives' selections')
  | fragmentSpread {name name' : Label} {directives directives' : Datum} :
      name.text = name'.text →
      directives.same directives' = true →
      SameParts (fragmentSpread name directives) (fragmentSpread name' directives')
  | inlineFragment
      {condition? condition?' : Option Label}
      {directives directives' selections selections' : Datum} :
      condition?.map Label.text = condition?'.map Label.text →
      directives.same directives' = true →
      selections.same selections' = true →
      SameParts (inlineFragment condition? directives selections)
        (inlineFragment condition?' directives' selections')
  | operation
      {kind kind' : Datum}
      {name? name?' : Option Label}
      {declared declared' directives directives' selections selections' : Datum} :
      kind.same kind' = true →
      name?.map Label.text = name?'.map Label.text →
      declared.same declared' = true →
      directives.same directives' = true →
      selections.same selections' = true →
      SameParts (operation kind name? declared directives selections)
        (operation kind' name?' declared' directives' selections')
  | fragmentDefinition
      {name name' condition condition' : Label}
      {directives directives' selections selections' : Datum} :
      name.text = name'.text →
      condition.text = condition'.text →
      directives.same directives' = true →
      selections.same selections' = true →
      SameParts (fragmentDefinition name condition directives selections)
        (fragmentDefinition name' condition' directives' selections')
  | printOptions {indent indent' compact compact' : Datum} :
      SameParts (printOptions indent compact) (printOptions indent' compact')
  | document {definitions others : Datum} :
      definitions.same others = true →
      SameParts (document definitions) (document others)

/-- What follows for the items of a list follows for related lists. -/
theorem forall₂_imp_of_mem
    {related implied : Datum → Datum → Prop}
    {items others : List Datum}
    (areRelated : List.Forall₂ related items others)
    (implies : ∀ item ∈ items, ∀ other, related item other → implied item other) :
    List.Forall₂ implied items others := by
  induction areRelated with
  | nil => exact .nil
  | cons isRelated _ inductionHypothesis =>
    rw [List.forall_mem_cons] at implies
    exact .cons (implies.1 _ isRelated) (inductionHypothesis implies.2)

theorem forall₂_of_sameItems
    {items others : List Datum}
    (same : sameItems items others = true) :
    List.Forall₂ (fun item other => item.same other = true) items others := by
  induction items generalizing others with
  | nil =>
    cases others with
    | nil => exact .nil
    | cons _ _ => simp [sameItems] at same
  | cons item items inductionHypothesis =>
    cases others with
    | nil => simp [sameItems] at same
    | cons other others =>
      rw [sameItems, Bool.and_eq_true] at same
      exact .cons same.1 (inductionHypothesis same.2)

/-- What is equal has equal parts. -/
theorem sameParts_of_same
    {given other : Datum}
    (same : given.same other = true) :
    SameParts given other := by
  unfold Datum.same at same
  split at same
  case h_1 => exact .null
  case h_2 => exact .unset
  case h_3 => exact .nullValue
  case h_4 => exact .scalars same
  case h_5 => exact .scalarMember
  case h_6 =>
    rw [Bool.and_eq_true, decide_eq_true_eq, decide_eq_true_eq] at same
    obtain ⟨rfl, rfl⟩ := same
    exact .bare _ _
  case h_7 =>
    cases other with
    | scalar value => exact .memberScalar
    | member family name value others => exact .members
    | _ => simp [sameMixed] at same
  case h_8 => exact .list
  case h_9 => exact .tuple (forall₂_of_sameItems same)
  case h_10 => exact .set
  case h_11 => exact .dict
  case h_12 =>
    obtain rfl := of_decide_eq_true same
    exact .model
  case h_13 => exact .namedType (of_decide_eq_true same)
  case h_14 => exact .enumValue (of_decide_eq_true same)
  case h_15 => exact .listType same
  case h_16 => exact .nonNullType same
  case h_17 => exact .booleanValue same
  case h_18 => exact .intValue same
  case h_19 => exact .floatValue same
  case h_20 => exact .stringValue same
  case h_21 => exact .listValue same
  case h_22 => exact .objectValue same
  case h_23 => exact .document same
  case h_33 => exact .printOptions
  case h_34 => cases same
  all_goals simp only [Bool.and_eq_true, decide_eq_true_eq, sameText] at same
  case h_24 => exact .objectField same.1 same.2
  case h_25 => exact .argument same.1 same.2
  case h_26 => exact .directive same.1 same.2
  case h_27 => exact .fragmentSpread same.1 same.2
  case h_28 => exact .variable same.1.1 same.1.2 same.2
  case h_29 =>
    obtain ⟨⟨⟨⟨sameName, sameAlias⟩, sameArguments⟩, sameDirectives⟩, sameSelections⟩ := same
    exact .field sameName sameAlias sameArguments sameDirectives sameSelections
  case h_30 => exact .inlineFragment same.1.1 same.1.2 same.2
  case h_31 =>
    obtain ⟨⟨⟨⟨sameKind, sameName⟩, sameDeclared⟩, sameDirectives⟩, sameSelections⟩ := same
    exact .operation sameKind sameName sameDeclared sameDirectives sameSelections
  case h_32 =>
    obtain ⟨⟨⟨sameName, sameCondition⟩, sameDirectives⟩, sameSelections⟩ := same
    exact .fragmentDefinition sameName sameCondition sameDirectives sameSelections

theorem eq_of_sameValue_ofInt
    {first second : Int}
    (same : (Number.Decimal.ofInt first).sameValue (.ofInt second) = true) :
    first = second := by
  rw [Number.Decimal.ofInt, Number.Decimal.ofInt, Number.Decimal.sameValue] at same
  split at same
  case isTrue =>
    simp only [Bool.and_eq_true, decide_eq_true_eq] at same
    omega
  case isFalse =>
    simp only [sub_self, Int.toNat_zero, Nat.pow_eq, pow_zero, mul_one, Bool.and_eq_true,
      decide_eq_true_eq, decide_eq_decide] at same
    omega

theorem eq_of_same_int
    {first second : Int}
    (same : (int first).same (int second) = true) :
    first = second := by
  rw [Datum.same, Scalar.same, Bool.or_eq_true, decide_eq_true_eq] at same
  · rcases same with same | same
    · exact Scalar.int.inj same
    · exact eq_of_sameValue_ofInt same
  all_goals simp

theorem eq_of_same_bool
    {first second : Bool}
    (same : (bool first).same (bool second) = true) :
    first = second := by
  rw [Datum.same, Scalar.same, Bool.or_eq_true, decide_eq_true_eq] at same
  · rcases same with same | same
    · exact Scalar.bool.inj same
    · have sameNumber := eq_of_sameValue_ofInt same
      revert sameNumber
      cases first <;> cases second <;> decide
  all_goals simp

theorem isFinite_toDecimal (number : Number.Binary64) :
    number.toDecimal.isFinite = number.isFinite := by
  rw [Number.Binary64.toDecimal, Number.Binary64.isFinite]
  cases number.view with
  | finite significand exponent negative =>
    simp only
    split <;> rfl
  | infinity => rfl
  | nan => rfl

theorem isFinite_of_sameValue
    {first second : Number.Decimal}
    (same : first.sameValue second = true) :
    first.isFinite = second.isFinite := by
  unfold Number.Decimal.sameValue at same
  split at same
  case h_1 => rfl
  case h_2 => rfl
  case h_3 => cases same

/-- Of two equal numbers, both are finite or none is. -/
theorem isUnprintable_of_same
    {given other : Datum}
    (shape : (floatValue given).Shaped)
    (shapeToo : (floatValue other).Shaped)
    (same : given.same other = true) :
    (floatValue given).isUnprintable = (floatValue other).isUnprintable := by
  have ofReal {value valueToo : Scalar} {number numberToo : Number.Decimal}
      (isReal : value.real? = some number)
      (isRealToo : valueToo.real? = some numberToo)
      (same : (scalar value).same (scalar valueToo) = true) :
      number.isFinite = numberToo.isFinite := by
    rw [Datum.same, Scalar.same, Bool.or_eq_true, decide_eq_true_eq, isReal, isRealToo] at same
    · rcases same with rfl | same
      · rw [Option.some.inj (isReal.symm.trans isRealToo)]
      · exact isFinite_of_sameValue same
    all_goals
      intros
      subst_vars
      cases isReal
  obtain ⟨number, rfl⟩ | ⟨number, rfl⟩ := shape
  · obtain ⟨numberToo, rfl⟩ | ⟨numberToo, rfl⟩ := shapeToo
    · have sameFate := ofReal rfl rfl same
      rw [isFinite_toDecimal, isFinite_toDecimal] at sameFate
      rw [isUnprintable, isUnprintable, sameFate]
    · have sameFate := ofReal rfl rfl same
      rw [isFinite_toDecimal] at sameFate
      rw [isUnprintable, isUnprintable, sameFate]
  · obtain ⟨numberToo, rfl⟩ | ⟨numberToo, rfl⟩ := shapeToo
    · have sameFate := ofReal rfl rfl same
      rw [isFinite_toDecimal] at sameFate
      rw [isUnprintable, isUnprintable, sameFate]
    · rw [isUnprintable, isUnprintable, ofReal rfl rfl same]

/-! ## Nodes at the same place -/

/-- Nodes are equal one by one. -/
def SameNodes (nodes others : List Datum) : Prop :=
  List.Forall₂ (fun node other => node.same other = true) nodes others

/-- Nodes of equal data at the same place are equal. -/
theorem sameNodes_of_same
    {given other : Datum}
    (same : given.same other = true) :
    SameNodes given.nodes other.nodes ∧ SameNodes given.declaredNodes other.declaredNodes := by
  suffices climbs : Climbs fun given => ∀ other, given.same other = true →
      SameNodes given.nodes other.nodes ∧ SameNodes given.declaredNodes other.declaredNodes from
    climbs.all given other same
  intro whole ofHeld other same
  have ofPart {part other : Datum} (isHeld : part ∈ whole.held) (same : part.same other = true) :
      SameNodes part.nodes other.nodes :=
    (ofHeld part isHeld other same).1
  have alone : SameNodes [whole] [other] := .cons same .nil
  cases sameParts_of_same same with
  | tuple sameItems =>
    have ofItems := (List.forall₂_and_left _ _).mpr ⟨fun item among => ofHeld item among, sameItems⟩
    rw [nodes_tuple, nodes_tuple, declaredNodes_tuple, declaredNodes_tuple]
    exact ⟨List.rel_flatMap ofItems fun _ other both => (both.1 other both.2).1,
      List.rel_flatMap ofItems fun _ other both => (both.1 other both.2).2⟩
  | listType sameOf | nonNullType sameOf | listValue sameOf | objectValue sameOf
  | document sameOf =>
    exact ⟨.cons same (ofPart (by simp [held, parts]) sameOf), alone⟩
  | objectField _ sameValue | argument _ sameValue | directive _ sameValue
  | fragmentSpread _ sameValue =>
    exact ⟨.cons same (ofPart (by simp [held, parts]) sameValue), alone⟩
  | «variable» _ sameType sameDefault =>
    refine ⟨alone, .cons same (List.rel_append ?_ ?_)⟩
    · exact ofPart (by simp [held, parts]) sameType
    · exact ofPart (by simp [held, parts]) sameDefault
  | field _ _ sameArguments sameDirectives sameSelections =>
    refine ⟨.cons same (List.rel_append (List.rel_append ?_ ?_) ?_), alone⟩
    · exact ofPart (by simp [held, parts]) sameArguments
    · exact ofPart (by simp [held, parts]) sameDirectives
    · exact ofPart (by simp [held, parts]) sameSelections
  | inlineFragment _ sameDirectives sameSelections
  | fragmentDefinition _ _ sameDirectives sameSelections =>
    refine ⟨.cons same (List.rel_append ?_ ?_), alone⟩
    · exact ofPart (by simp [held, parts]) sameDirectives
    · exact ofPart (by simp [held, parts]) sameSelections
  | operation _ _ sameDeclared sameDirectives sameSelections =>
    refine ⟨.cons same (List.rel_append (List.rel_append ?_ ?_) ?_), alone⟩
    · exact (ofHeld _ (by simp [held, parts]) _ sameDeclared).2
    · exact ofPart (by simp [held, parts]) sameDirectives
    · exact ofPart (by simp [held, parts]) sameSelections
  | _ => exact ⟨alone, alone⟩

/-! ## What the text shows of a node -/

/-- The numeral of a literal number with a fraction or an exponent, which is empty if the
number has none. -/
def numeral? : Datum → Option String
  | floatValue given => some ((Numeral.fractional given).toOption.getD "")
  | _ => none

/-- The names of a node. -/
def names : Datum → List (Option Label)
  | namedType name | enumValue name | objectField name _ | argument name _ | directive name _
  | fragmentSpread name _ | .variable name _ _ => [some name]
  | field name alias? _ _ _ => [some name, alias?]
  | inlineFragment condition? _ _ => [condition?]
  | operation _ name? _ _ _ => [name?]
  | fragmentDefinition name condition _ _ => [some name, some condition]
  | _ => []

/-- A member of an enum, a record or an enum symbol as the kind of an operation. -/
def operator? : Datum → Option Datum
  | member family name value others => some (.member family name value others)
  | model serial fields => some (.model serial fields)
  | enumValue symbol => some (.enumValue symbol)
  | _ => none

/-- A member of an enum or a record that stands for a node, or what stands for the kind of
an operation. -/
def standIn? : Datum → Option Datum
  | member family name value others => some (.member family name value others)
  | model serial fields => some (.model serial fields)
  | operation kind _ _ _ _ => kind.operator?
  | _ => none

/-- Two nodes show the same, except for their parts. -/
structure LooksLike (node other : Datum) : Prop where
  /-- Numbers have the same numeral. -/
  numeral? : node.numeral? = other.numeral?
  /-- Names are the same texts or the same members. -/
  names : node.names = other.names
  /-- What stands in for a node is the same thing. -/
  standIn? : node.standIn? = other.standIn?

/-- Two requests, or parts of them, are equal and written alike. -/
structure Alike (nodesOf : Datum → List Datum) (given other : Datum) : Prop where
  /-- The first is shaped by factories. -/
  ofFirst : Throughout Shaped given
  /-- The second is shaped by factories. -/
  ofSecond : Throughout Shaped other
  /-- Both are equal. -/
  same : given.same other = true
  /-- Nodes at the same place show the same. -/
  looksLike : List.Forall₂ LooksLike (nodesOf given) (nodesOf other)

/-- Related lists are related part by part where the first parts are equally long. -/
theorem forall₂_of_append
    {related : Datum → Datum → Prop}
    {first second others others' : List Datum}
    (sameLength : first.length = others.length)
    (areRelated : List.Forall₂ related (first ++ second) (others ++ others')) :
    List.Forall₂ related first others ∧ List.Forall₂ related second others' := by
  have front := List.forall₂_take_append _ _ _ areRelated
  have back := List.forall₂_drop_append _ _ _ areRelated
  rw [← sameLength] at front back
  exact ⟨by simpa using front, by simpa using back⟩

namespace Alike

variable {nodesOf : Datum → List Datum}

/-- Parts of requests that are written alike are. -/
theorem part
    {given other first second : Datum}
    {partNodesOf : Datum → List Datum}
    (alike : Alike nodesOf given other)
    (isHeld : first ∈ given.held)
    (isHeldToo : second ∈ other.held)
    (same : first.same second = true)
    (looksLike : List.Forall₂ LooksLike (partNodesOf first) (partNodesOf second)) :
    Alike partNodesOf first second :=
  ⟨alike.ofFirst.of_held isHeld, alike.ofSecond.of_held isHeldToo, same, looksLike⟩

/-- The items of tuples that are written alike are. -/
theorem items
    {items others : List Datum}
    (ofTuple : ∀ items, nodesOf (.tuple items) = items.flatMap nodesOf)
    (sameLength : ∀ given other : Datum, given.same other = true →
      (nodesOf given).length = (nodesOf other).length)
    (alike : Alike nodesOf (.tuple items) (.tuple others)) :
    List.Forall₂ (Alike nodesOf) items others := by
  obtain ⟨ofFirst, ofSecond, same, looksLike⟩ := alike
  cases sameParts_of_same same with
  | tuple sameItems =>
  have ofItems : ∀ item ∈ items, Throughout Shaped item := fun _ among => ofFirst.of_held among
  have ofOthers : ∀ other ∈ others, Throughout Shaped other := fun _ among => ofSecond.of_held among
  rw [ofTuple, ofTuple] at looksLike
  clear ofFirst ofSecond same
  induction sameItems with
  | nil => exact .nil
  | @cons item other items others sameItem _ inductionHypothesis =>
    rw [List.flatMap_cons, List.flatMap_cons] at looksLike
    obtain ⟨ofItem, ofItems⟩ := List.forall_mem_cons.mp ofItems
    obtain ⟨ofOther, ofOthers⟩ := List.forall_mem_cons.mp ofOthers
    obtain ⟨looksFirst, looksRest⟩ := forall₂_of_append (sameLength _ _ sameItem) looksLike
    exact .cons ⟨ofItem, ofOther, sameItem, looksFirst⟩
      (inductionHypothesis looksRest ofItems ofOthers)

theorem nodesOfItems
    {items others : List Datum}
    (alike : Alike nodes (.tuple items) (.tuple others)) :
    List.Forall₂ (Alike nodes) items others :=
  alike.items nodes_tuple fun _ _ same => (sameNodes_of_same same).1.length_eq

theorem declaredItems
    {items others : List Datum}
    (alike : Alike declaredNodes (.tuple items) (.tuple others)) :
    List.Forall₂ (Alike declaredNodes) items others :=
  alike.items declaredNodes_tuple fun _ _ same => (sameNodes_of_same same).2.length_eq

/-- Fields that are alike have the same names and parts that are alike. -/
theorem fieldParts
    {name name' : Label}
    {alias? alias?' : Option Label}
    {arguments arguments' directives directives' selections selections' : Datum}
    (alike : Alike nodes (.field name alias? arguments directives selections)
      (.field name' alias?' arguments' directives' selections')) :
    (name = name' ∧ alias? = alias?') ∧ Alike nodes arguments arguments' ∧
      Alike nodes directives directives' ∧ Alike nodes selections selections' := by
  cases sameParts_of_same alike.same with
  | field _ _ sameArguments sameDirectives sameSelections =>
  obtain ⟨looksLike, inside⟩ := List.forall₂_cons.mp alike.looksLike
  have lengthArguments := (sameNodes_of_same sameArguments).1.length_eq
  have lengthDirectives := (sameNodes_of_same sameDirectives).1.length_eq
  obtain ⟨inFront, inSelections⟩ := forall₂_of_append
    (by rw [List.length_append, List.length_append, lengthArguments, lengthDirectives]) inside
  obtain ⟨inArguments, inDirectives⟩ := forall₂_of_append lengthArguments inFront
  refine ⟨by simpa [names] using looksLike.names, ?_, ?_, ?_⟩
  · exact alike.part (by simp [held, parts]) (by simp [held, parts]) sameArguments inArguments
  · exact alike.part (by simp [held, parts]) (by simp [held, parts]) sameDirectives inDirectives
  · exact alike.part (by simp [held, parts]) (by simp [held, parts]) sameSelections inSelections

/-- Inline fragments that are alike have the same condition and parts that are alike. -/
theorem inlineFragmentParts
    {condition? condition?' : Option Label}
    {directives directives' selections selections' : Datum}
    (alike : Alike nodes (.inlineFragment condition? directives selections)
      (.inlineFragment condition?' directives' selections')) :
    condition? = condition?' ∧ Alike nodes directives directives' ∧
      Alike nodes selections selections' := by
  cases sameParts_of_same alike.same with
  | inlineFragment _ sameDirectives sameSelections =>
  obtain ⟨looksLike, inside⟩ := List.forall₂_cons.mp alike.looksLike
  obtain ⟨inDirectives, inSelections⟩ :=
    forall₂_of_append (sameNodes_of_same sameDirectives).1.length_eq inside
  refine ⟨by simpa [names] using looksLike.names, ?_, ?_⟩
  · exact alike.part (by simp [held, parts]) (by simp [held, parts]) sameDirectives inDirectives
  · exact alike.part (by simp [held, parts]) (by simp [held, parts]) sameSelections inSelections

/-- Fragments that are alike have the same names and parts that are alike. -/
theorem fragmentDefinitionParts
    {name name' condition condition' : Label}
    {directives directives' selections selections' : Datum}
    (alike : Alike nodes (.fragmentDefinition name condition directives selections)
      (.fragmentDefinition name' condition' directives' selections')) :
    (name = name' ∧ condition = condition') ∧ Alike nodes directives directives' ∧
      Alike nodes selections selections' := by
  cases sameParts_of_same alike.same with
  | fragmentDefinition _ _ sameDirectives sameSelections =>
  obtain ⟨looksLike, inside⟩ := List.forall₂_cons.mp alike.looksLike
  obtain ⟨inDirectives, inSelections⟩ :=
    forall₂_of_append (sameNodes_of_same sameDirectives).1.length_eq inside
  refine ⟨by simpa [names] using looksLike.names, ?_, ?_⟩
  · exact alike.part (by simp [held, parts]) (by simp [held, parts]) sameDirectives inDirectives
  · exact alike.part (by simp [held, parts]) (by simp [held, parts]) sameSelections inSelections

/-- Operations that are alike have the same name and parts that are alike. -/
theorem operationParts
    {kind kind' : Datum}
    {name? name?' : Option Label}
    {declared declared' directives directives' selections selections' : Datum}
    (alike : Alike nodes (.operation kind name? declared directives selections)
      (.operation kind' name?' declared' directives' selections')) :
    name? = name?' ∧ Alike declaredNodes declared declared' ∧
      Alike nodes directives directives' ∧ Alike nodes selections selections' := by
  cases sameParts_of_same alike.same with
  | operation _ _ sameDeclared sameDirectives sameSelections =>
  obtain ⟨looksLike, inside⟩ := List.forall₂_cons.mp alike.looksLike
  have lengthDeclared := (sameNodes_of_same sameDeclared).2.length_eq
  have lengthDirectives := (sameNodes_of_same sameDirectives).1.length_eq
  obtain ⟨inFront, inSelections⟩ := forall₂_of_append
    (by rw [List.length_append, List.length_append, lengthDeclared, lengthDirectives]) inside
  obtain ⟨inDeclared, inDirectives⟩ := forall₂_of_append lengthDeclared inFront
  refine ⟨by simpa [names] using looksLike.names, ?_, ?_, ?_⟩
  · exact alike.part (by simp [held, parts]) (by simp [held, parts]) sameDeclared inDeclared
  · exact alike.part (by simp [held, parts]) (by simp [held, parts]) sameDirectives inDirectives
  · exact alike.part (by simp [held, parts]) (by simp [held, parts]) sameSelections inSelections

/-- Variables that are declared alike have the same name and parts that are alike. -/
theorem variableParts
    {name name' : Label}
    {type type' default default' : Datum}
    (alike : Alike declaredNodes (.variable name type default) (.variable name' type' default')) :
    name = name' ∧ Alike nodes type type' ∧ Alike nodes default default' := by
  cases sameParts_of_same alike.same with
  | «variable» _ sameType sameDefault =>
  obtain ⟨looksLike, inside⟩ := List.forall₂_cons.mp alike.looksLike
  obtain ⟨inType, inDefault⟩ := forall₂_of_append (sameNodes_of_same sameType).1.length_eq inside
  refine ⟨by simpa [names] using looksLike.names, ?_, ?_⟩
  · exact alike.part (by simp [held, parts]) (by simp [held, parts]) sameType inType
  · exact alike.part (by simp [held, parts]) (by simp [held, parts]) sameDefault inDefault

end Alike

end Datum

end GraphQL
