import GraphQL.Proofs.Request.WrittenAlike
import GraphQL.Proofs.Request.RoundTrip

/-!
# Building equal requests

Equal requests that look alike node by node are built alike.  Two equal requests whose
parts are what they are declared to be can differ in nothing but the numerals of their
numbers, and every numeral can be read off the text.  So both are refused, or the texts
are the same exactly if the numerals are: one number can have several numerals.
-/

namespace GraphQL

open Outcome
open Source (Lexeme Lexed)

/-! ## Numerals among lexemes -/

/-- The numeral of a lexeme with a fraction or an exponent. -/
def Source.Lexeme.fractional? : Lexeme → Option String
  | .float text => some text
  | _ => none

/-- Numerals can be read off what is read, however names are. -/
theorem Source.Lexed.fractionals_naming
    (name : String → String)
    (lexemes : List Lexeme) :
    (naming (fun text => .of [.name (name text)]) lexemes).lexemes.filterMap
        Lexeme.fractional? =
      lexemes.filterMap Lexeme.fractional? := by
  induction lexemes with
  | nil => rfl
  | cons lexeme lexemes inductionHypothesis =>
    change List.filterMap _ (_ ++ naming _ lexemes).lexemes = _
    cases lexeme with
    | float text => exact congrArg (text :: ·) inductionHypothesis
    | _ => exact inductionHypothesis

namespace Datum

/-- The numerals of a request, in the order of the text. -/
def numerals (given : Datum) : List String :=
  given.nodes.filterMap numeral?

/-! ## Textual nodes -/

/-- The names of a node are texts, and nothing stands in for it but a kind of operation for
the kind of its own. -/
structure Textual (node : Datum) : Prop where
  /-- No name is a member of an enum. -/
  names : ∀ name ∈ node.names, ∀ label ∈ name, label.member? = none
  /-- Only the kind of an operation is a member of an enum. -/
  standIn? : node.standIn? = none ∧ node.isOperation = false ∨
    ∃ kind name? declared directives selections,
      node = .operation (Typed.kind kind) name? declared directives selections

/-- A node without names is plain if it is no stand-in. -/
theorem Textual.of_no_names
    {node : Datum}
    (noNames : node.names = [])
    (notStandIn : node.standIn? = none ∧ node.isOperation = false) :
    node.Textual where
  names := by simp [noNames]
  standIn? := .inl notStandIn

/-- A node with one name is plain if the name is a text. -/
theorem Textual.of_name
    {node : Datum}
    {label : Label}
    (isText : label.member? = none)
    (oneName : node.names = [some label])
    (notStandIn : node.standIn? = none ∧ node.isOperation = false) :
    node.Textual where
  names := by simpa [oneName] using isText
  standIn? := .inl notStandIn

/-- A name that is a text is known by the text. -/
theorem label_eq_of_text
    {label other : Label}
    (isText : label.member? = none)
    (isTextToo : other.member? = none)
    (sameText : label.text = other.text) :
    label = other := by
  obtain ⟨text, member?⟩ := label
  obtain ⟨textToo, memberToo?⟩ := other
  cases isText
  cases isTextToo
  cases sameText
  rfl

theorem names_eq_of_texts
    {names others : List (Option Label)}
    (plain : ∀ name ∈ names, ∀ label ∈ name, label.member? = none)
    (plainToo : ∀ name ∈ others, ∀ label ∈ name, label.member? = none)
    (sameTexts : names.map (Option.map Label.text) = others.map (Option.map Label.text)) :
    names = others := by
  induction names generalizing others with
  | nil => exact (List.map_eq_nil_iff.mp sameTexts.symm).symm
  | cons name names inductionHypothesis =>
    obtain ⟨other, others, rfl, sameText, sameTexts⟩ := List.map_eq_cons_iff.mp sameTexts.symm
    rw [List.forall_mem_cons] at plain plainToo
    rw [inductionHypothesis plain.2 plainToo.2 sameTexts.symm]
    refine congrArg (· :: others) ?_
    cases name with
    | none => exact (Option.map_eq_none_iff.mp sameText).symm
    | some label =>
      obtain ⟨labelToo, rfl, sameText⟩ := Option.map_eq_some_iff.mp sameText
      refine congrArg some (label_eq_of_text (plain.1 label rfl) (plainToo.1 labelToo rfl) ?_)
      exact (Option.some.inj sameText).symm

/-- The names of equal nodes are the same texts. -/
theorem nameTexts_of_same
    {node other : Datum}
    (same : node.same other = true) :
    node.names.map (Option.map Label.text) = other.names.map (Option.map Label.text) := by
  cases sameParts_of_same same <;> simp [names, *]

theorem kind_eq_of_same
    {kind other : Source.OperationKind}
    (same : (Typed.kind kind).same (Typed.kind other) = true) :
    kind = other := by
  revert same
  cases kind <;> cases other <;>
    simp [Typed.kind, query, mutation, subscription, Datum.same, sameMixed, mixedIn?, text,
      Family.mixin]

/-- Equal nodes that are plain look alike if they have the same numeral. -/
theorem LooksLike.of_same
    {node other : Datum}
    (same : node.same other = true)
    (plain : node.Textual)
    (plainToo : other.Textual)
    (sameNumeral : node.numeral? = other.numeral?) :
    LooksLike node other := by
  have sameNames := names_eq_of_texts plain.names plainToo.names (nameTexts_of_same same)
  refine ⟨sameNumeral, sameNames, ?_⟩
  rcases plain.standIn? with ⟨isNone, notOperation⟩ | ⟨kind, _, _, _, _, rfl⟩ <;>
    rcases plainToo.standIn? with ⟨isNoneToo, notOperationToo⟩ | ⟨kindToo, _, _, _, _, rfl⟩
  · exact isNone.trans isNoneToo.symm
  · cases sameParts_of_same same
    cases notOperation
  · cases sameParts_of_same same
    cases notOperationToo
  · cases sameParts_of_same same with
    | operation sameKind => rw [kind_eq_of_same sameKind]; rfl

/-- Equal nodes have numerals or do not. -/
theorem isSome_numeral?_of_same
    {node other : Datum}
    (same : node.same other = true) :
    node.numeral?.isSome = other.numeral?.isSome := by
  cases sameParts_of_same same <;> rfl

/-- Equal nodes that are plain look alike one by one if they have the same numerals. -/
theorem looksLike_of_sameNodes
    {nodes others : List Datum}
    (same : SameNodes nodes others)
    (plain : ∀ node ∈ nodes, node.Textual)
    (plainToo : ∀ node ∈ others, node.Textual)
    (sameNumerals : nodes.filterMap numeral? = others.filterMap numeral?) :
    List.Forall₂ LooksLike nodes others := by
  induction same with
  | nil => exact .nil
  | @cons node other nodes others sameNode _ inductionHypothesis =>
    rw [List.forall_mem_cons] at plain plainToo
    have ofNode := LooksLike.of_same sameNode plain.1 plainToo.1
    have ofRest := inductionHypothesis plain.2 plainToo.2
    have sameKind := isSome_numeral?_of_same sameNode
    rw [List.filterMap_cons, List.filterMap_cons] at sameNumerals
    cases numeral : node.numeral? with
    | none =>
      rw [numeral, Option.isSome_none, eq_comm, Option.isSome_eq_false_iff,
        Option.isNone_iff_eq_none] at sameKind
      rw [numeral, sameKind] at sameNumerals ofNode
      exact .cons (ofNode rfl) (ofRest sameNumerals)
    | some text =>
      rw [numeral, Option.isSome_some, eq_comm, Option.isSome_iff_exists] at sameKind
      obtain ⟨textToo, numeralToo⟩ := sameKind
      rw [numeral, numeralToo] at sameNumerals ofNode
      obtain ⟨sameText, sameRest⟩ := List.cons_eq_cons.mp sameNumerals
      exact .cons (ofNode (congrArg some sameText)) (ofRest sameRest)

/-! ## What the lexemes of a request show -/

/-- Nodes are plain, and their numerals are those among some lexemes. -/
structure Numbered (nodes : List Datum) (lexemes : List Lexeme) : Prop where
  /-- Every node is plain. -/
  plain : ∀ node ∈ nodes, node.Textual
  /-- The numerals are the same, in the same order. -/
  numerals : nodes.filterMap numeral? = lexemes.filterMap Lexeme.fractional?

namespace Numbered

variable {nodes others : List Datum} {lexemes rest : List Lexeme}

theorem nil : Numbered [] [] := ⟨nofun, rfl⟩

theorem append
    (numbered : Numbered nodes lexemes)
    (numberedRest : Numbered others rest) :
    Numbered (nodes ++ others) (lexemes ++ rest) where
  plain := List.forall_mem_append.mpr ⟨numbered.plain, numberedRest.plain⟩
  numerals := by rw [List.filterMap_append, List.filterMap_append, numbered.numerals,
    numberedRest.numerals]

/-- A plain node that is no number shows nothing. -/
theorem node
    {node : Datum}
    (numbered : Numbered nodes lexemes)
    (plain : node.Textual)
    (noNumeral : node.numeral? = none) :
    Numbered (node :: nodes) lexemes where
  plain := List.forall_mem_cons.mpr ⟨plain, numbered.plain⟩
  numerals := by rw [List.filterMap_cons, noNumeral, numbered.numerals]

/-- A lexeme that is no number shows nothing. -/
theorem mark
    {lexeme : Lexeme}
    (numbered : Numbered nodes lexemes)
    (noNumeral : lexeme.fractional? = none) :
    Numbered nodes (lexeme :: lexemes) where
  plain := numbered.plain
  numerals := by rw [List.filterMap_cons, noNumeral, numbered.numerals]

/-- Lexemes that are no numbers show nothing. -/
theorem marks
    {front : List Lexeme}
    (numbered : Numbered nodes lexemes)
    (noNumerals : ∀ lexeme ∈ front, lexeme.fractional? = none) :
    Numbered nodes (front ++ lexemes) where
  plain := numbered.plain
  numerals := by rw [List.filterMap_append, List.filterMap_eq_nil_iff.mpr noNumerals,
    List.nil_append, numbered.numerals]

theorem between
    (first last : Source.Punctuator)
    (numbered : Numbered nodes lexemes) :
    Numbered nodes (.punctuator first :: (lexemes ++ [.punctuator last])) := by
  have numberedLast : Numbered [] [.punctuator last] := nil.mark rfl
  have numberedBoth := numbered.append numberedLast
  rw [List.append_nil] at numberedBoth
  exact numberedBoth.mark rfl

/-- Items one after another. -/
theorem flatMap
    {α : Type}
    {items : List α}
    {nodesOf : α → List Datum}
    {lexemesOf : α → List Lexeme}
    (numbered : ∀ item ∈ items, Numbered (nodesOf item) (lexemesOf item)) :
    Numbered (items.flatMap nodesOf) (items.flatMap lexemesOf) := by
  induction items with
  | nil => exact nil
  | cons item items inductionHypothesis =>
    rw [List.forall_mem_cons] at numbered
    exact numbered.1.append (inductionHypothesis numbered.2)

section Mirrors

variable
  {α : Type}
  {items : List Datum}
  {mirror : Datum → α}
  {nodesOf : Datum → List Datum}
  {lexemesOf : α → List Lexeme}
  (numbered : ∀ item ∈ items, Numbered (nodesOf item) (lexemesOf (mirror item)))

include numbered

/-- The mirrors of items one after another. -/
theorem mirrors : Numbered (items.flatMap nodesOf) ((items.map mirror).flatMap lexemesOf) := by
  rw [List.flatMap_map]
  exact flatMap numbered

/-- The mirrors of items in parentheses. -/
theorem inParentheses :
    Numbered (items.flatMap nodesOf) (Source.inParentheses lexemesOf (items.map mirror)) := by
  cases items with
  | nil => exact nil
  | cons item items => exact (mirrors numbered).between .parenL .parenR

end Mirrors

/-- The mirrors of selections in braces. -/
theorem braced
    {selections : List Datum}
    (numbered : ∀ item ∈ selections, Numbered item.nodes (Mirror.selection item).lexemes) :
    Numbered (tuple selections).nodes
      (Source.Selection.bracedLexemes (selections.map Mirror.selection)) := by
  rw [nodes_tuple]
  exact (mirrors numbered).between .braceL .braceR

end Numbered

end Datum

namespace Typed

open Datum (Textual Numbered)

variable
  {named : Label → Prop}
  (texts : ∀ label, named label → label.member? = none)

include texts

/-- A reference to a type shows no numeral. -/
theorem TypeRef.numbered
    {given : Datum}
    (typed : TypeRef named given) :
    Numbered given.nodes (Mirror.typeRef given).lexemes := by
  induction typed with
  | @name label isNamed =>
    exact .node (.mark .nil rfl) (.of_name (texts label isNamed) rfl ⟨rfl, rfl⟩) rfl
  | list _ inductionHypothesis =>
    exact (inductionHypothesis.between .bracketL .bracketR).node (.of_no_names rfl ⟨rfl, rfl⟩) rfl
  | nonNull _ inductionHypothesis =>
    have bang : Numbered [] [.punctuator .bang] := .mark .nil rfl
    have numbered := inductionHypothesis.append bang
    rw [List.append_nil] at numbered
    exact numbered.node (.of_no_names rfl ⟨rfl, rfl⟩) rfl
  | bare _ => exact .node (.mark .nil rfl) (.of_no_names rfl ⟨rfl, rfl⟩) rfl

/-- A value shows its numerals. -/
theorem Value.numbered
    {given : Datum}
    (typed : Value named given) :
    Numbered given.nodes (Mirror.value given).lexemes := by
  have numeral (text : String) {given : Datum}
      (isNumeral : (Datum.floatValue given).numeral? = some text) :
      Numbered [.floatValue given] [.float text] := by
    refine ⟨List.forall_mem_singleton.mpr (.of_no_names rfl ⟨rfl, rfl⟩), ?_⟩
    rw [List.filterMap_cons, isNumeral]
    rfl
  induction typed with
  | @reference name type default isNamed =>
    exact .node (.mark (.mark .nil rfl) rfl) (.of_name (texts name isNamed) rfl ⟨rfl, rfl⟩) rfl
  | float | decimal => exact numeral _ rfl
  | @enum symbol isNamed =>
    exact .node (.mark .nil rfl) (.of_name (texts symbol isNamed) rfl ⟨rfl, rfl⟩) rfl
  | list _ inductionHypothesis =>
    rw [Mirror.value, Mirror.values_eq_map, Datum.nodes_listValue, Datum.nodes_tuple,
      Source.Value.lexemes, Source.Value.itemLexemes_eq]
    exact ((Numbered.mirrors inductionHypothesis).between .bracketL .bracketR).node
      (.of_no_names rfl ⟨rfl, rfl⟩) rfl
  | @object fields areNamed _ inductionHypothesis =>
    rw [objectFields, Mirror.value, Mirror.objectFields_eq_map, Datum.nodes_objectValue,
      Datum.nodes_tuple, Source.Value.lexemes, Source.Value.fieldLexemes_eq]
    refine Numbered.node (Numbered.between .braceL .braceR ?_) (.of_no_names rfl ⟨rfl, rfl⟩) rfl
    rw [List.flatMap_map, List.flatMap_map]
    refine Numbered.flatMap fun field among => ?_
    exact (((inductionHypothesis field among).mark rfl).mark rfl).node
      (.of_name (texts field.1 (areNamed field among)) rfl ⟨rfl, rfl⟩) rfl
  | _ => exact .node (.mark .nil rfl) (.of_no_names rfl ⟨rfl, rfl⟩) rfl

/-- Arguments show the numerals in their values. -/
theorem Arguments.numbered
    {given : Datum}
    (typed : Arguments named given) :
    Numbered given.nodes (Source.inParentheses Source.Argument.lexemes
      (Mirror.items Mirror.argument given)) := by
  obtain ⟨areNamed, areValues⟩ := typed
  rw [Datum.nodes_tuple, Mirror.items]
  refine Numbered.inParentheses (List.forall_mem_map.mpr fun argument among => ?_)
  exact ((((areValues argument among).numbered texts).mark rfl).mark rfl).node
    (.of_name (texts argument.1 (areNamed argument among)) rfl ⟨rfl, rfl⟩) rfl

/-- Directives show the numerals in their arguments. -/
theorem Directives.numbered
    {given : Datum}
    (typed : Directives named given) :
    Numbered given.nodes (Source.directiveLexemes (Mirror.items Mirror.directive given)) := by
  obtain ⟨areNamed, haveArguments⟩ := typed
  rw [Datum.nodes_tuple, Mirror.items]
  refine Numbered.mirrors (List.forall_mem_map.mpr fun directive among => ?_)
  exact ((((haveArguments directive among).numbered texts).mark rfl).mark rfl).node
    (.of_name (texts directive.1 (areNamed directive among)) rfl ⟨rfl, rfl⟩) rfl

/-- Selections show the numerals in their arguments and directives. -/
theorem Selection.numbered
    {given : Datum}
    (typed : Selection named given) :
    Numbered given.nodes (Mirror.selection given).lexemes := by
  induction typed with
  | @field name alias? arguments directives selections isNamed areNamed typedArguments
      typedDirectives _ inductionHypothesis =>
    rw [Mirror.selection, Mirror.selections_eq_map, Source.Selection.lexemes_field,
      Datum.nodes_field, List.append_assoc]
    have ofSelections : Numbered (Datum.tuple selections).nodes
        (if (selections.map Mirror.selection).isEmpty then []
          else Source.Selection.bracedLexemes (selections.map Mirror.selection)) := by
      cases selections with
      | nil => simpa using Numbered.nil
      | cons => exact Numbered.braced inductionHypothesis
    have inside := (typedArguments.numbered texts).append
      ((typedDirectives.numbered texts).append ofSelections)
    refine .node (inside.marks ?_) ⟨?_, .inl ⟨rfl, rfl⟩⟩ rfl
    · cases alias? <;> simp [Source.Selection.labelLexemes, Source.Lexeme.fractional?]
    · simpa [Datum.names] using
        ⟨texts name isNamed, fun label isAlias => texts label (areNamed label isAlias)⟩
  | @spread name directives isNamed typedDirectives =>
    rw [Mirror.selection, Source.Selection.lexemes]
    exact (((typedDirectives.numbered texts).mark rfl).mark rfl).node
      (.of_name (texts name isNamed) rfl ⟨rfl, rfl⟩) rfl
  | @inlineFragment condition? directives selections areNamed typedDirectives _
      inductionHypothesis =>
    rw [Mirror.selection, Mirror.selections_eq_map, Source.Selection.lexemes_inlineFragment,
      Datum.nodes_inlineFragment]
    have inside := (typedDirectives.numbered texts).append (Numbered.braced inductionHypothesis)
    refine .node ((inside.marks ?_).mark rfl) ⟨?_, .inl ⟨rfl, rfl⟩⟩ rfl
    · cases condition? <;> simp [Source.Selection.conditionLexemes, Source.Lexeme.fractional?]
    · simpa [Datum.names] using
        fun label isCondition => texts label (areNamed label isCondition)
  | bare _ => exact .node (.mark (.mark .nil rfl) rfl) (.of_no_names rfl ⟨rfl, rfl⟩) rfl

/-- A declared variable shows the numerals in its default value. -/
theorem Declaration.numbered
    {given : Datum}
    (typed : Declaration named given) :
    Numbered given.declaredNodes (Mirror.variableDefinition given).lexemes := by
  have ofParts {name : Label} {type default : Datum} {default? : Option Source.Value}
      (isNamed : named name)
      (typedType : TypeRef named type)
      (ofDefault : Numbered default.nodes (Source.defaultLexemes default?)) :
      Numbered (Datum.variable name type default).declaredNodes
        (Source.VariableDefinition.lexemes ⟨name.text, Mirror.typeRef type, default?, []⟩) := by
    have inside := (typedType.numbered texts).append ofDefault
    rw [Datum.nodes_variable_declared, Source.VariableDefinition.lexemes, Source.directiveLexemes,
      List.flatMap_nil, List.append_nil]
    exact (((inside.mark rfl).mark rfl).mark rfl).node
      (.of_name (texts name isNamed) rfl ⟨rfl, rfl⟩) rfl
  cases typed with
  | plain isNamed typedType =>
    exact ofParts isNamed typedType (Numbered.nil.node (.of_no_names rfl ⟨rfl, rfl⟩) rfl)
  | @withDefault name type default isNamed typedType typedDefault _ =>
    rw [typedDefault.mirror_variable]
    exact ofParts isNamed typedType ((typedDefault.numbered texts).mark rfl)

/-- Definitions show the numerals in them. -/
theorem Definition.numbered
    {given : Datum}
    (typed : Definition named given) :
    Numbered given.nodes (Mirror.definition given).lexemes := by
  cases typed with
  | @operation kind name? declarations directives selections areNamed typedDeclarations
      typedDirectives typedSelections =>
    rw [Mirror.definition, Source.Definition.lexemes, Datum.nodes_operation,
      Datum.declaredNodes_tuple, List.append_assoc, List.append_assoc, List.append_assoc]
    have ofDeclared := Numbered.inParentheses fun declared among =>
      (typedDeclarations declared among).numbered texts
    have ofSelections := Numbered.braced fun selection among =>
      (typedSelections selection among).numbered texts
    have inside := ofDeclared.append ((typedDirectives.numbered texts).append ofSelections)
    refine .node ((inside.marks ?_).mark rfl) ⟨?_, .inr ⟨_, _, _, _, _, rfl⟩⟩ rfl
    · cases name? <;> simp [Source.Lexeme.fractional?]
    · simpa [Datum.names] using fun label isName => texts label (areNamed label isName)
  | @fragment name condition directives selections isNamed _ isNamedToo typedDirectives
      typedSelections =>
    rw [Mirror.definition, Source.Definition.lexemes, Datum.nodes_fragmentDefinition]
    have ofSelections := Numbered.braced fun selection among =>
      (typedSelections selection among).numbered texts
    have inside := (typedDirectives.numbered texts).append ofSelections
    refine .node ((((inside.mark rfl).mark rfl).mark rfl).mark rfl) ⟨?_, .inl ⟨rfl, rfl⟩⟩ rfl
    simpa [Datum.names] using ⟨texts name isNamed, texts condition isNamedToo⟩

/-- A document shows the numerals in it. -/
theorem Document.numbered
    {given : Datum}
    (typed : Document named given) :
    Numbered given.nodes (Mirror.document given).lexemes := by
  obtain ⟨typedDefinitions⟩ := typed
  rw [Datum.nodes_document, Datum.nodes_tuple]
  have ofDefinitions := Numbered.mirrors fun definition among =>
    (typedDefinitions definition among).numbered texts
  exact ofDefinitions.node (.of_no_names rfl ⟨rfl, rfl⟩) rfl

end Typed

namespace Datum

/-! ## Numbers that cannot be written -/

/-- The nodes of some data are held in it. -/
theorem within_of_mem_nodes (given : Datum) :
    (∀ node ∈ given.nodes, Within node given) ∧
      ∀ node ∈ given.declaredNodes, Within node given := by
  suffices climbs : Climbs fun given => (∀ node ∈ given.nodes, Within node given) ∧
      ∀ node ∈ given.declaredNodes, Within node given from
    climbs.all given
  intro whole ofHeld
  have ofPart {part : Datum} (isHeld : part ∈ whole.held) :
      ∀ node ∈ part.nodes, Within node whole :=
    fun node among => .held isHeld ((ofHeld part isHeld).1 node among)
  have alone : ∀ node ∈ [whole], Within node whole := List.forall_mem_singleton.mpr .self
  cases whole with
  | tuple items =>
    rw [nodes_tuple, declaredNodes_tuple, List.forall_mem_flatMap, List.forall_mem_flatMap]
    exact ⟨fun item among => ofPart among,
      fun item among node inside => .held among ((ofHeld item among).2 node inside)⟩
  | listType of | nonNullType of | listValue of | objectValue of | document of
  | objectField _ of | argument _ of | directive _ of | fragmentSpread _ of =>
    exact ⟨List.forall_mem_cons.mpr ⟨.self, ofPart (by simp [held, parts])⟩, alone⟩
  | «variable» _ type default =>
    refine ⟨alone, List.forall_mem_cons.mpr ⟨.self, List.forall_mem_append.mpr ⟨?_, ?_⟩⟩⟩
    · exact ofPart (by simp [held, parts])
    · exact ofPart (by simp [held, parts])
  | field _ _ arguments directives selections =>
    refine ⟨List.forall_mem_cons.mpr ⟨.self, List.forall_mem_append.mpr
      ⟨List.forall_mem_append.mpr ⟨?_, ?_⟩, ?_⟩⟩, alone⟩
    · exact ofPart (by simp [held, parts])
    · exact ofPart (by simp [held, parts])
    · exact ofPart (by simp [held, parts])
  | inlineFragment _ directives selections | fragmentDefinition _ _ directives selections =>
    refine ⟨List.forall_mem_cons.mpr ⟨.self, List.forall_mem_append.mpr ⟨?_, ?_⟩⟩, alone⟩
    · exact ofPart (by simp [held, parts])
    · exact ofPart (by simp [held, parts])
  | operation _ _ declared directives selections =>
    refine ⟨List.forall_mem_cons.mpr ⟨.self, List.forall_mem_append.mpr
      ⟨List.forall_mem_append.mpr ⟨?_, ?_⟩, ?_⟩⟩, alone⟩
    · exact fun node among => .held (by simp [held, parts])
        ((ofHeld declared (by simp [held, parts])).2 node among)
    · exact ofPart (by simp [held, parts])
    · exact ofPart (by simp [held, parts])
  | _ => exact ⟨alone, alone⟩

/-- Of two equal nodes from factories, both can be put into text or neither can. -/
theorem isUnprintable_eq_of_same
    {node other : Datum}
    (shape : node.Shaped)
    (shapeToo : other.Shaped)
    (same : node.same other = true) :
    node.isUnprintable = other.isUnprintable := by
  cases sameParts_of_same same with
  | floatValue sameNumber => exact isUnprintable_of_same shape shapeToo sameNumber
  | intValue sameNumber =>
    obtain ⟨⟨number, rfl⟩, ⟨numberToo, rfl⟩⟩ := And.intro shape shapeToo
    rw [eq_of_same_int sameNumber]
  | _ => rfl

/-- Of two equal requests from factories, all nodes can be put into text or some cannot. -/
theorem printable_iff_of_sameNodes
    {nodes others : List Datum}
    (shapes : ∀ node ∈ nodes, node.Shaped)
    (shapesToo : ∀ node ∈ others, node.Shaped)
    (same : SameNodes nodes others) :
    (∀ node ∈ nodes, node.isUnprintable = false) ↔
      ∀ node ∈ others, node.isUnprintable = false := by
  induction same with
  | nil => rfl
  | cons sameNode _ inductionHypothesis =>
    rw [List.forall_mem_cons] at shapes shapesToo
    rw [List.forall_mem_cons, List.forall_mem_cons,
      isUnprintable_eq_of_same shapes.1 shapesToo.1 sameNode,
      inductionHypothesis shapes.2 shapesToo.2]

/-! ## What can be read off a text -/

/-- Whether a request with plain names can be built does not depend on the layout. -/
theorem exists_build_iff_printable
    {document : Datum}
    (typed : Typed.Document Label.PassedText document)
    (layout : Layout) :
    (∃ text, document.build layout = .ok text) ↔ document.Printable := by
  rw [build, exists_map_iff]
  exact (Written.yields_document Written.namesFit_of_passedText typed).exists_iff

/-- The numerals of a request can be read off its text. -/
theorem numerals_of_build
    {document : Datum}
    (typed : Typed.Document Label.PassedText document)
    {layout : Layout}
    {text : String}
    (built : document.build layout = .ok text) :
    (Source.lexed text.toList).lexemes.filterMap Lexeme.fractional? = document.numerals := by
  rw [lexed_of_build typed built, Lexed.fractionals_naming,
    ← (typed.numbered fun _ passed => passed.1).numerals, numerals]

/-! ## Two numerals for one number -/

/-- A field with a number for an argument. -/
def priced (given : Datum) : Datum :=
  .field (.plain "a") none (.tuple [.argument (.plain "x") (.floatValue given)])
    (.tuple []) (.tuple [])

/-- A query for a field with a number for an argument. -/
def pricing (given : Datum) : Datum :=
  .tuple [.operation .query none (.tuple []) (.tuple []) (.tuple [priced given])]

theorem built_pricing
    {given : Datum}
    (builtGiven : Built Factory given)
    (isNumber : Build.argument (.text "x") given =
      .ok (.argument (.plain "x") (.floatValue given))) :
    Built Factory (.document (pricing given)) := by
  have plain (value : String) : Built Factory (.text value) := .data rfl (List.forall_mem_nil _)
  have null : Built Factory .null := .data rfl (List.forall_mem_nil _)
  have builtArgument : Built Factory (.argument (.plain "x") (.floatValue given)) :=
    .call (.argument isNumber) (by simp [plain, builtGiven])
  have builtField : Built Factory (priced given) :=
    .call (.field (show Build.field (.text "a")
        [.argument (.plain "x") (.floatValue given)] .null = .ok (priced given) from rfl))
      (by simp [plain, null, builtArgument])
  have query : Built Factory .query := .data rfl (List.forall_mem_singleton.mpr (plain "query"))
  exact .call (.document (show Build.document [_] = .ok (.document (pricing given)) from rfl))
    (List.forall_mem_singleton.mpr (.call
      (.operation (show Build.operation .query [priced given] .null = .ok _ from rfl))
      (by simp [query, null, builtField])))

theorem typed_pricing
    {given : Datum}
    (typedGiven : Typed.Value Label.PassedText (.floatValue given)) :
    Typed.Document Label.PassedText (.document (pricing given)) := by
  have passed (text : String) (accepted : Text.Name.accepts text = true) :
      (Label.plain text).PassedText :=
    ⟨rfl, accepted⟩
  have typedField : Typed.Selection Label.PassedText (priced given) := by
    refine .field (passed "a" (by decide)) nofun ?_ .nil (List.forall_mem_nil _)
    exact @Typed.Arguments.of _ [(.plain "x", .floatValue given)]
      (List.forall_mem_singleton.mpr (passed "x" (by decide)))
      (List.forall_mem_singleton.mpr typedGiven)
  exact .of (List.forall_mem_singleton.mpr (.operation .query nofun (List.forall_mem_nil _) .nil
    (List.forall_mem_singleton.mpr typedField)))

/-- Queries are equal if the numbers in them are. -/
theorem equals_pricing
    {given other : Datum}
    (same : given.same other = true) :
    (document (pricing given)).equals (document (pricing other)) = true := by
  simp [pricing, priced, equals, isNan, Datum.same, sameItems, sameText, query, same]

/-- Queries for 1.0 and for 1.00 are equal, and different texts are built for them. -/
theorem exists_build_ne_of_equals :
    ∃ given other : Datum, Built Factory (.document given) ∧ Built Factory (.document other) ∧
      (document given).equals (document other) = true ∧
      ∃ text textToo, (document given).build .standard = .ok text ∧
        (document other).build .standard = .ok textToo ∧ text ≠ textToo := by
  let given : Datum := .decimal (.finite false 10 (-1))
  let other : Datum := .decimal (.finite false 100 (-2))
  have sameNumber : given.same other = true := by
    rw [Datum.same]
    decide
  have typed : Typed.Document Label.PassedText (.document (pricing given)) :=
    typed_pricing (.decimal _)
  have typedToo : Typed.Document Label.PassedText (.document (pricing other)) :=
    typed_pricing (.decimal _)
  obtain ⟨text, built⟩ := (exists_build_iff_printable typed .standard).mpr
    (by decide : ∀ node ∈ (document (pricing given)).nodes, node.isUnprintable = false)
  obtain ⟨textToo, builtToo⟩ := (exists_build_iff_printable typedToo .standard).mpr
    (by decide : ∀ node ∈ (document (pricing other)).nodes, node.isUnprintable = false)
  refine ⟨pricing given, pricing other,
    built_pricing (.data rfl (List.forall_mem_nil _)) rfl,
    built_pricing (.data rfl (List.forall_mem_nil _)) rfl,
    equals_pricing sameNumber, text, textToo, built, builtToo, ?_⟩
  rintro rfl
  have sameNumerals :=
    (numerals_of_build typed built).symm.trans (numerals_of_build typedToo builtToo)
  revert sameNumerals
  decide

/-! ## Equal requests -/

/-- Two equal requests from factories are built alike if they look alike node by node.  If
every part of them is what it is declared to be, and names are texts, then both are refused,
or the two texts are the same exactly if the requests have the same numerals. -/
theorem build_of_equals
    {definitions others : Datum}
    (isBuilt : Built Factory (.document definitions))
    (isBuiltToo : Built Factory (.document others))
    (equal : (document definitions).equals (document others) = true)
    (layout : Layout) :
    (List.Forall₂ LooksLike (document definitions).nodes (document others).nodes →
      ((document definitions).build layout).toOption =
        ((document others).build layout).toOption) ∧
    (Typed.Document Label.PassedText (.document definitions) →
      Typed.Document Label.PassedText (.document others) →
        ((∃ fault, (document definitions).build layout = .error fault) ∧
          ∃ fault, (document others).build layout = .error fault) ∨
        ∃ text other, (document definitions).build layout = .ok text ∧
          (document others).build layout = .ok other ∧
          (text = other ↔ (document definitions).numerals = (document others).numerals)) := by
  have ofFirst : Throughout Shaped (.document definitions) :=
    isBuilt.throughout kept_shaped.elsewhere fun _ _ => kept_shaped.factory
  have ofSecond : Throughout Shaped (.document others) :=
    isBuiltToo.throughout kept_shaped.elsewhere fun _ _ => kept_shaped.factory
  have same : (document definitions).same (document others) = true := by
    rw [equals, Bool.and_eq_true] at equal
    exact equal.2
  have agree (looksLike : List.Forall₂ LooksLike (document definitions).nodes
      (document others).nodes) :
      Agree ((document definitions).build layout) ((document others).build layout) :=
    agree_build ⟨ofFirst, ofSecond, same, looksLike⟩ layout
  refine ⟨agree, fun typed typedToo => ?_⟩
  have sameNodes := (sameNodes_of_same same).1
  have printable : (document definitions).Printable ↔ (document others).Printable :=
    printable_iff_of_sameNodes
      (fun node among => ofFirst node ((within_of_mem_nodes _).1 node among))
      (fun node among => ofSecond node ((within_of_mem_nodes _).1 node among)) sameNodes
  rw [← exists_build_iff_printable typed layout, ← exists_build_iff_printable typedToo layout]
    at printable
  cases built : (document definitions).build layout with
  | error fault =>
    cases builtToo : (document others).build layout with
    | error faultToo => exact .inl ⟨⟨fault, rfl⟩, ⟨faultToo, rfl⟩⟩
    | ok other =>
      obtain ⟨_, found⟩ := printable.mpr ⟨other, builtToo⟩
      rw [built] at found
      cases found
  | ok text =>
    obtain ⟨other, builtToo⟩ := printable.mp ⟨text, built⟩
    refine .inr ⟨text, other, rfl, builtToo, ?_, fun sameNumerals => ?_⟩
    · rintro rfl
      rw [← numerals_of_build typed built, numerals_of_build typedToo builtToo]
    · have alike := agree (looksLike_of_sameNodes sameNodes
        (typed.numbered fun _ passed => passed.1).plain
        (typedToo.numbered fun _ passed => passed.1).plain sameNumerals)
      rw [built, builtToo] at alike
      exact Option.some.inj alike

/-- A binary and a decimal number that is 1.0 are equal, and written alike. -/
theorem build_of_equals_decimal :
    let given : Datum := pricing (.float ⟨0x3ff0000000000000⟩)
    let other : Datum := pricing (.decimal (.finite false 10 (-1)))
    (document given).equals (document other) = true ∧
      ∃ text, (document given).build .standard = .ok text ∧
        (document other).build .standard = .ok text := by
  intro given other
  have sameNumber :
      (float ⟨0x3ff0000000000000⟩).same (.decimal (.finite false 10 (-1))) = true := by
    rw [Datum.same]
    decide
  have equal : (document given).equals (document other) = true := equals_pricing sameNumber
  obtain ⟨-, ofTyped⟩ := build_of_equals
    (built_pricing (.data rfl (List.forall_mem_nil _)) rfl)
    (built_pricing (.data rfl (List.forall_mem_nil _)) rfl) equal .standard
  rcases ofTyped (typed_pricing (.float _)) (typed_pricing (.decimal _)) with
    ⟨⟨fault, refused⟩, -⟩ | ⟨text, textToo, built, builtToo, sameText⟩
  · obtain ⟨text, built⟩ := (exists_build_iff_printable (typed_pricing (.float _)) .standard).mpr
      (by decide : ∀ node ∈ (document given).nodes, node.isUnprintable = false)
    rw [built] at refused
    cases refused
  · have sameNumerals : (document given).numerals = (document other).numerals := by decide
    rw [sameText.mpr sameNumerals] at built
    exact ⟨equal, textToo, built, builtToo⟩

end Datum
end GraphQL
