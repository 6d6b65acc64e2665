import GraphQL.Proofs.Source.Parsing.Document

/-!
# Parsing type systems

The definitions and extensions of a type system are read back from their lexemes, with the
descriptions in front of them and of their parts.  A description is a string, so it is told
from the name or keyword behind it.  A type need not hold anything, and then it depends on
what stands behind it where it ends: a brace would open what it holds.
-/

namespace GraphQL
namespace Source

/-! ## What can be read back -/

/-- The parameter or the field of an input type can be read back. -/
structure InputValue.Readable (input : InputValue) : Prop where
  /-- No part of the type is marked twice. -/
  undoubled : input.type.Undoubled
  /-- The default value is a constant that can be read back. -/
  default? : ∀ default ∈ input.default?, default.Readable true
  /-- The values given to directives are constants that can be read back. -/
  directives : ∀ directive ∈ input.directives, directive.Readable true

/-- The field of an object type can be read back. -/
structure FieldDefinition.Readable (field : FieldDefinition) : Prop where
  /-- The parameters can be read back. -/
  parameters : ∀ parameter ∈ field.parameters, parameter.Readable
  /-- No part of the type is marked twice. -/
  undoubled : field.type.Undoubled
  /-- The values given to directives are constants that can be read back. -/
  directives : ∀ directive ∈ field.directives, directive.Readable true

/-- The value of an enum type is called like no constant, and its directives can be read
back. -/
structure EnumValueDefinition.Readable (value : EnumValueDefinition) : Prop where
  /-- The symbol is no other word. -/
  notReserved : Text.Name.isReserved value.name = false
  /-- The values given to directives are constants that can be read back. -/
  directives : ∀ directive ∈ value.directives, directive.Readable true

/-- What the type holds can be read back. -/
def TypeBody.Formed : TypeBody → Prop
  | .scalar | .union _ => True
  | .object _ fields | .interface _ fields => ∀ field ∈ fields, field.Readable
  | .enum values => ∀ value ∈ values, value.Readable
  | .input fields => ∀ field ∈ fields, field.Readable

/-- The named type, which may hold nothing, can be read back. -/
structure TypeDefinition.Formed (definition : TypeDefinition) : Prop where
  /-- The values given to directives are constants that can be read back. -/
  directives : ∀ directive ∈ definition.directives, directive.Readable true
  /-- What the type holds can be read back. -/
  body : definition.body.Formed

/-- The definition of a directive can be read back, and it can be applied at known places. -/
structure DirectiveDefinition.Formed (definition : DirectiveDefinition) : Prop where
  /-- The parameters can be read back. -/
  parameters : ∀ parameter ∈ definition.parameters, parameter.Readable
  /-- The directive may be applied somewhere. -/
  located : definition.locations ≠ []
  /-- The places are known. -/
  locations : ∀ location ∈ definition.locations, Parser.isDirectiveLocation location = true

/-- The type has fields, and they can be read back. -/
inductive TypeDefinition.Readable : TypeDefinition → Prop
  | object (name : String) (directives : List Directive) (fields : List FieldDefinition) :
      (∀ directive ∈ directives, directive.Readable true) →
      fields ≠ [] →
      (∀ field ∈ fields, field.Readable) →
      Readable ⟨name, directives, .object [] fields⟩
  | input (name : String) (directives : List Directive) (fields : List InputValue) :
      (∀ directive ∈ directives, directive.Readable true) →
      fields ≠ [] →
      (∀ field ∈ fields, field.Readable) →
      Readable ⟨name, directives, .input fields⟩

theorem TypeDefinition.Readable.formed
    {definition : TypeDefinition}
    (readable : definition.Readable) :
    definition.Formed := by
  cases readable with
  | object name directives fields directed _ readable => exact ⟨directed, readable⟩
  | input name directives fields directed _ readable => exact ⟨directed, readable⟩

/-! ## What may stand behind a definition -/

/-- The lexemes carry no definition on, save with a brace. -/
structure Follows (lexemes : List Lexeme) : Prop where
  /-- No punctuator carries on a list of names, directives or arguments. -/
  avoids : Avoids [.amp, .atSign, .equals, .parenL, .pipe] lexemes
  /-- No interfaces follow. -/
  notImplements : lexemes.head? ≠ some (.name "implements")

/-- The lexemes carry on no definition that ends where values in braces could stand. -/
structure FollowsOpen (lexemes : List Lexeme) : Prop extends Follows lexemes where
  /-- No brace opens what the definition could hold. -/
  avoidsBrace : Avoids [.braceL] lexemes

/-- The lexemes do not carry on the body of a type. -/
def TypeBody.EndsBefore (lexemes : List Lexeme) : TypeBody → Prop
  | .scalar | .union _ => Follows lexemes
  | .object _ fields | .interface _ fields => fields = [] → FollowsOpen lexemes
  | .enum values => values = [] → FollowsOpen lexemes
  | .input fields => fields = [] → FollowsOpen lexemes

/-- Types that hold something end by themselves. -/
theorem TypeDefinition.Readable.endsBefore
    {definition : TypeDefinition}
    (readable : definition.Readable)
    (lexemes : List Lexeme) :
    definition.body.EndsBefore lexemes := by
  cases readable with
  | object name directives fields _ nonempty _ => exact fun empty => absurd empty nonempty
  | input name directives fields _ nonempty _ => exact fun empty => absurd empty nonempty

section Braces

variable
  {α : Type}
  (written : α → List Lexeme)
  {values : List α}
  {rest : List Lexeme}
  (ends : values = [] → FollowsOpen rest)

include ends

theorem follows_inBraces : Follows (inBraces written values ++ rest) := by
  cases values with
  | nil => exact (ends rfl).toFollows
  | cons value values => exact ⟨by simp [inBraces], by simp [inBraces]⟩

end Braces

namespace Follows

variable {lexemes : List Lexeme} (follows : Follows lexemes)

include follows

theorem avoids_atSign : Avoids [.atSign, .parenL] lexemes :=
  follows.avoids.mono (by simp)

theorem directives (directives : List Directive) :
    Avoids [.amp] (directiveLexemes directives ++ lexemes) ∧
      (directiveLexemes directives ++ lexemes).head? ≠ some (.name "implements") := by
  cases directives with
  | nil => exact ⟨follows.avoids.mono (by simp), follows.notImplements⟩
  | cons directive directives => simp [directiveLexemes, Directive.lexemes]

end Follows

namespace Parser

/-! ## Sequences -/

section Braced

variable
  {α : Type}
  {marks : List Punctuator}
  {item : Parser α}
  {written : α → List Lexeme}
  {values : List α}
  (apart : .braceR ∉ marks)
  (settles : ∀ value ∈ values, Settles .braceR marks item written (fun _ => True) value)

include apart settles

/-- Items in braces are read, and so is their absence, if no other brace follows. -/
theorem reads_optionalBraces
    {rest : List Lexeme}
    (ends : values = [] → FollowsOpen rest) :
    Reads (optionalEnclosed .braceL .braceR item) (inBraces written values ++ rest)
      values rest := by
  by_cases empty : values = []
  · subst empty
    exact .bind (reads_optional_of_avoids (ends rfl).avoidsBrace) (.pure _ _)
  · exact reads_inBraces apart settles (by simp) empty rest

/-- Items in braces are read where there has to be one. -/
theorem reads_braces
    (nonempty : values ≠ [])
    (rest : List Lexeme) :
    Reads (enclosed .braceL .braceR item) (inBraces written values ++ rest) values rest := by
  have reads := reads_someItems apart settles (by simp) nonempty rest
  obtain ⟨value, values, rfl⟩ := List.exists_cons_of_ne_nil nonempty
  rw [inBraces, List.cons_append, List.append_assoc]
  exact .bind (reads_expect _ _) reads

end Braced

/-- Names with a delimiter between neighbours are read up to what is no delimiter. -/
theorem reads_delimited
    {item : Parser String}
    {delimiter : Punctuator}
    {names : List String}
    (reads : ∀ word ∈ names, ∀ rest, Reads item (.name word :: rest) word rest)
    (nonempty : names ≠ [])
    {rest : List Lexeme}
    (follows : Avoids [delimiter] rest) :
    Reads (delimited delimiter item) (delimitedNames delimiter names ++ rest) names rest := by
  obtain ⟨first, others, rfl⟩ := List.exists_cons_of_ne_nil nonempty
  have readsOther : ∀ word ∈ others, ∀ rest, Avoids [] rest →
      Reads item ([.name word] ++ rest) word rest :=
    fun word present rest _ => reads word (by simp [present]) rest
  have enough : others.length ≤
      (others.flatMap (fun word => [Lexeme.punctuator delimiter, .name word]) ++ rest).length -
        1 + 2 := by
    simp only [List.length_append, List.length_flatMap, List.length_cons, List.length_nil,
      List.map_const', List.sum_replicate_nat]
    omega
  have readsOthers := reads_itemsAfter (by simp) readsOther follows enough
  exact .bind (reads_optional_of_avoids (by simp [delimitedNames])) (.bind (reads first (by simp) _)
    (.bind (reads_bound _) (.bind readsOthers (.pure _ _))))

/-! ## Fields -/

theorem reads_description
    (description? : Option Description)
    (word : String)
    (rest : List Lexeme) :
    Reads description (descriptionLexemes description? ++ .name word :: rest) description?
      (.name word :: rest) := by
  cases description? with
  | none => exact .bind (reads_peek _) (.pure _ _)
  | some description =>
    obtain ⟨text, block⟩ := description
    cases block <;> exact .bind (reads_peek _) (.bind (reads_next _ _) (.pure _ _))

/-- What a description is in front of begins with no punctuator. -/
theorem begins_described
    (marks : List Punctuator)
    (description? : Option Description)
    (word : String)
    (rest : List Lexeme) :
    Begins marks (descriptionLexemes description? ++ .name word :: rest) := by
  cases description? with
  | none => simp [Begins, descriptionLexemes]
  | some description =>
    obtain ⟨text, block⟩ := description
    cases block <;> simp [Begins, Avoids, descriptionLexemes]

theorem reads_inputValue
    {input : InputValue}
    (readable : input.Readable)
    {rest : List Lexeme}
    (follows : Avoids declarationMarks rest) :
    Reads inputValue (input.lexemes ++ rest) input rest := by
  obtain ⟨description?, name, type, default?, directives⟩ := input
  have readsTyped := reads_typed readable.undoubled readable.default? readable.directives follows
    (InputValue.mk description? name)
  simp only [InputValue.lexemes, List.cons_append, List.append_assoc]
  exact .bind (reads_description _ _ _) (.bind (reads_name _ _)
    (.bind (reads_expect _ _) readsTyped))

theorem settles_inputValue
    (close : Punctuator)
    {input : InputValue}
    (readable : input.Readable) :
    Settles close declarationMarks inputValue InputValue.lexemes (fun _ => True) input :=
  .of_reads (begins_described _ _ _ _) fun _ => reads_inputValue readable

theorem reads_fieldDefinition
    {field : FieldDefinition}
    (readable : field.Readable)
    {rest : List Lexeme}
    (follows : Avoids declarationMarks rest) :
    Reads fieldDefinition (field.lexemes ++ rest) field rest := by
  obtain ⟨description?, name, given, type, directives⟩ := field
  have readsParameters : Reads parameters
      (inParentheses InputValue.lexemes given ++ .punctuator .colon ::
        (type.lexemes ++ (directiveLexemes directives ++ rest))) given _ :=
    reads_inParentheses (by simp)
      (fun parameter present => settles_inputValue .parenR (readable.parameters parameter present))
      (by simp) (by simp)
  have followsType : Avoids [.bang] (directiveLexemes directives ++ rest) :=
    avoids_directives (by simp) _ (follows.mono (by simp))
  have readsType := reads_typeRef readable.undoubled followsType
  have readsDirectives := reads_directives readable.directives (follows.mono (by simp))
  simp only [FieldDefinition.lexemes, List.cons_append, List.append_assoc]
  exact .bind (reads_description _ _ _) (.bind (reads_name _ _) (.bind readsParameters
    (.bind (reads_expect _ _) (.bind readsType (.bind readsDirectives (.pure _ _))))))

theorem settles_fieldDefinition
    {field : FieldDefinition}
    (readable : field.Readable) :
    Settles .braceR declarationMarks fieldDefinition FieldDefinition.lexemes (fun _ => True)
      field :=
  .of_reads (begins_described _ _ _ _) fun _ => reads_fieldDefinition readable

theorem settles_enumValueDefinition
    {value : EnumValueDefinition}
    (readable : value.Readable) :
    Settles .braceR [.atSign, .parenL] enumValueDefinition EnumValueDefinition.lexemes
      (fun _ => True) value := by
  refine .of_reads (begins_described _ _ _ _) fun rest follows => ?_
  obtain ⟨description?, symbol, directives⟩ := value
  have readsDirectives := reads_directives readable.directives follows
  have readsSymbol : Reads
      (do
        let token ← peek
        if token.lexeme.value?.any Text.Name.isReserved then
          throw ⟨.enumValueReserved token.lexeme, token.start⟩
        let symbol ← name
        return EnumValueDefinition.mk description? symbol (← Parser.directives true))
      (.name symbol :: (directiveLexemes directives ++ rest)) ⟨description?, symbol, directives⟩
      rest := by
    refine .bind (reads_peek _) (.ite_false ?_ ?_)
    · simpa [firstToken, Lexeme.value?] using readable.notReserved
    · exact .bind (reads_name _ _) (.bind readsDirectives (.pure _ _))
  simp only [EnumValueDefinition.lexemes, List.cons_append, List.append_assoc]
  exact .bind (reads_description _ _ _) readsSymbol

theorem settles_rootType (root : RootType) :
    Settles .braceR [] rootType RootType.lexemes (fun _ => True) root :=
  .of_reads (by simp [Begins, RootType.lexemes]) fun _ _ =>
    .bind (reads_operationKind _ _) (.bind (reads_expect _ _) (.bind (reads_name _ _) (.pure _ _)))

/-! ## Types -/

theorem reads_interfaces
    (interfaces : List String)
    {rest : List Lexeme}
    (notAmp : Avoids [.amp] rest)
    (notImplements : rest.head? ≠ some (.name "implements")) :
    Reads Parser.interfaces (interfaceLexemes interfaces ++ rest) interfaces rest := by
  by_cases empty : interfaces = []
  · subst empty
    exact .bind (reads_optionalKeyword_of_ne notImplements) (.pure _ _)
  · have reads := reads_delimited (fun word _ => reads_name word) empty notAmp
    rw [interfaceLexemes, if_neg (by simpa using empty)]
    exact .bind (reads_optionalKeyword _ _) reads

/-- The rest of a type definition is read after its keyword. -/
theorem reads_typeDefinition
    {definition : TypeDefinition}
    (formed : definition.Formed)
    {rest : List Lexeme}
    (ends : definition.body.EndsBefore rest) :
    Reads (typeDefinition definition.body.keyword) (definition.lexemes.tail ++ rest) definition
      rest := by
  obtain ⟨name, directives, body⟩ := definition
  obtain ⟨directed, formed⟩ := formed
  have readsApplied {rest : List Lexeme} (follows : Follows rest) :=
    reads_directives directed follows.avoids_atSign
  cases body with
  | scalar => exact .bind (reads_name _ _) (.bind (readsApplied ends) (.pure _ _))
  | object interfaces fields | interface interfaces fields =>
    have follows := follows_inBraces FieldDefinition.lexemes ends
    obtain ⟨notAmp, notImplements⟩ := follows.directives directives
    have readsInterfaces := reads_interfaces interfaces notAmp notImplements
    have readsFields := reads_optionalBraces (by simp)
      (fun field present => settles_fieldDefinition (formed field present)) ends
    simp only [TypeDefinition.lexemes, List.tail_cons, List.cons_append, List.append_assoc]
    exact .bind (reads_name _ _) (.bind readsInterfaces (.bind (readsApplied follows)
      (.bind readsFields (.pure _ _))))
  | union members =>
    cases members with
    | nil =>
      have notEquals : Avoids [.equals] rest := ends.avoids.mono (by simp)
      have readsNone := reads_optional_of_avoids notEquals
      simp only [TypeDefinition.lexemes, List.tail_cons, List.isEmpty_nil, if_true,
        List.append_nil, List.cons_append]
      exact .bind (reads_name _ _) (.bind (readsApplied ends) (.bind readsNone
        (.bind (.pure _ _) (.pure _ _))))
    | cons member members =>
      have notPipe : Avoids [.pipe] rest := ends.avoids.mono (by simp)
      have readsMembers := reads_delimited (fun word _ => reads_name word)
        (List.cons_ne_nil member members) notPipe
      have readsMarked := reads_directives directed ((Avoids.punctuator_cons_iff [.atSign, .parenL]
        .equals (delimitedNames .pipe (member :: members) ++ rest)).mpr (by simp))
      simp only [TypeDefinition.lexemes, List.tail_cons, List.isEmpty_cons, if_neg,
        List.cons_append, List.append_assoc, Bool.false_eq_true, not_false_eq_true]
      exact .bind (reads_name _ _) (.bind readsMarked (.bind (reads_optional _ _)
        (.bind readsMembers (.pure _ _))))
  | enum values =>
    have follows := follows_inBraces EnumValueDefinition.lexemes ends
    have readsValues := reads_optionalBraces (by simp)
      (fun value present => settles_enumValueDefinition (formed value present)) ends
    simp only [TypeDefinition.lexemes, List.tail_cons, List.cons_append, List.append_assoc]
    exact .bind (reads_name _ _) (.bind (readsApplied follows) (.bind readsValues (.pure _ _)))
  | input fields =>
    have follows := follows_inBraces InputValue.lexemes ends
    have readsFields := reads_optionalBraces (by simp)
      (fun field present => settles_inputValue .braceR (formed field present)) ends
    simp only [TypeDefinition.lexemes, List.tail_cons, List.cons_append, List.append_assoc]
    exact .bind (reads_name _ _) (.bind (readsApplied follows) (.bind readsFields (.pure _ _)))

theorem reads_directiveDefinition
    {definition : DirectiveDefinition}
    (formed : definition.Formed)
    {rest : List Lexeme}
    (follows : Follows rest) :
    Reads directiveDefinition (definition.lexemes.tail ++ rest) definition rest := by
  obtain ⟨name, given, repeatable, locations⟩ := definition
  obtain ⟨readable, located, known⟩ := formed
  have readsLocation : ∀ word ∈ locations, ∀ rest,
      Reads directiveLocation (.name word :: rest) word rest :=
    fun word present _ => .bind (reads_peek _) (.bind (reads_name _ _)
      (.ite_true (known word present) (.pure _ _)))
  have notPipe : Avoids [.pipe] rest := follows.avoids.mono (by simp)
  have readsLocations := reads_delimited readsLocation located notPipe
  have readsParameters {rest : List Lexeme} (notParen : Avoids [.parenL] rest) :
      Reads parameters (inParentheses InputValue.lexemes given ++ rest) given rest :=
    reads_inParentheses (by simp)
      (fun parameter present => settles_inputValue .parenR (readable parameter present))
      (by simp) notParen
  simp only [DirectiveDefinition.lexemes, List.tail_cons, List.cons_append, List.append_assoc]
  refine .bind (reads_expect _ _) (.bind (reads_name _ _) ?_)
  cases repeatable with
  | false =>
    exact .bind (readsParameters (by simp)) (.bind (reads_optionalKeyword_of_ne (by simp))
      (.bind (reads_keyword _ _) (.bind readsLocations (.pure _ _))))
  | true =>
    exact .bind (readsParameters (by simp)) (.bind (reads_optionalKeyword _ _)
      (.bind (reads_keyword _ _) (.bind readsLocations (.pure _ _))))

/-! ## Definitions -/

/-- A keyword of type systems introduces a definition, with or without a description in
front of it. -/
theorem run_definition_of_typeSystem
    (description? : Option Description)
    {word : String}
    (isKeyword : isTypeSystemKeyword word = true)
    (rest : List Lexeme) :
    StateT.run definition (.of (descriptionLexemes description? ++ .name word :: rest)) =
      StateT.run (typeSystemDefinition word)
        (.of (descriptionLexemes description? ++ .name word :: rest)) := by
  have isIntroduced (first : Token) :
      introduced first ⟨.name word, 0⟩ = typeSystemDefinition word := if_pos isKeyword
  rw [definition_eq, StateT.run_bind, run_peek]
  cases description? with
  | none =>
    rw [← isIntroduced ⟨.name word, 0⟩]
    rfl
  | some description =>
    obtain ⟨text, block⟩ := description
    cases block with
    | false =>
      rw [← isIntroduced ⟨.string text, 0⟩]
      rfl
    | true =>
      rw [← isIntroduced ⟨.blockString text, 0⟩]
      rfl

/-- An extension is introduced by its keyword. -/
theorem run_definition_of_extension (rest : List Lexeme) :
    StateT.run definition (.of (.name "extend" :: rest)) =
      StateT.run extension (.of (.name "extend" :: rest)) := by
  rw [definition_eq, StateT.run_bind, run_peek]
  rfl

/-- What the definition of a type is introduced by is a keyword of type systems. -/
theorem isTypeKeyword_keyword (body : TypeBody) : isTypeKeyword body.keyword = true := by
  cases body <;> rfl

theorem keyword_ne_schema (body : TypeBody) : body.keyword ≠ "schema" := by
  cases body <;> simp [TypeBody.keyword]

theorem isTypeSystemKeyword_keyword (body : TypeBody) :
    isTypeSystemKeyword body.keyword = true := by
  simp [isTypeSystemKeyword, isTypeKeyword_keyword]

theorem reads_type
    (description? : Option Description)
    {definition : TypeDefinition}
    (formed : definition.Formed)
    {rest : List Lexeme}
    (ends : definition.body.EndsBefore rest) :
    Reads Parser.definition ((Definition.type description? definition).lexemes ++ rest)
      (.type description? definition) rest := by
  have notDirective : definition.body.keyword ≠ "directive" := by
    cases definition.body <;> simp [TypeBody.keyword]
  have reads : Reads (typeSystemDefinition definition.body.keyword)
      (descriptionLexemes description? ++ .name definition.body.keyword ::
        (definition.lexemes.tail ++ rest)) (.type description? definition) rest :=
    .bind (reads_description _ _ _) (.bind (reads_keyword _ _)
      (.ite_false (keyword_ne_schema _) (.ite_false notDirective
        (.bind (reads_typeDefinition formed ends) (.pure _ _)))))
  rw [Definition.lexemes, List.append_assoc]
  exact (run_definition_of_typeSystem description? (isTypeSystemKeyword_keyword _) _).trans reads

theorem reads_schema
    (description? : Option Description)
    {directives : List Directive}
    (directed : ∀ directive ∈ directives, directive.Readable true)
    {roots : List RootType}
    (nonempty : roots ≠ [])
    (rest : List Lexeme) :
    Reads Parser.definition ((Definition.schema description? directives roots).lexemes ++ rest)
      (.schema description? directives roots) rest := by
  have readsRoots := reads_braces (by simp) (fun root _ => settles_rootType root) nonempty rest
  have follows : Follows (inBraces RootType.lexemes roots ++ rest) :=
    follows_inBraces _ fun empty => absurd empty nonempty
  have readsDirectives := reads_directives directed follows.avoids_atSign
  have reads : Reads (typeSystemDefinition "schema")
      (descriptionLexemes description? ++ .name "schema" ::
        (directiveLexemes directives ++ (inBraces RootType.lexemes roots ++ rest)))
      (.schema description? directives roots) rest :=
    .bind (reads_description _ _ _) (.bind (reads_keyword _ _)
      (.bind readsDirectives (.bind readsRoots (.pure _ _))))
  simp only [Definition.lexemes, List.append_assoc, List.cons_append]
  exact (run_definition_of_typeSystem description? rfl _).trans reads

theorem reads_directive
    (description? : Option Description)
    {definition : DirectiveDefinition}
    (formed : definition.Formed)
    {rest : List Lexeme}
    (follows : Follows rest) :
    Reads Parser.definition ((Definition.directive description? definition).lexemes ++ rest)
      (.directive description? definition) rest := by
  have reads : Reads (typeSystemDefinition "directive")
      (descriptionLexemes description? ++ .name "directive" ::
        (definition.lexemes.tail ++ rest)) (.directive description? definition) rest :=
    .bind (reads_description _ _ _) (.bind (reads_keyword _ _)
      (.bind (reads_directiveDefinition formed follows) (.pure _ _)))
  rw [Definition.lexemes, List.append_assoc]
  exact (run_definition_of_typeSystem description? rfl _).trans reads

/-! ## Extensions -/

theorem reads_lookahead (first second : Lexeme) (rest : List Lexeme) :
    Reads lookahead (first :: second :: rest) ⟨second, 0⟩ (first :: second :: rest) := by
  cases rest <;> rfl

theorem reads_typeExtension
    {extension : TypeDefinition}
    (formed : extension.Formed)
    (holds : (extension.directives.isEmpty && extension.body.isEmpty) = false)
    {rest : List Lexeme}
    (ends : extension.body.EndsBefore rest) :
    Reads Parser.definition ((Definition.typeExtension extension).lexemes ++ rest)
      (.typeExtension extension) rest := by
  have reads : Reads Parser.extension
      (.name "extend" :: .name extension.body.keyword :: (extension.lexemes.tail ++ rest))
      (.typeExtension extension) rest := by
    refine .bind (reads_lookahead _ _ _) (.ite_false (keyword_ne_schema _)
      (.ite_true (isTypeKeyword_keyword _) (.bind (reads_next _ _) (.bind (reads_next _ _)
        (.bind (reads_typeDefinition formed ends) ?_)))))
    exact .ite_false (by simp [holds]) (.pure _ _)
  exact (run_definition_of_extension _).trans reads

theorem reads_schemaExtension
    {directives : List Directive}
    (directed : ∀ directive ∈ directives, directive.Readable true)
    {roots : List RootType}
    (holds : (directives.isEmpty && roots.isEmpty) = false)
    {rest : List Lexeme}
    (ends : roots = [] → FollowsOpen rest) :
    Reads Parser.definition ((Definition.schemaExtension directives roots).lexemes ++ rest)
      (.schemaExtension directives roots) rest := by
  have readsRoots := reads_optionalBraces (by simp) (fun root _ => settles_rootType root) ends
  have readsDirectives := reads_directives directed
    (follows_inBraces RootType.lexemes ends).avoids_atSign
  have reads : Reads Parser.extension
      (.name "extend" :: .name "schema" ::
        (directiveLexemes directives ++ (inBraces RootType.lexemes roots ++ rest)))
      (.schemaExtension directives roots) rest := by
    refine .bind (reads_lookahead _ _ _) (.ite_true rfl (.bind (reads_next _ _)
      (.bind (reads_next _ _) (.bind readsDirectives (.bind readsRoots ?_)))))
    exact .ite_false (by simp [holds]) (.pure _ _)
  simp only [Definition.lexemes, List.append_assoc, List.cons_append]
  exact (run_definition_of_extension _).trans reads

/-! ## Types that are read by themselves -/

/-- The definition of a type that can be read back is read by itself. -/
theorem readsAlone_type
    (description? : Option Description)
    {definition : TypeDefinition}
    (readable : definition.Readable) :
    ReadsAlone (.type description? definition) where
  begins := by
    cases description? with
    | none => exact ⟨_, _, rfl, by simp⟩
    | some description =>
      obtain ⟨text, block⟩ := description
      cases block <;> exact ⟨_, _, rfl, by simp⟩
  reads := fun rest => reads_type description? readable.formed (readable.endsBefore rest)

end Parser
end Source
end GraphQL
