import GraphQL.Proofs.Source.Canonical.Operation

/-!
# Documents are told by their canonical texts

A definition stands behind its description and, if it extends another one, behind a word of
its own.  What is left opens with a word that tells what kind of definition it is, or with a
brace, and what follows the word tells the rest.  So no two documents that can be read have
the same canonical text.
-/

namespace GraphQL
namespace Source
namespace Canonical

open Text Layout

/-! ## What is defined -/

/-- What a definition defines or extends, without its description. -/
inductive Body
  | operation (kind : OperationKind) (name? : Option String)
      (declared : List VariableDefinition) (directives : List Directive)
      (selections : List Selection)
  | fragment (name condition : String) (directives : List Directive)
      (selections : List Selection)
  | schema (directives : List Directive) (roots : List RootType)
  | type (definition : TypeDefinition)
  | directive (definition : DirectiveDefinition)

/-- The parts of a definition: its description, whether it extends another one, and what it
defines. -/
def definitionParts : Definition → Option Description × Bool × Body
  | .operation kind name? declared directives selections =>
    (none, false, .operation kind name? declared directives selections)
  | .fragment name condition directives selections =>
    (none, false, .fragment name condition directives selections)
  | .schema description? directives roots => (description?, false, .schema directives roots)
  | .schemaExtension directives roots => (none, true, .schema directives roots)
  | .type description? definition => (description?, false, .type definition)
  | .typeExtension extension => (none, true, .type extension)
  | .directive description? definition => (description?, false, .directive definition)

theorem definitionParts_injective : Function.Injective definitionParts := by
  intro definition other same
  cases definition
  all_goals
    cases other
    all_goals cases same
  all_goals rfl

/-- A fragment behind its keyword. -/
def fragmentText : String × String × List Directive × List Selection → List Char :=
  fun fragment => [' '] ++ inTurn String.toList
    (fun conditional => " on ".toList ++ inTurn String.toList selectingText conditional) fragment

namespace Body

/-- The word that the text opens with, if there is one. -/
def word : Body → String
  | operation kind name? declared directives _ =>
    if isShorthand kind name? declared directives then "" else kind.text
  | fragment .. => "fragment"
  | schema .. => "schema"
  | type definition => definition.body.keyword
  | directive _ => "directive"

/-- The text behind the word. -/
def rest : Body → List Char
  | operation kind name? declared directives selections =>
    if isShorthand kind name? declared directives then
      opened ['\x7b', '\n', ' ', ' '] selectionLines selections
    else operationText ((name?, declared), directives, selections)
  | fragment name condition directives selections =>
    fragmentText (name, condition, directives, selections)
  | schema directives roots => holderText (chars RootType.print) (directives, roots)
  | type definition => namedText definition
  | directive definition => locatedText definition

/-- The text of what is defined. -/
def text (body : Body) : List Char :=
  body.word.toList ++ body.rest

/-- What is defined is drawn from genuine lexemes, and there are selections wherever they
are wanted. -/
def Good : Body → Prop
  | operation _ name? declared directives selections =>
    GoodSignature (name?, declared) ∧ GoodDirectives directives ∧ selections ≠ [] ∧
      GoodSelections selections
  | fragment name condition directives selections =>
    Lexeme.Genuine (.name name) ∧ Lexeme.Genuine (.name condition) ∧
      GoodDirectives directives ∧ selections ≠ [] ∧ GoodSelections selections
  | schema directives roots =>
    GoodDirectives directives ∧ ∀ root ∈ roots, root.Drawn Lexeme.Genuine
  | type definition => definition.Drawn Lexeme.Genuine
  | directive definition => definition.Drawn Lexeme.Genuine

end Body

theorem good_definition
    {definition : Definition}
    (drawn : definition.Drawn Lexeme.Genuine) :
    Both GoodDescription (Both (fun _ => True) Body.Good) (definitionParts definition) := by
  cases definition with
  | operation =>
    obtain ⟨named, declared, applied, notEmpty, selected⟩ := drawn
    exact ⟨nofun, trivial, ⟨named, declared⟩, applied, notEmpty, selected⟩
  | fragment => exact ⟨nofun, trivial, drawn⟩
  | schema => exact ⟨drawn.1, trivial, drawn.2⟩
  | schemaExtension => exact ⟨nofun, trivial, drawn⟩
  | type => exact ⟨drawn.1, trivial, drawn.2⟩
  | typeExtension => exact ⟨nofun, trivial, drawn⟩
  | directive => exact ⟨drawn.1, trivial, drawn.2⟩

theorem toList_selections
    {selections : List Selection}
    (drawn : GoodSelections selections) :
    (block (Selection.printAll selections)).toList =
      opened ['\x7b', '\n', ' ', ' '] selectionLines selections := by
  rw [printAll_eq_map, toList_block fun selection present =>
    chars_selection_ne_nil (drawn selection present)]
  rfl

theorem opened_selections
    {selections : List Selection}
    (notEmpty : selections ≠ []) :
    ' ' :: opened ['\x7b', '\n', ' ', ' '] selectionLines selections =
      blockText (chars Selection.print) selections := by
  cases selections with
  | nil => exact absurd rfl notEmpty
  | cons selection selections => rfl

theorem toList_operation
    {name? : Option String}
    {declared : List VariableDefinition}
    {directives : List Directive}
    {selections : List Selection}
    (kind : OperationKind)
    (isGood : (Body.operation kind name? declared directives selections).Good) :
    (Definition.operation kind name? declared directives selections).print.toList =
      (Body.operation kind name? declared directives selections).text := by
  obtain ⟨⟨named, given⟩, applied, notEmpty, drawn⟩ := isGood
  have shorthand := operationHead_eq_query_iff named given kind directives
  have inBlock := toList_selections drawn
  unfold Definition.print
  simp only [String.toList_append, inBlock, Body.text, Body.word, Body.rest, shorthand]
  split
  case isTrue => rfl
  case isFalse =>
    rw [String.toList_append, toList_operationHead named given]
    simp only [List.append_assoc, operationText, selectingText, holderText, inTurn]
    rw [← opened_selections notEmpty]
    rfl

theorem toList_fragment
    {name condition : String}
    {directives : List Directive}
    {selections : List Selection}
    (isGood : (Body.fragment name condition directives selections).Good) :
    (Definition.fragment name condition directives selections).print.toList =
      (Body.fragment name condition directives selections).text := by
  obtain ⟨-, -, -, notEmpty, drawn⟩ := isGood
  have applied : " ".toList ++ (wrap "" (Directive.printAll directives) " ").toList =
      pieces [' ', '@'] directiveText directives ++ [' '] := by
    rw [← toList_wrap_directives, toList_wrap, toList_wrap]
    split
    case isTrue => rfl
    case isFalse => simp
  unfold Definition.print
  simp only [String.toList_append, toList_selections drawn]
  rw [List.append_assoc _ " ".toList, applied]
  simp only [Body.text, Body.word, Body.rest, fragmentText, selectingText, holderText, inTurn,
    List.append_assoc, ← opened_selections notEmpty]
  rfl

theorem notEmpty_root (root : RootType) : chars RootType.print root ≠ [] := by
  simp [chars, RootType.print]

theorem follows_roots
    {directives : List Directive}
    {roots : List RootType}
    (applied : GoodDirectives directives)
    (drawn : ∀ root ∈ roots, root.Drawn Lexeme.Genuine) :
    Follows holderOpens (holderText (chars RootType.print))
      (Both GoodDirectives fun roots => ∀ root ∈ roots, root.Drawn Lexeme.Genuine)
      definitionEnds (directives, roots) :=
  follows_holder applied (fun root present => told_rootType (drawn root present)) drawn
    fun root _ => notEmpty_root root

theorem toList_schema (directives : List Directive) (roots : List RootType)
    {introduction : String}
    (notEmpty : introduction.toList ≠ []) :
    (join " " [introduction, Directive.printAll directives,
        block (roots.map RootType.print)]).toList =
      introduction.toList ++ (Body.schema directives roots).rest := by
  have inBlock := toList_wrap_block_of fun root (_ : root ∈ roots) => notEmpty_root root
  rw [toList_join_cons notEmpty]
  simp only [List.flatMap_cons, List.flatMap_nil, toList_wrap_directives, inBlock,
    List.append_nil, Body.rest, holderText, inTurn]

/-- The words that stand before the name of a type. -/
def typeWords : List String :=
  ["scalar", "type", "interface", "union", "enum", "input"]

theorem keyword_mem_typeWords (body : TypeBody) : body.keyword ∈ typeWords := by
  cases body
  all_goals simp [typeWords, TypeBody.keyword]

theorem isWord_keyword (body : TypeBody) : IsWord body.keyword.toList := by
  have areNames : ∀ word ∈ typeWords, Name.IsName word := by decide
  exact isWord_of_isName (areNames _ (keyword_mem_typeWords body))

/-- A definition is its description, the word for an extension, and what it defines. -/
theorem chars_definition
    {definition : Definition}
    (drawn : definition.Drawn Lexeme.Genuine) :
    chars Definition.print definition =
      describedText (inTurn (flag "extend ".toList) Body.text) (definitionParts definition) := by
  obtain ⟨-, -, isGood⟩ := good_definition drawn
  rw [chars, describedText, inTurn]
  cases definition with
  | operation kind => exact toList_operation kind isGood
  | fragment => exact toList_fragment isGood
  | schema description? directives roots =>
    unfold Definition.print
    rw [String.toList_append, toList_schema _ _ (by decide)]
    simp [definitionParts, Body.text, Body.word]
  | schemaExtension directives roots =>
    unfold Definition.print
    rw [toList_schema _ _ (by decide)]
    simp [definitionParts, Body.text, Body.word, Description.printBefore]
  | type description? definition =>
    unfold Definition.print
    rw [String.toList_append, toList_printAfter (isWord_keyword _).notEmpty isGood]
    simp [definitionParts, Body.text, Body.word, Body.rest]
  | typeExtension extension =>
    unfold Definition.print
    rw [toList_printAfter (by simp) isGood]
    simp [definitionParts, Body.text, Body.word, Body.rest, Description.printBefore]
  | directive description? definition =>
    unfold Definition.print
    rw [String.toList_append, toList_directiveDefinition isGood]
    simp [definitionParts, Body.text, Body.word, Body.rest]

/-! ## How definitions open -/

/-- The texts that may open what is defined. -/
def bodyWords : List (List Char) :=
  (["\x7b", "query", "mutation", "subscription", "fragment", "schema", "directive"] ++
    typeWords).map String.toList

/-- The kinds of definition, by the words that they open with. -/
inductive Branch
  | operation
  | fragment
  | schema
  | type
  | directive

/-- The kind of definition that a word stands for. -/
def branchOf (word : String) : Branch :=
  if word = "fragment" then .fragment
  else if word = "schema" then .schema
  else if word = "directive" then .directive
  else if word ∈ typeWords then .type
  else .operation

namespace Body

/-- The kind of what is defined. -/
def branch : Body → Branch
  | operation .. => .operation
  | fragment .. => .fragment
  | schema .. => .schema
  | type _ => .type
  | directive _ => .directive

end Body

theorem branchOf_word (body : Body) : branchOf body.word = body.branch := by
  cases body with
  | operation kind name? declared directives selections =>
    simp only [Body.word, Body.branch]
    split
    case isTrue => rfl
    case isFalse => cases kind <;> rfl
  | type definition =>
    simp only [Body.word, Body.branch]
    cases definition.body <;> rfl
  | fragment | schema | directive => rfl

/-- What is defined opens with one of the words, or with a brace. -/
theorem exists_bodyWord
    {body : Body}
    (isGood : body.Good) :
    ∃ word ∈ bodyWords, word <+: body.text := by
  have ofWord (known : body.word.toList ∈ bodyWords) : ∃ word ∈ bodyWords, word <+: body.text :=
    ⟨_, known, List.prefix_append _ _⟩
  cases body with
  | operation kind name? declared directives selections =>
    obtain ⟨-, -, notEmpty, -⟩ := isGood
    by_cases shorthand : isShorthand kind name? declared directives = true
    · obtain ⟨selection, selections, rfl⟩ := List.exists_cons_of_ne_nil notEmpty
      refine ⟨['\x7b'], by decide, ?_⟩
      rw [Body.text, Body.word, Body.rest, if_pos shorthand, if_pos shorthand]
      exact List.prefix_append _ _
    · refine ofWord ?_
      rw [Body.word, if_neg shorthand]
      cases kind <;> decide
  | type definition =>
    refine ofWord ?_
    exact List.mem_map_of_mem (List.mem_append_right _ (keyword_mem_typeWords definition.body))
  | fragment => exact ofWord (show "fragment".toList ∈ bodyWords by decide)
  | schema => exact ofWord (show "schema".toList ∈ bodyWords by decide)
  | directive => exact ofWord (show "directive".toList ∈ bodyWords by decide)

/-- What follows the word does not carry it on. -/
theorem starts_rest
    {body : Body}
    (isGood : body.Good)
    {rest : List Char}
    (starts : Starts definitionEnds rest) :
    Starts [['\x7b'], [' '], ['\n']] (body.rest ++ rest) := by
  cases body with
  | operation kind name? declared directives selections =>
    obtain ⟨isGood, applied, notEmpty, drawn⟩ := isGood
    rw [Body.rest]
    split
    case isTrue =>
      obtain ⟨selection, selections, rfl⟩ := List.exists_cons_of_ne_nil notEmpty
      exact starts_append List.mem_cons_self _
    case isFalse =>
      have follows : Follows bodyOpens operationText _ definitionEnds
          ((name?, declared), directives, selections) :=
        follows_operation isGood applied drawn
      exact (follows.starts starts).mono rfl
  | schema directives roots =>
    exact ((follows_roots isGood.1 isGood.2).starts starts).mono rfl
  | fragment | type | directive => exact .inr ⟨[' '], by decide, _, rfl⟩

theorem kindText_ne_nil (kind : OperationKind) : kind.text ≠ "" := by
  cases kind <;> decide

/-- An operation is told by what follows its word, given the word. -/
theorem operation_of_rest
    {kind otherKind : OperationKind}
    {name? otherName? : Option String}
    {declared others : List VariableDefinition}
    {directives otherDirectives : List Directive}
    {selections otherSelections : List Selection}
    (isGood : (Body.operation kind name? declared directives selections).Good)
    (isGoodToo : (Body.operation otherKind otherName? others otherDirectives otherSelections).Good)
    (sameWord : (Body.operation otherKind otherName? others otherDirectives otherSelections).word =
      (Body.operation kind name? declared directives selections).word)
    {rest left : List Char}
    (starts : Starts definitionEnds rest)
    (startsLeft : Starts definitionEnds left)
    (same : (Body.operation kind name? declared directives selections).rest ++ rest =
      (Body.operation otherKind otherName? others otherDirectives otherSelections).rest ++ left) :
    Body.operation kind name? declared directives selections =
        .operation otherKind otherName? others otherDirectives otherSelections ∧
      rest = left := by
  obtain ⟨signed, applied, -, drawn⟩ := isGood
  obtain ⟨signedToo, appliedToo, -, drawnToo⟩ := isGoodToo
  -- A word that is left out stands for a query with selections only, any other for its kind.
  by_cases shorthand : isShorthand kind name? declared directives = true
  all_goals
    by_cases shorthandToo : isShorthand otherKind otherName? others otherDirectives = true
    all_goals
      simp only [Body.word, Body.rest, if_pos, shorthand, shorthandToo] at sameWord same
  · obtain ⟨rfl, rfl, rfl, rfl⟩ := isShorthand_iff.mp shorthand
    obtain ⟨rfl, rfl, rfl, rfl⟩ := isShorthand_iff.mp shorthandToo
    have told : Told (opened ['\x7b', '\n', ' ', ' '] selectionLines) GoodSelections definitionEnds
        selections :=
      told_opened (told_selections drawn definitionEnds) rfl
    obtain ⟨rfl, sameRest⟩ := told drawnToo starts startsLeft same
    exact ⟨rfl, sameRest⟩
  · exact absurd sameWord (kindText_ne_nil _)
  · exact absurd sameWord.symm (kindText_ne_nil _)
  · obtain rfl := kindText_injective sameWord
    have follows : Follows bodyOpens operationText _ definitionEnds
        ((name?, declared), directives, selections) :=
      follows_operation signed applied drawn
    obtain ⟨sameParts, sameRest⟩ :=
      @follows.told ((otherName?, others), otherDirectives, otherSelections) rest left
        ⟨signedToo, appliedToo, drawnToo⟩ starts startsLeft same
    cases sameParts
    exact ⟨rfl, sameRest⟩

theorem told_fragment
    {name condition : String}
    {directives : List Directive}
    {selections : List Selection}
    (named : Lexeme.Genuine (.name name))
    (conditional : Lexeme.Genuine (.name condition))
    (applied : GoodDirectives directives)
    (drawn : GoodSelections selections) :
    Told fragmentText
      (Both (fun name => Lexeme.Genuine (.name name)) <|
        Both (fun name => Lexeme.Genuine (.name name)) <| Both GoodDirectives GoodSelections)
      definitionEnds (name, condition, directives, selections) := by
  have toldCondition : Told (inTurn String.toList selectingText) _ definitionEnds
      (condition, directives, selections) :=
    (told_name rfl conditional).inTurn (follows_selecting applied drawn)
  exact ((told_name rfl named).inTurn
    (follows_marked " on ".toList toldCondition ⟨conditional, applied, drawn⟩)).marked [' ']

/-- What follows the word is told by its text, given the word. -/
theorem told_rest
    {body : Body}
    (isGood : body.Good) :
    Told Body.rest (fun other => other.Good ∧ other.word = body.word) definitionEnds body := by
  rintro other rest left ⟨isGoodToo, sameWord⟩ starts startsLeft same
  have sameBranch := congrArg branchOf sameWord
  rw [branchOf_word, branchOf_word] at sameBranch
  cases body
  all_goals
    cases other
    all_goals simp only [Body.branch, reduceCtorEq] at sameBranch
  case operation.operation =>
    exact operation_of_rest isGood isGoodToo sameWord starts startsLeft same
  case fragment.fragment name condition directives selections otherName otherCondition
      otherDirectives otherSelections =>
    obtain ⟨named, conditional, applied, -, drawn⟩ := isGood
    obtain ⟨namedToo, conditionalToo, appliedToo, -, drawnToo⟩ := isGoodToo
    have told := told_fragment named conditional applied drawn
    obtain ⟨sameParts, sameRest⟩ :=
      @told (otherName, otherCondition, otherDirectives, otherSelections) rest left
        ⟨namedToo, conditionalToo, appliedToo, drawnToo⟩ starts startsLeft same
    cases sameParts
    exact ⟨rfl, sameRest⟩
  case schema.schema =>
    exact (follows_roots isGood.1 isGood.2).told.made
      (fun parts => Body.schema parts.1 parts.2)
      (follows_roots isGoodToo.1 isGoodToo.2).isGood starts startsLeft same
  case type.type =>
    exact (told_namedText ⟨isGood, rfl⟩).made Body.type ⟨isGoodToo, sameWord⟩ starts startsLeft same
  case directive.directive =>
    exact (told_locatedText isGood).made Body.directive isGoodToo starts startsLeft same

/-- Nothing in the word ends it. -/
theorem word_chars (body : Body) : ∀ c ∈ body.word.toList, isWordChar c = true := by
  cases body with
  | operation kind name? declared directives selections =>
    rw [Body.word]
    split
    case isTrue => nofun
    case isFalse => exact (isWord_kindText kind).chars
  | type definition => exact (isWord_keyword definition.body).chars
  | fragment => exact (isWord_of_isName (show Name.IsName "fragment" by decide)).chars
  | schema => exact (isWord_of_isName (show Name.IsName "schema" by decide)).chars
  | directive => exact (isWord_of_isName (show Name.IsName "directive" by decide)).chars

/-- What is defined is told by its text. -/
theorem told_body
    {body : Body}
    (isGood : body.Good) :
    Told Body.text Body.Good definitionEnds body := by
  intro other rest left isGoodToo starts startsLeft same
  simp only [Body.text, List.append_assoc] at same
  -- Neither rest carries on the word before it, so the words end at the same place.
  have sameWord : body.word.toList = other.word.toList := by
    rw [← takeWhile_word (word_chars body) ((starts_rest isGood starts).endsWord rfl), same,
      takeWhile_word (word_chars other) ((starts_rest isGoodToo startsLeft).endsWord rfl)]
  rw [sameWord] at same
  exact told_rest isGood ⟨isGoodToo, (String.toList_inj.mp sameWord).symm⟩ starts startsLeft
    (List.append_cancel_left same)

/-! ## Definitions and documents -/

/-- What is defined, perhaps behind the word for an extension. -/
def extendedText : Bool × Body → List Char :=
  inTurn (flag "extend ".toList) Body.text

theorem follows_extended
    {extended : Bool × Body}
    (isGood : extended.2.Good) :
    Follows ("extend ".toList :: bodyWords) extendedText (Both (fun _ => True) Body.Good)
      definitionEnds extended := by
  refine (follows_flag "extend ".toList rfl extended.1).inTurn ⟨told_body isGood, isGood, ?_⟩
  intro body rest isGood _
  obtain ⟨word, present, isPrefix⟩ := exists_bodyWord isGood
  exact .inr ⟨word, present, isPrefix.trans (List.prefix_append _ _)⟩

theorem exists_extendedWord
    {extended : Bool × Body}
    (isGood : extended.2.Good) :
    ∃ word ∈ "extend ".toList :: bodyWords, word <+: extendedText extended := by
  obtain ⟨isExtension, body⟩ := extended
  cases isExtension with
  | false =>
    obtain ⟨word, present, isPrefix⟩ := exists_bodyWord isGood
    exact ⟨word, List.mem_cons_of_mem _ present, isPrefix⟩
  | true => exact ⟨_, List.mem_cons_self, List.prefix_append _ _⟩

/-- No definition opens with a quote, apart from its description. -/
theorem extended_ne_quote
    (extended : Bool × Body)
    (isGood : Both (fun _ => True) Body.Good extended)
    (rest more : List Char) :
    extendedText extended ++ rest ≠ '"' :: more := by
  intro same
  obtain ⟨word, present, isPrefix⟩ := exists_extendedWord isGood.2
  have starts : Starts ("extend ".toList :: bodyWords) (extendedText extended ++ rest) :=
    .inr ⟨word, present, isPrefix.trans (List.prefix_append _ _)⟩
  have apart : ("extend ".toList :: bodyWords).all
      (fun mark => mark.head?.any fun c => !decide (c = '"')) = true := by
    decide
  rw [same] at starts
  exact not_starts_of_head apart rfl more starts

theorem told_definition
    {definition : Definition}
    (drawn : definition.Drawn Lexeme.Genuine) :
    Told (chars Definition.print) (Definition.Drawn Lexeme.Genuine) definitionEnds definition := by
  obtain ⟨described, isGood⟩ := good_definition drawn
  exact (told_described described isGood (follows_extended isGood.2).told
    extended_ne_quote).of_parts drawn definitionParts_injective (fun _ => chars_definition)
    (fun _ => good_definition)

theorem chars_definition_ne_nil
    {definition : Definition}
    (drawn : definition.Drawn Lexeme.Genuine) :
    chars Definition.print definition ≠ [] := by
  intro isEmpty
  obtain ⟨word, present, isPrefix⟩ := exists_extendedWord (good_definition drawn).2.2
  rw [chars_definition drawn, describedText, List.append_eq_nil_iff] at isEmpty
  rw [show extendedText _ = [] from isEmpty.2, List.prefix_nil] at isPrefix
  rw [isPrefix] at present
  exact absurd present (by decide)

end Canonical

namespace Document

theorem toList_print
    {document : Document}
    (drawn : document.Drawn Lexeme.Genuine) :
    document.print.toList =
      Canonical.listed ['\n', '\n'] (Canonical.chars Definition.print) document.definitions :=
  Canonical.toList_join_map
    (fun definition present => Canonical.chars_definition_ne_nil (drawn definition present)) _

/-- Documents that are drawn from genuine lexemes are told by their canonical texts. -/
theorem eq_of_print_eq
    {document other : Document}
    (drawn : document.Drawn Lexeme.Genuine)
    (drawnToo : other.Drawn Lexeme.Genuine)
    (same : document.print = other.print) :
    document = other := by
  have told : Canonical.Told (Canonical.listed ['\n', '\n'] (Canonical.chars Definition.print))
      (fun definitions => ∀ definition ∈ definitions, definition.Drawn Lexeme.Genuine) []
      document.definitions := by
    refine Canonical.told_listed
      (fun definition present => Canonical.told_definition (drawn definition present)) drawn rfl ?_
    rintro definition drawn more (isEnd | ⟨mark, present, -⟩)
    · exact Canonical.chars_definition_ne_nil drawn (List.append_eq_nil_iff.mp isEnd).1
    · cases present
  have sameText : document.print.toList ++ [] = other.print.toList ++ [] := by rw [same]
  rw [toList_print drawn, toList_print drawnToo] at sameText
  obtain ⟨sameDefinitions, -⟩ :=
    told drawnToo (Canonical.starts_nil []) (Canonical.starts_nil []) sameText
  obtain ⟨definitions⟩ := document
  obtain ⟨others⟩ := other
  rw [show definitions = others from sameDefinitions]

end Document
end Source
end GraphQL
