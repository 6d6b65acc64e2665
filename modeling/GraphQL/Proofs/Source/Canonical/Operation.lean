import GraphQL.Proofs.Source.Canonical.Type

/-!
# Operations and fragments are told by their canonical texts

Behind the keyword of an operation stand its name, its variables, its directives and its
selections.  A query with selections only is written without its keyword, and no other
operation is.
-/

namespace GraphQL
namespace Source
namespace Canonical

open Text Layout

/-! ## What stands behind the keyword -/

/-- The selections are drawn from genuine lexemes. -/
def GoodSelections (selections : List Selection) : Prop :=
  ∀ selection ∈ selections, selection.Drawn Lexeme.Genuine

/-- The variables are drawn from genuine lexemes. -/
def GoodVariables (declared : List VariableDefinition) : Prop :=
  ∀ definition ∈ declared, definition.Drawn Lexeme.Genuine

/-- Directives and selections. -/
def selectingText : List Directive × List Selection → List Char :=
  holderText (chars Selection.print)

/-- Variables between parentheses, behind an opening text. -/
def variablesText (opening : List Char) : List VariableDefinition → List Char :=
  opened opening (rowTo ')' (chars VariableDefinition.print))

/-- The name of an operation and its variables. -/
def signatureText : Option String × List VariableDefinition → List Char
  | (none, declared) => variablesText [' ', '('] declared
  | (some name, declared) => [' '] ++ inTurn String.toList (variablesText ['(']) (name, declared)

/-- The name, if there is one, and the variables are drawn from genuine lexemes. -/
structure GoodSignature (signature : Option String × List VariableDefinition) : Prop where
  /-- The name is genuine. -/
  named : ∀ name ∈ signature.1, Lexeme.Genuine (.name name)
  /-- The variables are drawn from genuine lexemes. -/
  declared : GoodVariables signature.2

theorem opensValue_variable
    (definition : VariableDefinition)
    (drawn : definition.Drawn Lexeme.Genuine) :
    ∃ c cs, chars VariableDefinition.print definition = c :: cs ∧ opensValue c = true := by
  rw [chars_variableDefinition drawn]
  exact ⟨'$', _, rfl, rfl⟩

theorem follows_variables
    {opening : List Char}
    {declared : List VariableDefinition}
    (drawn : GoodVariables declared)
    (apart : isApart opening holderOpens = true) :
    Follows (opening :: holderOpens) (variablesText opening) GoodVariables holderOpens
      declared :=
  follows_opened opening (told_row
    (fun definition present => told_variableDefinition (drawn definition present)) drawn
    opensValue_variable rfl rfl holderOpens) drawn apart

theorem told_namedSignature
    {name : String}
    {declared : List VariableDefinition}
    (named : Lexeme.Genuine (.name name))
    (drawn : GoodVariables declared) :
    Told (inTurn String.toList (variablesText ['(']))
      (Both (fun name => Lexeme.Genuine (.name name)) GoodVariables) holderOpens
      (name, declared) :=
  (told_name rfl named).inTurn (follows_variables drawn rfl)

/-- An operation with a name is not taken for one without. -/
theorem variables_ne_name
    {name : String}
    (named : Lexeme.Genuine (.name name))
    (declared : List VariableDefinition)
    {left : List Char}
    (startsLeft : Starts holderOpens left)
    (rest : List Char) :
    variablesText [' ', '('] declared ++ left ≠ ' ' :: (name.toList ++ rest) := by
  intro same
  -- Behind the space a name opens with a character that no mark goes on with.
  have isWord := isWord_of_isName named
  obtain ⟨c, cs, written⟩ := List.exists_cons_of_ne_nil isWord.notEmpty
  have isChar : isWordChar c = true := isWord.chars c (by simp [written])
  have starts : Starts ([' ', '('] :: holderOpens) (variablesText [' ', '('] declared ++ left) :=
    (opensUnless_opened _ _).leads (fun _ => True) _ trivial startsLeft
  rw [same, written] at starts
  obtain isEnd | ⟨mark, present, isPrefix⟩ := starts
  · cases isEnd
  · have second : mark = ['\n', '\n'] ∨ ∃ d ds, mark = ' ' :: d :: ds ∧ isWordChar d = false := by
      simp only [holderOpens, definitionEnds, List.mem_cons, List.not_mem_nil, or_false] at present
      obtain rfl | rfl | rfl | rfl := present
      · exact .inr ⟨_, _, rfl, rfl⟩
      · exact .inr ⟨_, _, rfl, rfl⟩
      · exact .inr ⟨_, _, rfl, rfl⟩
      · exact .inl rfl
    obtain rfl | ⟨d, ds, rfl, notChar⟩ := second
    · exact absurd (List.cons_prefix_cons.mp isPrefix).1 (by decide)
    · rw [List.cons_append, List.cons_prefix_cons, List.cons_prefix_cons] at isPrefix
      rw [isPrefix.2.1, isChar] at notChar
      cases notChar

/-- The name of an operation and its variables are told by their text. -/
theorem told_signature
    {signature : Option String × List VariableDefinition}
    (isGood : GoodSignature signature) :
    Told signatureText GoodSignature holderOpens signature := by
  obtain ⟨name?, declared⟩ := signature
  rintro ⟨otherName?, others⟩ rest left isGoodToo starts startsLeft same
  obtain ⟨named, drawn⟩ := isGood
  obtain ⟨namedToo, drawnToo⟩ := isGoodToo
  cases name? with
  | none =>
    cases otherName? with
    | none =>
      have follows : Follows ([' ', '('] :: holderOpens) _ _ _ declared :=
        follows_variables drawn rfl
      obtain ⟨sameVariables, sameRest⟩ := follows.told drawnToo starts startsLeft same
      exact ⟨Prod.ext rfl sameVariables, sameRest⟩
    | some other =>
      simp only [signatureText, inTurn, List.append_assoc, List.cons_append,
        List.nil_append] at same
      exact absurd same (variables_ne_name (namedToo other rfl) declared starts _)
  | some name =>
    cases otherName? with
    | none =>
      simp only [signatureText, inTurn, List.append_assoc, List.cons_append,
        List.nil_append] at same
      exact absurd same.symm (variables_ne_name (named name rfl) others startsLeft _)
    | some other =>
      have told := (told_namedSignature (named name rfl) drawn).marked [' ']
      obtain ⟨sameParts, sameRest⟩ :=
        @told (other, others) rest left ⟨namedToo other rfl, drawnToo⟩ starts startsLeft same
      cases sameParts
      exact ⟨rfl, sameRest⟩

theorem follows_signature
    {signature : Option String × List VariableDefinition}
    (isGood : GoodSignature signature) :
    Follows bodyOpens signatureText GoodSignature holderOpens signature := by
  refine ⟨told_signature isGood, isGood, ?_⟩
  rintro ⟨name?, declared⟩ rest - starts
  cases name? with
  | none =>
    have leads : Starts ([' ', '('] :: holderOpens) (signatureText (none, declared) ++ rest) :=
      (opensUnless_opened _ _).leads (fun _ => True) _ trivial starts
    exact leads.mono rfl
  | some name => exact starts_append List.mem_cons_self _

theorem follows_selecting
    {directives : List Directive}
    {selections : List Selection}
    (applied : GoodDirectives directives)
    (drawn : GoodSelections selections) :
    Follows holderOpens selectingText (Both GoodDirectives GoodSelections) definitionEnds
      (directives, selections) :=
  follows_holder applied (fun selection present => told_selection (drawn selection present))
    drawn fun _ => chars_selection_ne_nil

/-! ## Operations -/

/-- What stands behind the keyword of an operation. -/
def operationText :
    (Option String × List VariableDefinition) × List Directive × List Selection → List Char :=
  inTurn signatureText selectingText

theorem follows_operation
    {operation : (Option String × List VariableDefinition) × List Directive × List Selection}
    (isGood : GoodSignature operation.1)
    (applied : GoodDirectives operation.2.1)
    (drawn : GoodSelections operation.2.2) :
    Follows bodyOpens operationText (Both GoodSignature (Both GoodDirectives GoodSelections))
      definitionEnds operation :=
  (follows_signature isGood).inTurn (follows_selecting applied drawn)

/-- There is nothing before the selections of a query. -/
def isShorthand (kind : OperationKind) (name? : Option String)
    (declared : List VariableDefinition) (directives : List Directive) : Bool :=
  kind = .query && name?.isNone && declared.isEmpty && directives.isEmpty

theorem isShorthand_iff
    {kind : OperationKind}
    {name? : Option String}
    {declared : List VariableDefinition}
    {directives : List Directive} :
    isShorthand kind name? declared directives = true ↔
      kind = .query ∧ name? = none ∧ declared = [] ∧ directives = [] := by
  simp [isShorthand, and_assoc]

theorem signatureText_eq_nil
    {name? : Option String}
    {declared : List VariableDefinition}
    (nothing : signatureText (name?, declared) = []) :
    name? = none ∧ declared = [] := by
  cases name? with
  | none =>
    cases declared with
    | nil => exact ⟨rfl, rfl⟩
    | cons definition declared => simp [signatureText, variablesText, opened] at nothing
  | some name => simp [signatureText] at nothing

theorem toList_join_pair (first second : String) :
    (join "" [first, second]).toList = first.toList ++ second.toList := by
  by_cases noFirst : first.isEmpty
  all_goals
    by_cases noSecond : second.isEmpty
    all_goals simp_all [join, Lines.joinWith, String.isEmpty_iff]

theorem toList_wrap_signature
    {name? : Option String}
    {declared : List VariableDefinition}
    (named : ∀ name ∈ name?, Lexeme.Genuine (.name name))
    (drawn : GoodVariables declared) :
    (wrap " " (join "" [name?.getD "", inParens (declared.map VariableDefinition.print)])
        "").toList =
      signatureText (name?, declared) := by
  have notEmpty (definition : VariableDefinition) (present : definition ∈ declared) :
      chars VariableDefinition.print definition ≠ [] := by
    obtain ⟨c, cs, written, -⟩ := opensValue_variable definition (drawn definition present)
    simp [written]
  rw [toList_wrap, toList_join_pair, toList_inParens notEmpty]
  cases name? with
  | none =>
    cases declared with
    | nil => rfl
    | cons definition declared => simp [signatureText, variablesText, opened, rowTo]
  | some name =>
    have isWord := isWord_of_isName (named name rfl)
    simp [signatureText, variablesText, inTurn, isWord.notEmpty]
    rfl

/-- What stands before the selections of an operation with a keyword. -/
theorem toList_operationHead
    {name? : Option String}
    {declared : List VariableDefinition}
    (named : ∀ name ∈ name?, Lexeme.Genuine (.name name))
    (drawn : GoodVariables declared)
    (kind : OperationKind)
    (directives : List Directive) :
    (Definition.operationHead kind name? declared directives).toList =
      kind.text.toList ++
        (signatureText (name?, declared) ++ pieces [' ', '@'] directiveText directives) := by
  have notEmpty : kind.text.toList ≠ [] := (isWord_kindText kind).notEmpty
  rw [Definition.operationHead, toList_join_cons notEmpty, List.flatMap_cons, List.flatMap_cons,
    toList_wrap_directives, List.flatMap_nil, toList_wrap_signature named drawn, List.append_nil]

/-- The keyword of a query is left out if nothing else stands before its selections. -/
theorem operationHead_eq_query_iff
    {name? : Option String}
    {declared : List VariableDefinition}
    (named : ∀ name ∈ name?, Lexeme.Genuine (.name name))
    (drawn : GoodVariables declared)
    (kind : OperationKind)
    (directives : List Directive) :
    Definition.operationHead kind name? declared directives = "query" ↔
      isShorthand kind name? declared directives = true := by
  rw [← String.toList_inj, toList_operationHead named drawn, isShorthand_iff]
  constructor
  · intro same
    cases kind with
    | query =>
      have nothing : signatureText (name?, declared) ++ pieces [' ', '@'] directiveText directives
          = [] := by
        simpa [OperationKind.text] using same
      obtain ⟨noSignature, noDirectives⟩ := List.append_eq_nil_iff.mp nothing
      obtain ⟨noName, noVariables⟩ := signatureText_eq_nil noSignature
      refine ⟨rfl, noName, noVariables, ?_⟩
      cases directives with
      | nil => rfl
      | cons directive directives => simp [pieces] at noDirectives
    | mutation => exact absurd (List.cons.inj same).1 (by decide)
    | subscription => exact absurd (List.cons.inj same).1 (by decide)
  · rintro ⟨rfl, rfl, rfl, rfl⟩
    rfl

end Canonical
end Source
end GraphQL
