import GraphQL.Proofs.Source.Placeless
import GraphQL.Proofs.Source.Readable

/-!
# What is read can be read back

Whatever a reader gives has passed the tests on the way to it.  An enum symbol is no
other word, a constant holds no variable, and no fragment is called `on`.  So every
document that a text stands for is readable, as far as it holds operations and fragments.
-/

namespace GraphQL
namespace Source
namespace Parser

variable {α β : Type}

/-- Whatever the reader gives is good. -/
def Gives (parser : Parser α) (good : α → Prop) : Prop :=
  ∀ cursor value left, StateT.run parser cursor = .ok (value, left) → good value

/-! ## Composition -/

namespace Gives

variable {parser : Parser α} {good : α → Prop} {next : α → Parser β} {goodNext : β → Prop}

protected theorem pure {value : α} (isGood : good value) : Gives (Pure.pure value) good := by
  intro cursor other left ran
  simp only [run_pure, Except.ok.injEq, Prod.mk.injEq] at ran
  obtain ⟨rfl, rfl⟩ := ran
  exact isGood

protected theorem throw (error : SyntaxError) :
    Gives (MonadExcept.throw error : Parser α) good := by
  intro cursor value left ran
  rw [run_throw] at ran
  cases ran

theorem unexpected (token : Token) : Gives (unexpected token) good :=
  .throw _

theorem bind
    (gives : Gives parser good)
    (givesNext : ∀ value, good value → Gives (next value) goodNext) :
    Gives (parser >>= next) goodNext := by
  intro cursor value left ran
  rw [StateT.run_bind] at ran
  obtain ⟨⟨first, between⟩, ranFirst, ranNext⟩ := Outcome.bind_eq_ok_iff.mp ran
  exact givesNext first (gives cursor first between ranFirst) between value left ranNext

/-- What is given last does not depend on what was read before. -/
theorem after
    (givesNext : ∀ value, Gives (next value) goodNext) :
    Gives (parser >>= next) goodNext := by
  have gives : Gives parser fun _ => True := fun _ _ _ _ => trivial
  exact gives.bind fun value _ => givesNext value

theorem ite
    {condition : Prop}
    [Decidable condition]
    {first second : Parser α}
    (gives : condition → Gives first good)
    (givesElse : ¬condition → Gives second good) :
    Gives (if condition then first else second) good := by
  split
  · next holds => exact gives holds
  · next fails => exact givesElse fails

theorem mono
    {better : α → Prop}
    (gives : Gives parser good)
    (improve : ∀ value, good value → better value) :
    Gives parser better :=
  fun cursor value left ran => improve value (gives cursor value left ran)

end Gives

/-! ## Sequences -/

section Sequences

variable {item : Parser α} {good : α → Prop} (gives : Gives item good)

include gives

theorem gives_itemsUntil (close : Punctuator) (count : Nat) :
    Gives (itemsUntil close item count) fun values => ∀ value ∈ values, good value := by
  induction count with
  | zero => exact .after fun _ => .unexpected _
  | succ count more =>
    refine .after fun _ => .ite (fun _ => .pure (by simp)) fun _ => ?_
    refine gives.bind fun first isGood => more.bind fun rest areGood => .pure ?_
    exact List.forall_mem_cons.mpr ⟨isGood, areGood⟩

theorem gives_items (close : Punctuator) :
    Gives (items close item) fun values => ∀ value ∈ values, good value :=
  .after fun _ => gives_itemsUntil gives close _

theorem gives_someItems (close : Punctuator) :
    Gives (someItems close item) fun values => ∀ value ∈ values, good value := by
  refine gives.bind fun first isGood => (gives_items gives close).bind fun rest areGood => .pure ?_
  exact List.forall_mem_cons.mpr ⟨isGood, areGood⟩

theorem gives_enclosed (opening close : Punctuator) :
    Gives (enclosed opening close item) fun values => ∀ value ∈ values, good value :=
  .after fun _ => gives_someItems gives close

theorem gives_optionalEnclosed (opening close : Punctuator) :
    Gives (optionalEnclosed opening close item) fun values => ∀ value ∈ values, good value :=
  .after fun _ => .ite (fun _ => gives_someItems gives close) fun _ => .pure (by simp)

theorem gives_itemsAfter (delimiter : Punctuator) (count : Nat) :
    Gives (itemsAfter delimiter item count) fun values => ∀ value ∈ values, good value := by
  induction count with
  | zero => exact .pure (by simp)
  | succ count more =>
    refine .after fun _ => .ite (fun _ => ?_) fun _ => .pure (by simp)
    refine gives.bind fun first isGood => more.bind fun rest areGood => .pure ?_
    exact List.forall_mem_cons.mpr ⟨isGood, areGood⟩

end Sequences

/-! ## Values -/

/-- A word on its own stands for a value that can be read back. -/
theorem readable_word (constant : Bool) (word : String) :
    Value.Readable constant
      (if word = "true" then .boolean true
        else if word = "false" then .boolean false
        else if word = "null" then .null
        else .enum word) := by
  split_ifs with isTrue isFalse isNull
  · exact .boolean true
  · exact .boolean false
  · exact .null
  · exact .enum word (by simp [Text.Name.isReserved, isTrue, isFalse, isNull])

theorem gives_valueWithin (constant : Bool) (depth : Nat) :
    Gives (valueWithin constant depth) (Value.Readable constant) := by
  induction depth with
  | zero => exact .after fun _ => .unexpected _
  | succ depth nested =>
    have givesField : Gives
        (do
          let field ← name
          expect .colon
          return (field, ← valueWithin constant depth))
        fun field => field.2.Readable constant :=
      .after fun _ => .after fun _ => nested.bind fun _ readable => .pure readable
    refine .after fun token => ?_
    split
    case h_1 =>
      exact .after fun _ => (gives_items nested _).bind fun _ readable => .pure (.list _ readable)
    case h_2 =>
      exact .after fun _ => (gives_items givesField _).bind fun _ readable =>
        .pure (.object _ readable)
    case h_3 text _ => exact .after fun _ => .pure (.int text)
    case h_4 text _ => exact .after fun _ => .pure (.float text)
    case h_5 text _ => exact .after fun _ => .pure (.string text false)
    case h_6 text _ => exact .after fun _ => .pure (.string text true)
    case h_7 word _ => exact .after fun _ => .pure (readable_word constant word)
    case h_8 =>
      refine .after fun _ => .ite (fun _ => .after fun next => ?_) fun notConstant => ?_
      · split
        · exact .throw _
        · exact .unexpected _
      · exact .after fun text => .pure (.reference text (by simpa using notConstant))
    case h_9 => exact .unexpected _

theorem gives_value (constant : Bool) : Gives (value constant) (Value.Readable constant) :=
  .after fun _ => gives_valueWithin constant _

theorem gives_defaultValue :
    Gives defaultValue fun default? => ∀ default ∈ default?, default.Readable true := by
  refine .after fun _ => .ite (fun _ => ?_) fun _ => .pure nofun
  refine (gives_value true).bind fun given readable => .pure ?_
  rintro _ ⟨⟩
  exact readable

theorem gives_argument (constant : Bool) :
    Gives (argument constant) fun argument => argument.value.Readable constant :=
  .after fun _ => .after fun _ => (gives_value constant).bind fun _ readable => .pure readable

theorem gives_arguments (constant : Bool) :
    Gives (arguments constant) fun arguments =>
      ∀ argument ∈ arguments, argument.value.Readable constant :=
  gives_optionalEnclosed (gives_argument constant) _ _

theorem gives_directives (constant : Bool) :
    Gives (directives constant) fun directives =>
      ∀ directive ∈ directives, directive.Readable constant := by
  have givesBody : Gives (directiveBody constant) (Directive.Readable constant) :=
    .after fun _ => (gives_arguments constant).bind fun _ readable => .pure readable
  exact .after fun _ => gives_itemsAfter givesBody _ _

/-! ## Selections -/

/-- A name that is read is that of the current token. -/
theorem lexeme_of_run_name
    {cursor left : Cursor}
    {text : String}
    (ran : StateT.run name cursor = .ok (text, left)) :
    cursor.current.lexeme = .name text := by
  rw [name, StateT.run_bind, run_peek, Outcome.ok_bind] at ran
  split at ran
  · next found lexeme =>
    rw [StateT.run_bind] at ran
    obtain ⟨⟨_, moved⟩, -, same⟩ := Outcome.bind_eq_ok_iff.mp ran
    simp only [run_pure, Except.ok.injEq, Prod.mk.injEq] at same
    rw [lexeme, same.1]
  · simp at ran

/-- No fragment is called `on`. -/
theorem gives_fragmentName : Gives fragmentName fun text => text ≠ "on" := by
  intro cursor text left ran
  rw [fragmentName, StateT.run_bind, run_peek, Outcome.ok_bind] at ran
  split at ran
  · simp at ran
  · next notOn =>
    rw [lexeme_of_run_name ran] at notOn
    simpa [Lexeme.value?] using notOn

theorem gives_selectionWithin (depth : Nat) :
    Gives (selectionWithin depth) Selection.Readable := by
  induction depth with
  | zero => exact .after fun _ => .unexpected _
  | succ depth nested =>
    have givesSet := gives_enclosed nested .braceL .braceR
    have givesFragment (condition? : Option String) :
        Gives (inlineFragmentBody depth condition?) Selection.Readable :=
      (gives_directives false).bind fun _ applied => givesSet.bind fun _ selections =>
        .pure (.inlineFragment _ _ _ applied selections)
    have givesField (alias? : Option String) (field : String) :
        Gives (fieldBody depth alias? field) Selection.Readable := by
      have givesNone : Gives (Pure.pure []) fun selections =>
          ∀ selection ∈ selections, Selection.Readable selection := .pure nofun
      refine (gives_arguments false).bind fun _ given => (gives_directives false).bind
        fun _ applied => .after fun _ => .ite (fun _ => ?_) fun _ => ?_
      · exact givesSet.bind fun _ selections => .pure (.field _ _ _ _ _ given applied selections)
      · exact givesNone.bind fun _ selections => .pure (.field _ _ _ _ _ given applied selections)
    rw [selectionWithin_succ]
    refine .after fun _ => .ite (fun _ => ?_) fun _ => ?_
    · refine .after fun _ => .ite (fun _ => .after fun _ => givesFragment _) fun _ =>
        .after fun token => ?_
      split
      · exact gives_fragmentName.bind fun _ notOn => (gives_directives false).bind
          fun _ applied => .pure (.spread _ _ notOn applied)
      · exact givesFragment none
    · refine .after fun _ => .after fun _ => .ite (fun _ => ?_) fun _ => givesField _ _
      exact .after fun _ => givesField _ _

theorem gives_selectionSet :
    Gives selectionSet fun selections => ∀ selection ∈ selections, selection.Readable :=
  .after fun _ => gives_enclosed (gives_selectionWithin _) _ _

/-! ## Definitions -/

theorem gives_variableDefinition : Gives variableDefinition VariableDefinition.Readable :=
  .after fun _ => .after fun _ => .after fun _ => .after fun _ =>
    gives_defaultValue.bind fun _ default => (gives_directives true).bind fun _ applied =>
      .pure ⟨default, applied⟩

theorem gives_operation : Gives operation Definition.Readable := by
  have givesBody (kind : OperationKind) (name? : Option String) :
      Gives (operationBody kind name?) Definition.Readable :=
    (gives_optionalEnclosed gives_variableDefinition _ _).bind fun _ declared =>
      (gives_directives false).bind fun _ applied => gives_selectionSet.bind
        fun _ selections => .pure ⟨declared, applied, selections⟩
  rw [operation_eq]
  refine .after fun kind => .after fun token => ?_
  split
  · exact .after fun _ => givesBody _ _
  · exact givesBody _ _

theorem gives_fragment : Gives fragment Definition.Readable :=
  .after fun _ => gives_fragmentName.bind fun _ notOn => .after fun _ => .after fun _ =>
    (gives_directives false).bind fun _ applied => gives_selectionSet.bind
      fun _ selections => .pure ⟨notOn, applied, selections⟩

theorem gives_typeSystemDefinition (introduction : String) :
    Gives (typeSystemDefinition introduction) fun found => found.isExecutable = false := by
  refine .after fun _ => .after fun _ => .ite (fun _ => ?_) fun _ => .ite (fun _ => ?_) fun _ => ?_
  · exact .after fun _ => .after fun _ => .pure rfl
  · exact .after fun _ => .pure rfl
  · exact .after fun _ => .pure rfl

theorem gives_extension : Gives extension fun found => found.isExecutable = false := by
  refine .after fun token => ?_
  split
  · refine .ite (fun _ => ?_) fun _ => .ite (fun _ => ?_) fun _ => .unexpected _
    · refine .after fun _ => .after fun _ => .after fun _ => .after fun _ => .ite (fun _ => ?_)
        fun _ => .pure rfl
      exact .after fun _ => .unexpected _
    · refine .after fun _ => .after fun _ => .after fun _ => .ite (fun _ => ?_)
        fun _ => .pure rfl
      exact .after fun _ => .unexpected _
  · exact .unexpected _

/-- The operations and fragments that are read can be read back. -/
theorem gives_definition :
    Gives definition fun found => found.isExecutable = true → found.Readable := by
  have givesIntroduced (first keyword : Token) :
      Gives (introduced first keyword) fun found => found.isExecutable = true → found.Readable := by
    have ofOther {found : Definition} (other : found.isExecutable = false)
        (executable : found.isExecutable = true) : found.Readable :=
      absurd executable (by simp [other])
    unfold introduced
    split
    · refine .ite (fun _ => ?_) fun _ => .ite (fun _ => .throw _) fun _ => .ite (fun _ => ?_)
        fun _ => .ite (fun _ => ?_) fun _ => .ite (fun _ => ?_) fun _ => .unexpected _
      · exact (gives_typeSystemDefinition _).mono fun _ => ofOther
      · exact gives_operation.mono fun _ readable _ => readable
      · exact gives_fragment.mono fun _ readable _ => readable
      · exact gives_extension.mono fun _ => ofOther
    · exact .unexpected _
  rw [definition_eq]
  refine .after fun first => .ite (fun _ => ?_) fun _ => .ite (fun _ => ?_) fun _ =>
    givesIntroduced _ _
  · exact gives_selectionSet.bind fun _ selections => .pure fun _ => ⟨nofun, nofun, selections⟩
  · exact .after fun keyword => givesIntroduced _ _

theorem gives_definitionsWithin (count : Nat) :
    Gives (definitionsWithin count) fun found =>
      ∀ definition ∈ found, definition.isExecutable = true → definition.Readable := by
  induction count with
  | zero => exact .after fun _ => .unexpected _
  | succ count more =>
    refine .after fun _ => .ite (fun _ => .pure nofun) fun _ => ?_
    refine gives_definition.bind fun _ readable => more.bind fun _ others => .pure ?_
    exact List.forall_mem_cons.mpr ⟨readable, others⟩

theorem gives_document :
    Gives document fun found =>
      ∀ definition ∈ found.definitions, definition.isExecutable = true → definition.Readable := by
  refine gives_definition.bind fun _ readable => .after fun _ =>
    (gives_definitionsWithin _).bind fun _ others => .pure ?_
  exact List.forall_mem_cons.mpr ⟨readable, others⟩

end Parser

/-- The operations and fragments of every document that a text stands for can be read
back. -/
theorem Document.readable_of_parse
    {text : String}
    {document : Document}
    (parsed : parse text = .ok document) :
    ∀ definition ∈ document.definitions,
      definition.isExecutable = true → definition.Readable := by
  obtain ⟨cursor, -, ran⟩ := Outcome.bind_eq_ok_iff.mp parsed
  obtain ⟨⟨found, left⟩, ranDocument, same⟩ := Outcome.bind_eq_ok_iff.mp ran
  obtain rfl := Except.ok.inj same
  exact Parser.gives_document cursor found left ranDocument

end Source
end GraphQL
