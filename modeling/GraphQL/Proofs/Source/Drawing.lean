import GraphQL.Proofs.Source.Drawn
import GraphQL.Proofs.Source.Placeless

/-!
# What is read is drawn from the lexemes that are there

A reader only gives what it has met.  If every lexeme that is to be read is sound, then so
is every lexeme that is left behind a reader, and what the reader gives is drawn from
sound lexemes.  The end of the text is one of the lexemes, unless an error comes first.
-/

namespace GraphQL
namespace Source

/-- The lexemes that are to be read are sound, and so is the end of the text if it is
reached. -/
structure Cursor.Sound (sound : Lexeme → Prop) (cursor : Cursor) : Prop where
  /-- The lexeme to be read next is sound. -/
  current : sound cursor.current.lexeme
  /-- The lexemes after it are sound. -/
  ahead : ∀ token ∈ cursor.ahead, sound token.lexeme
  /-- The end of the text is sound if no error comes first. -/
  ending : ∀ position, cursor.ending = .ok position → sound .endOfText

namespace Cursor

variable {sound : Lexeme → Prop} {cursor moved : Cursor}

/-- The lexemes are sound behind the current one if those ahead of it are. -/
theorem sound_of_advance
    (soundAhead : ∀ token ∈ cursor.ahead, sound token.lexeme)
    (soundEnding : ∀ position, cursor.ending = .ok position → sound .endOfText)
    (advanced : cursor.advance = .ok moved) :
    moved.Sound sound := by
  obtain ⟨current, ahead, ending⟩ := cursor
  cases ahead with
  | cons token ahead =>
    obtain rfl := Except.ok.inj advanced
    obtain ⟨soundFirst, soundRest⟩ := List.forall_mem_cons.mp soundAhead
    exact ⟨soundFirst, soundRest, soundEnding⟩
  | nil =>
    cases ending with
    | error error => cases advanced
    | ok position =>
      obtain rfl := Except.ok.inj advanced
      exact ⟨soundEnding position rfl, nofun, soundEnding⟩

end Cursor

namespace Parser

variable {α β : Type}

/-- Where the lexemes are sound, those that the reader leaves are sound, and what it gives
is good. -/
def Draws (sound : Lexeme → Prop) (parser : Parser α) (good : α → Prop) : Prop :=
  ∀ cursor value left, cursor.Sound sound → StateT.run parser cursor = .ok (value, left) →
    left.Sound sound ∧ good value

variable {sound : Lexeme → Prop}

/-! ## Composition -/

namespace Draws

variable {parser : Parser α} {good : α → Prop} {next : α → Parser β} {goodNext : β → Prop}

protected theorem pure {value : α} (isGood : good value) :
    Draws sound (Pure.pure value) good := by
  intro cursor other left isSound ran
  simp only [run_pure, Except.ok.injEq, Prod.mk.injEq] at ran
  obtain ⟨rfl, rfl⟩ := ran
  exact ⟨isSound, isGood⟩

protected theorem throw (error : SyntaxError) :
    Draws sound (MonadExcept.throw error : Parser α) good := by
  intro cursor value left isSound ran
  rw [run_throw] at ran
  cases ran

theorem unexpected (token : Token) : Draws sound (unexpected token) good :=
  .throw _

theorem wrong (wanted : Wanted) (token : Token) : Draws sound (wrong wanted token) good :=
  .throw _

theorem bind
    (draws : Draws sound parser good)
    (drawsNext : ∀ value, good value → Draws sound (next value) goodNext) :
    Draws sound (parser >>= next) goodNext := by
  intro cursor value left isSound ran
  rw [StateT.run_bind] at ran
  obtain ⟨⟨first, between⟩, ranFirst, ranNext⟩ := Outcome.bind_eq_ok_iff.mp ran
  obtain ⟨soundBetween, isGood⟩ := draws cursor first between isSound ranFirst
  exact drawsNext first isGood between value left soundBetween ranNext

theorem ite
    {condition : Prop}
    [Decidable condition]
    {first second : Parser α}
    (draws : condition → Draws sound first good)
    (drawsElse : ¬condition → Draws sound second good) :
    Draws sound (if condition then first else second) good := by
  split
  · next holds => exact draws holds
  · next fails => exact drawsElse fails

theorem mono
    {better : α → Prop}
    (draws : Draws sound parser good)
    (improve : ∀ value, good value → better value) :
    Draws sound parser better := fun cursor value left isSound ran =>
  have ⟨soundLeft, isGood⟩ := draws cursor value left isSound ran
  ⟨soundLeft, improve value isGood⟩

/-- What is done with the current token may rely on its lexeme. -/
theorem peek_bind
    {next : Token → Parser α}
    (draws : ∀ token, sound token.lexeme → Draws sound (next token) good) :
    Draws sound (peek >>= next) good := by
  intro cursor value left isSound ran
  rw [StateT.run_bind, run_peek, Outcome.ok_bind] at ran
  exact draws cursor.current isSound.current cursor value left isSound ran

/-- A look at the token after the current one reads nothing. -/
theorem lookahead_bind
    {next : Token → Parser α}
    (draws : ∀ token, Draws sound (next token) good) :
    Draws sound (lookahead >>= next) good := by
  intro cursor value left isSound ran
  rw [StateT.run_bind, run_lookahead] at ran
  obtain ⟨⟨token, same⟩, looked, ranNext⟩ := Outcome.bind_eq_ok_iff.mp ran
  obtain ⟨moved, -, found⟩ := Outcome.map_eq_ok_iff.mp looked
  obtain ⟨rfl, rfl⟩ := Prod.mk.inj found
  exact draws moved.current cursor value left isSound ranNext

end Draws

/-! ## Single tokens -/

/-- Nothing is known of what the reader gives. -/
abbrev Keeps (sound : Lexeme → Prop) (parser : Parser α) : Prop :=
  Draws sound parser fun _ => True

theorem keeps_next : Keeps sound next := by
  intro cursor value left isSound ran
  rw [run_next] at ran
  obtain ⟨moved, advanced, found⟩ := Outcome.map_eq_ok_iff.mp ran
  obtain ⟨-, rfl⟩ := Prod.mk.inj found
  exact ⟨Cursor.sound_of_advance isSound.ahead isSound.ending advanced, trivial⟩

/-- What is given after the current token does not depend on the token. -/
theorem Draws.next_bind
    {parser : Parser α}
    {good : α → Prop}
    (draws : Draws sound parser good) :
    Draws sound (next >>= fun _ => parser) good :=
  keeps_next.bind fun _ _ => draws

theorem keeps_isAt (mark : Punctuator) : Keeps sound (isAt mark) :=
  .peek_bind fun _ _ => .pure trivial

theorem keeps_expect (mark : Punctuator) : Keeps sound (expect mark) :=
  .peek_bind fun _ _ => .ite (fun _ => keeps_next) fun _ => .wrong _ _

theorem keeps_optional (mark : Punctuator) : Keeps sound (Parser.optional mark) :=
  (keeps_isAt mark).bind fun _ _ =>
    .ite (fun _ => .next_bind (.pure trivial)) fun _ => .pure trivial

theorem keeps_keyword (word : String) : Keeps sound (keyword word) :=
  .peek_bind fun _ _ => .ite (fun _ => keeps_next) fun _ => .wrong _ _

theorem keeps_optionalKeyword (word : String) : Keeps sound (optionalKeyword word) :=
  .peek_bind fun _ _ => .ite (fun _ => .next_bind (.pure trivial)) fun _ => .pure trivial

theorem draws_name : Draws sound name fun text => sound (.name text) := by
  refine .peek_bind fun token isSound => ?_
  split
  · next text same => exact .next_bind (.pure (same ▸ isSound))
  · exact .wrong _ _

theorem keeps_bound : Keeps sound bound := by
  intro cursor value left isSound ran
  obtain ⟨-, rfl⟩ := Prod.mk.inj (Except.ok.inj ran)
  exact ⟨isSound, trivial⟩

/-! ## Sequences -/

section Sequences

variable {item : Parser α} {good : α → Prop} (draws : Draws sound item good)

include draws

theorem draws_itemsUntil (close : Punctuator) (count : Nat) :
    Draws sound (itemsUntil close item count) fun values => ∀ value ∈ values, good value := by
  induction count with
  | zero => exact .peek_bind fun _ _ => .unexpected _
  | succ count more =>
    refine (keeps_optional close).bind fun _ _ => .ite (fun _ => .pure nofun) fun _ => ?_
    refine draws.bind fun first isGood => more.bind fun rest areGood => .pure ?_
    exact List.forall_mem_cons.mpr ⟨isGood, areGood⟩

theorem draws_items (close : Punctuator) :
    Draws sound (items close item) fun values => ∀ value ∈ values, good value :=
  keeps_bound.bind fun _ _ => draws_itemsUntil draws close _

/-- There is at least one item, and all of them are good. -/
theorem draws_someItems (close : Punctuator) :
    Draws sound (someItems close item) fun values =>
      values ≠ [] ∧ ∀ value ∈ values, good value := by
  refine draws.bind fun first isGood => (draws_items draws close).bind fun rest areGood => .pure ?_
  exact ⟨nofun, List.forall_mem_cons.mpr ⟨isGood, areGood⟩⟩

theorem draws_enclosed (opening close : Punctuator) :
    Draws sound (enclosed opening close item) fun values =>
      values ≠ [] ∧ ∀ value ∈ values, good value :=
  (keeps_expect opening).bind fun _ _ => draws_someItems draws close

theorem draws_optionalEnclosed (opening close : Punctuator) :
    Draws sound (optionalEnclosed opening close item) fun values =>
      ∀ value ∈ values, good value :=
  (keeps_optional opening).bind fun _ _ =>
    .ite (fun _ => (draws_someItems draws close).mono fun _ some => some.2)
      fun _ => .pure nofun

theorem draws_itemsAfter (delimiter : Punctuator) (count : Nat) :
    Draws sound (itemsAfter delimiter item count) fun values =>
      ∀ value ∈ values, good value := by
  induction count with
  | zero => exact .pure nofun
  | succ count more =>
    refine (keeps_optional delimiter).bind fun _ _ => .ite (fun _ => ?_) fun _ => .pure nofun
    refine draws.bind fun first isGood => more.bind fun rest areGood => .pure ?_
    exact List.forall_mem_cons.mpr ⟨isGood, areGood⟩

/-- There is at least one item, and all of them are good. -/
theorem draws_delimited (delimiter : Punctuator) :
    Draws sound (delimited delimiter item) fun values =>
      values ≠ [] ∧ ∀ value ∈ values, good value := by
  refine (keeps_optional delimiter).bind fun _ _ => draws.bind fun first isGood =>
    keeps_bound.bind fun _ _ => (draws_itemsAfter draws delimiter _).bind fun rest areGood =>
      .pure ?_
  exact ⟨nofun, List.forall_mem_cons.mpr ⟨isGood, areGood⟩⟩

end Sequences

/-! ## Values and types -/

/-- A sound word on its own stands for a value that is drawn from it. -/
theorem drawn_word
    {word : String}
    (isSound : sound (.name word)) :
    Value.Drawn sound
      (if word = "true" then .boolean true
        else if word = "false" then .boolean false
        else if word = "null" then .null
        else .enum word) := by
  split_ifs with isTrue isFalse isNull
  · exact .boolean true
  · exact .boolean false
  · exact .null
  · exact .enum word isSound (by simp [Text.Name.isReserved, isTrue, isFalse, isNull])

theorem draws_valueWithin (constant : Bool) (depth : Nat) :
    Draws sound (valueWithin constant depth) (Value.Drawn sound) := by
  induction depth with
  | zero => exact .peek_bind fun _ _ => .unexpected _
  | succ depth nested =>
    have drawsField : Draws sound
        (do
          let field ← name
          expect .colon
          return (field, ← valueWithin constant depth))
        fun field => sound (.name field.1) ∧ field.2.Drawn sound :=
      draws_name.bind fun _ soundName => (keeps_expect _).bind fun _ _ =>
        nested.bind fun _ drawn => .pure ⟨soundName, drawn⟩
    refine .peek_bind fun token isSound => ?_
    split
    case h_1 =>
      exact .next_bind <| (draws_items nested _).bind fun _ drawn => .pure (.list _ drawn)
    case h_2 =>
      refine .next_bind <| (draws_items drawsField _).bind fun _ drawn => .pure ?_
      exact .object _ (fun field present => (drawn field present).1)
        fun field present => (drawn field present).2
    case h_3 text same => exact .next_bind (.pure (.int text (same ▸ isSound)))
    case h_4 text same => exact .next_bind (.pure (.float text (same ▸ isSound)))
    case h_5 text same => exact .next_bind (.pure (.string text (same ▸ isSound)))
    case h_6 text same => exact .next_bind (.pure (.blockString text (same ▸ isSound)))
    case h_7 word same =>
      rw [same] at isSound
      exact .next_bind (.pure (drawn_word isSound))
    case h_8 =>
      refine .next_bind <| .ite (fun _ => .peek_bind fun next _ => ?_) fun _ => ?_
      · split
        · exact .throw _
        · exact .unexpected _
      · exact draws_name.bind fun text soundName => .pure (.reference text soundName)
    case h_9 => exact .unexpected _

theorem draws_value (constant : Bool) : Draws sound (value constant) (Value.Drawn sound) :=
  keeps_bound.bind fun _ _ => draws_valueWithin constant _

/-- A mark after a type that has none makes it one without null. -/
theorem draws_marked
    {type : TypeRef}
    (drawn : type.Drawn sound)
    (unmarked : type.isNonNull = false) :
    Draws sound (marked type) (TypeRef.Drawn sound) :=
  (keeps_optional _).bind fun _ _ =>
    .ite (fun _ => .pure (.nonNull type drawn unmarked)) fun _ => .pure drawn

theorem draws_typeRefWithin (depth : Nat) :
    Draws sound (typeRefWithin depth) (TypeRef.Drawn sound) := by
  induction depth with
  | zero => exact .peek_bind fun _ _ => .unexpected _
  | succ depth nested =>
    have drawsUnmarked : Draws sound (unmarkedWithin depth) fun type =>
        type.Drawn sound ∧ type.isNonNull = false := by
      refine (keeps_optional _).bind fun _ _ => .ite (fun _ => ?_) fun _ => ?_
      · exact nested.bind fun item drawn => (keeps_expect _).bind fun _ _ =>
          .pure ⟨.list item drawn, rfl⟩
      · exact draws_name.bind fun text soundName => .pure ⟨.named text soundName, rfl⟩
    rw [typeRefWithin_succ]
    exact drawsUnmarked.bind fun _ ⟨drawn, unmarked⟩ => draws_marked drawn unmarked

theorem draws_typeRef : Draws sound typeRef (TypeRef.Drawn sound) :=
  keeps_bound.bind fun _ _ => draws_typeRefWithin _

theorem draws_defaultValue :
    Draws sound defaultValue fun default? => ∀ value ∈ default?, value.Drawn sound := by
  refine (keeps_optional _).bind fun _ _ => .ite (fun _ => ?_) fun _ => .pure nofun
  refine (draws_value true).bind fun given drawn => .pure ?_
  rintro _ ⟨⟩
  exact drawn

/-! ## Arguments and directives -/

theorem draws_argument (constant : Bool) :
    Draws sound (argument constant) (Argument.Drawn sound) :=
  draws_name.bind fun _ soundName => (keeps_expect _).bind fun _ _ =>
    (draws_value constant).bind fun _ drawn => .pure ⟨soundName, drawn⟩

theorem draws_arguments (constant : Bool) :
    Draws sound (arguments constant) fun arguments =>
      ∀ argument ∈ arguments, argument.Drawn sound :=
  draws_optionalEnclosed (draws_argument constant) _ _

theorem draws_directives (constant : Bool) :
    Draws sound (directives constant) fun directives =>
      ∀ directive ∈ directives, directive.Drawn sound := by
  have drawsBody : Draws sound (directiveBody constant) (Directive.Drawn sound) :=
    draws_name.bind fun _ soundName => (draws_arguments constant).bind fun _ drawn =>
      .pure ⟨soundName, drawn⟩
  exact keeps_bound.bind fun _ _ => draws_itemsAfter drawsBody _ _

/-! ## Operations and fragments -/

theorem draws_fragmentName : Draws sound fragmentName fun text => sound (.name text) :=
  .peek_bind fun _ _ => .ite (fun _ => .unexpected _) fun _ => draws_name

theorem draws_selectionWithin (depth : Nat) :
    Draws sound (selectionWithin depth) (Selection.Drawn sound) := by
  induction depth with
  | zero => exact .peek_bind fun _ _ => .unexpected _
  | succ depth nested =>
    have drawsSet := draws_enclosed nested .braceL .braceR
    have drawsFragment {condition? : Option String}
        (soundCondition : ∀ condition ∈ condition?, sound (.name condition)) :
        Draws sound (inlineFragmentBody depth condition?) (Selection.Drawn sound) :=
      (draws_directives false).bind fun _ applied => drawsSet.bind fun _ selected =>
        .pure (.inlineFragment _ _ _ soundCondition applied selected.2)
    have drawsField {alias? : Option String} {field : String}
        (soundAlias : ∀ label ∈ alias?, sound (.name label)) (soundName : sound (.name field)) :
        Draws sound (fieldBody depth alias? field) (Selection.Drawn sound) := by
      refine (draws_arguments false).bind fun _ given => (draws_directives false).bind
        fun _ applied => (keeps_isAt _).bind fun _ _ => .ite (fun _ => ?_) fun _ => ?_
      · exact drawsSet.bind fun _ selected =>
          .pure (.field _ _ _ _ _ soundAlias soundName given applied selected.2)
      · exact .pure (.field _ _ _ _ _ soundAlias soundName given applied nofun)
    rw [selectionWithin_succ]
    refine (keeps_optional _).bind fun _ _ => .ite (fun _ => ?_) fun _ => ?_
    · refine (keeps_optionalKeyword _).bind fun _ _ => .ite (fun _ => ?_) fun _ => ?_
      · exact draws_name.bind fun _ soundName => drawsFragment (by simpa using soundName)
      · refine .peek_bind fun token _ => ?_
        split
        · exact draws_fragmentName.bind fun _ soundName => (draws_directives false).bind
            fun _ applied => .pure (.spread _ _ soundName applied)
        · exact drawsFragment nofun
    · refine draws_name.bind fun _ soundFirst => (keeps_optional _).bind fun _ _ =>
        .ite (fun _ => ?_) fun _ => drawsField nofun soundFirst
      exact draws_name.bind fun _ soundName => drawsField (by simpa using soundFirst) soundName

theorem draws_selectionSet :
    Draws sound selectionSet fun selections =>
      selections ≠ [] ∧ ∀ selection ∈ selections, selection.Drawn sound :=
  keeps_bound.bind fun _ _ => draws_enclosed (draws_selectionWithin _) _ _

theorem keeps_operationKind : Keeps sound operationKind := by
  refine .peek_bind fun token _ => ?_
  split
  · refine .next_bind ?_
    split
    · exact .pure trivial
    · exact .unexpected _
  · exact .wrong _ _

theorem draws_variableDefinition :
    Draws sound variableDefinition (VariableDefinition.Drawn sound) :=
  (keeps_expect _).bind fun _ _ => draws_name.bind fun _ soundName =>
    (keeps_expect _).bind fun _ _ => draws_typeRef.bind fun _ type =>
      draws_defaultValue.bind fun _ default => (draws_directives true).bind fun _ applied =>
        .pure ⟨soundName, type, default, applied⟩

theorem draws_operation : Draws sound operation (Definition.Drawn sound) := by
  have drawsBody (kind : OperationKind) {name? : Option String}
      (soundName : ∀ name ∈ name?, sound (.name name)) :
      Draws sound (operationBody kind name?) (Definition.Drawn sound) :=
    (draws_optionalEnclosed draws_variableDefinition _ _).bind fun _ declared =>
      (draws_directives false).bind fun _ applied => draws_selectionSet.bind
        fun _ selected => .pure ⟨soundName, declared, applied, selected⟩
  rw [operation_eq]
  refine keeps_operationKind.bind fun kind _ => .peek_bind fun token _ => ?_
  split
  · exact draws_name.bind fun _ soundName => drawsBody kind (by simpa using soundName)
  · exact drawsBody kind nofun

theorem draws_fragment : Draws sound fragment (Definition.Drawn sound) :=
  (keeps_keyword _).bind fun _ _ => draws_fragmentName.bind fun _ soundName =>
    (keeps_keyword _).bind fun _ _ => draws_name.bind fun _ soundCondition =>
      (draws_directives false).bind fun _ applied => draws_selectionSet.bind
        fun _ selected => .pure ⟨soundName, soundCondition, applied, selected⟩

/-! ## Type systems -/

theorem draws_description :
    Draws sound description fun description? =>
      ∀ description ∈ description?, description.Drawn sound := by
  refine .peek_bind fun token isSound => ?_
  split
  case h_1 text same =>
    rw [same] at isSound
    exact .next_bind (.pure (by simpa [Description.Drawn] using isSound))
  case h_2 text same =>
    rw [same] at isSound
    exact .next_bind (.pure (by simpa [Description.Drawn] using isSound))
  case h_3 => exact .pure nofun

theorem draws_inputValue : Draws sound inputValue (InputValue.Drawn sound) :=
  draws_description.bind fun _ described => draws_name.bind fun _ soundName =>
    (keeps_expect _).bind fun _ _ => draws_typeRef.bind fun _ type =>
      draws_defaultValue.bind fun _ default => (draws_directives true).bind fun _ applied =>
        .pure ⟨described, soundName, type, default, applied⟩

theorem draws_parameters :
    Draws sound parameters fun parameters => ∀ parameter ∈ parameters, parameter.Drawn sound :=
  draws_optionalEnclosed draws_inputValue _ _

theorem draws_fieldDefinition : Draws sound fieldDefinition (FieldDefinition.Drawn sound) :=
  draws_description.bind fun _ described => draws_name.bind fun _ soundName =>
    draws_parameters.bind fun _ given => (keeps_expect _).bind fun _ _ =>
      draws_typeRef.bind fun _ type => (draws_directives true).bind fun _ applied =>
        .pure ⟨described, soundName, given, type, applied⟩

theorem draws_interfaces :
    Draws sound interfaces fun interfaces => ∀ interface ∈ interfaces, sound (.name interface) :=
  (keeps_optionalKeyword _).bind fun _ _ =>
    .ite (fun _ => (draws_delimited draws_name _).mono fun _ some => some.2) fun _ => .pure nofun

theorem draws_enumValueDefinition :
    Draws sound enumValueDefinition (EnumValueDefinition.Drawn sound) := by
  refine draws_description.bind fun description? described => .peek_bind fun token _ => ?_
  have drawsRest : Draws sound
      (do
        let symbol ← name
        return EnumValueDefinition.mk description? symbol (← directives true))
      (EnumValueDefinition.Drawn sound) :=
    draws_name.bind fun _ soundName => (draws_directives true).bind fun _ applied =>
      .pure ⟨described, soundName, applied⟩
  refine .ite (fun _ => ?_) fun _ => drawsRest
  have refuses (error : SyntaxError) : Keeps sound (throw error : Parser PUnit) := .throw error
  exact (refuses _).bind fun _ _ => drawsRest

theorem draws_rootType : Draws sound rootType (RootType.Drawn sound) :=
  keeps_operationKind.bind fun _ _ => (keeps_expect _).bind fun _ _ =>
    draws_name.bind fun _ soundName => .pure soundName

theorem draws_typeDefinition (introduction : String) :
    Draws sound (typeDefinition introduction) (TypeDefinition.Drawn sound) := by
  refine draws_name.bind fun _ soundName => .ite (fun _ => ?_) fun _ => ?_
  · refine draws_interfaces.bind fun _ implemented => (draws_directives true).bind
      fun _ applied => (draws_optionalEnclosed draws_fieldDefinition _ _).bind fun _ fields => ?_
    exact .ite (fun _ => .pure ⟨soundName, applied, implemented, fields⟩)
      fun _ => .pure ⟨soundName, applied, implemented, fields⟩
  · refine (draws_directives true).bind fun _ applied => .ite (fun _ => ?_) fun _ =>
      .ite (fun _ => ?_) fun _ => .ite (fun _ => ?_) fun _ => .pure ⟨soundName, applied, trivial⟩
    · refine (keeps_optional _).bind fun _ _ => .ite (fun _ => ?_) fun _ => ?_
      · exact (draws_delimited draws_name _).bind fun _ members =>
          .pure ⟨soundName, applied, members.2⟩
      · exact .pure ⟨soundName, applied, nofun⟩
    · exact (draws_optionalEnclosed draws_enumValueDefinition _ _).bind fun _ values =>
        .pure ⟨soundName, applied, values⟩
    · exact (draws_optionalEnclosed draws_inputValue _ _).bind fun _ fields =>
        .pure ⟨soundName, applied, fields⟩

theorem draws_directiveLocation :
    Draws sound directiveLocation fun location => sound (.name location) :=
  .peek_bind fun _ _ => draws_name.bind fun _ soundName =>
    .ite (fun _ => .pure soundName) fun _ => .unexpected _

theorem draws_directiveDefinition :
    Draws sound directiveDefinition (DirectiveDefinition.Drawn sound) :=
  (keeps_expect _).bind fun _ _ => draws_name.bind fun _ soundName =>
    draws_parameters.bind fun _ given => (keeps_optionalKeyword _).bind fun _ _ =>
      (keeps_keyword _).bind fun _ _ => (draws_delimited draws_directiveLocation _).bind
        fun _ located => .pure ⟨soundName, given, located.1, located.2⟩

theorem draws_typeSystemDefinition (introduction : String) :
    Draws sound (typeSystemDefinition introduction) (Definition.Drawn sound) := by
  refine draws_description.bind fun _ described => (keeps_keyword _).bind fun _ _ =>
    .ite (fun _ => ?_) fun _ => .ite (fun _ => ?_) fun _ => ?_
  · exact (draws_directives true).bind fun _ applied =>
      (draws_enclosed draws_rootType _ _).bind fun _ roots =>
        .pure ⟨described, applied, roots.2⟩
  · exact draws_directiveDefinition.bind fun _ drawn => .pure ⟨described, drawn⟩
  · exact (draws_typeDefinition _).bind fun _ drawn => .pure ⟨described, drawn⟩

theorem draws_extension : Draws sound extension (Definition.Drawn sound) := by
  have refuses : Draws sound (do unexpected (← peek)) (Definition.Drawn sound) :=
    .peek_bind fun _ _ => .unexpected _
  refine .lookahead_bind fun token => ?_
  split
  · refine .ite (fun _ => ?_) fun _ => .ite (fun _ => ?_) fun _ => .unexpected _
    · exact .next_bind <| .next_bind <| (draws_directives true).bind fun _ applied =>
        (draws_optionalEnclosed draws_rootType _ _).bind fun _ roots =>
          .ite (fun _ => refuses) fun _ => .pure ⟨applied, roots⟩
    · exact .next_bind <| .next_bind <| (draws_typeDefinition _).bind fun _ drawn =>
        .ite (fun _ => refuses) fun _ => .pure drawn
  · exact .unexpected _

/-! ## Documents -/

theorem draws_definition : Draws sound definition (Definition.Drawn sound) := by
  have drawsIntroduced (first keyword : Token) :
      Draws sound (introduced first keyword) (Definition.Drawn sound) := by
    unfold introduced
    split
    · exact .ite (fun _ => draws_typeSystemDefinition _) fun _ => .ite (fun _ => .throw _)
        fun _ => .ite (fun _ => draws_operation) fun _ => .ite (fun _ => draws_fragment)
          fun _ => .ite (fun _ => draws_extension) fun _ => .unexpected _
    · exact .unexpected _
  rw [definition_eq]
  refine .peek_bind fun first _ => .ite (fun _ => ?_) fun _ => .ite (fun _ => ?_) fun _ =>
    drawsIntroduced _ _
  · exact draws_selectionSet.bind fun _ selected => .pure ⟨nofun, nofun, nofun, selected⟩
  · exact .lookahead_bind fun keyword => drawsIntroduced _ _

/-- The last of the definitions is the last thing to be read before the end of the text. -/
theorem draws_definitionsWithin (count : Nat) :
    Draws sound (definitionsWithin count) fun found =>
      sound .endOfText ∧ ∀ definition ∈ found, definition.Drawn sound := by
  induction count with
  | zero => exact .peek_bind fun _ _ => .unexpected _
  | succ count more =>
    refine .peek_bind fun token isSound => .ite (fun ends => .pure ⟨ends ▸ isSound, nofun⟩)
      fun _ => ?_
    refine draws_definition.bind fun _ drawn => more.bind fun _ ⟨ends, others⟩ => .pure ?_
    exact ⟨ends, List.forall_mem_cons.mpr ⟨drawn, others⟩⟩

theorem draws_document :
    Draws sound document fun found => sound .endOfText ∧ found.Drawn sound := by
  refine draws_definition.bind fun _ drawn => keeps_bound.bind fun _ _ =>
    (draws_definitionsWithin _).bind fun _ ⟨ends, others⟩ => .pure ?_
  exact ⟨ends, List.forall_mem_cons.mpr ⟨drawn, others⟩⟩

theorem draws_finish : Draws sound finish fun _ => sound .endOfText :=
  .peek_bind fun _ isSound => .ite (fun ends => .pure (ends ▸ isSound)) fun _ => .wrong _ _

end Parser

/-! ## Texts -/

/-- The lexemes of a text are sound if every lexeme is that can be read at the front of a
text. -/
theorem forall_mem_lexed
    {sound : Lexeme → Prop}
    (isSound : ∀ cs found rest, Lexer.lexeme cs = .ok (found, rest) → found ≠ .endOfText →
      sound found)
    (cs : List Char) :
    ∀ found ∈ (lexed cs).lexemes, sound found := by
  induction cs using Lexer.induction_rest with
  | step cs soundRest =>
    rw [lexed_eq]
    split
    case h_1 => nofun
    case h_2 => nofun
    case h_3 found rest notEnd read =>
      exact List.forall_mem_cons.mpr
        ⟨isSound _ found rest read notEnd, soundRest found rest read notEnd⟩

/-- What a reader gives for a text is good if it is where the lexemes of the text are sound,
and its end if the text is read to its end. -/
theorem Parser.good_of_run
    {α : Type}
    {sound : Lexeme → Prop}
    {parser : Parser α}
    {good : α → Prop}
    (draws : Draws sound parser good)
    {text : String}
    {value : α}
    (isSound : ∀ found ∈ (lexed text.toList).lexemes, sound found)
    (soundEnd : (lexed text.toList).stop = none → sound .endOfText)
    (ran : run parser text = .ok value) :
    good value := by
  obtain ⟨cursor, started, ran⟩ := Outcome.bind_eq_ok_iff.mp ran
  obtain ⟨⟨found, left⟩, ranParser, same⟩ := Outcome.bind_eq_ok_iff.mp ran
  obtain rfl := Except.ok.inj same
  have soundStart : cursor.Sound sound := by
    refine Cursor.sound_of_advance (fun token present => ?_) (fun position ends => ?_) started
    · exact isSound _ (List.mem_map_of_mem present)
    · have reaches : (tokenize text).ending = .ok position := ends
      refine soundEnd ?_
      rw [← lexed_tokenize, Tokens.lexed, reaches]
  exact (draws cursor found left soundStart ranParser).2

/-- A reader that meets the end of the text refuses a text that cannot be read to its end. -/
theorem Parser.exists_error_of_stop
    {α : Type}
    {parser : Parser α}
    (draws : ∀ sound, Draws sound parser fun _ => sound .endOfText)
    {text : String}
    (stops : (lexed text.toList).stop ≠ none) :
    ∃ error, run parser text = .error error := by
  cases ran : run parser text with
  | error error => exact ⟨error, rfl⟩
  | ok value =>
    have noEnd := forall_mem_lexed (fun _ _ _ _ notEnd => notEnd) text.toList
    exact absurd rfl (good_of_run (draws _) noEnd (fun reaches => absurd reaches stops) ran)

/-- A document that a text stands for is drawn from the lexemes of the text, and so is the
end of the text, which has been met then. -/
theorem Document.drawn_of_parse
    {sound : Lexeme → Prop}
    {text : String}
    {document : Document}
    (isSound : ∀ found ∈ (lexed text.toList).lexemes, sound found)
    (soundEnd : (lexed text.toList).stop = none → sound .endOfText)
    (parsed : parse text = .ok document) :
    sound .endOfText ∧ document.Drawn sound :=
  Parser.good_of_run Parser.draws_document isSound soundEnd parsed

/-- A text that cannot be read to its end stands for no document. -/
theorem Document.exists_error_of_stop
    {text : String}
    (stops : (lexed text.toList).stop ≠ none) :
    ∃ error, parse text = .error error :=
  Parser.exists_error_of_stop
    (fun _ => Parser.draws_document.mono fun _ ⟨ends, _⟩ => ends) stops

/-- A text that cannot be read to its end stands for no value. -/
theorem Value.exists_error_of_stop
    (constant : Bool)
    {text : String}
    (stops : (lexed text.toList).stop ≠ none) :
    ∃ error, parse constant text = .error error :=
  Parser.exists_error_of_stop
    (fun _ => (Parser.draws_value constant).bind fun _ _ =>
      Parser.draws_finish.bind fun _ ends => .pure ends) stops

end Source
end GraphQL
