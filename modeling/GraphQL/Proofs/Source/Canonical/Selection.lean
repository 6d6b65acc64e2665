import GraphQL.Proofs.Source.Canonical.Directive

/-!
# Selections are told by their canonical texts

Every selection is an opening, directives and a block.  A field opens with a name, where a
spread and an inline fragment open with points, and these two differ in what follows the
points.
-/

namespace GraphQL
namespace Source
namespace Canonical

open Text Layout

/-! ## Openings -/

/-- What a field is called, and its name if that is another. -/
def labelParts : Option String → String → String × Option String
  | none, name => (name, none)
  | some label, name => (label, some name)

/-- What a selection opens with. -/
inductive Opening
  | field (label : String × Option String) (row : Bool × List Argument)
  | spread (name : String)
  | inlineFragment (condition? : Option String)

namespace Opening

/-- What a field is called, and its name behind a colon if that is another. -/
def labelText : String × Option String → List Char :=
  inTurn String.toList (piece [':', ' '] String.toList)

/-- The text of an opening. -/
def text : Opening → List Char
  | field label row => inTurn labelText (inBrackets (chars Argument.print)) (label, row)
  | spread name => ['.', '.', '.'] ++ name.toList
  | inlineFragment condition? =>
    ['.', '.', '.'] ++ piece [' ', 'o', 'n', ' '] String.toList condition?

/-- The names of a label are genuine. -/
def IsLabel : String × Option String → Prop :=
  Both (fun name => Lexeme.Genuine (.name name))
    fun name? => ∀ name ∈ name?, Lexeme.Genuine (.name name)

/-- The opening is drawn from genuine lexemes. -/
def Good : Opening → Prop
  | field label row => IsLabel label ∧ IsRow (Argument.Drawn Lexeme.Genuine) row
  | spread name => Lexeme.Genuine (.name name)
  | inlineFragment condition? => ∀ condition ∈ condition?, Lexeme.Genuine (.name condition)

end Opening

/-- What may follow the opening of a selection in a block. -/
def openingEnds : List (List Char) :=
  [[' ', '@'], [' ', '\x7b', '\n', ' ', ' '], ['\n']]

theorem told_label
    {label : String × Option String}
    (isLabel : Opening.IsLabel label) :
    Told Opening.labelText Opening.IsLabel (['('] :: openingEnds) label :=
  (told_name rfl isLabel.1).inTurn
    (follows_piece [':', ' '] (fun name present => told_name rfl (isLabel.2 name present))
      isLabel.2 rfl)

theorem follows_arguments
    {row : Bool × List Argument}
    (isRow : IsRow (Argument.Drawn Lexeme.Genuine) row) :
    Follows (['('] :: openingEnds) (inBrackets (chars Argument.print))
      (IsRow (Argument.Drawn Lexeme.Genuine)) openingEnds row :=
  follows_inBrackets (fun argument present => told_argument rfl (isRow.areGood argument present))
    (fun argument present => told_argument rfl (isRow.areGood argument present)) isRow
    opensValue_argument rfl

/-- No name opens with a point. -/
theorem name_ne_point
    {name : String}
    (isGenuine : Lexeme.Genuine (.name name))
    (rest more : List Char) :
    name.toList ++ rest ≠ '.' :: more := by
  intro same
  have isName : Name.IsName name := isGenuine
  cases written : name.toList with
  | nil => simp [Name.IsName, Name.isName, written] at isName
  | cons c cs =>
    rw [written] at same
    obtain ⟨rfl, -⟩ := List.cons.inj same
    rw [Name.IsName, written] at isName
    exact absurd isName (by simp [Name.isName, Name.isStart])

theorem field_ne_point
    {label : String × Option String}
    (isLabel : Opening.IsLabel label)
    (row : Bool × List Argument)
    (rest more : List Char) :
    (Opening.field label row).text ++ rest ≠ '.' :: more := by
  simp only [Opening.text, Opening.labelText, inTurn, List.append_assoc]
  exact name_ne_point isLabel.1 _ _

/-- A name behind the points is no condition of an inline fragment, and nothing that
follows one. -/
theorem name_ne_condition
    {name : String}
    (isGenuine : Lexeme.Genuine (.name name))
    (condition? : Option String)
    {left : List Char}
    (startsLeft : Starts openingEnds left)
    (rest : List Char) :
    name.toList ++ rest ≠ piece [' ', 'o', 'n', ' '] String.toList condition? ++ left := by
  intro same
  have starts : Starts ([' ', 'o', 'n', ' '] :: openingEnds)
      (piece [' ', 'o', 'n', ' '] String.toList condition? ++ left) :=
    (opensUnless_piece _ _).leads (fun _ => True) _ trivial startsLeft
  rw [← same] at starts
  exact not_starts_word rfl (isWord_of_isName isGenuine) rest starts

/-- The opening of a selection is told by its text. -/
theorem told_opening
    {opening : Opening}
    (isGood : opening.Good) :
    Told Opening.text Opening.Good openingEnds opening := by
  intro other rest left isGoodToo starts startsLeft same
  cases opening with
  | field label row =>
    cases other with
    | field otherLabel otherRow =>
      have told : Told _ _ openingEnds (label, row) :=
        (told_label isGood.1).inTurn (follows_arguments isGood.2)
      obtain ⟨sameParts, sameRest⟩ := @told (otherLabel, otherRow) rest left isGoodToo starts
        startsLeft same
      cases sameParts
      exact ⟨rfl, sameRest⟩
    | spread | inlineFragment => exact absurd same (field_ne_point isGood.1 row _ _)
  | spread name =>
    cases other with
    | field label row => exact absurd same.symm (field_ne_point isGoodToo.1 row _ _)
    | spread other =>
      exact ((told_name rfl isGood).marked ['.', '.', '.']).made Opening.spread isGoodToo starts
        startsLeft same
    | inlineFragment condition? =>
      exact absurd (by simpa [Opening.text] using same)
        (name_ne_condition isGood condition? startsLeft rest)
  | inlineFragment condition? =>
    cases other with
    | field label row => exact absurd same.symm (field_ne_point isGoodToo.1 row _ _)
    | spread other =>
      exact absurd (by simpa [Opening.text] using same.symm)
        (name_ne_condition isGoodToo condition? starts left)
    | inlineFragment other? =>
      have told : Told (piece [' ', 'o', 'n', ' '] String.toList) _ openingEnds condition? :=
        told_piece (fun condition present => told_name rfl (isGood condition present)) rfl
      exact (told.marked ['.', '.', '.']).made Opening.inlineFragment isGoodToo starts
        startsLeft same

/-! ## Selections -/

/-- A field's arguments stand on lines of their own: there are some, and one line would be
too long. -/
def isBroken (label : String × Option String) (arguments : List Argument) : Bool :=
  !arguments.isEmpty &&
    decide (widestLine <
      (Opening.labelText label ++ inBrackets (chars Argument.print) (false, arguments)).length)

/-- What a field opens with. -/
def fieldOpening (alias? : Option String) (name : String) (arguments : List Argument) :
    Opening :=
  .field (labelParts alias? name) (isBroken (labelParts alias? name) arguments, arguments)

/-- What a selection opens with, its directives and its selections. -/
def selectionParts : Selection → Opening × List Directive × List Selection
  | .field alias? name arguments directives selections =>
    (fieldOpening alias? name arguments, directives, selections)
  | .spread name directives => (.spread name, directives, [])
  | .inlineFragment condition? directives selections =>
    (.inlineFragment condition?, directives, selections)

theorem labelParts_injective
    {alias? otherAlias? : Option String}
    {name other : String}
    (same : labelParts alias? name = labelParts otherAlias? other) :
    alias? = otherAlias? ∧ name = other := by
  cases alias?
  all_goals
    cases otherAlias?
    all_goals
      cases same
  all_goals exact ⟨rfl, rfl⟩

theorem selectionParts_injective : Function.Injective selectionParts := by
  intro selection other same
  cases selection
  all_goals
    cases other
    all_goals
      simp only [selectionParts, fieldOpening, Prod.mk.injEq, Opening.field.injEq, reduceCtorEq,
        Opening.spread.injEq, Opening.inlineFragment.injEq, false_and, and_true] at same
  case field.field =>
    obtain ⟨⟨sameLabel, -, rfl⟩, rfl, rfl⟩ := same
    obtain ⟨rfl, rfl⟩ := labelParts_injective sameLabel
    rfl
  case spread.spread =>
    obtain ⟨rfl, rfl⟩ := same
    rfl
  case inlineFragment.inlineFragment =>
    obtain ⟨rfl, rfl, rfl⟩ := same
    rfl

/-- A label and arguments, which are broken into lines if the line would be too long. -/
theorem toList_labelled
    {label : String}
    {parts : String × Option String}
    (written : label.toList = Opening.labelText parts)
    (arguments : List Argument) :
    (if widestLine < (label ++ inParens (arguments.map Argument.print)).length then
      label ++ inParensByLine (arguments.map Argument.print)
    else label ++ inParens (arguments.map Argument.print)).toList =
      (Opening.field parts (isBroken parts arguments, arguments)).text := by
  have notEmpty (argument : Argument) (_ : argument ∈ arguments) :=
    chars_argument_ne_nil argument
  simp only [Opening.text, inTurn, isBroken, ← written, ← toList_inParens_eq notEmpty,
    ← String.toList_append, String.length_toList]
  cases arguments with
  | nil =>
    have inLines : inParensByLine [] = "" := by rfl
    have inLine : inParens [] = "" := by rfl
    simp [inLines, inLine, inBrackets, opened]
  | cons argument arguments =>
    split
    case isTrue long =>
      rw [String.toList_append, toList_inParensByLine_eq notEmpty]
      simp only [long, List.isEmpty_cons, Bool.not_false, Bool.true_and, decide_true]
    case isFalse fits =>
      rw [String.toList_append, toList_inParens_eq notEmpty]
      simp only [fits, decide_false, Bool.and_false]

theorem toList_fieldHead (alias? : Option String) (name : String) (arguments : List Argument) :
    (Selection.fieldHead alias? name arguments).toList =
      (fieldOpening alias? name arguments).text := by
  cases alias? with
  | none => exact toList_labelled (List.append_nil _).symm arguments
  | some label =>
    have written : (label ++ ": " ++ name).toList = Opening.labelText (label, some name) := by
      simp [Opening.labelText, inTurn, piece]
    exact toList_labelled written arguments

theorem printAll_eq_map (selections : List Selection) :
    Selection.printAll selections = selections.map Selection.print := by
  induction selections with
  | nil => rfl
  | cons selection selections inductionHypothesis =>
    rw [Selection.printAll, inductionHypothesis, List.map_cons]

/-- Selections on lines of their own, up to the closing brace. -/
def selectionLines : List Selection → List Char :=
  indentedTo '\x7d' (listed ['\n'] (chars Selection.print))

/-- Directives, and a block of selections. -/
def selectionRest : List Directive × List Selection → List Char :=
  inTurn (pieces [' ', '@'] directiveText)
    (opened [' ', '\x7b', '\n', ' ', ' '] selectionLines)

theorem good_opening
    {selection : Selection}
    (drawn : selection.Drawn Lexeme.Genuine) :
    (selectionParts selection).1.Good := by
  cases drawn with
  | field alias? name arguments directives selections labelled named given =>
    refine ⟨?_, given, fun isEmpty => ?_⟩
    · cases alias? with
      | none => exact ⟨named, nofun⟩
      | some label => exact ⟨labelled label rfl, fun _ isName => by cases isName; exact named⟩
    · have isEmpty : arguments = [] := isEmpty
      simp [isBroken, isEmpty]
  | spread name directives named => exact named
  | inlineFragment condition? directives selections named => exact named

theorem opening_text_ne_nil
    {opening : Opening}
    (isGood : opening.Good) :
    opening.text ≠ [] := by
  cases opening with
  | field label row =>
    have isWord := isWord_of_isName isGood.1.1
    simp [Opening.text, Opening.labelText, inTurn, isWord.notEmpty]
  | spread | inlineFragment => simp [Opening.text]

theorem toList_wrap_selections
    {selections : List Selection}
    (notEmpty : ∀ selection ∈ selections, chars Selection.print selection ≠ []) :
    (wrap " " (block (Selection.printAll selections)) "").toList =
      opened [' ', '\x7b', '\n', ' ', ' '] selectionLines selections := by
  rw [printAll_eq_map, toList_wrap_block notEmpty]
  rfl

theorem toList_wrap_condition
    {condition? : Option String}
    (named : ∀ condition ∈ condition?, Lexeme.Genuine (.name condition)) :
    (wrap " on " (condition?.getD "") "").toList =
      piece [' ', 'o', 'n', ' '] String.toList condition? := by
  cases condition? with
  | none => rfl
  | some condition =>
    have isWord := isWord_of_isName (named condition rfl)
    simp [toList_wrap, piece, isWord.notEmpty]

theorem toList_points : "...".toList = ['.', '.', '.'] := by
  decide

/-- Behind the opening of a selection stand its directives and its block. -/
theorem chars_selection
    {selection : Selection}
    (drawn : selection.Drawn Lexeme.Genuine)
    (notEmpty : ∀ nested ∈ (selectionParts selection).2.2, chars Selection.print nested ≠ []) :
    chars Selection.print selection =
      inTurn Opening.text selectionRest (selectionParts selection) := by
  have isGood := good_opening drawn
  cases drawn with
  | field alias? name arguments directives selections =>
    have headed : (Selection.fieldHead alias? name arguments).toList ≠ [] := by
      rw [toList_fieldHead]
      exact opening_text_ne_nil isGood
    have inBlock : (wrap " " (block (Selection.printAll selections)) "").toList = _ :=
      toList_wrap_selections notEmpty
    rw [chars, Selection.print, toList_join_cons headed]
    simp only [List.flatMap_cons, List.flatMap_nil, toList_wrap_directives, inBlock,
      toList_fieldHead, List.append_nil, selectionParts, selectionRest, inTurn]
  | spread name directives =>
    rw [chars, Selection.print, String.toList_append, toList_wrap_directives,
      String.toList_append, toList_points]
    simp only [selectionParts, selectionRest, inTurn, opened, List.append_nil, Opening.text]
  | inlineFragment condition? directives selections named =>
    have inBlock : (wrap " " (block (Selection.printAll selections)) "").toList = _ :=
      toList_wrap_selections notEmpty
    have conditional := toList_wrap_condition named
    rw [chars, Selection.print, toList_join_cons (by decide), toList_points]
    simp only [List.flatMap_cons, List.flatMap_nil, toList_wrap_directives, inBlock,
      toList_wrap_wrap, List.append_nil, selectionParts, selectionRest, inTurn, Opening.text,
      List.append_assoc]
    rw [show " " ++ "on " = " on " from rfl, conditional]

/-- The selections of a selection, its directives and what it opens with are genuine. -/
def GoodSelection : Opening × List Directive × List Selection → Prop :=
  Both Opening.Good <| Both GoodDirectives
    fun selections => ∀ selection ∈ selections, selection.Drawn Lexeme.Genuine

theorem goodSelection
    {selection : Selection}
    (drawn : selection.Drawn Lexeme.Genuine) :
    GoodSelection (selectionParts selection) := by
  refine ⟨good_opening drawn, ?_⟩
  cases drawn with
  | field _ _ _ _ _ _ _ _ applied nested => exact ⟨applied, nested⟩
  | spread _ _ _ applied => exact ⟨applied, nofun⟩
  | inlineFragment _ _ _ _ applied nested => exact ⟨applied, nested⟩

theorem chars_selection_ne_nil
    {selection : Selection}
    (drawn : selection.Drawn Lexeme.Genuine) :
    chars Selection.print selection ≠ [] := by
  induction drawn with
  | field alias? name arguments directives selections labelled named given applied nested
      notEmpty =>
    have drawn : Selection.Drawn Lexeme.Genuine _ :=
      .field alias? name arguments directives selections labelled named given applied nested
    rw [chars_selection drawn notEmpty]
    simp [inTurn, opening_text_ne_nil (good_opening drawn)]
  | spread name directives named applied =>
    simp [chars, Selection.print]
  | inlineFragment condition? directives selections named applied nested notEmpty =>
    have drawn : Selection.Drawn Lexeme.Genuine _ :=
      .inlineFragment condition? directives selections named applied nested
    rw [chars_selection drawn notEmpty]
    simp [inTurn, opening_text_ne_nil (good_opening drawn)]

/-- Selections in a block are told if each of them is. -/
theorem told_selectionLines
    {selections : List Selection}
    (told : ∀ selection ∈ selections,
      Told (chars Selection.print) (Selection.Drawn Lexeme.Genuine) [['\n']] selection)
    (drawn : ∀ selection ∈ selections, selection.Drawn Lexeme.Genuine)
    (marks : List (List Char)) :
    Told selectionLines (fun selections => ∀ selection ∈ selections,
      selection.Drawn Lexeme.Genuine) marks selections :=
  told_lines (by decide) told drawn (fun _ => chars_selection_ne_nil) marks

/-- A selection is told by its text if the selections in it are. -/
theorem told_selection_of_nested
    {selection : Selection}
    (drawn : selection.Drawn Lexeme.Genuine)
    (told : ∀ nested ∈ (selectionParts selection).2.2,
      Told (chars Selection.print) (Selection.Drawn Lexeme.Genuine) [['\n']] nested) :
    Told (chars Selection.print) (Selection.Drawn Lexeme.Genuine) [['\n']] selection := by
  obtain ⟨isGood, applied, nested⟩ := goodSelection drawn
  have toldBlock := told_selectionLines told nested [['\n']]
  have follows := (follows_directives rfl applied).inTurn
    (follows_opened [' ', '\x7b', '\n', ' ', ' '] toldBlock nested rfl)
  refine ((told_opening isGood).inTurn follows).of_parts drawn selectionParts_injective ?_
    (fun _ => goodSelection)
  exact fun other drawnOther => chars_selection drawnOther
    fun _ present => chars_selection_ne_nil ((goodSelection drawnOther).2.2 _ present)

/-- A selection in a block is told by its canonical text. -/
theorem told_selection
    {selection : Selection}
    (drawn : selection.Drawn Lexeme.Genuine) :
    Told (chars Selection.print) (Selection.Drawn Lexeme.Genuine) [['\n']] selection := by
  induction drawn with
  | field alias? name arguments directives selections labelled named given applied nested told =>
    exact told_selection_of_nested
      (.field alias? name arguments directives selections labelled named given applied nested) told
  | spread name directives named applied =>
    exact told_selection_of_nested (.spread name directives named applied) nofun
  | inlineFragment condition? directives selections named applied nested told =>
    exact told_selection_of_nested
      (.inlineFragment condition? directives selections named applied nested) told

/-- Selections on lines of their own are told by their canonical texts. -/
theorem told_selections
    {selections : List Selection}
    (drawn : ∀ selection ∈ selections, selection.Drawn Lexeme.Genuine)
    (marks : List (List Char)) :
    Told selectionLines (fun selections => ∀ selection ∈ selections,
      selection.Drawn Lexeme.Genuine) marks selections :=
  told_selectionLines (fun _ present => told_selection (drawn _ present)) drawn marks

end Canonical
end Source
end GraphQL
