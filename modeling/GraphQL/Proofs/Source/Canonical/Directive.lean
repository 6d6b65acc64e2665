import GraphQL.Proofs.Source.Canonical.Value

/-!
# Arguments and directives are told by their canonical texts

An argument is a name and a value with a colon between them, and arguments stand between
parentheses.  A directive opens with its sign and ends where neither a word is carried on
nor arguments follow.
-/

namespace GraphQL
namespace Source
namespace Canonical

open Text Layout

variable {marks : List (List Char)}

/-! ## Marks that settle what stands before them -/

/-- Before the marks a word is at its end, and so are types and directives. -/
def settles (marks : List (List Char)) : Bool :=
  endWords marks && isApart ['!'] marks && isApart ['('] marks && isApart [' ', '@'] marks

theorem endWords_of_settles (settled : settles marks = true) : endWords marks = true := by
  simp only [settles, Bool.and_eq_true] at settled
  exact settled.1.1.1

theorem isApart_cons
    {mark other : List Char}
    (apartOther : isApart mark [other] = true)
    (apart : isApart mark marks = true) :
    isApart mark (other :: marks) = true := by
  simp only [isApart, List.all_cons, List.all_nil, Bool.and_true, Bool.and_eq_true]
    at apartOther apart ⊢
  exact ⟨apart.1, apartOther.2, apart.2⟩

/-! ## Parentheses -/

section Parentheses

variable {α : Type} {write : α → List Char} {good : α → Prop} {values : List α}

/-- Texts in parentheses, unless there are none: each on a line of its own, or all of them
on one line. -/
def inBrackets (write : α → List Char) (row : Bool × List α) : List Char :=
  opened ['(']
    (fun values =>
      if row.1 then '\n' :: ' ' :: ' ' :: indentedTo ')' (listed ['\n'] write) values
      else rowTo ')' write values)
    row.2

/-- All the values are good, and nothing stands on lines of its own if there are none. -/
structure IsRow (good : α → Prop) (row : Bool × List α) : Prop where
  /-- All the values are good. -/
  areGood : ∀ value ∈ row.2, good value
  /-- Nothing stands on lines of its own if there are no values. -/
  onLine : row.2 = [] → row.1 = false

/-- A text opens otherwise if it stands on a line of its own. -/
theorem row_ne_lines
    (isGood : ∀ value ∈ values, good value)
    (opens : OpensValue write good)
    (rest more : List Char) :
    rowTo ')' write values ++ rest ≠ '\n' :: more := by
  intro same
  rw [rowTo, List.append_assoc] at same
  cases values with
  | nil => simp [listed] at same
  | cons value values =>
    obtain ⟨c, cs, written, isOpening⟩ := opens value (isGood value List.mem_cons_self)
    rw [listed, written] at same
    obtain ⟨rfl, -⟩ := List.cons.inj same
    exact absurd isOpening (by decide)

/-- Texts in parentheses are told if each of them is, however they are laid out. -/
theorem told_inBrackets
    {row : Bool × List α}
    (toldInRow : ∀ value ∈ row.2, Told write good [[',', ' '], [')']] value)
    (toldByLine : ∀ value ∈ row.2, Told write good [['\n']] value)
    (isRow : IsRow good row)
    (opens : OpensValue write good)
    (apart : isApart ['('] marks = true) :
    Told (inBrackets write) (IsRow good) marks row := by
  obtain ⟨byLine, values⟩ := row
  rintro ⟨byLineToo, others⟩ rest left isRowToo starts startsLeft same
  have areGood : ∀ value ∈ values, good value := isRow.areGood
  have areGoodToo : ∀ value ∈ others, good value := isRowToo.areGood
  have elsewhere (byLine : Bool) (value : α) (values : List α) (more : List Char) :
      ¬Starts marks (inBrackets write (byLine, value :: values) ++ more) := by
    rw [inBrackets, opened, List.append_assoc]
    exact not_starts_of_isApart apart _
  have notEmpty (value : α) (isGood : good value) : write value ≠ [] := by
    obtain ⟨c, cs, written, -⟩ := opens value isGood
    simp [written]
  cases values with
  | nil =>
    cases others with
    | nil =>
      obtain ⟨rfl, rfl⟩ : byLine = false ∧ byLineToo = false :=
        ⟨isRow.onLine rfl, isRowToo.onLine rfl⟩
      exact ⟨rfl, same⟩
    | cons other others => exact absurd (same ▸ starts) (elsewhere byLineToo other others left)
  | cons value values =>
    cases others with
    | nil => exact absurd (same ▸ startsLeft) (elsewhere byLine value values rest)
    | cons other others =>
      simp only [inBrackets, opened, List.cons_append, List.nil_append, List.cons.injEq,
        true_and] at same
      cases byLine
      all_goals
        cases byLineToo
        all_goals simp only [if_true, if_false, Bool.false_eq_true, List.cons_append,
          List.cons.injEq, true_and] at same
      case false.false =>
        obtain ⟨sameValues, sameRest⟩ :=
          told_row toldInRow areGood opens rfl rfl marks areGoodToo starts startsLeft same
        exact ⟨Prod.ext rfl sameValues, sameRest⟩
      case true.true =>
        have notSpace : ')' ≠ ' ' := by decide
        obtain ⟨sameValues, sameRest⟩ :=
          told_lines notSpace toldByLine areGood notEmpty marks areGoodToo starts startsLeft same
        exact ⟨Prod.ext rfl sameValues, sameRest⟩
      case false.true => exact absurd same (row_ne_lines areGood opens _ _)
      case true.false => exact absurd same.symm (row_ne_lines areGoodToo opens _ _)

theorem follows_inBrackets
    {row : Bool × List α}
    (toldInRow : ∀ value ∈ row.2, Told write good [[',', ' '], [')']] value)
    (toldByLine : ∀ value ∈ row.2, Told write good [['\n']] value)
    (isRow : IsRow good row)
    (opens : OpensValue write good)
    (apart : isApart ['('] marks = true) :
    Follows (['('] :: marks) (inBrackets write) (IsRow good) marks row := by
  refine ⟨told_inBrackets toldInRow toldByLine isRow opens apart, isRow, ?_⟩
  rintro ⟨byLine, values⟩ rest _ starts
  exact (opensUnless_opened ['('] _).leads (fun _ => True) marks trivial starts

theorem toList_inParens_eq
    {print : α → String}
    (notEmpty : ∀ value ∈ values, chars print value ≠ []) :
    (inParens (values.map print)).toList = inBrackets (chars print) (false, values) := by
  rw [toList_inParens notEmpty]
  rfl

theorem toList_inParensByLine_eq
    {print : α → String}
    (notEmpty : ∀ value ∈ values, chars print value ≠ []) :
    (inParensByLine (values.map print)).toList = inBrackets (chars print) (true, values) := by
  rw [toList_inParensByLine notEmpty]
  cases values with
  | nil => rfl
  | cons value values => rfl

end Parentheses

/-! ## Arguments -/

/-- The parts of an argument. -/
def argumentParts (argument : Argument) : String × Value :=
  (argument.name, argument.value)

theorem argumentParts_injective : Function.Injective argumentParts := by
  rintro ⟨_, _⟩ ⟨_, _⟩ ⟨⟩
  rfl

theorem chars_argument (argument : Argument) :
    chars Argument.print argument =
      inTurn String.toList (fun value => [':', ' '] ++ chars Value.print value)
        (argumentParts argument) := by
  simp [chars, Argument.print, argumentParts, inTurn]

theorem chars_argument_ne_nil (argument : Argument) : chars Argument.print argument ≠ [] := by
  simp [chars_argument, inTurn]

theorem told_argument
    {argument : Argument}
    (ends : endWords marks = true)
    (drawn : argument.Drawn Lexeme.Genuine) :
    Told (chars Argument.print) (Argument.Drawn Lexeme.Genuine) marks argument :=
  ((told_name rfl drawn.name).inTurn
    (follows_marked [':', ' '] (told_value ends drawn.value) drawn.value)).of_parts drawn
    argumentParts_injective (fun other _ => chars_argument other)
    (fun _ drawnOther => ⟨drawnOther.name, drawnOther.value⟩)

theorem opensValue_argument (argument : Argument) (drawn : argument.Drawn Lexeme.Genuine) :
    ∃ c cs, chars Argument.print argument = c :: cs ∧ opensValue c = true := by
  rw [chars_argument]
  exact opensValue_append (opensValue_name drawn.name) _

/-- Arguments on one line up to the closing parenthesis. -/
def argumentRow : List Argument → List Char :=
  rowTo ')' (chars Argument.print)

theorem told_argumentRow
    {arguments : List Argument}
    (drawn : ∀ argument ∈ arguments, argument.Drawn Lexeme.Genuine)
    (marks : List (List Char)) :
    Told argumentRow (fun arguments => ∀ argument ∈ arguments, argument.Drawn Lexeme.Genuine)
      marks arguments :=
  told_row (fun argument present => told_argument rfl (drawn argument present)) drawn
    opensValue_argument rfl rfl marks

/-! ## Directives -/

/-- The parts of a directive. -/
def directiveParts (directive : Directive) : String × List Argument :=
  (directive.name, directive.arguments)

theorem directiveParts_injective : Function.Injective directiveParts := by
  rintro ⟨_, _⟩ ⟨_, _⟩ ⟨⟩
  rfl

/-- A directive behind its sign. -/
def directiveText (directive : Directive) : List Char :=
  inTurn String.toList (opened ['('] argumentRow) (directiveParts directive)

theorem chars_directive (directive : Directive) :
    chars Directive.print directive = '@' :: directiveText directive := by
  have inParens : (inParens (directive.arguments.map Argument.print)).toList =
      opened ['('] argumentRow directive.arguments :=
    toList_inParens fun argument _ => chars_argument_ne_nil argument
  simp [chars, Directive.print, inParens, directiveText, directiveParts, inTurn]

/-- Directives behind a space, unless there are none. -/
theorem toList_wrap_directives (directives : List Directive) :
    (wrap " " (Directive.printAll directives) "").toList =
      pieces [' ', '@'] directiveText directives := by
  have notEmpty (directive : Directive) (_ : directive ∈ directives) :
      chars Directive.print directive ≠ [] := by
    simp [chars_directive]
  rw [Directive.printAll, toList_wrap_join notEmpty]
  cases directives with
  | nil => rfl
  | cons directive directives => simp [opened, listed, pieces, chars_directive]

theorem told_directive
    {directive : Directive}
    (ends : endWords marks = true)
    (apart : isApart ['('] marks = true)
    (drawn : directive.Drawn Lexeme.Genuine) :
    Told directiveText (Directive.Drawn Lexeme.Genuine) marks directive :=
  ((told_name (endWords_cons rfl ends) drawn.name).inTurn
    (follows_opened ['('] (told_argumentRow drawn.arguments marks) drawn.arguments
      apart)).of_parts drawn
    directiveParts_injective (fun _ _ => rfl)
    (fun _ drawnOther => ⟨drawnOther.name, drawnOther.arguments⟩)

/-- The directives are drawn from genuine lexemes. -/
def GoodDirectives (directives : List Directive) : Prop :=
  ∀ directive ∈ directives, directive.Drawn Lexeme.Genuine

/-- Directives are told by their canonical texts before marks that settle them. -/
theorem follows_directives
    {directives : List Directive}
    (settled : settles marks = true)
    (areGood : GoodDirectives directives) :
    Follows ([' ', '@'] :: marks) (pieces [' ', '@'] directiveText) GoodDirectives marks
      directives := by
  simp only [settles, Bool.and_eq_true] at settled
  exact follows_pieces [' ', '@'] (fun directive present =>
    told_directive (endWords_cons rfl settled.1.1.1) (isApart_cons rfl settled.1.2)
      (areGood directive present)) areGood settled.2

end Canonical
end Source
end GraphQL
