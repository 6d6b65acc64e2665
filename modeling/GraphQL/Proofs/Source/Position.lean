import GraphQL.Proofs.Source.Lexing
import GraphQL.Source.Parser

/-!
# Positions in reading

What a reader makes of tokens depends on their lexemes; where they stand only shows in
the position of an error.  Two readers are alike if they cannot be told apart without
positions, and a reader that is like itself is placeless.  Both are kept by the ways in
which readers are put together, from single tokens up to sequences.
-/

namespace GraphQL
namespace Source

namespace Cursor

/-- What is there to be read, without positions. -/
def lexed (cursor : Cursor) : Lexed :=
  Tokens.lexed ⟨cursor.current :: cursor.ahead, cursor.ending⟩

/-- The lexeme that is read next is part of what is there to be read. -/
theorem lexeme_eq_of_lexed_eq
    {first second : Cursor}
    (same : first.lexed = second.lexed) :
    first.current.lexeme = second.current.lexeme := by
  have lexemes := congrArg Lexed.lexemes same
  exact (List.cons.inj lexemes).1

/-- The number of tokens ahead is part of what is there to be read. -/
theorem length_ahead_eq_of_lexed_eq
    {first second : Cursor}
    (same : first.lexed = second.lexed) :
    first.ahead.length = second.ahead.length := by
  have lengths := congrArg (·.lexemes.length) same
  simpa [lexed, Tokens.lexed] using lengths

end Cursor

namespace Parser

variable {α β : Type}

/-! ## Running readers -/

@[simp] theorem run_pure (value : α) (cursor : Cursor) :
    StateT.run (pure value : Parser α) cursor = .ok (value, cursor) := rfl

@[simp] theorem run_throw (error : SyntaxError) (cursor : Cursor) :
    StateT.run (throw error : Parser α) cursor = .error error := rfl

@[simp] theorem run_peek (cursor : Cursor) :
    StateT.run peek cursor = .ok (cursor.current, cursor) := rfl

@[simp] theorem run_unexpected (token : Token) (cursor : Cursor) :
    StateT.run (unexpected token : Parser α) cursor =
      .error ⟨.unexpected token.lexeme, token.start⟩ := rfl

@[simp] theorem run_wrong (wanted : Wanted) (token : Token) (cursor : Cursor) :
    StateT.run (wrong wanted token : Parser α) cursor =
      .error ⟨.expected wanted token.lexeme, token.start⟩ := rfl

theorem run_next (cursor : Cursor) :
    StateT.run next cursor = cursor.advance.map fun moved => ((), moved) := by
  simp only [next, StateT.run_bind, StateT.run_get, StateT.run_monadLift, pure_bind]
  cases cursor.advance <;> rfl

theorem run_lookahead (cursor : Cursor) :
    StateT.run lookahead cursor = cursor.advance.map fun moved => (moved.current, cursor) := by
  simp only [lookahead, StateT.run_bind, StateT.run_get, StateT.run_monadLift, pure_bind]
  cases cursor.advance <;> rfl

/-! ## Readers that look alike -/

/-- A result or an error, without positions. -/
def seen : Except SyntaxError (α × Cursor) → Except Cause (α × Lexed)
  | .ok (value, cursor) => .ok (value, cursor.lexed)
  | .error error => .error error.cause

/-- The readers cannot be told apart without positions. -/
def Alike (first second : Parser α) : Prop :=
  ∀ here there : Cursor, here.lexed = there.lexed →
    seen (StateT.run first here) = seen (StateT.run second there)

/-- The reader only looks at lexemes. -/
def Placeless (parser : Parser α) : Prop :=
  Alike parser parser

/-! ## Composition -/

namespace Alike

protected theorem pure (value : α) : Placeless (Pure.pure value) := by
  intro here there same
  simp only [run_pure, seen, same]

theorem bind
    {first second : Parser α}
    {next other : α → Parser β}
    (alike : Alike first second)
    (alikeNext : ∀ value, Alike (next value) (other value)) :
    Alike (first >>= next) (second >>= other) := by
  intro here there same
  have alikeHere := alike here there same
  rw [StateT.run_bind, StateT.run_bind]
  cases ran : StateT.run first here with
  | error error =>
    cases ranOther : StateT.run second there with
    | error otherError => simpa [ran, ranOther, seen] using alikeHere
    | ok outcome => simp [ran, ranOther, seen] at alikeHere
  | ok outcome =>
    cases ranOther : StateT.run second there with
    | error otherError => simp [ran, ranOther, seen] at alikeHere
    | ok otherOutcome =>
      simp only [ran, ranOther, seen, Except.ok.injEq, Prod.mk.injEq] at alikeHere
      obtain ⟨sameValue, sameLexed⟩ := alikeHere
      simp only [Outcome.ok_bind, sameValue]
      exact alikeNext _ _ _ sameLexed

theorem ite
    {condition : Prop}
    [Decidable condition]
    {first second third fourth : Parser α}
    (alike : Alike first third)
    (alikeElse : Alike second fourth) :
    Alike (if condition then first else second) (if condition then third else fourth) := by
  split
  · exact alike
  · exact alikeElse

/-- What is done with the current token may depend on its lexeme. -/
theorem peek_bind
    {next other : Token → Parser α}
    (alike : ∀ lexeme place elsewhere,
      Alike (next ⟨lexeme, place⟩) (other ⟨lexeme, elsewhere⟩)) :
    Alike (peek >>= next) (peek >>= other) := by
  rintro ⟨⟨lexeme, place⟩, ahead, ending⟩ ⟨⟨otherLexeme, elsewhere⟩, others, otherEnding⟩ same
  obtain rfl : lexeme = otherLexeme := Cursor.lexeme_eq_of_lexed_eq same
  exact alike lexeme place elsewhere _ _ same

protected theorem throw
    {first second : SyntaxError}
    (same : first.cause = second.cause) :
    Alike (MonadExcept.throw first : Parser α) (MonadExcept.throw second) := by
  intro here there _
  simp only [run_throw, seen, same]

theorem unexpected
    (lexeme : Lexeme)
    (place elsewhere : Nat) :
    Alike (unexpected ⟨lexeme, place⟩ : Parser α) (unexpected ⟨lexeme, elsewhere⟩) :=
  .throw rfl

theorem wrong
    (wanted : Wanted)
    (lexeme : Lexeme)
    (place elsewhere : Nat) :
    Alike (wrong wanted ⟨lexeme, place⟩ : Parser α) (wrong wanted ⟨lexeme, elsewhere⟩) :=
  .throw rfl

end Alike

/-! ## Single tokens -/

/-- Moving on leaves less to be read, or meets the error that ends the tokens. -/
theorem placeless_next : Placeless next := by
  rintro ⟨current, ahead, ending⟩ ⟨otherCurrent, others, otherEnding⟩ same
  have sameLexemes := congrArg Lexed.lexemes same
  have sameStop := congrArg Lexed.stop same
  simp only [Cursor.lexed, Tokens.lexed, List.map_cons, List.cons.injEq] at sameLexemes sameStop
  rw [run_next, run_next]
  cases ahead with
  | nil =>
    cases others with
    | nil =>
      cases ending <;> cases otherEnding <;>
        simp_all [Cursor.advance, seen, Except.map, Cursor.lexed, Tokens.lexed]
    | cons other others => simp at sameLexemes
  | cons token ahead =>
    cases others with
    | nil => simp at sameLexemes
    | cons other others =>
      simp_all [Cursor.advance, seen, Except.map, Cursor.lexed, Tokens.lexed]

/-- What is done with the token after the current one may depend on its lexeme. -/
theorem Alike.lookahead_bind
    {next other : Token → Parser α}
    (alike : ∀ lexeme place elsewhere,
      Alike (next ⟨lexeme, place⟩) (other ⟨lexeme, elsewhere⟩)) :
    Alike (lookahead >>= next) (lookahead >>= other) := by
  intro here there same
  have alikeMoved := placeless_next here there same
  rw [run_next, run_next] at alikeMoved
  rw [StateT.run_bind, StateT.run_bind, run_lookahead, run_lookahead]
  cases moved : here.advance with
  | error error =>
    cases movedOther : there.advance with
    | error otherError => simpa [moved, movedOther, seen, Except.map] using alikeMoved
    | ok other => simp [moved, movedOther, seen, Except.map] at alikeMoved
  | ok found =>
    cases movedOther : there.advance with
    | error otherError => simp [moved, movedOther, seen, Except.map] at alikeMoved
    | ok otherFound =>
      simp only [moved, movedOther, seen, Except.map, Except.ok.injEq, Prod.mk.injEq,
        true_and] at alikeMoved
      obtain ⟨⟨lexeme, place⟩, ahead, ending⟩ := found
      obtain ⟨⟨otherLexeme, elsewhere⟩, others, otherEnding⟩ := otherFound
      obtain rfl : lexeme = otherLexeme := Cursor.lexeme_eq_of_lexed_eq alikeMoved
      exact alike lexeme place elsewhere _ _ same

theorem placeless_isAt (mark : Punctuator) : Placeless (isAt mark) :=
  .peek_bind fun _ _ _ => .pure _

theorem placeless_expect (mark : Punctuator) : Placeless (expect mark) :=
  .peek_bind fun _ _ _ => .ite placeless_next (.wrong _ _ _ _)

theorem placeless_optional (mark : Punctuator) : Placeless (Parser.optional mark) :=
  .bind (placeless_isAt mark) fun _ => .ite (.bind placeless_next fun _ => .pure _) (.pure _)

theorem placeless_keyword (word : String) : Placeless (keyword word) :=
  .peek_bind fun _ _ _ => .ite placeless_next (.wrong _ _ _ _)

theorem placeless_optionalKeyword (word : String) : Placeless (optionalKeyword word) :=
  .peek_bind fun _ _ _ => .ite (.bind placeless_next fun _ => .pure _) (.pure _)

theorem placeless_name : Placeless name := by
  apply Alike.peek_bind
  intro lexeme place elsewhere
  cases lexeme with
  | name text => exact .bind placeless_next fun _ => .pure _
  | _ => exact .wrong _ _ _ _

theorem placeless_finish : Placeless finish :=
  .peek_bind fun _ _ _ => .ite (.pure _) (.wrong _ _ _ _)

theorem placeless_bound : Placeless bound := by
  intro here there same
  change seen (.ok (here.ahead.length + 2, here)) = seen (.ok (there.ahead.length + 2, there))
  simp only [seen, Cursor.length_ahead_eq_of_lexed_eq same, same]

/-! ## Sequences -/

section Sequences

variable {item : Parser α} (placeless : Placeless item)

include placeless

theorem placeless_itemsUntil (close : Punctuator) (count : Nat) :
    Placeless (itemsUntil close item count) := by
  induction count with
  | zero => exact .peek_bind fun _ _ _ => .unexpected _ _ _
  | succ count more =>
    refine .bind (placeless_optional close) fun _ => .ite (.pure _) ?_
    exact .bind placeless fun _ => .bind more fun _ => .pure _

theorem placeless_items (close : Punctuator) : Placeless (items close item) :=
  .bind placeless_bound fun _ => placeless_itemsUntil placeless close _

theorem placeless_someItems (close : Punctuator) : Placeless (someItems close item) :=
  .bind placeless fun _ => .bind (placeless_items placeless close) fun _ => .pure _

theorem placeless_enclosed (opening close : Punctuator) :
    Placeless (enclosed opening close item) :=
  .bind (placeless_expect opening) fun _ => placeless_someItems placeless close

theorem placeless_optionalEnclosed (opening close : Punctuator) :
    Placeless (optionalEnclosed opening close item) :=
  .bind (placeless_optional opening) fun _ =>
    .ite (placeless_someItems placeless close) (.pure _)

theorem placeless_itemsAfter (delimiter : Punctuator) (count : Nat) :
    Placeless (itemsAfter delimiter item count) := by
  induction count with
  | zero => exact .pure _
  | succ count more =>
    refine .bind (placeless_optional delimiter) fun _ => .ite ?_ (.pure _)
    exact .bind placeless fun _ => .bind more fun _ => .pure _

theorem placeless_delimited (delimiter : Punctuator) : Placeless (delimited delimiter item) :=
  .bind (placeless_optional delimiter) fun _ => .bind placeless fun _ =>
    .bind placeless_bound fun _ =>
      .bind (placeless_itemsAfter placeless delimiter _) fun _ => .pure _

end Sequences

end Parser
end Source
end GraphQL
