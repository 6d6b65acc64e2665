import GraphQL.Proofs.Source.Canonical.Document
import GraphQL.Proofs.Source.Spacing
import Mathlib

/-!
# Equivalent texts

Texts are compared by their canonical texts, and no two documents that can be read have the
same canonical text.  So two texts are equivalent exactly when they stand for the same
document.  What stands between tokens does not matter for that, nor does the keyword of a
query that has nothing before its selections.
-/

namespace GraphQL
namespace Source
/-! ## Queries with selections only -/

namespace Parser

theorem run_optional_of_ne
    {cursor : Cursor}
    {mark : Punctuator}
    (other : cursor.current.lexeme ≠ .punctuator mark) :
    StateT.run (optional mark) cursor = .ok (false, cursor) := by
  have notThere : StateT.run (isAt mark) cursor = .ok (false, cursor) := by
    simp [isAt, other]
  rw [optional, StateT.run_bind, notThere]
  rfl

theorem run_optionalEnclosed_of_ne
    {α : Type}
    {cursor : Cursor}
    {opening close : Punctuator}
    (other : cursor.current.lexeme ≠ .punctuator opening)
    (item : Parser α) :
    StateT.run (optionalEnclosed opening close item) cursor = .ok ([], cursor) := by
  rw [optionalEnclosed, StateT.run_bind, run_optional_of_ne other]
  rfl

theorem run_directives_of_ne
    {cursor : Cursor}
    (other : cursor.current.lexeme ≠ .punctuator .atSign)
    (constant : Bool) :
    StateT.run (directives constant) cursor = .ok ([], cursor) := by
  have bounded : StateT.run bound cursor = .ok (cursor.ahead.length + 2, cursor) := rfl
  rw [directives, StateT.run_bind, bounded, Outcome.ok_bind]
  dsimp only
  rw [itemsAfter, StateT.run_bind, run_optional_of_ne other]
  rfl

/-- The keyword of a query with selections only makes no difference. -/
theorem run_definition_of_query
    {cursor moved : Cursor}
    (isQuery : cursor.current.lexeme = .name "query")
    (advances : cursor.advance = .ok moved)
    (opens : moved.current.lexeme = .punctuator .braceL) :
    StateT.run definition cursor = StateT.run definition moved := by
  have isOperation : StateT.run definition cursor = StateT.run operation cursor := by
    have isIntroduced : introduced cursor.current cursor.current = operation := by
      simp only [introduced, isQuery]
      rfl
    rw [definition_eq, StateT.run_bind, run_peek, Outcome.ok_bind]
    dsimp only
    rw [if_neg (by simp [isQuery]), if_neg (by simp [isQuery, isDescription]), isIntroduced]
  have readsKind : StateT.run operationKind cursor = .ok (.query, moved) := by
    rw [operationKind, StateT.run_bind, run_peek, Outcome.ok_bind]
    dsimp only
    rw [isQuery]
    dsimp only
    rw [StateT.run_bind, run_next, advances]
    rfl
  have readsBody : StateT.run operation cursor = StateT.run (operationBody .query none) moved := by
    rw [operation_eq, StateT.run_bind, readsKind, Outcome.ok_bind]
    dsimp only
    rw [StateT.run_bind, run_peek, Outcome.ok_bind]
    dsimp only
    rw [opens]
  have isShorthand : StateT.run definition moved =
      StateT.run (do return .operation .query none [] [] (← selectionSet)) moved := by
    rw [definition_eq, StateT.run_bind, run_peek, Outcome.ok_bind]
    dsimp only
    rw [if_pos opens]
  rw [isOperation, readsBody, isShorthand, operationBody, StateT.run_bind,
    run_optionalEnclosed_of_ne (by simp [opens]), Outcome.ok_bind]
  dsimp only
  rw [StateT.run_bind, run_directives_of_ne (by simp [opens]), Outcome.ok_bind]

end Parser

/-- A keyword in front of a text is read first. -/
theorem lexed_query_append (cs : List Char) :
    lexed ("query ".toList ++ cs) = .of [.name "query"] ++ lexed cs := by
  have read : Lexer.lexeme ("query ".toList ++ cs) = .ok (.name "query", ' ' :: cs) := rfl
  rw [lexed_of_lexeme rfl read (by simp), lexed_cons_of_isIgnored rfl]

/-- A text that opens with a brace is read as opening with one. -/
theorem lexed_of_brace
    {cs : List Char}
    (opens : (Lexer.skipIgnored false cs).head? = some '\x7b') :
    ∃ rest, lexed cs = .of [.punctuator .braceL] ++ lexed rest := by
  obtain ⟨rest, brace⟩ : ∃ rest, Lexer.skipIgnored false cs = '\x7b' :: rest := by
    cases front : Lexer.skipIgnored false cs with
    | nil => simp [front] at opens
    | cons c rest =>
      rw [front] at opens
      obtain rfl : c = '\x7b' := by simpa using opens
      exact ⟨rest, rfl⟩
  refine ⟨rest, ?_⟩
  rw [lexed_eq, brace]
  rfl

namespace Parser

/-- What a reader makes of a text is what it makes of the first place in it. -/
theorem run_of_start
    {α : Type}
    {parser : Parser α}
    {text : String}
    {cursor : Cursor}
    (starts : Cursor.start (tokenize text) = .ok cursor) :
    run parser text = (StateT.run parser cursor).map Prod.fst := by
  rw [run, starts, Outcome.ok_bind]
  cases StateT.run parser cursor <;> rfl

theorem run_document_of_query
    {cursor moved : Cursor}
    (isQuery : cursor.current.lexeme = .name "query")
    (advances : cursor.advance = .ok moved)
    (opens : moved.current.lexeme = .punctuator .braceL) :
    StateT.run document cursor = StateT.run document moved := by
  rw [document, StateT.run_bind, StateT.run_bind, run_definition_of_query isQuery advances opens]

end Parser

/-- Tokens that read as a lexeme in front of others start with that lexeme. -/
theorem exists_token_of_lexed
    {tokens : Tokens}
    {lexeme : Lexeme}
    {read : Lexed}
    (opens : tokens.lexed = .of [lexeme] ++ read) :
    ∃ token ahead ending, tokens = ⟨token :: ahead, ending⟩ ∧ token.lexeme = lexeme ∧
      Tokens.lexed ⟨ahead, ending⟩ = read := by
  obtain ⟨found, ending⟩ := tokens
  obtain ⟨lexemes, stop⟩ := read
  obtain ⟨sameLexemes, rfl⟩ := Lexed.mk.inj opens
  cases found with
  | nil => cases sameLexemes
  | cons token ahead =>
    obtain ⟨sameLexeme, rfl⟩ := List.cons.inj sameLexemes
    exact ⟨token, ahead, ending, rfl, sameLexeme, rfl⟩

/-- A keyword in front of a query with selections only makes no difference. -/
theorem mapError_parse_query_append
    {text : String}
    (opens : (Lexer.skipIgnored false text.toList).head? = some '\x7b') :
    (Document.parse ("query " ++ text)).mapError SyntaxError.cause =
      (Document.parse text).mapError SyntaxError.cause := by
  obtain ⟨rest, read⟩ := lexed_of_brace opens
  -- Behind the keyword stand the lexemes of the text at other places, which the parser does
  -- not look at.
  have readToo : (tokenize ("query " ++ text)).lexed =
      .of [.name "query"] ++ lexed text.toList := by
    rw [lexed_tokenize, String.toList_append, lexed_query_append]
  obtain ⟨keyword, ahead, ending, split, isQuery, behind⟩ := exists_token_of_lexed readToo
  obtain ⟨first, others, firstEnding, splitFirst, isFirst, -⟩ :=
    exists_token_of_lexed ((lexed_tokenize text).trans read)
  obtain ⟨brace, more, _, splitBehind, isBrace, -⟩ := exists_token_of_lexed (behind.trans read)
  obtain ⟨rfl, rfl⟩ := Tokens.mk.inj splitBehind
  have starts : Cursor.start (tokenize ("query " ++ text)) =
      .ok ⟨keyword, brace :: more, ending⟩ := by
    rw [split]
    rfl
  have startsFirst : Cursor.start (tokenize text) = .ok ⟨first, others, firstEnding⟩ := by
    rw [splitFirst]
    rfl
  have sameLexed : Cursor.lexed ⟨brace, more, ending⟩ =
      Cursor.lexed ⟨first, others, firstEnding⟩ := by
    rw [Cursor.lexed, Cursor.lexed, behind, ← splitFirst, lexed_tokenize]
  have sameRun : StateT.run Parser.document ⟨keyword, brace :: more, ending⟩ =
      StateT.run Parser.document ⟨brace, more, ending⟩ :=
    Parser.run_document_of_query isQuery rfl isBrace
  rw [Document.parse, Document.parse, Parser.run_of_start starts, Parser.run_of_start startsFirst,
    sameRun]
  have visible (outcome : Except SyntaxError (Document × Cursor)) :
      (outcome.map Prod.fst).mapError SyntaxError.cause = (Parser.seen outcome).map Prod.fst := by
    cases outcome <;> rfl
  rw [visible, visible, Parser.placeless_document _ _ sameLexed]

/-! ## Equivalence -/

theorem normalize_of_parse
    {text : String}
    {document : Document}
    (parsed : Document.parse text = .ok document) :
    normalize text = .ok document.print := by
  rw [normalize, parsed]
  rfl

/-- Texts that are read are compared by their canonical texts. -/
theorem equivalent_of_parse
    {first second : String}
    {document other : Document}
    (parsed : Document.parse first = .ok document)
    (parsedSecond : Document.parse second = .ok other) :
    equivalent first second = .ok (decide (document.print = other.print)) := by
  simp [equivalent, normalizeBoth, normalize, parsed, parsedSecond, Except.mapError, Except.map,
    bind, Except.bind, pure, Except.pure]

/-- The canonical texts of texts that are read are the same only for the same document. -/
theorem print_eq_iff_of_parse
    {first second : String}
    {document other : Document}
    (parsed : Document.parse first = .ok document)
    (parsedSecond : Document.parse second = .ok other) :
    document.print = other.print ↔ document = other := by
  constructor
  · exact Document.eq_of_print_eq (Document.genuine_of_parse parsed)
      (Document.genuine_of_parse parsedSecond)
  · rintro rfl
    rfl

/-- A text is equivalent to any other one that stands for the same. -/
theorem equivalent_of_mapError_parse_eq
    {first second : String}
    {document : Document}
    (parsed : Document.parse first = .ok document)
    (same : (Document.parse second).mapError SyntaxError.cause =
      (Document.parse first).mapError SyntaxError.cause) :
    equivalent first second = .ok true := by
  rw [parsed] at same
  cases parsedSecond : Document.parse second with
  | error error => simp [parsedSecond, Except.mapError] at same
  | ok other =>
    obtain rfl : other = document := by simpa [parsedSecond, Except.mapError] using same
    exact equivalent_of_parse_eq parsed parsedSecond

/-- Texts that are read are equivalent exactly when they stand for the same document.  In
particular they are if they differ in what stands between their tokens only, or in the
keyword of a query that has nothing before its selections: a definition that opens with the
keyword and a brace is read as one that opens with the brace. -/
theorem equivalent_exact
    {first second : String}
    {document other : Document}
    (parsed : Document.parse first = .ok document)
    (parsedSecond : Document.parse second = .ok other) :
    (equivalent first second = .ok true ↔ document = other) ∧
      (equivalent first second = .ok false ↔ document ≠ other) ∧
      (∀ text : String, Lexer.Respaced first.toList text.toList →
        equivalent first text = .ok true) ∧
      ((Lexer.skipIgnored false first.toList).head? = some '\x7b' →
        equivalent first ("query " ++ first) = .ok true) ∧
      ∀ cursor moved : Cursor, cursor.current.lexeme = .name "query" →
        cursor.advance = .ok moved → moved.current.lexeme = .punctuator .braceL →
          StateT.run Parser.definition cursor = StateT.run Parser.definition moved := by
  have compared := equivalent_of_parse parsed parsedSecond
  have told := print_eq_iff_of_parse parsed parsedSecond
  refine ⟨?_, ?_, fun text respaced => ?_, fun opens => ?_, ?_⟩
  · rw [compared, ← told, Except.ok.injEq, decide_eq_true_iff]
  · rw [compared, ne_eq, ← told, Except.ok.injEq, decide_eq_false_iff_not]
  · exact equivalent_of_mapError_parse_eq parsed
      (Parser.mapError_run_eq_of_lexed_eq Parser.placeless_document respaced.lexed_eq.symm)
  · exact equivalent_of_mapError_parse_eq parsed (mapError_parse_query_append opens)
  · exact fun _ _ => Parser.run_definition_of_query

/-- A query of one field and nothing else. -/
def fieldQuery (name : String) : Document :=
  ⟨[.operation .query none [] [] [.field none name [] [] []]]⟩

/-- The keyword of a query, blanks and commas make no difference, and another field does. -/
theorem equivalent_exact_fieldQuery :
    equivalent "\x7ba\x7d" "query \x7b\n  a,\n\x7d" = .ok true ∧
      equivalent "\x7ba\x7d" "\x7bb\x7d" = .ok false := by
  have parsedA : Document.parse "\x7ba\x7d" = .ok (fieldQuery "a") := by cbv
  have parsedQuery : Document.parse "query \x7b\n  a,\n\x7d" = .ok (fieldQuery "a") := by cbv
  have parsedB : Document.parse "\x7bb\x7d" = .ok (fieldQuery "b") := by cbv
  have differ : fieldQuery "a" ≠ fieldQuery "b" := by simp [fieldQuery]
  exact ⟨(equivalent_exact parsedA parsedQuery).1.mpr rfl,
    (equivalent_exact parsedA parsedB).2.1.mpr differ⟩

end Source
end GraphQL
