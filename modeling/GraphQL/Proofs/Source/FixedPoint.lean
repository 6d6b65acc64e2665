import GraphQL.Proofs.Source.Equivalence
import GraphQL.Proofs.Source.Parsing.Printed
import GraphQL.Proofs.Source.Steady

/-!
# Canonical text that stays as it is

Canonical text stands for the document that it is printed from exactly if the block strings of
the document are steady and its definitions are apart.  Then it is its own canonical text.
-/

namespace GraphQL
namespace Source

variable
  {text : String}
  {document : Document}

/-- What is drawn from a text is drawn from legible lexemes. -/
theorem Document.legible_of_parse
    (parsed : parse text = .ok document) :
    document.Drawn Lexeme.Legible := by
  have legible := forall_mem_lexed
    (fun _ _ _ read _ => Lexer.legible_of_lexeme read) text.toList
  exact (drawn_of_parse legible (fun _ => nofun) parsed).2

/-- Canonical text is read as what it is printed with, block strings settled. -/
theorem Document.renders_of_parse
    (parsed : parse text = .ok document) :
    Renders document.print document.printed := by
  obtain ⟨-, formed⟩ := formed_of_parse parsed
  exact renders_print (legible_of_parse parsed) fun definition present =>
    (formed definition present).complete

/-- A document that its canonical text stands for has steady block strings. -/
theorem Document.steady_of_parse_print
    (read : lexed document.print.toList = .of (document.printed.map .settled))
    (parsed : parse document.print = .ok document) :
    document.Steady := by
  have steady : ∀ lexeme ∈ (lexed document.print.toList).lexemes, lexeme.isSteady = true := by
    rw [read]
    exact List.forall_mem_map.mpr fun lexeme _ => lexeme.isSteady_settled
  exact steady_of_drawn (drawn_of_parse steady (fun _ => rfl) parsed).2

/-- Canonical text stands for the document exactly if block strings are steady and definitions
are apart. -/
theorem Document.parse_print_eq_ok_iff
    (parsed : parse text = .ok document) :
    parse document.print = .ok document ↔ document.Steady ∧ document.Apart := by
  have read : lexed document.print.toList = .of (document.printed.map .settled) :=
    (renders_of_parse parsed).spells.lexed_eq
  obtain ⟨nonempty, formed⟩ := formed_of_parse parsed
  have told (steady : document.Steady) : parse document.print = .ok document ↔ document.Apart := by
    rw [steady.map_settled] at read
    exact parse_eq_ok_iff_apart nonempty formed read
  constructor
  · intro parsedToo
    have steady := steady_of_parse_print read parsedToo
    exact ⟨steady, (told steady).mp parsedToo⟩
  · exact fun ⟨steady, apart⟩ => (told steady).mpr apart

/-- Canonical text is its own canonical text exactly if block strings are steady and
definitions are apart. -/
theorem normalize_print_eq_ok_iff
    (parsed : Document.parse text = .ok document) :
    normalize document.print = .ok document.print ↔ document.Steady ∧ document.Apart := by
  rw [← Document.parse_print_eq_ok_iff parsed]
  constructor
  · intro normalized
    obtain ⟨other, parsedOther, same⟩ := Outcome.bind_eq_ok_iff.mp normalized
    have samePrint : other.print = document.print := Except.ok.inj same
    obtain rfl := (print_eq_iff_of_parse parsedOther parsed).mp samePrint
    exact parsedOther
  · exact normalize_of_parse

/-- A text is equivalent to its canonical text exactly if block strings are steady and
definitions are apart. -/
theorem equivalent_print_iff
    (parsed : Document.parse text = .ok document) :
    equivalent text document.print = .ok true ↔ document.Steady ∧ document.Apart := by
  rw [← Document.parse_print_eq_ok_iff parsed]
  constructor
  · intro same
    cases parsedPrint : Document.parse document.print with
    | error error =>
      simp [equivalent, normalizeBoth, normalize, parsed, parsedPrint, Except.mapError,
        Except.map, bind, Except.bind, pure, Except.pure] at same
    | ok other =>
      rw [equivalent_of_parse parsed parsedPrint, Except.ok.injEq, decide_eq_true_iff,
        print_eq_iff_of_parse parsed parsedPrint] at same
      rw [same]
  · exact equivalent_of_parse_eq parsed

/-- A line feed behind canonical text makes no difference. -/
theorem lexed_print_lineFeed
    (parsed : Document.parse text = .ok document) :
    lexed (document.print ++ "\n").toList = lexed document.print.toList := by
  have spells := (Document.renders_of_parse parsed).spells
  have lineFeed : lexed "\n".toList = .of [] := rfl
  have opens : Opens "\n" := by decide
  have broken : Broken "\n".toList := opens.parts [] broken_nil
  rw [String.toList_append, spells _ broken, spells.lexed_eq, lineFeed, Lexed.append_of_nil]

theorem toOption_normalize_print_lineFeed
    (parsed : Document.parse text = .ok document) :
    (normalize (document.print ++ "\n")).toOption = (normalize document.print).toOption := by
  rw [normalize, normalize]
  obtain ⟨error, other, refused, refusedToo, -⟩ | ⟨found, read, readToo⟩ :=
    Document.parse_eq_of_lexed_eq (lexed_print_lineFeed parsed)
  · rw [refused, refusedToo]
    rfl
  · rw [read, readToo]

end Source
end GraphQL
