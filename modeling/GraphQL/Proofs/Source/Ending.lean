import GraphQL.Proofs.Source.Canonical.Document
import GraphQL.Proofs.Text.Reading

/-!
# How canonical texts end

The canonical text of a document that can be read ends in a line: there is something in it,
and no line feed is at its end.  Every definition ends with a name or with a bracket, whichever is
written last of what the definition has; names are words, and line feeds within strings and
values stand inside brackets.
-/

namespace GraphQL
namespace Source

open Text Layout
open Text.Lines (EndsInLine NoFinalBreak noFinalBreak_empty)

/-! ## Words and layout -/

theorem Canonical.IsWord.endsInLine
    {text : String}
    (isWord : Canonical.IsWord text.toList) :
    EndsInLine text := by
  have last := List.getLast?_eq_some_getLast isWord.notEmpty
  refine ⟨_, last, fun isBreak => ?_⟩
  have isChar := isWord.chars _ (List.mem_of_getLast? last)
  rw [isBreak] at isChar
  exact absurd isChar (by decide)

theorem endsInLine_name
    {name : String}
    (genuine : Lexeme.Genuine (.name name)) :
    EndsInLine name :=
  (Canonical.isWord_of_isName genuine).endsInLine

namespace Layout

theorem noFinalBreak_join
    {texts : List String}
    (ends : ∀ text ∈ texts, NoFinalBreak text)
    (separator : String) :
    NoFinalBreak (join separator texts) := by
  by_cases none : texts.filter (fun text => !text.isEmpty) = []
  · rw [join, none]
    exact noFinalBreak_empty
  · refine (EndsInLine.joinWith none (fun text kept => ?_) separator).noFinalBreak
    obtain ⟨present, isText⟩ := List.mem_filter.mp kept
    exact (ends text present).endsInLine (by simpa [Canonical.isEmpty_eq] using isText)

/-- Texts of which the first ends in a line do so together. -/
theorem endsInLine_join
    {first : String}
    (ends : EndsInLine first)
    {texts : List String}
    (endsToo : ∀ text ∈ texts, NoFinalBreak text)
    (separator : String) :
    EndsInLine (join separator (first :: texts)) := by
  have together := noFinalBreak_join
    (List.forall_mem_cons.mpr ⟨ends.noFinalBreak, endsToo⟩) separator
  refine together.endsInLine ?_
  rw [Canonical.toList_join_cons ends.notEmpty]
  exact List.append_ne_nil_of_left_ne_nil ends.notEmpty _

/-- A wrapped text ends like what is put after it. -/
theorem noFinalBreak_wrap
    {after : String}
    (ends : EndsInLine after)
    (before text : String) :
    NoFinalBreak (wrap before text after) := by
  rw [wrap]
  split
  case isTrue => exact noFinalBreak_empty
  case isFalse => exact (ends.append _).noFinalBreak

/-- A text behind something more ends like itself. -/
theorem noFinalBreak_wrap_behind
    {text : String}
    (ends : NoFinalBreak text)
    (before : String) :
    NoFinalBreak (wrap before text "") := by
  rw [wrap, String.append_empty, Canonical.isEmpty_eq]
  split
  case isTrue => exact noFinalBreak_empty
  case isFalse isText =>
    exact ((ends.endsInLine (by simpa using isText)).append before).noFinalBreak

theorem noFinalBreak_block (texts : List String) : NoFinalBreak (block texts) :=
  noFinalBreak_wrap ⟨'\x7d', rfl, by decide⟩ _ _

theorem noFinalBreak_inParens (texts : List String) : NoFinalBreak (inParens texts) :=
  noFinalBreak_wrap ⟨')', rfl, by decide⟩ _ _

end Layout

/-! ## What stands last in a definition -/

theorem Directive.noFinalBreak_print
    {directive : Directive}
    (drawn : directive.Drawn Lexeme.Genuine) :
    NoFinalBreak directive.print :=
  ((endsInLine_name drawn.name).append "@").noFinalBreak.append (noFinalBreak_inParens _)

theorem Directive.noFinalBreak_printAll
    {directives : List Directive}
    (drawn : ∀ directive ∈ directives, directive.Drawn Lexeme.Genuine) :
    NoFinalBreak (Directive.printAll directives) := by
  refine noFinalBreak_join (fun text present => ?_) " "
  obtain ⟨directive, among, rfl⟩ := List.mem_map.mp present
  exact Directive.noFinalBreak_print (drawn directive among)

theorem noFinalBreak_names
    {names : List String}
    (genuine : ∀ name ∈ names, Lexeme.Genuine (.name name))
    (separator : String) :
    NoFinalBreak (join separator names) :=
  noFinalBreak_join (fun name present => (endsInLine_name (genuine name present)).noFinalBreak) _

theorem TypeDefinition.endsInLine_printAfter
    {definition : TypeDefinition}
    (drawn : definition.Drawn Lexeme.Genuine)
    {introduction : String}
    (introduces : EndsInLine introduction) :
    EndsInLine (definition.printAfter introduction) := by
  have named : NoFinalBreak definition.name := (endsInLine_name drawn.name).noFinalBreak
  have directed := Directive.noFinalBreak_printAll drawn.directives
  have drawnBody := drawn.body
  rw [printAfter]
  refine endsInLine_join introduces (List.forall_mem_cons.mpr ⟨named, ?_⟩) " "
  cases body : definition.body with
  | scalar => simpa using directed
  | object interfaces fields | interface interfaces fields =>
    rw [body] at drawnBody
    have implements : NoFinalBreak (printInterfaces interfaces) :=
      noFinalBreak_wrap_behind (noFinalBreak_names drawnBody.1 " & ") _
    simpa using ⟨implements, directed, noFinalBreak_block _⟩
  | union members =>
    rw [body] at drawnBody
    have listed : NoFinalBreak ("= " ++ join " | " members) :=
      .append nofun (noFinalBreak_names drawnBody " | ")
    have optional : NoFinalBreak (if members = [] then "" else "= " ++ join " | " members) := by
      split
      · exact noFinalBreak_empty
      · exact listed
    simpa using ⟨directed, optional⟩
  | enum values => simpa using ⟨directed, noFinalBreak_block _⟩
  | input fields => simpa using ⟨directed, noFinalBreak_block _⟩

theorem DirectiveDefinition.endsInLine_print
    {definition : DirectiveDefinition}
    (drawn : definition.Drawn Lexeme.Genuine) :
    EndsInLine definition.print :=
  (EndsInLine.append ⟨' ', rfl, by decide⟩ _).append_noFinalBreak
    (noFinalBreak_names drawn.locations " | ")

/-! ## Definitions and documents -/

/-- A definition that is written ends with a name or with a bracket. -/
theorem Definition.noFinalBreak_print
    {definition : Definition}
    (drawn : definition.Drawn Lexeme.Genuine) :
    NoFinalBreak definition.print := by
  cases definition with
  | operation kind name? declared directives selections =>
    refine .append ?_ (noFinalBreak_block _)
    split
    · exact noFinalBreak_empty
    · exact (EndsInLine.append ⟨' ', rfl, by decide⟩ _).noFinalBreak
  | fragment name condition directives selections =>
    refine .append (.append ?_ ?_) (noFinalBreak_block _)
    · exact (EndsInLine.append ⟨' ', rfl, by decide⟩ _).noFinalBreak
    · exact noFinalBreak_wrap ⟨' ', rfl, by decide⟩ _ _
  | schema description? directives roots =>
    have directed := Directive.noFinalBreak_printAll drawn.2.1
    refine (EndsInLine.append (endsInLine_join ⟨'a', rfl, by decide⟩ ?_ " ") _).noFinalBreak
    simpa using ⟨directed, noFinalBreak_block _⟩
  | schemaExtension directives roots =>
    have directed := Directive.noFinalBreak_printAll drawn.1
    refine (endsInLine_join ⟨'a', rfl, by decide⟩ ?_ " ").noFinalBreak
    simpa using ⟨directed, noFinalBreak_block _⟩
  | type description? definition =>
    have keyword := (Canonical.isWord_keyword definition.body).endsInLine
    exact ((TypeDefinition.endsInLine_printAfter drawn.2 keyword).append _).noFinalBreak
  | typeExtension extension =>
    have keyword := (Canonical.isWord_keyword extension.body).endsInLine
    exact (TypeDefinition.endsInLine_printAfter drawn (keyword.append "extend ")).noFinalBreak
  | directive description? definition =>
    exact ((DirectiveDefinition.endsInLine_print drawn.2).append _).noFinalBreak

theorem Definition.endsInLine_print
    {definition : Definition}
    (drawn : definition.Drawn Lexeme.Genuine) :
    EndsInLine definition.print :=
  (Definition.noFinalBreak_print drawn).endsInLine (Canonical.chars_definition_ne_nil drawn)

/-- A document that can be read has a definition. -/
theorem Document.definitions_ne_nil_of_parse
    {text : String}
    {document : Document}
    (parsed : Document.parse text = .ok document) :
    document.definitions ≠ [] := by
  obtain ⟨cursor, -, ran⟩ := Outcome.bind_eq_ok_iff.mp parsed
  obtain ⟨⟨found, left⟩, ranDocument, same⟩ := Outcome.bind_eq_ok_iff.mp ran
  obtain rfl := Except.ok.inj same
  obtain ⟨⟨first, afterFirst⟩, -, ranOthers⟩ := Outcome.bind_eq_ok_iff.mp ranDocument
  obtain ⟨⟨others, afterOthers⟩, -, same⟩ := Outcome.bind_eq_ok_iff.mp ranOthers
  obtain ⟨rfl, -⟩ := Prod.mk.inj (Except.ok.inj same)
  exact List.cons_ne_nil first others

/-- The canonical text of a document that can be read ends in a line. -/
theorem Document.endsInLine_print
    {text : String}
    {document : Document}
    (parsed : Document.parse text = .ok document) :
    EndsInLine document.print := by
  have drawn := Document.genuine_of_parse parsed
  have ends : ∀ text ∈ document.definitions.map Definition.print, EndsInLine text :=
    List.forall_mem_map.mpr fun definition present =>
      Definition.endsInLine_print (drawn definition present)
  obtain ⟨first, others, printed⟩ := List.exists_cons_of_ne_nil
    (mt List.map_eq_nil_iff.mp (Document.definitions_ne_nil_of_parse parsed))
  rw [printed, List.forall_mem_cons] at ends
  rw [Document.print, printed]
  exact endsInLine_join ends.1 (fun text present => (ends.2 text present).noFinalBreak) "\n\n"

end Source
end GraphQL
