import GraphQL.Proofs.Request.Outline
import GraphQL.Proofs.Text.Reading

/-!
# Compact and spread-out requests line by line

A compact request has a line for each definition.  Spread out, a definition has the lines
of its outline, indented by their levels, and definitions are a blank line apart.  Both
have the same text on their lines, so that a definition is made compact by putting a
space in the place of every line break and the indentation behind it.
-/

namespace GraphQL

open Text (Lines.joinWith Lines.source)
open Text.Lines (EndsInLine)

/-! ## Source lines -/

namespace Text.Lines

/-- A line feed ends a source line if nothing else in the line does. -/
theorem source_append_lineFeed
    {cs : List Char}
    (unbroken : ∀ c ∈ cs, c ≠ '\n' ∧ c ≠ '\r')
    (rest : List Char) :
    source (cs ++ '\n' :: rest) = cs :: source rest := by
  induction cs with
  | nil => simp [source]
  | cons c cs inductionHypothesis =>
    rw [List.forall_mem_cons] at unbroken
    have notPair : ∀ ds, c = '\r' → cs ++ '\n' :: rest = '\n' :: ds → False :=
      fun _ isReturn _ => unbroken.1.2 isReturn
    rw [List.cons_append, source, inductionHypothesis unbroken.2]
    · simp [unbroken.1]
    · exact notPair

theorem source_of_unbroken
    {cs : List Char}
    (unbroken : ∀ c ∈ cs, c ≠ '\n' ∧ c ≠ '\r') :
    source cs = [cs] := by
  induction cs with
  | nil => rfl
  | cons c cs inductionHypothesis =>
    rw [List.forall_mem_cons] at unbroken
    rw [source, inductionHypothesis unbroken.2]
    · simp [unbroken.1]
    · exact fun _ isReturn _ => unbroken.1.2 isReturn

/-- Unbroken texts with a line feed between neighbours have a source line each. -/
theorem source_joinWith
    {texts : List String}
    (notEmpty : texts ≠ [])
    (unbroken : ∀ text ∈ texts, Unbroken text) :
    source (joinWith "\n" texts).toList = texts.map String.toList := by
  induction texts with
  | nil => exact absurd rfl notEmpty
  | cons text texts inductionHypothesis =>
    rw [List.forall_mem_cons] at unbroken
    cases texts with
    | nil => exact source_of_unbroken unbroken.1
    | cons next texts =>
      have split : (joinWith "\n" (text :: next :: texts)).toList =
          text.toList ++ '\n' :: (joinWith "\n" (next :: texts)).toList := by
        simp [joinWith_cons_cons]
      rw [split, source_append_lineFeed unbroken.1,
        inductionHypothesis (List.cons_ne_nil next texts) unbroken.2, List.map_cons, List.map_cons,
        List.map_cons]

end Text.Lines

theorem Solid.endsInLine
    {text : String}
    (solid : Solid text) :
    EndsInLine text := by
  obtain ⟨c, cs, chars, -⟩ := solid.exists_cons
  have notEmpty : text.toList ≠ [] := by simp [chars]
  have last := List.getLast?_eq_some_getLast notEmpty
  exact ⟨_, last, (solid.unbroken _ (List.mem_of_getLast? last)).1⟩

/-! ## Taking line breaks out -/

/-- The characters with a space in the place of every line feed and the indentation after
it.  Whether a line feed stands before them is given. -/
def unbreakFrom : Bool → List Char → List Char
  | _, [] => []
  | afterBreak, c :: cs =>
    if c = '\n' then ' ' :: unbreakFrom true cs
    else if afterBreak && isIndent c then unbreakFrom true cs
    else c :: unbreakFrom false cs

/-- The text with a space in the place of every line feed and the indentation after it. -/
def unbreak (text : String) : String :=
  String.ofList (unbreakFrom false text.toList)

example : unbreak "query \x7b\n  a\n\x7d" = "query \x7b a \x7d" := by decide

/-- Indentation after a line feed is taken out. -/
theorem unbreakFrom_indent
    {cs : List Char}
    (blank : ∀ c ∈ cs, isIndent c = true)
    (rest : List Char) :
    unbreakFrom true (cs ++ rest) = unbreakFrom true rest := by
  induction cs with
  | nil => rfl
  | cons c cs inductionHypothesis =>
    rw [List.forall_mem_cons] at blank
    have notBreak : c ≠ '\n' := by
      rintro rfl
      exact absurd blank.1 (by decide)
    simp [unbreakFrom, notBreak, blank.1, inductionHypothesis blank.2]

/-- What holds no line feed is left as it is. -/
theorem unbreakFrom_unbroken
    {cs : List Char}
    (unbroken : ∀ c ∈ cs, c ≠ '\n' ∧ c ≠ '\r')
    (rest : List Char) :
    unbreakFrom false (cs ++ rest) = cs ++ unbreakFrom false rest := by
  induction cs with
  | nil => rfl
  | cons c cs inductionHypothesis =>
    rw [List.forall_mem_cons] at unbroken
    simp [unbreakFrom, unbroken.1.1, inductionHypothesis unbroken.2]

/-- What can be a line is left as it is behind a line feed, too. -/
theorem unbreakFrom_solid
    {text : String}
    (solid : Solid text)
    (afterBreak : Bool)
    (rest : List Char) :
    unbreakFrom afterBreak (text.toList ++ rest) = text.toList ++ unbreakFrom false rest := by
  obtain ⟨c, cs, chars, notIndent⟩ := solid.exists_cons
  have unbroken := solid.unbroken
  rw [Unbroken, chars, List.forall_mem_cons] at unbroken
  rw [chars, List.cons_append, List.cons_append, unbreakFrom, if_neg unbroken.1.1, notIndent,
    Bool.and_false, if_neg Bool.false_ne_true, unbreakFrom_unbroken unbroken.2]

namespace Layout

variable {indent : String}

theorem isIndent_of_mem_replicate
    (blank : ∀ c ∈ indent.toList, isIndent c = true)
    (depth : Nat) :
    ∀ c ∈ (String.join (List.replicate depth indent)).toList, isIndent c = true := by
  induction depth with
  | zero => simp
  | succ depth inductionHypothesis =>
    rw [List.replicate_succ, String.join_cons, String.toList_append, List.forall_mem_append]
    exact ⟨blank, inductionHypothesis⟩

theorem unbreakFrom_indented
    (blank : ∀ c ∈ indent.toList, isIndent c = true)
    {line : Line}
    (solid : Solid line.text)
    {afterBreak : Bool}
    (level : afterBreak = true ∨ line.depth = 0)
    (rest : List Char) :
    unbreakFrom afterBreak ((indented indent line).toList ++ rest) =
      line.text.toList ++ unbreakFrom false rest := by
  rw [indented, String.toList_append, List.append_assoc]
  rcases level with rfl | top
  · rw [unbreakFrom_indent (isIndent_of_mem_replicate blank line.depth),
      unbreakFrom_solid solid]
  · rw [top, List.replicate_zero, String.join_nil, String.toList_empty, List.nil_append,
      unbreakFrom_solid solid]

/-- Without its line breaks and the indentation after them, a definition is compact. -/
theorem unbreakFrom_spread
    (blank : ∀ c ∈ indent.toList, isIndent c = true)
    {lines : List Line}
    (solid : ∀ line ∈ lines, Solid line.text)
    {afterBreak : Bool}
    (level : ∀ line ∈ lines.head?, afterBreak = true ∨ line.depth = 0) :
    unbreakFrom afterBreak (spread indent lines).toList = (squeezed lines).toList := by
  induction lines generalizing afterBreak with
  | nil => rfl
  | cons line lines inductionHypothesis =>
    rw [List.forall_mem_cons] at solid
    have rest := inductionHypothesis solid.2 (fun _ _ => .inl rfl)
    cases lines with
    | nil =>
      have only := unbreakFrom_indented blank solid.1 (level line rfl) []
      simpa [spread, squeezed, unbreakFrom] using only
    | cons next lines =>
      have split : spread indent (line :: next :: lines) =
          indented indent line ++ "\n" ++ spread indent (next :: lines) := rfl
      have splitSqueezed : squeezed (line :: next :: lines) =
          line.text ++ " " ++ squeezed (next :: lines) := rfl
      rw [split, splitSqueezed, String.append_assoc, String.append_assoc, String.toList_append,
        unbreakFrom_indented blank solid.1 (level line rfl), String.toList_append,
        String.toList_append, String.toList_append, ← rest]
      rfl

theorem unbroken_indented
    (blank : ∀ c ∈ indent.toList, isIndent c = true)
    {line : Line}
    (solid : Solid line.text) :
    Unbroken (indented indent line) := by
  refine Unbroken.append ?_ solid.unbroken
  exact unbroken_of_forall isIndent (by decide) (by decide)
    (isIndent_of_mem_replicate blank line.depth)

theorem unbroken_squeezed
    {lines : List Line}
    (solid : ∀ line ∈ lines, Solid line.text) :
    Unbroken (squeezed lines) :=
  .joinWith (by decide) (List.forall_mem_map.mpr fun line present => (solid line present).unbroken)

theorem endsInLine_spread
    {lines : List Line}
    (notEmpty : lines ≠ [])
    (solid : ∀ line ∈ lines, Solid line.text) :
    EndsInLine (spread indent lines) :=
  .joinWith (by simpa using notEmpty)
    (List.forall_mem_map.mpr fun line present => (solid line present).endsInLine.append _) "\n"

end Layout

/-! ## Requests -/

/-- The lines of a definition as they follow its outline. -/
structure LinesOf (definition : Datum) (lines : List Line) : Prop where
  /-- Every line is the one that the outline of the definition has in its place. -/
  shows : List.Forall₂ Line.Shows lines (definition.outline 0)
  /-- Every line is there, holds no end of a line and does not open with indentation. -/
  solid : ∀ line ∈ lines, Solid line.text

section Lines

variable
  {named : Label → Prop}
  {plain : Prop}

theorem Datum.exists_outline (depth : Nat) (node : Datum) :
    ∃ mark rest, node.outline depth = (depth, mark) :: rest := by
  cases node <;> exact ⟨_, _, rfl⟩

namespace LinesOf

variable
  {definition : Datum}
  {lines : List Line}

/-- A definition opens on a line without indentation. -/
theorem exists_cons
    (linesOf : LinesOf definition lines) :
    ∃ line rest, lines = line :: rest ∧ line.depth = 0 := by
  obtain ⟨mark, marks, opens⟩ := definition.exists_outline 0
  have shows := linesOf.shows
  rw [opens, List.forall₂_cons_right_iff] at shows
  obtain ⟨line, rest, showsFirst, -, rfl⟩ := shows
  refine ⟨line, rest, rfl, ?_⟩
  cases showsFirst <;> rfl

theorem unbreak_spread
    (linesOf : LinesOf definition lines)
    {indent : String}
    (blank : ∀ c ∈ indent.toList, isIndent c = true) :
    unbreak (Layout.spread indent lines) = Layout.squeezed lines := by
  obtain ⟨line, rest, rfl, top⟩ := linesOf.exists_cons
  have level : ∀ first ∈ (line :: rest).head?, false = true ∨ first.depth = 0 := by
    rintro first ⟨⟩
    exact .inr top
  rw [unbreak, Layout.unbreakFrom_spread blank linesOf.solid level, String.ofList_toList]

theorem source_spread
    (linesOf : LinesOf definition lines)
    {indent : String}
    (blank : ∀ c ∈ indent.toList, isIndent c = true) :
    Lines.source (Layout.spread indent lines).toList =
      lines.map fun line => (Layout.indented indent line).toList := by
  obtain ⟨line, rest, rfl, -⟩ := linesOf.exists_cons
  rw [Layout.spread, Text.Lines.source_joinWith (by simp), List.map_map]
  · rfl
  · exact List.forall_mem_map.mpr fun line present =>
      Layout.unbroken_indented blank (linesOf.solid line present)

end LinesOf

/-- No line feed is at the end of definitions that are a blank line apart. -/
theorem getLast?_of_linesOf
    {lines : List (List Line)}
    (linesOf : ∀ own ∈ lines, ∃ definition, LinesOf definition own)
    (indent : String) :
    (Lines.joinWith "\n\n" (lines.map (Layout.spread indent))).toList.getLast? ≠ some '\n' := by
  by_cases noLines : lines = []
  · rw [noLines]
    nofun
  · have ends : ∀ text ∈ lines.map (Layout.spread indent), EndsInLine text := by
      rw [List.forall_mem_map]
      intro own present
      obtain ⟨_, isLinesOf⟩ := linesOf own present
      obtain ⟨line, rest, rfl, -⟩ := isLinesOf.exists_cons
      exact Layout.endsInLine_spread (List.cons_ne_nil line rest) isLinesOf.solid
    exact (EndsInLine.joinWith (by simpa using noLines) ends "\n\n").noFinalBreak

/-- Definitions that are written have the same lines in every layout. -/
theorem exists_linesOf
    (names : Written.NamesFit named Solid plain)
    {definitions : List Datum}
    (typed : ∀ definition ∈ definitions, Typed.Definition named definition)
    {written : List Written.Definition}
    (found : definitions.mapM Written.definition = .ok written) :
    ∃ lines : List (List Line), List.Forall₂ LinesOf definitions lines ∧
      ∀ layout : Layout, written.map layout.definition = lines.map layout.arranged := by
  have both := (List.forall₂_and_left _ _).mpr ⟨typed, Outcome.mapM_eq_ok_iff.mp found⟩
  clear typed found
  induction both with
  | nil => exact ⟨[], .nil, fun _ => rfl⟩
  | @cons definition written _ _ first _ inductionHypothesis =>
    obtain ⟨own, outlined⟩ := exists_outlined_definition names first.1 first.2
    obtain ⟨lines, areLines, arranged⟩ := inductionHypothesis
    refine ⟨own :: lines, .cons ⟨outlined.shows, outlined.solid⟩ areLines, ?_⟩
    intro layout
    have arrangedOwn := outlined.arranged layout
    rw [Layout.lead_zero, String.empty_append] at arrangedOwn
    rw [List.map_cons, List.map_cons, arrangedOwn, arranged]

end Lines

namespace Datum

/-- A typed document is made of the same lines in every layout, and they follow the
outlines of its definitions.  Compact, it has a line for each definition.  Spread out, it
has its definitions a blank line apart, ends in a line, and every line of a definition is
one of the text, indented by its level; putting a space in the place of the line breaks
and the indentation gives the compact definition. -/
theorem build_lines
    {definitions : List Datum}
    (typed : Typed.Document Label.IsProper (.document (.tuple definitions)))
    (printable : ∀ node ∈ (Datum.document (.tuple definitions)).nodes,
      node.isUnprintable = false) :
    ∃ lines : List (List Line),
      List.Forall₂ LinesOf definitions lines ∧
      ∀ layout : Layout, ∃ text,
        (Datum.document (.tuple definitions)).build layout = .ok text ∧
        (layout.compact = true →
          text = Lines.joinWith "\n" (lines.map Layout.squeezed) ∧
          ∀ own ∈ lines, Unbroken (Layout.squeezed own)) ∧
        (layout.compact = false →
          text = Lines.joinWith "\n\n" (lines.map (Layout.spread layout.indent)) ∧
          text.toList.getLast? ≠ some '\n' ∧
          ∀ own ∈ lines,
            Lines.source (Layout.spread layout.indent own).toList =
              own.map (fun line => (Layout.indented layout.indent line).toList) ∧
            unbreak (Layout.spread layout.indent own) = Layout.squeezed own) := by
  obtain ⟨typedEach⟩ := typed
  obtain ⟨written, found⟩ := (Written.yields_document Written.namesFit_of_isProper
    (.of typedEach)).exists_iff.mpr printable
  have foundEach : definitions.mapM Written.definition = .ok written := by
    rw [← Written.definitions_eq_mapM]
    exact found
  obtain ⟨lines, areLines, arranged⟩ :=
    exists_linesOf Written.namesFit_of_isProper typedEach foundEach
  refine ⟨lines, areLines, ?_⟩
  intro layout
  have built : (Datum.document (.tuple definitions)).build layout =
      .ok (Lines.joinWith layout.separator (lines.map layout.arranged)) := by
    rw [build, found, ← arranged]
    rfl
  have linesOf : ∀ own ∈ lines, ∃ definition, LinesOf definition own := by
    intro own present
    obtain ⟨definition, -, isLinesOf⟩ := Outcome.exists_of_mem_forall₂ areLines present
    exact ⟨definition, isLinesOf⟩
  refine ⟨_, built, ?compact, ?isSpread⟩
  case compact =>
    intro compact
    rw [Layout.separator, if_pos compact,
      List.map_congr_left fun own _ => Layout.arranged_of_compact compact own]
    refine ⟨rfl, ?_⟩
    intro own present
    obtain ⟨_, isLinesOf⟩ := linesOf own present
    exact Layout.unbroken_squeezed isLinesOf.solid
  case isSpread =>
    intro isSpread
    have blank := List.all_eq_true.mp layout.blank
    rw [Layout.separator, if_neg (by simp [isSpread]),
      List.map_congr_left fun own _ => Layout.arranged_of_spread isSpread own]
    refine ⟨rfl, getLast?_of_linesOf linesOf layout.indent, ?_⟩
    intro own present
    obtain ⟨_, isLinesOf⟩ := linesOf own present
    exact ⟨isLinesOf.source_spread blank, isLinesOf.unbreak_spread blank⟩

/-! ## A request in both layouts -/

/-- A query for a field of a field, next to an inline fragment without selections. -/
def nested : Datum :=
  .document (.tuple [
    .operation .query none (.tuple []) (.tuple [])
      (.tuple [
        .inlineFragment none (.tuple []) (.tuple []),
        .field (.plain "a") none (.tuple []) (.tuple [])
          (.tuple [.field (.plain "b") none (.tuple []) (.tuple []) (.tuple [])])])])

theorem build_lines_nested :
    ∃ text other, nested.build .standard = .ok text ∧
      nested.build ⟨"  ", true, by decide⟩ = .ok other ∧
      text.toList.getLast? ≠ some '\n' ∧ unbreak text = other := by
  have proper (text : String) (isName : Text.Name.IsName text) : (Label.plain text).IsProper :=
    ⟨isName, nofun⟩
  have typed : Typed.Document Label.IsProper nested := by
    refine .of (List.forall_mem_singleton.mpr (.operation .query nofun nofun .nil ?_))
    refine List.forall_mem_cons.mpr ⟨.inlineFragment nofun .nil nofun, ?_⟩
    refine List.forall_mem_singleton.mpr (.field (proper "a" (by decide)) nofun .nil .nil ?_)
    exact List.forall_mem_singleton.mpr (.field (proper "b" (by decide)) nofun .nil .nil nofun)
  obtain ⟨lines, areLines, laid⟩ := build_lines typed (by decide)
  obtain ⟨own, _, isLinesOf, none, rfl⟩ := List.forall₂_cons_left_iff.mp areLines
  obtain rfl := List.forall₂_nil_left_iff.mp none
  obtain ⟨text, built, -, isSpread⟩ := laid .standard
  obtain ⟨other, builtOther, isCompact, -⟩ := laid ⟨"  ", true, by decide⟩
  obtain ⟨rfl, notBreak, each⟩ := isSpread rfl
  obtain ⟨rfl, -⟩ := isCompact rfl
  exact ⟨_, _, built, builtOther, notBreak, (each own List.mem_cons_self).2⟩

end Datum
end GraphQL
