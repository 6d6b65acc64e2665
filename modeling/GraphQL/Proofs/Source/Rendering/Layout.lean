import GraphQL.Proofs.Source.Lexemes
import GraphQL.Proofs.Source.Spelling
import GraphQL.Proofs.Text.Settling
import GraphQL.Source.Printer

/-!
# The layout of canonical text

Pieces of canonical text are put together with blanks, marks and line ends between them, and
moved to the right level by level.  Wherever a piece is moved to, it is read as the same
lexemes: a margin could only change block strings, and they settle behind every margin alike.
-/

namespace GraphQL
namespace Source

open Text

/-! ## Moved texts -/

/-- The text with a margin before every line but the first. -/
def moved (margin : List Char) (text : String) : String :=
  String.ofList (Lines.indentRest margin text.toList)

@[simp] theorem toList_moved (margin : List Char) (text : String) :
    (moved margin text).toList = Lines.indentRest margin text.toList :=
  String.toList_ofList

theorem moved_append (margin : List Char) (first second : String) :
    moved margin (first ++ second) = moved margin first ++ moved margin second := by
  simp [← String.toList_inj]

theorem moved_of_not_mem
    {text : String}
    (noLineFeed : '\n' ∉ text.toList)
    (margin : List Char) :
    moved margin text = text := by
  rw [moved, Lines.indentRest_of_not_mem noLineFeed, String.ofList_toList]

@[simp] theorem moved_nil (text : String) : moved [] text = text := by
  simp [moved]

/-- A moved text begins as the text does. -/
theorem Opens.moved
    {text : String}
    (opens : Opens text)
    (margin : List Char) :
    Opens (moved margin text) := by
  unfold Opens at opens ⊢
  rw [toList_moved]
  cases chars : text.toList with
  | nil => simp [chars] at opens
  | cons c cs =>
    rw [chars] at opens
    rw [Lines.indentRest]
    split <;> exact opens

/-- The text is empty, or it begins with a character that breaks off whatever is before
it. -/
def Parted (text : String) : Prop :=
  text = "" ∨ Opens text

theorem Parted.parts
    {text : String}
    (parted : Parted text)
    (margin : List Char) :
    Parts (moved margin text) := by
  obtain rfl | opens := parted
  · exact .empty
  · exact (opens.moved margin).parts

theorem Opens.parted
    {text : String}
    (opens : Opens text) :
    Parted text :=
  .inr opens

theorem parted_empty : Parted "" :=
  .inl rfl

theorem parted_wrap
    {before : String}
    (opens : Opens before)
    (text after : String) :
    Parted (Layout.wrap before text after) := by
  rw [Layout.wrap]
  split
  · exact parted_empty
  · exact ((opens.append text).append after).parted

/-! ## What moved texts are read as -/

theorem Lexed.of_append (first second : List Lexeme) :
    Lexed.of (first ++ second) = .of first ++ .of second := rfl

/-- The lexeme with what a block string settles to. -/
def Lexeme.settled : Lexeme → Lexeme
  | .blockString text => .blockString (String.ofList (Block.settle text.toList))
  | lexeme => lexeme

/-- Wherever the text is moved to, it is read as the lexemes with block strings settled,
whatever follows. -/
def Holds (text : String) (lexemes : List Lexeme) : Prop :=
  ∀ margin, IsMargin margin → Stands (moved margin text) (.of (lexemes.map .settled))

/-- Wherever the text is moved to, it is read as the lexemes with block strings settled, before
anything that it does not run into. -/
def Renders (text : String) (lexemes : List Lexeme) : Prop :=
  ∀ margin, IsMargin margin → Spells (moved margin text) (.of (lexemes.map .settled))

variable
  {first second text : String}
  {lexemes firstLexemes secondLexemes : List Lexeme}

namespace Holds

/-- Characters that are passed over stand for nothing wherever they are moved to. -/
theorem of_isIgnored
    (ignored : text.toList.all Lexer.isIgnored = true) :
    Holds text [] := by
  intro margin isMargin
  apply Stands.of_isIgnored
  rw [toList_moved, List.all_eq_true] at *
  intro c present
  by_cases space : c = ' '
  · subst space
    rfl
  · exact ignored c (Lines.mem_of_mem_indentRest isMargin space present)

theorem punctuator (mark : Punctuator) : Holds mark.text [.punctuator mark] := by
  intro margin _
  have unbroken : '\n' ∉ mark.text.toList := by cases mark <;> decide
  rw [moved_of_not_mem unbroken]
  exact stands_punctuator mark

theorem append
    (holds : Holds first firstLexemes)
    (holdsSecond : Holds second secondLexemes) :
    Holds (first ++ second) (firstLexemes ++ secondLexemes) := by
  intro margin isMargin
  rw [moved_append, List.map_append, Lexed.of_append]
  exact (holds margin isMargin).append (holdsSecond margin isMargin)

theorem renders
    (holds : Holds text lexemes) :
    Renders text lexemes :=
  fun margin isMargin => (holds margin isMargin).spells

end Holds

theorem renders_empty : Renders "" [] :=
  fun _ _ => Spells.empty

namespace Renders

/-- A text that is not moved is read as the lexemes with block strings settled. -/
theorem spells
    (renders : Renders text lexemes) :
    Spells text (.of (lexemes.map .settled)) := by
  have unmoved := renders [] nofun
  rwa [moved_nil] at unmoved

/-- An empty text stands for nothing. -/
theorem eq_nil
    (renders : Renders "" lexemes) :
    lexemes = [] := by
  have read := renders.spells.lexed_eq
  have sameLexemes := (Lexed.mk.inj read).1
  exact List.map_eq_nil_iff.mp sameLexemes.symm

theorem ne_empty
    (renders : Renders text lexemes)
    (some : lexemes ≠ []) :
    text ≠ "" := by
  rintro rfl
  exact some renders.eq_nil

theorem after
    (renders : Renders second secondLexemes)
    (holds : Holds first firstLexemes) :
    Renders (first ++ second) (firstLexemes ++ secondLexemes) := by
  intro margin isMargin
  rw [moved_append, List.map_append, Lexed.of_append]
  exact (renders margin isMargin).after (holds margin isMargin)

theorem append
    (renders : Renders first firstLexemes)
    (rendersSecond : Renders second secondLexemes)
    (parted : Parted second) :
    Renders (first ++ second) (firstLexemes ++ secondLexemes) := by
  intro margin isMargin
  rw [moved_append, List.map_append, Lexed.of_append]
  exact (renders margin isMargin).append (rendersSecond margin isMargin) (parted.parts margin)

/-- A text that is moved two spaces to the right is read as before. -/
theorem indent
    (renders : Renders text lexemes) :
    Renders (Layout.indent text) lexemes := by
  rw [Layout.indent, Layout.wrap]
  split
  · next isEmpty =>
    have empty : text = "" := by
      rw [String.isEmpty_iff, ← String.toList_eq_nil_iff, String.toList_ofList] at isEmpty
      rw [← String.toList_eq_nil_iff]
      cases chars : text.toList with
      | nil => rfl
      | cons c cs =>
        rw [chars, Lines.indentRest] at isEmpty
        split at isEmpty <;> cases isEmpty
    subst empty
    rw [renders.eq_nil]
    exact renders_empty
  · have holds : Holds "  " [] := .of_isIgnored (by decide)
    intro margin isMargin
    have isMarginToo : IsMargin (margin ++ [' ', ' ']) := isMargin.append (by simp [IsMargin])
    have twice : moved margin (String.ofList (Lines.indentRest [' ', ' '] text.toList)) =
        moved (margin ++ [' ', ' ']) text := by
      rw [moved, String.toList_ofList, Lines.indentRest_indentRest (by decide), moved]
    rw [String.append_empty, moved_append, twice]
    exact (renders _ isMarginToo).after (holds margin isMargin)

/-- A text between two others is read with what is around it, unless it is missing. -/
theorem wrap
    {before after : String}
    {opening closing : List Lexeme}
    (renders : Renders text lexemes)
    (some : lexemes ≠ [])
    (holds : Holds before opening)
    (rendersAfter : Renders after closing)
    (parted : Parted after) :
    Renders (Layout.wrap before text after) (opening ++ (lexemes ++ closing)) := by
  have notEmpty : ¬text.isEmpty = true := by
    simpa using renders.ne_empty some
  rw [Layout.wrap, if_neg notEmpty, String.append_assoc]
  exact (renders.append rendersAfter parted).after holds

/-- A text that may be missing, behind something that is passed over. -/
theorem behind
    {before : String}
    (renders : Renders text lexemes)
    (holds : Holds before []) :
    Renders (Layout.wrap before text "") lexemes := by
  rw [Layout.wrap]
  split
  · next isEmpty =>
    obtain rfl : text = "" := by simpa using isEmpty
    rw [renders.eq_nil]
    exact renders_empty
  · rw [String.append_empty]
    exact renders.after holds

/-- What breaks off the text before it lets the whole stand before anything. -/
theorem holds_append
    (renders : Renders first firstLexemes)
    (holds : Holds second secondLexemes)
    (opens : Opens second) :
    Holds (first ++ second) (firstLexemes ++ secondLexemes) := by
  intro margin isMargin rest
  have broken : Broken ((moved margin second).toList ++ rest) := by
    have opensMoved := opens.moved margin
    intro c front
    unfold Opens at opensMoved
    cases chars : (moved margin second).toList with
    | nil => simp [chars] at opensMoved
    | cons d ds =>
      rw [chars, List.cons_append, List.head?_cons, Option.some.injEq] at front
      simpa [chars, front] using opensMoved
  rw [moved_append, List.map_append, Lexed.of_append, String.toList_append, List.append_assoc,
    renders margin isMargin _ broken, holds margin isMargin, Lexed.append_assoc]

/-- A text that may be missing, before something that breaks it off. -/
theorem holds_wrap
    {after : String}
    (renders : Renders text lexemes)
    (holds : Holds after [])
    (opens : Opens after) :
    Holds (Layout.wrap "" text after) lexemes := by
  rw [Layout.wrap]
  split
  · next isEmpty =>
    obtain rfl : text = "" := by simpa using isEmpty
    rw [renders.eq_nil]
    exact .of_isIgnored (by decide)
  · have held := renders.holds_append holds opens
    rwa [List.append_nil, ← String.empty_append (s := text)] at held

end Renders

/-! ## Joined texts -/

section Joined

variable
  {separator : String}
  (holds : Holds separator [])
  (opens : Opens separator)

include holds opens

/-- Joined texts are read one after another; those that are empty stand for nothing. -/
theorem renders_join
    {texts : List String}
    {parts : List (List Lexeme)}
    (renders : List.Forall₂ Renders texts parts) :
    Renders (Layout.join separator texts) parts.flatten := by
  unfold Layout.join
  induction renders with
  | nil => exact renders_empty
  | @cons text lexemes texts parts rendersFirst _ joined =>
    rw [List.flatten_cons]
    by_cases empty : text = ""
    · subst empty
      rw [rendersFirst.eq_nil]
      simpa using joined
    · rw [List.filter_cons_of_pos (by simpa using empty)]
      cases kept : texts.filter fun text => !text.isEmpty with
      | nil =>
        rw [kept] at joined
        rw [joined.eq_nil, List.append_nil]
        simpa using rendersFirst
      | cons next others =>
        rw [kept] at joined
        rw [Lines.joinWith_cons_cons, String.append_assoc]
        exact rendersFirst.append (joined.after holds) (opens.append _).parted

variable {α : Type} {print : α → String} {written : α → List Lexeme} {values : List α}

/-- Printed values are read one after another. -/
theorem renders_join_map
    (renders : ∀ value ∈ values, Renders (print value) (written value)) :
    Renders (Layout.join separator (values.map print)) (values.flatMap written) := by
  rw [List.flatMap_def]
  apply renders_join holds opens
  rw [List.forall₂_map_left_iff, List.forall₂_map_right_iff]
  exact List.forall₂_same.mpr renders

end Joined

/-- What stands between neighbours on one line or one below the other. -/
theorem holds_comma : Holds ", " [] := .of_isIgnored (by decide)

theorem opens_comma : Opens ", " := by decide

theorem holds_space : Holds " " [] := .of_isIgnored (by decide)

theorem opens_space : Opens " " := by decide

theorem holds_lineEnd : Holds "\n" [] := .of_isIgnored (by decide)

theorem opens_lineEnd : Opens "\n" := by decide

/-! ## Brackets -/

/-- A punctuator between what is passed over. -/
theorem holds_mark
    (before : String)
    (mark : Punctuator)
    (after : String)
    (split : text = before ++ mark.text ++ after)
    (ignored : (before ++ after).toList.all Lexer.isIgnored = true) :
    Holds text [.punctuator mark] := by
  rw [String.toList_append, List.all_append, Bool.and_eq_true] at ignored
  rw [split]
  exact ((Holds.of_isIgnored ignored.1).append (.punctuator mark)).append
    (.of_isIgnored ignored.2)

theorem holds_colon : Holds ": " [.punctuator .colon] :=
  holds_mark "" .colon " " (by decide) (by decide)

theorem opens_colon : Opens ": " := by decide

section Brackets

variable
  {α : Type}
  {print : α → String}
  {written : α → List Lexeme}
  {values : List α}
  (renders : ∀ value ∈ values, Renders (print value) (written value))
  (some : ∀ value ∈ values, written value ≠ [])

include some in
theorem flatMap_ne_nil
    (notEmpty : values ≠ []) :
    values.flatMap written ≠ [] := by
  obtain ⟨value, values, rfl⟩ := List.exists_cons_of_ne_nil notEmpty
  simp [some value List.mem_cons_self]

include renders some

/-- Printed values in parentheses are read with the parentheses, if there are any. -/
theorem renders_inParens :
    Renders (Layout.inParens (values.map print)) (inParentheses written values) := by
  rw [Layout.inParens]
  cases values with
  | nil => exact renders_empty
  | cons value values =>
    have opening : Holds "(" [.punctuator .parenL] :=
      holds_mark "" .parenL "" (by decide) (by decide)
    have closing : Holds ")" [.punctuator .parenR] :=
      holds_mark "" .parenR "" (by decide) (by decide)
    exact (renders_join_map holds_comma opens_comma renders).wrap (flatMap_ne_nil some (by simp))
      opening closing.renders (Opens.parted (by decide))

theorem renders_inParensByLine :
    Renders (Layout.inParensByLine (values.map print)) (inParentheses written values) := by
  rw [Layout.inParensByLine]
  cases values with
  | nil => exact renders_empty
  | cons value values =>
    have opening : Holds "(\n" [.punctuator .parenL] :=
      holds_mark "" .parenL "\n" (by decide) (by decide)
    have closing : Holds "\n)" [.punctuator .parenR] :=
      holds_mark "\n" .parenR "" (by decide) (by decide)
    exact (renders_join_map holds_lineEnd opens_lineEnd renders).indent.wrap
      (flatMap_ne_nil some (by simp)) opening closing.renders (Opens.parted (by decide))

/-- Printed values in braces are read with the braces, if there are any. -/
theorem renders_block :
    Renders (Layout.block (values.map print)) (inBraces written values) := by
  rw [Layout.block]
  cases values with
  | nil => exact renders_empty
  | cons value values =>
    have opening : Holds "\x7b\n" [.punctuator .braceL] :=
      holds_mark "" .braceL "\n" (by decide) (by decide)
    have closing : Holds "\n\x7d" [.punctuator .braceR] :=
      holds_mark "\n" .braceR "" (by decide) (by decide)
    exact (renders_join_map holds_lineEnd opens_lineEnd renders).indent.wrap
      (flatMap_ne_nil some (by simp)) opening closing.renders (Opens.parted (by decide))

end Brackets

end Source
end GraphQL
