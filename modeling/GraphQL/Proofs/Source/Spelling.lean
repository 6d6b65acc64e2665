import GraphQL.Proofs.Source.Lexing
import GraphQL.Text.Lines
import Mathlib.Data.List.Forall2

/-!
# Texts that spell lexemes

A text spells what it is read as when it is read so in front of any text that it does
not run into.  A name, a number or a string runs into a character that could carry it
on, so what follows has to break it off; a punctuator, or what is passed over between
tokens, can stand before anything.
-/

namespace GraphQL
namespace Source

open Text (Lines.joinWith)

/-- The character carries on neither a name nor a number nor a string. -/
def isBreak (c : Char) : Bool :=
  !(Text.Name.isContinue c || c = '.' || c = '"')

/-- The text runs into nothing that is before it: it is empty, or it begins with a
character that carries on no lexeme. -/
def Broken (cs : List Char) : Prop :=
  ∀ c, cs.head? = some c → isBreak c = true

@[simp] theorem broken_nil : Broken [] := by simp [Broken]

/-- The text is read in one way, whatever follows. -/
def Stands (text : String) (read : Lexed) : Prop :=
  ∀ rest, lexed (text.toList ++ rest) = read ++ lexed rest

/-- The text is read in one way before anything that it does not run into. -/
def Spells (text : String) (read : Lexed) : Prop :=
  ∀ rest, Broken rest → lexed (text.toList ++ rest) = read ++ lexed rest

/-- Nothing before the text runs into it, unless it runs into what follows. -/
def Parts (text : String) : Prop :=
  ∀ rest, Broken rest → Broken (text.toList ++ rest)

/-- The text begins with a character that breaks off whatever is before it. -/
def Opens (text : String) : Prop :=
  text.toList.head?.any isBreak = true

instance (text : String) : Decidable (Opens text) :=
  inferInstanceAs (Decidable (_ = true))

/-! ## Composition -/

namespace Opens

theorem append
    {first : String}
    (opens : Opens first)
    (second : String) :
    Opens (first ++ second) := by
  unfold Opens at *
  cases chars : first.toList with
  | nil => simp [chars] at opens
  | cons c cs => simpa [String.toList_append, chars] using opens

theorem parts
    {text : String}
    (opens : Opens text) :
    Parts text := by
  intro rest _ c front
  unfold Opens at opens
  cases chars : text.toList with
  | nil => simp [chars] at opens
  | cons d ds =>
    simp only [chars, List.cons_append, List.head?_cons, Option.some.injEq] at front
    simpa [chars, front] using opens

end Opens

namespace Parts

theorem empty : Parts "" := fun _ broken => broken

theorem append
    {first second : String}
    (parts : Parts first)
    (partsSecond : Parts second) :
    Parts (first ++ second) := by
  intro rest broken
  rw [String.toList_append, List.append_assoc]
  exact parts _ (partsSecond rest broken)

end Parts

namespace Stands

variable {first second : String} {firstRead secondRead : Lexed}

theorem spells
    (stands : Stands first firstRead) :
    Spells first firstRead :=
  fun rest _ => stands rest

theorem append
    (stands : Stands first firstRead)
    (standsSecond : Stands second secondRead) :
    Stands (first ++ second) (firstRead ++ secondRead) := by
  intro rest
  rw [String.toList_append, List.append_assoc, stands, standsSecond, Lexed.append_assoc]

/-- Characters that are passed over stand for nothing. -/
theorem of_isIgnored
    {text : String}
    (ignored : text.toList.all Lexer.isIgnored = true) :
    Stands text (.of []) := by
  intro rest
  generalize text.toList = cs at ignored
  induction cs with
  | nil => rfl
  | cons c cs passed =>
    rw [List.all_cons, Bool.and_eq_true] at ignored
    rw [List.cons_append, lexed_cons_of_isIgnored ignored.1]
    exact passed ignored.2

end Stands

namespace Spells

variable {first second : String} {firstRead secondRead : Lexed}

theorem empty : Spells "" (.of []) := fun _ _ => rfl

theorem after
    (spells : Spells second secondRead)
    (stands : Stands first firstRead) :
    Spells (first ++ second) (firstRead ++ secondRead) := by
  intro rest broken
  rw [String.toList_append, List.append_assoc, stands, spells rest broken, Lexed.append_assoc]

theorem append
    (spells : Spells first firstRead)
    (spellsSecond : Spells second secondRead)
    (parts : Parts second) :
    Spells (first ++ second) (firstRead ++ secondRead) := by
  intro rest broken
  rw [String.toList_append, List.append_assoc, spells _ (parts rest broken),
    spellsSecond rest broken, Lexed.append_assoc]

/-- Texts with something between neighbours that is passed over are read one after
another. -/
theorem joinWith
    {separator : String}
    (stands : Stands separator (.of []))
    (opens : Opens separator)
    {texts : List String}
    {reads : List Lexed}
    (spells : List.Forall₂ Spells texts reads) :
    Spells (Lines.joinWith separator texts) (.concat reads) := by
  induction spells with
  | nil => exact empty
  | cons spellsFirst spellsRest joined =>
    cases spellsRest with
    | nil => simpa using spellsFirst
    | cons spellsNext spellsMore =>
      rw [Text.Lines.joinWith_cons_cons, String.append_assoc]
      exact spellsFirst.append (joined.after stands) (opens.append _).parts

/-- A text that is read in one way is read so where nothing follows. -/
theorem lexed_eq
    (spells : Spells first firstRead) :
    lexed first.toList = firstRead := by
  simpa using spells [] broken_nil

end Spells

/-- A punctuator can stand before anything. -/
theorem stands_punctuator (mark : Punctuator) :
    Stands mark.text (.of [.punctuator mark]) := by
  intro rest
  cases mark <;> exact lexed_of_lexeme rfl rfl (by simp)

/-! ## Names that are read in their own way -/

namespace Lexed

/-- What lexemes are read as if names are read in a given way. -/
def naming (name : String → Lexed) (lexemes : List Lexeme) : Lexed :=
  .concat <| lexemes.map fun
    | .name text => name text
    | lexeme => .of [lexeme]

variable (name : String → Lexed)

@[simp] theorem naming_nil : naming name [] = .of [] := rfl

@[simp] theorem naming_name (text : String) (lexemes : List Lexeme) :
    naming name (.name text :: lexemes) = name text ++ naming name lexemes := rfl

@[simp] theorem naming_punctuator (mark : Punctuator) (lexemes : List Lexeme) :
    naming name (.punctuator mark :: lexemes) =
      .of [.punctuator mark] ++ naming name lexemes := rfl

theorem naming_append (first second : List Lexeme) :
    naming name (first ++ second) = naming name first ++ naming name second := by
  induction first with
  | nil => rfl
  | cons lexeme first inductionHypothesis =>
    change _ ++ naming name (first ++ second) = (_ ++ naming name first) ++ naming name second
    rw [inductionHypothesis, append_assoc]

theorem naming_flatMap {α : Type} (lexemes : α → List Lexeme) (values : List α) :
    naming name (values.flatMap lexemes) =
      .concat (values.map fun value => naming name (lexemes value)) := by
  induction values with
  | nil => rfl
  | cons value values inductionHypothesis =>
    rw [List.flatMap_cons, naming_append, inductionHypothesis]
    rfl

/-- If names are read as names, lexemes are read as themselves. -/
theorem naming_of (lexemes : List Lexeme) :
    naming (fun text => .of [.name text]) lexemes = .of lexemes := by
  induction lexemes with
  | nil => rfl
  | cons lexeme lexemes inductionHypothesis =>
    change _ ++ naming _ lexemes = _
    rw [inductionHypothesis]
    cases lexeme <;> rfl

/-- If names are read to their end, so are all lexemes. -/
theorem stop_naming
    (named : ∀ text, (name text).stop = none)
    (lexemes : List Lexeme) :
    (naming name lexemes).stop = none := by
  rw [naming, stop_concat_eq_none_iff, List.forall_mem_map]
  intro lexeme _
  cases lexeme with
  | name text => exact named text
  | _ => rfl

end Lexed
end Source
end GraphQL
