import GraphQL.Proofs.Request.Layout
import GraphQL.Proofs.Request.Writing
import GraphQL.Text.Identifier

/-!
# How the names of a request are read

A name is put into a request as its text, or as a member of its enum.  A text that has
passed the gate reads as one name token.  A member is shown with a point in it, on which
reading stops, so that nothing after it is read; what is read up to there still does not
depend on the layout.
-/

namespace GraphQL

open Source
open Text
open Written (NamesFit)
open Layout (NamesRead)

namespace Label

/-- The name is a text of the grammar for names. -/
def IsWord (name : Label) : Prop :=
  name.member? = none ∧ Name.IsName name.text

/-- The name is a text that has passed the gate. -/
def PassedText (name : Label) : Prop :=
  name.member? = none ∧ Name.accepts name.text = true

/-- The text of the name is of the grammar for names, though the name may be a member of an
enum. -/
def SpellsWord (name : Label) : Prop :=
  Name.IsName name.text

/-- The text of the name has passed the gate. -/
def Accepted (name : Label) : Prop :=
  Name.accepts name.text = true

/-- The name has passed the gate.  If it is a member of an enum, the member is called by
an identifier. -/
def Passed (name : Label) : Prop :=
  Name.accepts name.text = true ∧
    ∀ family member, name.member? = some (family, member) →
      Identifier.isIdentifier member = true

theorem shown_of_text
    {name : Label}
    (text : name.member? = none) :
    name.shown = name.text := by
  rw [shown, text]

theorem shown_of_member
    {name : Label}
    {family : Family}
    {member : String}
    (same : name.member? = some (family, member)) :
    name.shown = family.name ++ "." ++ member := by
  rw [shown, same]

end Label

/-! ## Words -/

/-- The names of a request are fit for the text if they are words, and are then put
there as they are. -/
theorem Written.namesFit_of_isWord (plain : Prop) :
    NamesFit Label.IsWord Name.IsName plain where
  text _ isWord := isWord.2
  shown name isWord := by
    rw [Label.shown_of_text isWord.1]
    exact isWord.2
  same _ _ isWord := Label.shown_of_text isWord.1

/-- Names are read as name tokens. -/
theorem Layout.namesRead_of_isName :
    NamesRead Name.IsName fun text => .of [.name text] where
  spells _ isName := Name.spells_of_isName isName
  word _ _ := rfl

/-! ## Texts that have passed the gate -/

theorem Written.namesFit_of_passedText :
    NamesFit Label.PassedText (Name.accepts · = true) True where
  text _ passed := passed.2
  shown name passed := by
    rw [Label.shown_of_text passed.1]
    exact passed.2
  same _ _ passed := Label.shown_of_text passed.1

theorem Layout.namesRead_of_accepts :
    NamesRead (Name.accepts · = true) fun text => .of [.name (Name.stem text)] where
  spells _ accepted := Name.spells_of_accepts accepted
  word text isName := by rw [Name.stem_of_isName isName]

/-! ## Members of enums -/

/-- What follows the text changes nothing about how the text is read. -/
def Settled (text : String) : Prop :=
  Spells text (lexed text.toList)

theorem settled_of_spells
    {text : String}
    {read : Lexed}
    (spells : Spells text read) :
    Settled text := by
  rwa [Settled, spells.lexed_eq]

/-- No identifier opens with a point. -/
theorem isOpener_point : Identifier.isOpener '.' = false := by
  decide +kernel

/-- Reading stops on a point before anything but a point. -/
theorem lexed_point
    {c : Char}
    (other : c ≠ '.')
    (cs : List Char) :
    lexed ('.' :: c :: cs) = ⟨[], some (.unexpectedCharacter '.')⟩ := by
  have front : Lexer.skipIgnored false ('.' :: c :: cs) = '.' :: c :: cs := by
    simp [Lexer.skipIgnored, show Lexer.isIgnored '.' = false by decide]
  have stuck : Lexer.lexeme ('.' :: c :: cs) =
      .error ⟨.unexpectedCharacter '.', '.' :: c :: cs⟩ := by
    rw [Lexer.lexeme]
    · rfl
    · simp
    · simp
    · simp [other]
  rw [lexed_eq, front, stuck]

theorem Family.isName_name (family : Family) : Name.IsName family.name := by
  cases family with
  | operationType => decide
  | scalarType => decide
  | custom => exact (by decide : Name.IsName "E")

/-- Reading a member stops on the point in it, whatever follows. -/
theorem spells_member
    (family : Family)
    {member : String}
    (identifier : Identifier.isIdentifier member = true) :
    Spells (family.name ++ "." ++ member)
      ⟨[.name family.name], some (.unexpectedCharacter '.')⟩ := by
  cases chars : member.toList with
  | nil => simp [Identifier.isIdentifier, chars] at identifier
  | cons c cs =>
    have other : c ≠ '.' := by
      rintro rfl
      simp [Identifier.isIdentifier, chars, isOpener_point] at identifier
    intro rest _
    have split : (family.name ++ "." ++ member).toList ++ rest =
        family.name.toList ++ '.' :: c :: (cs ++ rest) := by
      simp [chars]
    have ends : Name.isContinue '.' = false := by decide
    rw [split, Name.lexed_append_of_isName family.isName_name (by simpa using ends),
      lexed_point other]
    rfl

theorem Written.namesFit_of_passed : NamesFit Label.Passed Settled False where
  text _ passed := settled_of_spells (Name.spells_of_accepts passed.1)
  shown name passed := by
    cases same : name.member? with
    | none =>
      rw [Label.shown_of_text same]
      exact settled_of_spells (Name.spells_of_accepts passed.1)
    | some found =>
      obtain ⟨family, member⟩ := found
      rw [Label.shown_of_member same]
      exact settled_of_spells (spells_member family (passed.2 family member same))
  same := nofun

/-- Any text will do if nothing is asked of it. -/
theorem Written.namesFit_of_accepted : NamesFit Label.Accepted (fun _ => True) False :=
  ⟨fun _ _ => trivial, fun _ _ => trivial, nofun⟩

theorem Layout.namesRead_of_settled :
    NamesRead Settled fun text => lexed text.toList where
  spells _ settled := settled
  word _ isName := (Name.spells_of_isName isName).lexed_eq

end GraphQL
