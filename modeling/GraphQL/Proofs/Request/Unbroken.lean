import GraphQL.Proofs.Request.Name
import GraphQL.Proofs.Source.Genuine

/-!
# What never breaks a line

Neither a line feed nor a carriage return gets into a request but by its layout: names
and numerals have none in them, and a string literal spells them out.  What a line
begins with is a name, a word or a punctuator, and so it is no indentation either.
-/

namespace GraphQL

open Source (Lexeme lexed)
open Text (Lines.joinWith)

/-! ## Texts on one line -/

/-- The text holds no end of a line. -/
def Unbroken (text : String) : Prop :=
  ∀ c ∈ text.toList, c ≠ '\n' ∧ c ≠ '\r'

instance (text : String) : Decidable (Unbroken text) :=
  List.decidableBAll _ text.toList

namespace Unbroken

variable {first second : String}

theorem append
    (unbroken : Unbroken first)
    (unbrokenSecond : Unbroken second) :
    Unbroken (first ++ second) := by
  intro c present
  rw [String.toList_append, List.mem_append] at present
  exact present.elim (unbroken c) (unbrokenSecond c)

theorem joinWith
    {separator : String}
    (unbroken : Unbroken separator)
    {texts : List String}
    (unbrokenTexts : ∀ text ∈ texts, Unbroken text) :
    Unbroken (Lines.joinWith separator texts) := by
  induction texts with
  | nil => exact (by decide : Unbroken "")
  | cons text texts inductionHypothesis =>
    rw [List.forall_mem_cons] at unbrokenTexts
    cases texts with
    | nil => exact unbrokenTexts.1
    | cons next texts =>
      rw [Text.Lines.joinWith_cons_cons]
      exact (unbrokenTexts.1.append unbroken).append (inductionHypothesis unbrokenTexts.2)

/-- Texts put one after another. -/
theorem join
    {texts : List String}
    (unbrokenTexts : ∀ text ∈ texts, Unbroken text) :
    Unbroken (String.join texts) := by
  induction texts with
  | nil => exact (by decide : Unbroken "")
  | cons text texts inductionHypothesis =>
    rw [List.forall_mem_cons] at unbrokenTexts
    rw [String.join_cons]
    exact unbrokenTexts.1.append (inductionHypothesis unbrokenTexts.2)

end Unbroken

/-- The text can be a line: it is there, holds no end of a line and does not open with
indentation. -/
structure Solid (text : String) : Prop where
  /-- It does not open with indentation. -/
  opens : text.toList.head?.any (fun c => !isIndent c) = true
  /-- It holds no end of a line. -/
  unbroken : Unbroken text

namespace Solid

variable {first second : String}

theorem append
    (solid : Solid first)
    (unbroken : Unbroken second) :
    Solid (first ++ second) := by
  refine ⟨?_, solid.unbroken.append unbroken⟩
  have opens := solid.opens
  rw [String.toList_append]
  cases chars : first.toList with
  | nil => simp [chars] at opens
  | cons c cs => simpa [chars] using opens

/-- The first character of the text. -/
theorem exists_cons
    (solid : Solid first) :
    ∃ c cs, first.toList = c :: cs ∧ isIndent c = false := by
  have opens := solid.opens
  cases chars : first.toList with
  | nil => simp [chars] at opens
  | cons c cs => exact ⟨c, cs, rfl, by simpa [chars] using opens⟩

end Solid

/-! ## Names -/

/-- A name is made of the characters of names. -/
theorem Text.Name.forall_isContinue
    {text : String}
    (isName : IsName text) :
    ∀ c ∈ text.toList, isContinue c = true := by
  unfold IsName at isName
  intro c present
  cases chars : text.toList with
  | nil => simp [chars] at present
  | cons first rest =>
    simp only [chars, Name.isName, Bool.and_eq_true, List.all_eq_true] at isName
    rw [chars, List.mem_cons] at present
    rcases present with rfl | later
    · exact isContinue_of_isStart isName.1
    · exact isName.2 c later

/-- A text of characters that are no ends of a line is unbroken. -/
theorem unbroken_of_forall
    {text : String}
    (test : Char → Bool)
    (lineFeed : test '\n' = false)
    (carriageReturn : test '\r' = false)
    (passes : ∀ c ∈ text.toList, test c = true) :
    Unbroken text := by
  intro c present
  have passed := passes c present
  constructor
  · rintro rfl
    exact Bool.false_ne_true (lineFeed.symm.trans passed)
  · rintro rfl
    exact Bool.false_ne_true (carriageReturn.symm.trans passed)

theorem solid_of_isName
    {text : String}
    (isName : Text.Name.IsName text) :
    Solid text := by
  refine ⟨?_, unbroken_of_forall Text.Name.isContinue (by decide) (by decide)
    (Text.Name.forall_isContinue isName)⟩
  have continues := Text.Name.forall_isContinue isName
  unfold Text.Name.IsName at isName
  cases chars : text.toList with
  | nil => simp [chars, Text.Name.isName] at isName
  | cons c cs =>
    have isContinue : Text.Name.isContinue c = true := continues c (by simp [chars])
    have notBlank : isIndent c = false := by
      rw [isIndent, Bool.or_eq_false_iff, decide_eq_false_iff_not, decide_eq_false_iff_not]
      constructor <;> rintro rfl <;> exact absurd isContinue (by decide)
    simp [notBlank]

theorem unbroken_of_isIdentifier
    {text : String}
    (identifier : Text.Identifier.isIdentifier text = true) :
    Unbroken text := by
  apply unbroken_of_forall Text.Identifier.isFollower
  · decide +kernel
  · decide +kernel
  · intro c present
    unfold Text.Identifier.isIdentifier at identifier
    cases chars : text.toList with
    | nil => simp [chars] at present
    | cons first rest =>
      simp only [chars, Bool.and_eq_true, List.all_eq_true] at identifier
      rw [chars, List.mem_cons] at present
      rcases present with rfl | later
      · simp [Text.Identifier.isFollower, identifier.1]
      · exact identifier.2 c later

/-- The name is a name of the grammar.  If it is a member of an enum, the member is
called by an identifier. -/
def Label.IsProper (name : Label) : Prop :=
  Text.Name.IsName name.text ∧
    ∀ family member, name.member? = some (family, member) →
      Text.Identifier.isIdentifier member = true

/-- The names of a request are solid wherever they stand. -/
theorem Written.namesFit_of_isProper : NamesFit Label.IsProper Solid False where
  text _ proper := solid_of_isName proper.1
  shown name proper := by
    cases same : name.member? with
    | none =>
      rw [Label.shown_of_text same]
      exact solid_of_isName proper.1
    | some found =>
      obtain ⟨family, member⟩ := found
      rw [Label.shown_of_member same]
      have unbroken : Unbroken ("." ++ member) :=
        (by decide : Unbroken ".").append
          (unbroken_of_isIdentifier (proper.2 family member same))
      rw [String.append_assoc]
      exact (solid_of_isName family.isName_name).append unbroken
  same := nofun

/-! ## Values -/

/-- A string literal spells out every end of a line. -/
theorem unbroken_encode (text : String) : Unbroken (Text.Quoted.encode text) := by
  rw [Unbroken, Text.Quoted.toList_encode]
  exact Text.Quoted.forall_mem_quote _ _

/-- A numeral is made of the characters of words. -/
theorem unbroken_of_spells
    {numeral : String}
    {number : Lexeme}
    (spells : Source.Spells numeral (.of [number]))
    (isNumber : number = .int numeral ∨ number = .float numeral) :
    Unbroken numeral := by
  have genuine : number.Genuine := by
    apply Source.forall_mem_lexed (fun _ _ _ read _ => Source.Lexer.genuine_of_lexeme read)
      numeral.toList
    rw [spells.lexed_eq]
    exact List.mem_singleton_self number
  apply unbroken_of_forall Source.isWordChar (by decide) (by decide)
  rcases isNumber with rfl | rfl
  · intro c present
    exact Source.isWordChar_of_isNumeralStart (genuine.chars c present)
  · exact genuine.chars

namespace Layout

theorem unbroken_entry
    {name text : String}
    (solid : Solid name)
    (unbroken : Unbroken text) :
    Unbroken (name ++ ": " ++ text) :=
  (solid.unbroken.append (by decide)).append unbroken

/-- Texts in brackets, with commas between neighbours. -/
theorem unbroken_bracketed
    {opening close : String}
    {texts : List String}
    (unbrokenOpening : Unbroken opening)
    (unbrokenClose : Unbroken close)
    (unbroken : ∀ text ∈ texts, Unbroken text) :
    Unbroken (opening ++ Lines.joinWith ", " texts ++ close) :=
  (unbrokenOpening.append (.joinWith (by decide) unbroken)).append unbrokenClose

/-- A value stands on one line. -/
theorem unbroken_value
    {written : Written.Value}
    {meant : Source.Value}
    (means : written.Means Solid meant) :
    Unbroken (value written) := by
  induction means with
  | reference solid => exact (by decide : Unbroken "$").append solid.unbroken
  | int spells => exact unbroken_of_spells spells (.inl rfl)
  | float spells => exact unbroken_of_spells spells (.inr rfl)
  | string text => exact unbroken_encode text
  | boolean flag =>
    cases flag with
    | true => exact (by decide : Unbroken "true")
    | false => exact (by decide : Unbroken "false")
  | null => exact (by decide : Unbroken "null")
  | enum solid => exact solid.unbroken
  | @list items values sameLength _ inductionHypothesis =>
    rw [value, values_eq_map]
    apply unbroken_bracketed (by decide) (by decide)
    rw [List.forall_mem_map]
    have unbrokenEach := List.forall₂_iff_zip.mpr ⟨sameLength, inductionHypothesis _ _⟩
    exact Outcome.forall_mem_of_forall₂ unbrokenEach fun _ _ => id
  | @object fields values sameLength fits _ inductionHypothesis =>
    rw [value, named_eq_map]
    apply unbroken_bracketed (by decide) (by decide)
    rw [List.forall_mem_map]
    have unbrokenEach : List.Forall₂ (fun field _ => Unbroken (field.1 ++ ": " ++ value field.2))
        fields values := by
      rw [List.forall₂_iff_zip]
      refine ⟨sameLength, ?_⟩
      intro field meant present
      exact unbroken_entry (fits field meant present).2 (inductionHypothesis field meant present)
    exact Outcome.forall_mem_of_forall₂ unbrokenEach fun _ _ => id

/-! ## Arguments and directives -/

theorem unbroken_parentheses
    {texts? : Option (List String)}
    (unbroken : ∀ texts ∈ texts?, ∀ text ∈ texts, Unbroken text) :
    Unbroken (parentheses texts?) := by
  cases texts? with
  | none => exact (by decide : Unbroken "")
  | some texts => exact unbroken_bracketed (by decide) (by decide) (unbroken texts rfl)

theorem unbroken_arguments
    {entries? : Option (List (String × Written.Value))}
    {arguments : List Source.Argument}
    (mean : Written.ArgumentsMean Solid entries? arguments) :
    Unbroken (parentheses (entries?.map named)) := by
  apply unbroken_parentheses
  rintro texts found text present
  obtain ⟨entries, rfl, rfl⟩ := Option.map_eq_some_iff.mp found
  rw [named_eq_map, List.mem_map] at present
  obtain ⟨entry, among, rfl⟩ := present
  have unbrokenEach := Outcome.forall_mem_of_forall₂ mean.2 fun entry argument means =>
    unbroken_entry means.2.1 (unbroken_value means.2.2)
  exact unbrokenEach entry among

/-- Directives stand on the line that they belong to. -/
theorem unbroken_directives
    {applied : List Written.Directive}
    {meant : List Source.Directive}
    (mean : List.Forall₂ (Written.Directive.Means Solid) applied meant) :
    Unbroken (directives applied) := by
  apply Unbroken.join
  rw [List.forall_mem_map]
  refine Outcome.forall_mem_of_forall₂ mean ?_
  rintro directive meant ⟨-, solid, arguments⟩
  exact ((by decide : Unbroken " @").append solid.unbroken).append (unbroken_arguments arguments)

/-! ## Declarations -/

theorem unbroken_typeRef
    {type : Source.TypeRef}
    (fits : Written.TypeFits Solid type) :
    Unbroken type.print := by
  induction type with
  | named name => exact fits.unbroken
  | list of inductionHypothesis =>
    exact ((by decide : Unbroken "[").append (inductionHypothesis fits)).append (by decide)
  | nonNull of inductionHypothesis => exact (inductionHypothesis fits).append (by decide)

theorem unbroken_variableDefinition
    {declared : Written.VariableDefinition}
    {meant : Source.VariableDefinition}
    (means : declared.Means Solid meant) :
    Unbroken (variableDefinition declared) := by
  have unbrokenTyped {name : String} {type : Source.TypeRef} (solid : Solid name)
      (fits : Written.TypeFits Solid type) :
      Unbroken ("$" ++ name ++ ": " ++ type.print) :=
    (((by decide : Unbroken "$").append solid.unbroken).append (by decide)).append
      (unbroken_typeRef fits)
  cases means with
  | plain solid fits => exact (unbrokenTyped solid fits).append (by decide : Unbroken "")
  | withDefault solid fits means =>
    exact (unbrokenTyped solid fits).append
      ((by decide : Unbroken " = ").append (unbroken_value means))

theorem unbroken_variableDefinitions
    {declared? : Option (List Written.VariableDefinition)}
    {declarations : List Source.VariableDefinition}
    (mean : List.Forall₂ (Written.VariableDefinition.Means Solid) (declared?.getD [])
      declarations) :
    Unbroken (variableDefinitions declared?) := by
  apply unbroken_parentheses
  rintro texts found text present
  obtain ⟨declared, rfl, rfl⟩ := Option.map_eq_some_iff.mp found
  obtain ⟨declaration, among, rfl⟩ := List.mem_map.mp present
  exact Outcome.forall_mem_of_forall₂ mean (fun _ _ => unbroken_variableDefinition)
    declaration among

/-! ## What lines begin with -/

theorem solid_label
    {alias? : Option String}
    {name : String}
    (solidAlias : ∀ label ∈ alias?, Solid label)
    (solid : Solid name) :
    Solid (label alias? name) := by
  cases alias? with
  | none => exact solid
  | some label =>
    exact ((solidAlias label rfl).append (by decide)).append solid.unbroken

theorem solid_condition
    {condition? : Option String}
    (solid : ∀ condition ∈ condition?, Solid condition) :
    Solid (condition condition?) := by
  have solidMark : Solid "..." := ⟨by decide, by decide⟩
  cases condition? with
  | none => exact solidMark.append (by decide)
  | some condition =>
    exact solidMark.append ((by decide : Unbroken " on ").append (solid condition rfl).unbroken)

theorem unbroken_operationName
    {name? : Option String}
    (solid : ∀ name ∈ name?, Solid name) :
    Unbroken (operationName name?) := by
  cases name? with
  | none => exact (by decide : Unbroken "")
  | some name => exact (by decide : Unbroken " ").append (solid name rfl).unbroken

theorem solid_keyword (kind : Source.OperationKind) : Solid kind.text :=
  solid_of_isName (by cases kind <;> decide)

end Layout
end GraphQL
