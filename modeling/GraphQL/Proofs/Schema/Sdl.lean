import GraphQL.Proofs.Request.Layout
import GraphQL.Proofs.Request.Name
import GraphQL.Proofs.Schema.Description
import GraphQL.Proofs.Source.Parsing.TypeSystem
import GraphQL.Proofs.Text.Block
import GraphQL.Schema.Sdl

/-!
# Schema texts that are read back

The text of described types is a document again, with one definition for each type.  The
lines of a field can stand behind anything, since they begin with a line break, and so
the text is read piece by piece: a description in front of a type as a block string, one
in front of a field as a quoted string, and the names and marks as themselves.
-/

namespace GraphQL
namespace Schema

open Outcome
open Source (Lexed Lexeme Opens Parts Spells Stands descriptionLexemes)
open Text

/-! ## The definition of a type -/

namespace FieldDescription

/-- The name of a field, if it is a text. -/
def label (field : FieldDescription) : String :=
  field.name.asText?.getD ""

/-- The description of a field, which is there if it is a text other than the empty
one. -/
def description? (field : FieldDescription) : Option Source.Description :=
  (field.description.asText?.filter (· ≠ "")).map fun text => ⟨text, false⟩

/-- The field as a field of an input type. -/
def inputValue (field : FieldDescription) : Source.InputValue :=
  ⟨field.description?, field.label, field.type, none, []⟩

/-- The field as a field of an object type. -/
def fieldDefinition (field : FieldDescription) : Source.FieldDefinition :=
  ⟨field.description?, field.label, [], field.type, []⟩

/-- The field can be put into a schema: its name is a name, its type is put together from
names, and its description is a text if there is one. -/
structure Printable (field : FieldDescription) : Prop where
  /-- The name is a text that is a name. -/
  name : ∃ name, field.name = .text name ∧ Name.IsName name
  /-- The names in the type are names. -/
  type : Written.TypeFits Name.IsName field.type
  /-- A description is a text. -/
  description : field.description.truthy = true → field.description.asText?.isSome = true

end FieldDescription

namespace TypeDescription

/-- The fields that are listed: those of the documented order if that is asked for. -/
def listed (type : TypeDescription) (documentation : Bool) : List FieldDescription :=
  if documentation then type.documented.filterMap id else type.fields

/-- The value of the block string with a text: that of the text, and a space if the text
ends in a quote. -/
def blockText (text : String) : String :=
  let space := if text.toList.getLast? = some '"' then [' '] else []
  String.ofList (Block.value text.toList ++ space)

/-- The description of a type as a block string, which is there unless the text is
empty. -/
def blockDescription? (type : TypeDescription) : Option Source.Description :=
  (type.description?.filter (· ≠ "")).map fun text => ⟨blockText text, true⟩

/-- The definition that a described type has in a schema. -/
def definition (type : TypeDescription) (documentation : Bool) : Source.Definition :=
  .type type.blockDescription?
    ⟨type.name, [],
      if type.isInput then .input ((type.listed documentation).map FieldDescription.inputValue)
      else .object [] ((type.listed documentation).map FieldDescription.fieldDefinition)⟩

/-- The type can be put into a schema: it has a name and fields that can be put there, and
no backslash at the end of its description runs into the closing quotes. -/
structure Printable (type : TypeDescription) : Prop where
  /-- The name is a name. -/
  name : Name.IsName type.name
  /-- The type has fields. -/
  nonempty : type.fields ≠ []
  /-- The fields can be put into a schema. -/
  fields : ∀ field ∈ type.fields, field.Printable
  /-- The description does not end in a backslash. -/
  description : ∀ text ∈ type.description?, text.toList.getLast? ≠ some '\\'

/-- Documentation lists none but the fields of the type. -/
theorem mem_fields_of_mem_listed
    {type : TypeDescription}
    {documentation : Bool}
    {field : FieldDescription}
    (present : field ∈ type.listed documentation) :
    field ∈ type.fields := by
  unfold listed at present
  split at present
  case isFalse => exact present
  case isTrue =>
    simp only [documented, List.mem_filterMap, List.mem_append, id_eq, exists_eq_right,
      List.mem_map, List.mem_filter, Option.some.injEq, exists_eq_right] at present
    rcases present with isOrdered | ⟨isField, -⟩
    · obtain ⟨name, -, found⟩ := List.mem_map.mp isOrdered
      exact List.mem_of_find?_eq_some found
    · exact isField

/-- Documentation lists some field if there is one, as a field that is not listed behind
the order is one that the order names. -/
theorem listed_ne_nil
    {type : TypeDescription}
    (nonempty : type.fields ≠ [])
    (documentation : Bool) :
    type.listed documentation ≠ [] := by
  unfold listed
  split
  case isFalse => exact nonempty
  case isTrue =>
    obtain ⟨field, isField⟩ := List.exists_mem_of_ne_nil _ nonempty
    by_cases isNamed : type.ordered.any (· == some field) = true
    · obtain ⟨found, isOrdered, same⟩ := List.any_eq_true.mp isNamed
      cases found with
      | none => cases same
      | some other =>
        refine List.ne_nil_of_mem (a := other) (List.mem_filterMap.mpr ⟨some other, ?_, rfl⟩)
        exact List.mem_append_left _ isOrdered
    · refine List.ne_nil_of_mem (a := field) (List.mem_filterMap.mpr ⟨some field, ?_, rfl⟩)
      refine List.mem_append_right _ (List.mem_map.mpr ⟨field, ?_, rfl⟩)
      exact List.mem_filter.mpr ⟨isField, by simpa using isNamed⟩

end TypeDescription

/-! ## The text of a field -/

namespace FieldDescription

/-- The lexemes of a field, whichever kind of type it is in. -/
def lexemes (field : FieldDescription) : List Lexeme :=
  descriptionLexemes field.description? ++
    .name field.label :: .punctuator .colon :: field.type.lexemes

theorem lexemes_inputValue (field : FieldDescription) :
    field.inputValue.lexemes = field.lexemes := by
  simp [inputValue, Source.InputValue.lexemes, lexemes, Source.defaultLexemes,
    Source.directiveLexemes]

theorem lexemes_fieldDefinition (field : FieldDescription) :
    field.fieldDefinition.lexemes = field.lexemes := by
  simp [fieldDefinition, Source.FieldDefinition.lexemes, lexemes, Source.inParentheses,
    Source.directiveLexemes]

/-- Data that counts as a text is taken for a truth unless the text is empty. -/
theorem truthy_iff_of_asText?
    {given : Datum}
    {text : String}
    (isText : given.asText? = some text) :
    given.truthy = true ↔ text ≠ "" := by
  unfold Datum.asText? at isText
  split at isText
  case h_1 =>
    obtain rfl := Option.some.inj isText
    simp [Datum.truthy]
  case h_2 =>
    split at isText
    case isFalse => cases isText
    case isTrue mixesText =>
      obtain rfl := Option.some.inj isText
      simp [Datum.truthy, mixesText]
  case h_3 => cases isText

/-- A line break and indentation are passed over. -/
theorem stands_line : Stands "\n  " (.of []) := .of_isIgnored (by decide)

theorem parts_line (text : String) : Parts ("\n  " ++ text) :=
  (Opens.append (by decide) text).parts

theorem yields_sdlHead
    {field : FieldDescription}
    (printable : field.Printable) :
    Yields field.sdlHead True fun text =>
      Parts text ∧ Spells text (.of (descriptionLexemes field.description?)) := by
  unfold sdlHead
  split
  case isTrue isTrue =>
    obtain ⟨text, isText⟩ := Option.isSome_iff_exists.mp (printable.description isTrue)
    have notEmpty : text ≠ "" := (truthy_iff_of_asText? isText).mp isTrue
    have isLiteral : Written.stringLiteral field.description = .ok (.string text) := by
      rw [Written.stringLiteral, isText]
    have isDescription : field.description? = some ⟨text, false⟩ := by
      simp [description?, isText, notEmpty]
    rw [isLiteral, isDescription]
    exact .ok ⟨parts_line _, (Quoted.spells_encode text).after stands_line⟩
  case isFalse isFalse =>
    have noDescription : field.description? = none := by
      unfold description?
      cases isText : field.description.asText? with
      | none => rfl
      | some text =>
        have empty : text = "" := by
          by_contra notEmpty
          exact isFalse ((truthy_iff_of_asText? isText).mpr notEmpty)
        simp [empty]
    rw [noDescription]
    exact .ok ⟨.empty, .empty⟩

/-- The lines of a field break off what is before them, and are read as its lexemes. -/
theorem yields_sdl
    {field : FieldDescription}
    (printable : field.Printable) :
    Yields field.sdl True fun text => Parts text ∧ Spells text (.of field.lexemes) := by
  obtain ⟨name, isText, isName⟩ := printable.name
  have isNoted : noted field.name = .ok name := by rw [isText]; rfl
  have isLabel : field.label = name := by rw [label, isText]; rfl
  have spellsType := Layout.spells_typeRef Layout.namesRead_of_isName printable.type
  have spellsEntry := Layout.spells_entry Layout.namesRead_of_isName isName spellsType
  rw [Lexed.naming_of] at spellsEntry
  have spellsLine := spellsEntry.after stands_line
  refine (Yields.bind (yields_sdlHead printable) fun head ⟨partsHead, spellsHead⟩ => ?_).congr
    and_self_iff
  have regrouped : head ++ "\n  " ++ name ++ ": " ++ field.type.print =
      head ++ ("\n  " ++ (name ++ ": " ++ field.type.print)) := by
    simp only [String.append_assoc]
  rw [isNoted, ok_bind, regrouped]
  refine .ok ⟨partsHead.append (parts_line _), ?_⟩
  rw [lexemes, isLabel]
  exact spellsHead.append spellsLine (parts_line _)

end FieldDescription

/-! ## The text of a type -/

/-- Texts that break off what is before them are read one after another. -/
theorem spells_join
    {texts : List String}
    {lexemes : List (List Lexeme)}
    (spells : List.Forall₂ (fun text lexemes => Parts text ∧ Spells text (.of lexemes))
      texts lexemes) :
    Parts (String.join texts) ∧ Spells (String.join texts) (.of lexemes.flatten) := by
  induction spells with
  | nil => exact ⟨.empty, .empty⟩
  | cons first _ inductionHypothesis =>
    obtain ⟨partsRest, spellsRest⟩ := inductionHypothesis
    rw [String.join_cons, List.flatten_cons]
    exact ⟨first.1.append partsRest, first.2.append spellsRest partsRest⟩

-- The literals are split by rewriting first, as unifying one with a text put together would
-- run the lexer on it.
theorem stands_opening : Stands " \x7b" (.of [.punctuator .braceL]) := by
  have split : " \x7b" = " " ++ Source.Punctuator.braceL.text := by decide
  rw [split]
  exact Layout.stands_after_space .braceL

theorem stands_close : Stands "\n\x7d" (.of [.punctuator .braceR]) := by
  have split : "\n\x7d" = "\n" ++ Source.Punctuator.braceR.text := by decide
  rw [split]
  exact Stands.append (.of_isIgnored (by decide)) (Source.stands_punctuator .braceR)

theorem opens_close : Opens "\n\x7d" := by decide

namespace TypeDescription

/-- The description in front of a type is read as a block string. -/
theorem stands_sdlHead
    {type : TypeDescription}
    (printable : type.Printable) :
    Stands type.sdlHead (.of (descriptionLexemes type.blockDescription?)) := by
  unfold sdlHead blockDescription?
  split
  case h_2 none =>
    rw [none]
    exact .of_isIgnored rfl
  case h_1 text isDescription =>
    rw [isDescription]
    split
    case isTrue empty =>
      rw [empty]
      exact .of_isIgnored rfl
    case isFalse notEmpty =>
      have standsQuoted := Block.stands_inline (printable.description text isDescription)
      rw [Block.value_spaced] at standsQuoted
      have kept : (some text).filter (· ≠ "") = some text := by simp [Option.filter, notEmpty]
      have apart : "\"\"\"\n" = "\"\"\"" ++ "\n" := by decide
      rw [kept, apart, ← String.append_assoc]
      exact standsQuoted.append (.of_isIgnored (by decide) : Stands "\n" (.of []))

/-- The fields of a definition are those that are listed, and the lexemes of a definition
are the same but for the keyword whichever kind of type it is. -/
theorem lexemes_definition
    {type : TypeDescription}
    (nonempty : type.fields ≠ [])
    (documentation : Bool) :
    (type.definition documentation).lexemes =
      descriptionLexemes type.blockDescription? ++
        .name (if type.isInput then "input" else "type") :: .name type.name ::
          .punctuator .braceL ::
            (((type.listed documentation).map FieldDescription.lexemes).flatten ++
              [.punctuator .braceR]) := by
  have some := listed_ne_nil nonempty documentation
  have inBraces {α : Type} (written : α → List Lexeme) (make : FieldDescription → α)
      (same : ∀ field, written (make field) = field.lexemes) :
      Source.inBraces written ((type.listed documentation).map make) =
        .punctuator .braceL ::
          (((type.listed documentation).map FieldDescription.lexemes).flatten ++
            [.punctuator .braceR]) := by
    cases found : type.listed documentation with
    | nil => exact absurd found some
    | cons field fields => simp [Source.inBraces, List.flatMap_def, same, Function.comp_def]
  cases isInput : type.isInput with
  | true =>
    simp [definition, isInput, Source.Definition.lexemes, Source.TypeDefinition.lexemes,
      Source.TypeBody.keyword, Source.directiveLexemes,
      inBraces _ _ FieldDescription.lexemes_inputValue]
  | false =>
    simp [definition, isInput, Source.Definition.lexemes, Source.TypeDefinition.lexemes,
      Source.TypeBody.keyword, Source.directiveLexemes, Source.interfaceLexemes,
      inBraces _ _ FieldDescription.lexemes_fieldDefinition]

/-- The text of a type is read as the lexemes of its definition. -/
theorem yields_sdl
    {type : TypeDescription}
    (printable : type.Printable)
    (documentation : Bool) :
    Yields (type.sdl documentation) True fun text =>
      Spells text (.of (type.definition documentation).lexemes) := by
  have yieldsField : ∀ field ∈ type.listed documentation, Yields field.sdl True fun text =>
      Parts text ∧ Spells text (.of field.lexemes) :=
    fun field present =>
      FieldDescription.yields_sdl (printable.fields field (mem_fields_of_mem_listed present))
  have yieldsFields : Yields ((type.listed documentation).mapM FieldDescription.sdl) True _ :=
    (Yields.mapM yieldsField).congr (by simp)
  refine (yieldsFields.bind fun texts areRead => ?_).congr and_self_iff
  obtain ⟨-, spellsFields⟩ := spells_join (List.forall₂_map_right_iff.mpr areRead.flip)
  have spellsBody := (spellsFields.append stands_close.spells opens_close.parts).after
    stands_opening
  have opensBody : Opens (" \x7b" ++ (String.join texts ++ "\n\x7d")) :=
    Opens.append (by decide) _
  have spellsNamed := ((Name.spells_of_isName printable.name).append spellsBody
    opensBody.parts).after Layout.stands_space
  have isKeyword : Name.IsName (if type.isInput then "input" else "type") := by
    split <;> decide
  have opensNamed : Opens (" " ++ (type.name ++ (" \x7b" ++ (String.join texts ++ "\n\x7d")))) :=
    Opens.append (by decide) _
  have spellsAll := ((Name.spells_of_isName isKeyword).append spellsNamed opensNamed.parts).after
    (stands_sdlHead printable)
  rw [lexemes_definition printable.nonempty]
  refine .ok ?_
  simp only [String.append_assoc]
  exact spellsAll

end TypeDescription

/-! ## Schemas -/

/-- The definition of a type that can be put into a schema is read by itself. -/
theorem TypeDescription.readsAlone_definition
    {type : TypeDescription}
    (printable : type.Printable)
    (undoubled : ∀ field ∈ type.fields, field.type.Undoubled)
    (documentation : Bool) :
    Source.Parser.ReadsAlone (type.definition documentation) := by
  have some := listed_ne_nil printable.nonempty documentation
  have undoubledListed : ∀ field ∈ type.listed documentation, field.type.Undoubled :=
    fun field present => undoubled field (mem_fields_of_mem_listed present)
  refine Source.Parser.readsAlone_type _ ?_
  split
  case isTrue =>
    refine .input _ _ _ (by simp) (by simpa using some) (List.forall_mem_map.mpr ?_)
    exact fun field present => ⟨undoubledListed field present, nofun, nofun⟩
  case isFalse =>
    refine .object _ _ _ (by simp) (by simpa using some) (List.forall_mem_map.mpr ?_)
    exact fun field present => ⟨nofun, undoubledListed field present, nofun⟩

section Schemas

variable
  {classes targets : List Class}
  {types : List TypeDescription}

/-- Each class that is described has a text that is read as its definition. -/
theorem exists_texts
    (described : List.Forall₂ (fun cls type => cls.describe classes = .ok type) targets types)
    (printable : ∀ type ∈ types, type.Printable)
    (documentation : Bool) :
    ∃ texts,
      (targets.mapM fun cls => do (← cls.describe classes).sdl documentation) = .ok texts ∧
        List.Forall₂ (fun text type => Spells text (.of (type.definition documentation).lexemes))
          texts types := by
  induction described with
  | nil => exact ⟨[], rfl, .nil⟩
  | @cons cls type targets types isType _ inductionHypothesis =>
    obtain ⟨texts, made, areRead⟩ :=
      inductionHypothesis fun other present => printable other (by simp [present])
    have yields := TypeDescription.yields_sdl (printable type (by simp)) documentation
    obtain ⟨text, isText⟩ := yields.exists_iff.mpr trivial
    refine ⟨text :: texts, ?_, .cons (yields.good text isText) areRead⟩
    rw [List.mapM_cons, isType, ok_bind, isText, ok_bind, made]
    rfl

/-- The definitions of described types are read back from their text: one definition for
each type, in their order. -/
theorem parse_sdl
    (described : List.Forall₂ (fun cls type => cls.describe classes = .ok type) targets types)
    (nonempty : targets ≠ [])
    (printable : ∀ type ∈ types, type.Printable)
    (documentation : Bool) :
    ∃ text, sdl classes documentation targets = .ok text ∧
      Source.Document.parse text = .ok ⟨types.map (·.definition documentation)⟩ := by
  obtain ⟨texts, made, areRead⟩ := exists_texts described printable documentation
  refine ⟨Lines.joinWith "\n\n" texts, by rw [sdl, made]; rfl, ?_⟩
  have someTypes : types ≠ [] := by
    rintro rfl
    exact nonempty (List.forall₂_nil_right_iff.mp described)
  have undoubled : ∀ type ∈ types, ∀ field ∈ type.fields, field.type.Undoubled := by
    intro type isType field isField
    obtain ⟨cls, -, isDescribed⟩ := exists_of_mem_forall₂ described isType
    obtain ⟨given, -, describes⟩ :=
      exists_of_mem_forall₂ (Class.describe_eq_ok_iff.mp isDescribed).fields isField
    exact (FieldType.passed_toTypeRef describes.type).2
  apply Source.Document.parse_of_readsAlone (by simpa using someTypes)
  · rw [List.forall_mem_map]
    exact fun type isType => type.readsAlone_definition (printable type isType)
      (undoubled type isType) documentation
  · have standsBlank : Stands "\n\n" (.of []) := .of_isIgnored (by decide)
    have spells := Spells.joinWith standsBlank (by decide)
      (List.forall₂_map_right_iff.mpr areRead)
    rw [spells.lexed_eq, ← Lexed.naming_of (List.flatMap _ _), Lexed.naming_flatMap]
    simp only [Lexed.naming_of, List.map_map, Function.comp_def]

end Schemas

/-- A record that goes by another name in the schema. -/
def Class.animal : Class :=
  ⟨"Animal", .record, [⟨"name", .scalar .str, none, .text "It says \"hi\"\n"⟩],
    some ⟨some "Pet", none, false⟩, []⟩

/-- A model that is an input type, with its second field in front in documentation. -/
def Class.person : Class :=
  ⟨"Person", .model,
    [⟨"pets", .listOf (.declared 0 "Animal"), some (.text "allPets"), .null⟩,
      ⟨"age", .alternatives [.scalar .int, .noneType], none, .text "years"⟩],
    some ⟨none, some "Says\n  \"hi\"", true⟩, ["age"]⟩

/-- Two types are read back: an input type whose description is unindented and has a quote
at its end, with a field of the documented order in front, and an object type. -/
theorem parse_sdl_two :
    ∃ text, sdl [.animal, .person] true [.person, .animal] = .ok text ∧
      Source.Document.parse text = .ok ⟨[
        .type (some ⟨"Says\n\"hi\" ", true⟩) ⟨"Person", [], .input
          [⟨some ⟨"years", false⟩, "age", .named "Int", none, []⟩,
            ⟨none, "allPets", .nonNull (.list (.nonNull (.named "Pet"))), none, []⟩]⟩,
        .type none ⟨"Pet", [], .object []
          [⟨some ⟨"It says \"hi\"\n", false⟩, "name", [], .nonNull (.named "String"),
            []⟩]⟩]⟩ := by
  let petType : TypeDescription := ⟨"Pet",
    [⟨.text "name", "name", .nonNull (.named "String"), .text "It says \"hi\"\n"⟩],
    none, false, []⟩
  let pets : FieldDescription :=
    ⟨.text "allPets", "pets", .nonNull (.list (.nonNull (.named "Pet"))), .null⟩
  let age : FieldDescription := ⟨.text "age", "age", .named "Int", .text "years"⟩
  let personType : TypeDescription :=
    ⟨"Person", [pets, age], some "Says\n  \"hi\"", true, ["age"]⟩
  have isPet : Class.animal.describe [.animal, .person] = .ok petType := rfl
  have isPerson : Class.person.describe [.animal, .person] = .ok personType :=
    Class.describe_eq_ok_iff.mpr ⟨.inl rfl, rfl,
      .cons ⟨rfl, rfl, rfl, rfl⟩ (.cons ⟨rfl, rfl, rfl, rfl⟩ .nil), rfl, rfl, rfl,
      by simp [personType, age, FieldDescription.answersTo]⟩
  have printablePet : petType.Printable := by
    refine ⟨by decide, by simp [petType], List.forall_mem_singleton.mpr ?_, nofun⟩
    exact ⟨⟨_, rfl, by decide⟩, (by decide : Name.IsName "String"), fun _ => rfl⟩
  have printablePerson : personType.Printable := by
    refine ⟨by decide, by simp [personType], List.forall_mem_cons.mpr
      ⟨?_, List.forall_mem_singleton.mpr ?_⟩, by simp [personType]⟩
    · exact ⟨⟨_, rfl, by decide⟩, (by decide : Name.IsName "Pet"), nofun⟩
    · exact ⟨⟨_, rfl, by decide⟩, (by decide : Name.IsName "Int"), fun _ => rfl⟩
  have printable : ∀ type ∈ [personType, petType], type.Printable :=
    List.forall_mem_cons.mpr ⟨printablePerson, List.forall_mem_singleton.mpr printablePet⟩
  have listed : personType.listed true = [age, pets] := by
    have isAge : age.answersTo "age" = true ∧ (age == age) = true := by decide +kernel
    have notAge : pets.answersTo "age" = false ∧ (age == pets) = false := by decide +kernel
    simp [TypeDescription.listed, TypeDescription.documented, TypeDescription.ordered,
      TypeDescription.field?, personType, isAge, notAge]
  obtain ⟨text, made, parsed⟩ :=
    parse_sdl (.cons isPerson (.cons isPet .nil)) (by simp) printable true
  refine ⟨text, made, parsed.trans ?_⟩
  simp only [List.map_cons, TypeDescription.definition, listed]
  rfl

end Schema
end GraphQL
