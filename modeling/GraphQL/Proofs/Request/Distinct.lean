import GraphQL.Proofs.Request.Built
import GraphQL.Proofs.Request.Repeat
import GraphQL.Request.Construct
import Mathlib.Data.Prod.Basic

/-!
# Children with different names

Wherever names have to be different, they are: in everything that factories and checked
nodes can put together, at any depth.  An owner is refused for the names of its children
only if one name is there twice, and then for the first that was there before.
-/

namespace GraphQL

open Outcome Datum

/-! ## Owners of named children -/

/-- A node that owns named children, without them.  Its own names have got through the
gate. -/
inductive Owner
  | directive {name : Datum} {passed : Label}
      (checked : Node.checkName "directive name" name = .ok passed)
  | field {name label : Datum} {passed : Label} {alias? : Option Label}
      (checked : Node.checkName "field name" name = .ok passed)
      (checkedLabel : Node.checkName? "alias" label = .ok alias?)
      (directives selections : Datum)
  | object
  | operation {kind name : Datum} {name? : Option Label} {called : String}
      (checked : Node.checkName? "operation name" name = .ok name?)
      (isCalled : Node.title kind name? = .ok called)
      (directives selections : Datum)
  | document

namespace Owner

/-- What comes of making the owner with children. -/
def make (children : Datum) : Owner → Except Fault Datum
  | @directive name _ _ => Node.directive name children
  | @field name label _ _ _ _ directives selections =>
    Node.field name label children directives selections
  | object => Node.objectValue children
  | @operation kind name _ _ _ _ directives selections =>
    Node.operation kind name children directives selections
  | document => Node.document children

/-- The owner with children. -/
def node (children : Datum) : Owner → Datum
  | @directive _ passed _ => .directive passed children
  | @field _ _ passed alias? _ _ directives selections =>
    .field passed alias? children directives selections
  | object => .objectValue children
  | @operation kind _ name? _ _ _ directives selections =>
    .operation kind name? children directives selections
  | document => .document children

/-- What the owner is called in messages. -/
def title : Owner → String
  | @directive _ passed _ => "directive @" ++ passed.shown
  | @field _ _ passed _ _ _ _ _ => "field '" ++ passed.shown ++ "'"
  | object => "input object"
  | @operation _ _ _ called _ _ _ _ => "operation '" ++ called ++ "'"
  | document => "document"

/-- The owner is declared to have such children. -/
def admits : Owner → Datum → Prop
  | directive _, item | field _ _ _ _, item => item.isArgument = true
  | object, item => item.isObjectField = true
  | operation _ _ _ _, item => item.isVariable = true
  | document, item => item.isOperation = true ∨ item.isFragment = true

end Owner

/-! ## Children of one kind -/

namespace Datum

/-- All children are of the kind that the word says, and have names. -/
def AreNamed (word : String) (items : List Datum) : Prop :=
  ∀ item ∈ items, ∃ name, item.known? = some (word, name) ∧
    item.part? "name" = some (ofLabel name)

theorem areNamed_arguments
    {items : List Datum}
    (areArguments : ∀ item ∈ items, item.isArgument = true) :
    AreNamed "argument" items := by
  intro item present
  have isArgument := areArguments item present
  cases item with
  | argument name value => exact ⟨name, rfl, rfl⟩
  | _ => cases isArgument

theorem areNamed_objectFields
    {items : List Datum}
    (areFields : ∀ item ∈ items, item.isObjectField = true) :
    AreNamed "input field" items := by
  intro item present
  have isField := areFields item present
  cases item with
  | objectField name value => exact ⟨name, rfl, rfl⟩
  | _ => cases isField

theorem areNamed_variables
    {items : List Datum}
    (areVariables : ∀ item ∈ items, item.isVariable = true) :
    AreNamed "variable" items := by
  intro item present
  have isVariable := areVariables item present
  cases item with
  | «variable» name type default => exact ⟨name, rfl, rfl⟩
  | _ => cases isVariable

theorem asText?_ofLabel
    {label : Label}
    (isText : ∀ member ∈ label.member?, member.1.mixin = .text) :
    (ofLabel label).asText? = some label.text := by
  unfold ofLabel
  split
  case h_1 isMember => exact if_pos (isText _ isMember)
  case h_2 => rfl

section OneKind

variable
  {word : String}
  {items : List Datum}

theorem itemNames_eq
    (areNamed : AreNamed word items)
    (coherent : Label.Coherent ((known items).map (·.2))) :
    itemNames (.tuple items) = (known items).map (·.2.text) := by
  change items.filterMap nameText? = _
  induction items with
  | nil => rfl
  | cons item items inductionHypothesis =>
    rw [AreNamed, List.forall_mem_cons] at areNamed
    obtain ⟨⟨name, isKnown, isNamed⟩, areNamed⟩ := areNamed
    rw [known_cons isKnown, List.map_cons] at coherent ⊢
    have isText : item.nameText? = some name.text := by
      rw [nameText?, isNamed, Option.bind_some]
      exact asText?_ofLabel (coherent name List.mem_cons_self).1
    rw [List.filterMap_cons_some isText]
    congr 1
    exact inductionHypothesis areNamed (coherent.mono (List.subset_cons_self _ _))

/-- Children of one kind have different keys exactly if they have different names. -/
theorem nodup_itemNames_iff
    (areNamed : AreNamed word items)
    (coherent : Label.Coherent ((known items).map (·.2))) :
    (itemNames (.tuple items)).Nodup ↔ ((known items).map Known.key).Nodup := by
  have oneWord : ∀ thing ∈ known items, thing.1 = word := by
    intro thing present
    obtain ⟨item, among, isKnown⟩ := List.mem_filterMap.mp present
    obtain ⟨name, isKnownToo, -⟩ := areNamed item among
    rw [isKnown] at isKnownToo
    rw [Option.some.inj isKnownToo]
  have keys : (known items).map Known.key = (itemNames (.tuple items)).map (word, ·) := by
    rw [itemNames_eq areNamed coherent, List.map_map]
    refine List.map_congr_left fun thing present => ?_
    rw [Known.key, oneWord thing present]
    rfl
  rw [keys, List.nodup_map_iff (Prod.mk_right_injective word)]

theorem checkUnique_of_areNamed
    (areNamed : AreNamed word items)
    (coherent : Label.Coherent ((known items).map (·.2)))
    (owner : String) :
    Node.checkUnique word owner (.tuple items) =
      match Known.firstRepeat? [] (known items) with
      | none => .ok ()
      | some again => .error (.duplicateName again.1 (ofLabel again.2) again.2.shown owner) :=
  @Node.checkDistinct_eq word owner [] items areNamed (by simpa using coherent)

end OneKind

/-! ## Definitions -/

/-- Names are new among things of a kind. -/
def AreNewOf (word : String) (seen : List (String × String)) (names : List String) : Prop :=
  names.Nodup ∧ ∀ name ∈ names, (word, name) ∉ seen

theorem areNewOf_cons_iff {word name : String} {seen : List (String × String)}
    {names : List String} :
    AreNewOf word seen (name :: names) ↔
      (word, name) ∉ seen ∧ AreNewOf word ((word, name) :: seen) names := by
  simp only [AreNewOf, List.nodup_cons, List.mem_cons, Prod.mk.injEq, not_or]
  grind

theorem areNewOf_other_iff {word other : String} {key : String} {seen : List (String × String)}
    {names : List String} (differs : word ≠ other) :
    AreNewOf word ((other, key) :: seen) names ↔ AreNewOf word seen names := by
  simp [AreNewOf, differs]

/-- The definitions are told apart exactly if the operations that have names are, and the
fragments are. -/
theorem areNew_definitions_iff
    {definitions : List Datum}
    {seen : List (String × String)}
    (areDefinitions : ∀ definition ∈ definitions,
      definition.isOperation = true ∨ definition.isFragment = true) :
    Known.AreNew seen (known definitions) ↔
      AreNewOf "operation" seen (definitions.filterMap operationName?) ∧
        AreNewOf "fragment" seen (definitions.filterMap fragmentName?) := by
  induction definitions generalizing seen with
  | nil => simp [known, Known.areNew_nil, AreNewOf]
  | cons definition definitions inductionHypothesis =>
    rw [List.forall_mem_cons] at areDefinitions
    obtain ⟨isDefinition, areDefinitions⟩ := areDefinitions
    cases definition with
    | operation kind name? declared directives selections =>
      cases name? with
      | none => exact inductionHypothesis areDefinitions
      | some name =>
        change Known.AreNew seen (("operation", name) :: known definitions) ↔
          AreNewOf "operation" seen (name.text :: definitions.filterMap operationName?) ∧
            AreNewOf "fragment" seen (definitions.filterMap fragmentName?)
        have ofRest := @inductionHypothesis (("operation", name.text) :: seen) areDefinitions
        rw [Known.areNew_cons_iff, Known.key, ofRest, areNewOf_cons_iff, and_assoc,
          areNewOf_other_iff (show "fragment" ≠ "operation" by decide)]
    | fragmentDefinition name condition directives selections =>
      change Known.AreNew seen (("fragment", name) :: known definitions) ↔
        AreNewOf "operation" seen (definitions.filterMap operationName?) ∧
          AreNewOf "fragment" seen (name.text :: definitions.filterMap fragmentName?)
      have ofRest := @inductionHypothesis (("fragment", name.text) :: seen) areDefinitions
      rw [Known.areNew_cons_iff, Known.key, ofRest, areNewOf_cons_iff, and_left_comm,
        areNewOf_other_iff (show "operation" ≠ "fragment" by decide)]
    | _ => simp [isOperation, isFragment] at isDefinition

end Datum

/-! ## Owners that are made or refused -/

namespace Owner

section Children

variable
  {items : List Datum}
  (owner : Owner)
  (admitted : ∀ item ∈ items, owner.admits item)
  (coherent : Label.Coherent ((known items).map (·.2)))

include admitted coherent

/-- The owner is made unless a name is repeated, and is refused for the first that is. -/
theorem make_eq :
    owner.make (.tuple items) =
      match Known.firstRepeat? [] (known items) with
      | none => .ok (owner.node (.tuple items))
      | some again =>
        .error (.duplicateName again.1 (ofLabel again.2) again.2.shown owner.title) := by
  cases owner with
  | directive checked =>
    rw [make, Node.directive, checked, ok_bind,
      checkUnique_of_areNamed (areNamed_arguments admitted) coherent]
    cases Known.firstRepeat? [] (known items) <;> rfl
  | field checked checkedLabel directives selections =>
    rw [make, Node.field, checked, ok_bind, checkedLabel, ok_bind,
      checkUnique_of_areNamed (areNamed_arguments admitted) coherent]
    cases Known.firstRepeat? [] (known items) <;> rfl
  | object =>
    rw [make, Node.objectValue, checkUnique_of_areNamed (areNamed_objectFields admitted) coherent]
    cases Known.firstRepeat? [] (known items) <;> rfl
  | operation checked isCalled directives selections =>
    rw [make, Node.operation_eq, checked, ok_bind, isCalled, ok_bind,
      checkUnique_of_areNamed (areNamed_variables admitted) coherent]
    cases Known.firstRepeat? [] (known items) <;> rfl
  | document =>
    have checked := @Node.checkDefinitions_eq [] [] [] items admitted (by simp) (by simp)
    change (Node.checkDefinitions [] [] items >>= fun _ => Except.ok _) = _
    rw [checked]
    cases Known.firstRepeat? [] (known items) <;> rfl

theorem keepsApart_node_iff :
    (owner.node (.tuple items)).KeepsApart ↔ ((known items).map Known.key).Nodup := by
  cases owner with
  | directive _ | field _ _ _ _ => exact nodup_itemNames_iff (areNamed_arguments admitted) coherent
  | object => exact nodup_itemNames_iff (areNamed_objectFields admitted) coherent
  | operation _ _ _ _ => exact nodup_itemNames_iff (areNamed_variables admitted) coherent
  | document =>
    have areNew := @areNew_definitions_iff items [] admitted
    change (items.filterMap operationName?).Nodup ∧ (items.filterMap fragmentName?).Nodup ↔ _
    simpa [Known.AreNew, AreNewOf] using areNew.symm

end Children

end Owner

/-! ## All that is put together -/

/-- A node is made of parts that are given by name. -/
def Constructed (given : List Datum) (made : Datum) : Prop :=
  ∃ kind parts serial, given = parts.map (·.2) ∧
    Node.construct? kind parts serial = some (.ok made)

theorem Datum.keepsApart_of_no_parts : AsksNodes KeepsApart := by
  intro datum noParts
  cases datum with
  | objectValue | directive | field | operation | document => cases noParts
  | _ => trivial

/-- A node of which names are kept apart keeps them apart throughout if its parts do. -/
theorem Datum.throughout_keepsApart
    {node : Datum}
    (apart : node.KeepsApart)
    (ofHeld : ∀ direct ∈ node.held, Throughout KeepsApart direct) :
    Throughout KeepsApart node :=
  throughout_iff.mpr ⟨apart, ofHeld⟩

theorem Node.eq_of_printOptions
    {indent compact made : Datum}
    (isMade : printOptions indent compact = .ok made) :
    made = .printOptions indent compact := by
  unfold printOptions at isMade
  split at isMade
  case h_1 | h_3 => cases isMade
  case h_2 =>
    split at isMade
    case isTrue => exact (Except.ok.inj isMade).symm
    case isFalse => cases isMade

/-- A node of the shape is good throughout if its parts are. -/
def Node.Shape.Keeps (good : Datum → Prop) (shape : Shape) : Prop :=
  ∀ (part : String → Datum) (made : Datum), shape.make part = .ok made →
    (∀ name ∈ shape.parts.map PartShape.name, Throughout good (part name)) →
    Throughout good made

theorem Node.Shape.keeps_keepsApart : ∀ shape ∈ all, shape.Keeps KeepsApart := by
  have ofLabel := throughout_ofLabel keepsApart_of_no_parts
  have ofLabel? := throughout_ofLabel? keepsApart_of_no_parts
  simp only [all, List.forall_mem_cons]
  refine ⟨?namedType, ?listType, ?nonNullType, ?nullValue, ?boolean, ?int, ?float, ?string,
    ?enumValue, ?listValue, ?objectField, ?objectValue, ?declaration, ?argument, ?directive,
    ?field, ?fragmentSpread, ?inlineFragment, ?operation, ?fragmentDefinition, ?printOptions,
    ?document, List.forall_mem_nil _⟩ <;> intro part made isMade ofParts
  case namedType =>
    obtain ⟨label, rfl⟩ := exists_of_namedType isMade
    exact throughout_keepsApart trivial (by simp [held, Datum.parts, ofLabel])
  case enumValue =>
    obtain ⟨label, rfl⟩ := exists_of_enumValue isMade
    exact throughout_keepsApart trivial (by simp [held, Datum.parts, ofLabel])
  case nullValue =>
    obtain rfl := Except.ok.inj isMade
    exact throughout_of_nothing_held keepsApart_of_no_parts rfl rfl
  case listType | nonNullType =>
    obtain rfl := Except.ok.inj isMade
    have ofType := ofParts "of_type" (by decide)
    exact throughout_keepsApart trivial (List.forall_mem_singleton.mpr ofType)
  case boolean | int | float | string =>
    obtain rfl := Except.ok.inj isMade
    have ofValue := ofParts "value" (by decide)
    exact throughout_keepsApart trivial (List.forall_mem_singleton.mpr ofValue)
  case listValue =>
    obtain rfl := Except.ok.inj isMade
    have ofValues := ofParts "values" (by decide)
    exact throughout_keepsApart trivial (List.forall_mem_singleton.mpr ofValues)
  case objectField =>
    obtain ⟨label, rfl⟩ := exists_of_objectField isMade
    have ofValue := ofParts "value" (by decide)
    exact throughout_keepsApart trivial (by simp [held, Datum.parts, ofLabel, ofValue])
  case argument =>
    obtain ⟨label, rfl⟩ := exists_of_argument isMade
    have ofValue := ofParts "value" (by decide)
    exact throughout_keepsApart trivial (by simp [held, Datum.parts, ofLabel, ofValue])
  case objectValue =>
    obtain ⟨unique, rfl⟩ := exists_of_objectValue isMade
    have ofFields := ofParts "fields" (by decide)
    exact throughout_keepsApart (nodup_of_checkUnique unique)
      (List.forall_mem_singleton.mpr ofFields)
  case declaration =>
    obtain ⟨label, rfl⟩ := exists_of_declaration isMade
    have ofType := ofParts "type" (by decide)
    have ofDefault := ofParts "default" (by decide)
    exact throughout_keepsApart trivial (by simp [held, Datum.parts, ofLabel, ofType, ofDefault])
  case directive =>
    obtain ⟨label, _, unique, rfl⟩ := exists_of_directive isMade
    have ofArguments := ofParts "arguments" (by decide)
    exact throughout_keepsApart (nodup_of_checkUnique unique)
      (by simp [held, Datum.parts, ofLabel, ofArguments])
  case field =>
    obtain ⟨passed, alias?, _, unique, rfl⟩ := exists_of_field isMade
    have ofArguments := ofParts "arguments" (by decide)
    have ofDirectives := ofParts "directives" (by decide)
    have ofSelections := ofParts "selections" (by decide)
    exact throughout_keepsApart (nodup_of_checkUnique unique)
      (by simp [held, Datum.parts, ofLabel, ofLabel?, ofArguments, ofDirectives, ofSelections])
  case fragmentSpread =>
    obtain ⟨label, rfl⟩ := exists_of_fragmentSpread isMade
    have ofDirectives := ofParts "directives" (by decide)
    exact throughout_keepsApart trivial (by simp [held, Datum.parts, ofLabel, ofDirectives])
  case inlineFragment =>
    obtain ⟨condition?, rfl⟩ := exists_of_inlineFragment isMade
    have ofDirectives := ofParts "directives" (by decide)
    have ofSelections := ofParts "selections" (by decide)
    exact throughout_keepsApart trivial
      (by simp [held, Datum.parts, ofLabel?, ofDirectives, ofSelections])
  case operation =>
    obtain ⟨name?, _, unique, rfl⟩ := exists_of_operation isMade
    have ofKind := ofParts "type" (by decide)
    have ofDeclared := ofParts "variables" (by decide)
    have ofDirectives := ofParts "directives" (by decide)
    have ofSelections := ofParts "selections" (by decide)
    exact throughout_keepsApart (nodup_of_checkUnique unique)
      (by simp [held, Datum.parts, ofLabel?, ofKind, ofDeclared, ofDirectives, ofSelections])
  case fragmentDefinition =>
    obtain ⟨label, passed, rfl⟩ := exists_of_fragmentDefinition isMade
    have ofDirectives := ofParts "directives" (by decide)
    have ofSelections := ofParts "selections" (by decide)
    exact throughout_keepsApart trivial
      (by simp [held, Datum.parts, ofLabel, ofDirectives, ofSelections])
  case printOptions =>
    obtain rfl := eq_of_printOptions isMade
    have ofIndent := ofParts "indent" (by decide)
    have ofCompact := ofParts "compact" (by decide)
    exact throughout_keepsApart trivial (by simp [held, Datum.parts, ofIndent, ofCompact])
  case document =>
    obtain ⟨items, found, distinct, rfl⟩ := exists_of_document isMade
    have ofDefinitions := ofParts "definitions" (by decide)
    obtain ⟨⟨operations, -⟩, ⟨fragments, -⟩, -⟩ := nodup_of_checkDefinitions distinct
    refine throughout_keepsApart ?_ (List.forall_mem_singleton.mpr ofDefinitions)
    rw [Datum.KeepsApart, found, Option.getD_some]
    exact ⟨operations, fragments⟩

/-- What stands in for parts holds nothing. -/
theorem Node.Shape.nothing_held_of_standIn :
    ∀ shape ∈ all, ∀ part ∈ shape.parts, ∀ given ∈ part.standIn,
      given.parts = [] ∧ given.held = [] := by
  decide

/-- A part is given, stands in for one that is not, or is null. -/
theorem Node.Shape.throughout_picked
    {good : Datum → Prop}
    (asksNodes : AsksNodes good)
    {shape : Shape}
    (isShape : shape ∈ all)
    {given : List (String × Datum)}
    (ofGiven : ∀ item ∈ given.map (·.2), Throughout good item)
    (name : String) :
    Throughout good (shape.picked given name) := by
  unfold picked
  cases isPart : shape.parts.find? fun part => part.name = name with
  | none => exact throughout_of_nothing_held asksNodes rfl rfl
  | some part =>
    have among := List.mem_of_find?_eq_some isPart
    rw [Option.bind_some, pick?]
    split
    case h_1 entry isGiven =>
      exact ofGiven entry.2 (List.mem_map_of_mem (List.mem_of_find?_eq_some isGiven))
    case h_2 =>
      cases standIn : part.standIn with
      | none => exact throughout_of_nothing_held asksNodes rfl rfl
      | some other =>
        obtain ⟨noParts, nothing⟩ := nothing_held_of_standIn shape isShape part among other standIn
        exact throughout_of_nothing_held asksNodes noParts nothing

/-- Names are kept apart in a node that is made of parts in which they are. -/
theorem Constructed.throughout_keepsApart
    {given : List Datum}
    {made : Datum}
    (isMade : Constructed given made)
    (ofGiven : ∀ item ∈ given, Throughout KeepsApart item) :
    Throughout KeepsApart made := by
  obtain ⟨kind, parts, serial, rfl, isMade⟩ := isMade
  rcases Node.construct?_cases isMade with ⟨_, same⟩ | same | ⟨shape, isShape, -, same⟩
  · obtain rfl := Except.ok.inj same
    exact throughout_of_nothing_held keepsApart_of_no_parts rfl rfl
  · cases same
  · rcases shape.fill_cases parts with ⟨_, filled⟩ | ⟨_, filled⟩ | filled
    · cases same.trans filled
    · cases same.trans filled
    · refine Node.Shape.keeps_keepsApart shape isShape _ made (same.trans filled).symm ?_
      exact fun name _ => Node.Shape.throughout_picked keepsApart_of_no_parts isShape ofGiven name

theorem Datum.kept_keepsApart : Kept KeepsApart where
  elsewhere := keepsApart_of_no_parts
  fresh _ isFresh := isFresh.2

/-- Names are kept apart in everything that is put together by factories and from checked
parts, at any depth.  An owner of children that it is declared to have is made exactly if
their names are apart, and otherwise is refused for the first name that was there before.
Nothing else is refused for a repeated name. -/
theorem names_apart :
    (∀ built, Built (fun given made => Factory given made ∨ Constructed given made) built →
      Throughout KeepsApart built) ∧
    (∀ (owner : Owner) (items : List Datum), (∀ item ∈ items, owner.admits item) →
      Label.Coherent ((known items).map (·.2)) →
      (owner.make (.tuple items) = .ok (owner.node (.tuple items)) ↔
        (owner.node (.tuple items)).KeepsApart) ∧
      ∀ fault, owner.make (.tuple items) = .error fault ↔
        ∃ again, Known.IsFirstRepeat (known items) again ∧
          fault = .duplicateName again.1 (ofLabel again.2) again.2.shown owner.title) ∧
    (∀ kind parts serial word name shown title,
      Node.construct? kind parts serial = some (.error (.duplicateName word name shown title)) →
      kind ∈ Node.ownerKinds) := by
  refine ⟨?everywhere, ?exactly, ?elsewhere⟩
  case everywhere =>
    intro built isBuilt
    refine Built.throughout keepsApart_of_no_parts ?_ isBuilt
    rintro given made (called | isMade) ofGiven
    · exact kept_keepsApart.factory called ofGiven
    · exact isMade.throughout_keepsApart ofGiven
  case exactly =>
    intro owner items admitted coherent
    rw [owner.keepsApart_node_iff admitted coherent, owner.make_eq admitted coherent,
      ← Known.firstRepeat?_nil_eq_none_iff]
    simp only [← Known.firstRepeat?_nil_eq_some_iff]
    cases Known.firstRepeat? [] (known items) with
    | none => simp
    | some again => simp [eq_comm]
  case elsewhere =>
    intro kind parts serial word name shown title refused
    exact Node.mem_ownerKinds_of_construct refused

/-- A field without arguments is put together, and one with two arguments of one name is
refused for the second of them.  Operations without names and a fragment that has the name of
an operation make a document. -/
theorem names_apart_second :
    Throughout KeepsApart
        (.field (.plain "f") none (.tuple []) (.tuple []) (.tuple [])) ∧
      Node.construct? "Field"
          [("name", .text "f"),
            ("arguments", .tuple [.argument (.plain "x") .nullValue,
              .argument (.plain "y") .nullValue,
              .argument (.plain "x") (.booleanValue (.bool true))])] 0 =
        some (.error (.duplicateName "argument" (.text "x") "x" "field 'f'")) ∧
      "Field" ∈ Node.ownerKinds ∧
      Node.document (.tuple [.operation .query none (.tuple []) (.tuple []) (.tuple []),
          .operation .query (some (.plain "a")) (.tuple []) (.tuple []) (.tuple []),
          .fragmentDefinition (.plain "a") (.plain "T") (.tuple []) (.tuple []),
          .operation .query none (.tuple []) (.tuple []) (.tuple [])]) =
        .ok (.document (.tuple [.operation .query none (.tuple []) (.tuple []) (.tuple []),
          .operation .query (some (.plain "a")) (.tuple []) (.tuple []) (.tuple []),
          .fragmentDefinition (.plain "a") (.plain "T") (.tuple []) (.tuple []),
          .operation .query none (.tuple []) (.tuple []) (.tuple [])])) := by
  obtain ⟨everywhere, exactly, elsewhere⟩ := names_apart
  have checked : Node.checkName "field name" (.text "f") = .ok (.plain "f") := rfl
  have checkedLabel : Node.checkName? "alias" .null = .ok none := rfl
  have exactlyField := exactly (.field checked checkedLabel (.tuple []) (.tuple []))
    [.argument (.plain "x") .nullValue, .argument (.plain "y") .nullValue,
      .argument (.plain "x") (.booleanValue (.bool true))]
    (by simp [Owner.admits, isArgument])
    (Label.coherent_of_plain (by simp [known, known?, Label.plain]))
  have isRepeat : Known.IsFirstRepeat
      [("argument", .plain "x"), ("argument", .plain "y"), ("argument", .plain "x")]
      ("argument", .plain "x") :=
    ⟨[("argument", .plain "x"), ("argument", .plain "y")], [], rfl, by decide, by decide⟩
  have refused : Node.construct? "Field"
      [("name", .text "f"),
        ("arguments", .tuple [.argument (.plain "x") .nullValue,
          .argument (.plain "y") .nullValue,
          .argument (.plain "x") (.booleanValue (.bool true))])] 0 =
      some (.error (.duplicateName "argument" (.text "x") "x" "field 'f'")) :=
    congrArg some ((exactlyField.2 _).mpr ⟨("argument", .plain "x"), isRepeat, rfl⟩)
  refine ⟨?field, refused, elsewhere _ _ _ _ _ _ _ refused, ?document⟩
  case field =>
    refine everywhere _ (.call (.inl (@Factory.field (.text "f") .null _ [] rfl)) ?_)
    simp only [List.forall_mem_cons]
    have plain (datum : Datum) (noParts : datum.parts = []) (nothing : datum.held = []) :
        Built (fun given made => Factory given made ∨ Constructed given made) datum :=
      .data noParts (nothing ▸ List.forall_mem_nil _)
    exact ⟨plain _ rfl rfl, plain _ rfl rfl, List.forall_mem_nil _⟩
  case document =>
    refine (exactly .document _ ?_ ?_).1.mpr ⟨?_, ?_⟩
    · simp [Owner.admits, isOperation, isFragment]
    · exact Label.coherent_of_plain (by simp [known, known?, Label.plain])
    · decide
    · decide

end GraphQL
