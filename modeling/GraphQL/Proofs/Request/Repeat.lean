import GraphQL.Proofs.Request.Factory
import GraphQL.Request.Construct

/-!
# Names that are repeated

Every owner compares the names of its children from first to last and stops at the first
that was there before.  The children of a document are of two kinds, and a name is only
compared with those of its kind.
-/

namespace GraphQL

open Outcome Datum

/-! ## The first repeated name -/

/-- Names that are members of enums are so of enums of texts, and one member is one text. -/
def Label.Coherent (names : List Label) : Prop :=
  ∀ first ∈ names, (∀ member ∈ first.member?, member.1.mixin = .text) ∧
    ∀ second ∈ names, first.member?.isSome = true → first.member? = second.member? →
      first.text = second.text

theorem Label.Coherent.mono
    {names fewer : List Label}
    (coherent : Coherent names)
    (fewerOf : fewer ⊆ names) :
    Coherent fewer := by
  intro first among
  obtain ⟨areTexts, oneText⟩ := coherent first (fewerOf among)
  exact ⟨areTexts, fun second amongToo => oneText second (fewerOf amongToo)⟩

/-- Names that are no members are coherent. -/
theorem Label.coherent_of_plain
    {names : List Label}
    (plain : ∀ name ∈ names, name.member? = none) :
    Coherent names := by
  intro first among
  refine ⟨?_, fun second _ isMember => ?_⟩
  · simp [plain first among]
  · simp [plain first among] at isMember

/-- A text and a name are coherent if the name counts as a text. -/
theorem Label.coherent_plain_pair
    {label : Label}
    (text : String)
    (isText : ∀ member ∈ label.member?, member.1.mixin = .text) :
    Coherent [.plain text, label] := by
  refine List.forall_mem_cons.mpr ⟨⟨nofun, fun _ _ isMember => nomatch isMember⟩, ?_⟩
  refine List.forall_mem_singleton.mpr ⟨isText, ?_⟩
  refine List.forall_mem_cons.mpr
    ⟨fun isMember same => ?_, List.forall_mem_singleton.mpr fun _ _ => rfl⟩
  rw [same] at isMember
  cases isMember

/-- Something with a name, and the word for what it is. -/
abbrev Known := String × Label

namespace Known

/-- What a thing is told apart by. -/
def key (thing : Known) : String × String :=
  (thing.1, thing.2.text)

/-- The first thing whose key was there before. -/
def firstRepeat? (seen : List (String × String)) : List Known → Option Known
  | [] => none
  | thing :: things =>
    if thing.key ∈ seen then some thing else firstRepeat? (thing.key :: seen) things

/-- The keys of the things are new and different from one another. -/
def AreNew (seen : List (String × String)) (things : List Known) : Prop :=
  (things.map key).Nodup ∧ ∀ thing ∈ things, thing.key ∉ seen

/-- The thing has the key of an earlier one, and is the first that has. -/
def IsFirstRepeat (things : List Known) (thing : Known) : Prop :=
  ∃ before after, things = before ++ thing :: after ∧ (before.map key).Nodup ∧
    thing.key ∈ before.map key

theorem areNew_nil (seen : List (String × String)) : AreNew seen [] :=
  ⟨List.nodup_nil, List.forall_mem_nil _⟩

theorem areNew_cons_iff {seen : List (String × String)} {thing : Known} {things : List Known} :
    AreNew seen (thing :: things) ↔ thing.key ∉ seen ∧ AreNew (thing.key :: seen) things := by
  have apart : (∀ other ∈ things, other.key ∉ thing.key :: seen) ↔
      thing.key ∉ things.map key ∧ ∀ other ∈ things, other.key ∉ seen := by
    simp only [List.mem_cons, not_or, List.mem_map, not_exists, not_and]
    exact forall₂_and
  rw [AreNew, AreNew, List.map_cons, List.nodup_cons, List.forall_mem_cons, apart]
  tauto

theorem firstRepeat?_eq_none_iff {seen : List (String × String)} {things : List Known} :
    firstRepeat? seen things = none ↔ AreNew seen things := by
  induction things generalizing seen with
  | nil => simp [firstRepeat?, areNew_nil]
  | cons thing things inductionHypothesis =>
    rw [firstRepeat?, areNew_cons_iff]
    split
    case isTrue wasThere => simp [wasThere]
    case isFalse isNew => rw [inductionHypothesis, and_iff_right isNew]

theorem firstRepeat?_eq_some_iff
    {seen : List (String × String)}
    {things : List Known}
    {again : Known} :
    firstRepeat? seen things = some again ↔
      ∃ before after, things = before ++ again :: after ∧ AreNew seen before ∧
        (again.key ∈ before.map key ∨ again.key ∈ seen) := by
  induction things generalizing seen with
  | nil => simp [firstRepeat?]
  | cons thing things inductionHypothesis =>
    rw [firstRepeat?]
    split
    case isTrue wasThere =>
      constructor
      · intro same
        obtain rfl := Option.some.inj same
        exact ⟨[], things, rfl, areNew_nil seen, .inr wasThere⟩
      · rintro ⟨before, after, split, areNew, -⟩
        cases before with
        | nil => rw [(List.cons.inj split).1]
        | cons first before =>
          obtain ⟨rfl, -⟩ := List.cons.inj split
          exact absurd wasThere (areNew_cons_iff.mp areNew).1
    case isFalse isNew =>
      rw [inductionHypothesis]
      constructor
      · rintro ⟨before, after, rfl, areNew, isKnown⟩
        refine ⟨thing :: before, after, rfl, areNew_cons_iff.mpr ⟨isNew, areNew⟩, ?_⟩
        rw [List.map_cons, List.mem_cons]
        rw [List.mem_cons] at isKnown
        tauto
      · rintro ⟨before, after, split, areNew, isKnown⟩
        cases before with
        | nil =>
          obtain ⟨rfl, -⟩ := List.cons.inj split
          simp [isNew] at isKnown
        | cons first before =>
          obtain ⟨rfl, rfl⟩ := List.cons.inj split
          refine ⟨before, after, rfl, (areNew_cons_iff.mp areNew).2, ?_⟩
          rw [List.map_cons, List.mem_cons] at isKnown
          rw [List.mem_cons]
          tauto

/-- Nothing is repeated exactly if all keys are different. -/
theorem firstRepeat?_nil_eq_none_iff {things : List Known} :
    firstRepeat? [] things = none ↔ (things.map key).Nodup := by
  simp [firstRepeat?_eq_none_iff, AreNew]

theorem firstRepeat?_nil_eq_some_iff {things : List Known} {again : Known} :
    firstRepeat? [] things = some again ↔ IsFirstRepeat things again := by
  simp [firstRepeat?_eq_some_iff, AreNew, IsFirstRepeat]

end Known

/-! ## Children and their names -/

namespace Datum

/-- What a child is known by: the word for its kind, and its name. -/
def known? : Datum → Option Known
  | argument name _ => some ("argument", name)
  | objectField name _ => some ("input field", name)
  | .variable name _ _ => some ("variable", name)
  | operation _ name? _ _ _ => name?.map ("operation", ·)
  | fragmentDefinition name _ _ _ => some ("fragment", name)
  | _ => none

/-- What the children are known by, as far as they have names. -/
def known (items : List Datum) : List Known :=
  items.filterMap known?

theorem known_cons
    {item : Datum}
    {thing : Known}
    {items : List Datum}
    (isKnown : item.known? = some thing) :
    known (item :: items) = thing :: known items :=
  List.filterMap_cons_some isKnown

/-- The data is a field of an object. -/
def isObjectField : Datum → Bool
  | objectField _ _ => true
  | _ => false

theorem shown_ofLabel (label : Label) : (ofLabel label).shown = .ok label.shown := by
  obtain ⟨text, member?⟩ := label
  cases member? with
  | none => rfl
  | some member => rfl

theorem check_ofLabel (label : Label) : Key.check (ofLabel label) = .ok () := by
  unfold ofLabel
  split
  case h_1 => rfl
  case h_2 => rfl

/-- Coherent names are the same as data exactly if they are the same text. -/
theorem same_ofLabel
    {first second : Label}
    (coherent : Label.Coherent [first, second]) :
    (ofLabel first).same (ofLabel second) = decide (first.text = second.text) := by
  have sameTexts : (Scalar.text first.text).same (.text second.text) =
      decide (first.text = second.text) := by
    simpa [same] using same_text first.text second.text
  obtain ⟨areTexts, oneText⟩ := coherent first (by simp)
  obtain ⟨areTextsToo, -⟩ := coherent second (by simp)
  unfold ofLabel
  cases isMember : first.member? <;> cases isMemberToo : second.member?
  case none.none => simpa [same] using sameTexts
  case none.some => simpa [same, mixedIn?, areTextsToo _ isMemberToo] using sameTexts
  case some.none => simpa [same, sameMixed, mixedIn?, areTexts _ isMember] using sameTexts
  case some.some member memberToo =>
    have sameMember : member = memberToo → first.text = second.text := by
      rintro rfl
      exact oneText second (by simp) (by simp [isMember]) (isMember.trans isMemberToo.symm)
    have sameAsTexts : sameMixed (mixedIn? member.1 (.text first.text))
        (.member memberToo.1 memberToo.2 (.text second.text) []) =
        decide (first.text = second.text) := by
      simpa [sameMixed, mixedIn?, areTexts _ isMember, areTextsToo _ isMemberToo] using sameTexts
    rw [same, sameAsTexts, Bool.eq_iff_iff]
    simp only [Bool.or_eq_true, Bool.and_eq_true, decide_eq_true_eq, or_iff_right_iff_imp]
    rintro ⟨sameFamily, sameName⟩
    exact sameMember (Prod.ext sameFamily sameName)

end Datum

/-! ## Checks that stop at the first repeated name -/

namespace Node

theorem checkDistinct_eq
    {word owner : String}
    {seen : List Label}
    {items : List Datum}
    (areNamed : ∀ item ∈ items, ∃ name, item.known? = some (word, name) ∧
      item.part? "name" = some (ofLabel name))
    (coherent : Label.Coherent ((known items).map (·.2) ++ seen)) :
    checkDistinct word owner (seen.map ofLabel) items =
      match Known.firstRepeat? (seen.map fun name => (word, name.text)) (known items) with
      | none => .ok ()
      | some again => .error (.duplicateName again.1 (ofLabel again.2) again.2.shown owner) := by
  induction items generalizing seen with
  | nil => rfl
  | cons item items inductionHypothesis =>
    rw [List.forall_mem_cons] at areNamed
    obtain ⟨⟨name, isKnown, isNamed⟩, areNamed⟩ := areNamed
    rw [known_cons isKnown] at coherent ⊢
    rw [checkDistinct, part_eq_ok_iff.mpr isNamed, ok_bind, check_ofLabel, ok_bind,
      Known.firstRepeat?]
    have sameAsKeys : (seen.map ofLabel).any (ofLabel name).same = true ↔
        Known.key (word, name) ∈ seen.map fun name => (word, name.text) := by
      simp only [List.any_map, List.any_eq_true, Function.comp_apply, List.mem_map, Known.key,
        Prod.mk.injEq, true_and]
      refine exists_congr fun old => and_congr_right fun present => ?_
      rw [same_ofLabel (coherent.mono (by simp [present])), decide_eq_true_eq, eq_comm]
    by_cases wasThere : Known.key (word, name) ∈ seen.map fun name => (word, name.text)
    · rw [if_pos (sameAsKeys.mpr wasThere), if_pos wasThere, shown_ofLabel]
      rfl
    · rw [if_neg (mt sameAsKeys.mp wasThere), if_neg wasThere]
      refine @inductionHypothesis (name :: seen) areNamed (coherent.mono ?_)
      intro other
      simp only [List.map_cons, List.mem_append, List.mem_cons]
      tauto

/-- Definitions are compared with those of their kind. -/
theorem checkDefinitions_eq
    {operations fragments : List String}
    {seen : List (String × String)}
    {definitions : List Datum}
    (areDefinitions : ∀ definition ∈ definitions,
      definition.isOperation = true ∨ definition.isFragment = true)
    (areOperations : ∀ text, ("operation", text) ∈ seen ↔ text ∈ operations)
    (areFragments : ∀ text, ("fragment", text) ∈ seen ↔ text ∈ fragments) :
    checkDefinitions operations fragments definitions =
      match Known.firstRepeat? seen (known definitions) with
      | none => .ok ()
      | some again =>
        .error (.duplicateName again.1 (ofLabel again.2) again.2.shown "document") := by
  fun_induction checkDefinitions operations fragments definitions generalizing seen with
  | case1 => rfl
  | case2 operations fragments kind declared directives selections rest inductionHypothesis =>
    exact inductionHypothesis (List.forall_mem_cons.mp areDefinitions).2 areOperations areFragments
  | case3 operations fragments kind name declared directives selections rest wasThere =>
    have isThere : Known.key ("operation", name) ∈ seen :=
      (areOperations name.text).mpr (by simpa using wasThere)
    rw [known_cons rfl, Known.firstRepeat?, if_pos isThere]
    rfl
  | case4 operations fragments kind name declared directives selections rest isNew
      inductionHypothesis =>
    have notThere : Known.key ("operation", name) ∉ seen :=
      mt (areOperations name.text).mp (by simpa using isNew)
    rw [known_cons rfl, Known.firstRepeat?, if_neg notThere]
    apply inductionHypothesis (List.forall_mem_cons.mp areDefinitions).2
    · simp [Known.key, areOperations]
    · simp [Known.key, areFragments]
  | case5 operations fragments name condition directives selections rest wasThere =>
    have isThere : Known.key ("fragment", name) ∈ seen :=
      (areFragments name.text).mpr (by simpa using wasThere)
    rw [known_cons rfl, Known.firstRepeat?, if_pos isThere]
    rfl
  | case6 operations fragments name condition directives selections rest isNew
      inductionHypothesis =>
    have notThere : Known.key ("fragment", name) ∉ seen :=
      mt (areFragments name.text).mp (by simpa using isNew)
    rw [known_cons rfl, Known.firstRepeat?, if_neg notThere]
    apply inductionHypothesis (List.forall_mem_cons.mp areDefinitions).2
    · simp [Known.key, areOperations]
    · simp [Known.key, areFragments]
  | case7 operations fragments other rest notAnonymous notOperation notFragment =>
    have isDefinition := (List.forall_mem_cons.mp areDefinitions).1
    cases other with
    | operation kind name? declared directives selections =>
      cases name? with
      | none => exact absurd rfl (notAnonymous kind declared directives selections)
      | some name => exact absurd rfl (notOperation kind name declared directives selections)
    | fragmentDefinition name condition directives selections =>
      exact absurd rfl (notFragment name condition directives selections)
    | _ => simp [isOperation, isFragment] at isDefinition

end Node

/-! ## Nodes without named children -/

/-- Nothing is refused for a repeated name. -/
def Fault.NoRepeat {α : Type} : Except Fault α → Prop
  | .error (.duplicateName _ _ _ _) => False
  | _ => True

open Fault (NoRepeat)

theorem Fault.NoRepeat.bind
    {α β : Type}
    {first : Except Fault α}
    {next : α → Except Fault β}
    (noRepeat : NoRepeat first)
    (noRepeatNext : ∀ value, NoRepeat (next value)) :
    NoRepeat (first >>= next) := by
  cases first with
  | ok value => exact noRepeatNext value
  | error fault => cases fault <;> exact noRepeat

theorem Fault.NoRepeat.map
    {α β : Type}
    {first : Except Fault α}
    (noRepeat : NoRepeat first)
    (change : α → β) :
    NoRepeat (first.map change) := by
  cases first with
  | ok value => trivial
  | error fault => cases fault <;> exact noRepeat

namespace Node

theorem noRepeat_checkName (kind : String) (given : Datum) : NoRepeat (checkName kind given) := by
  unfold checkName
  split
  case h_1 =>
    split
    case isTrue => trivial
    case isFalse => trivial
  case h_2 =>
    rcases Fault.raised_eq_or (.invalidName kind given) with same | same <;>
      (rw [same]; trivial)

theorem noRepeat_checkName? (kind : String) (given : Datum) :
    NoRepeat (checkName? kind given) := by
  unfold checkName?
  split
  case h_1 => trivial
  case h_2 => exact (noRepeat_checkName kind _).map some

theorem noRepeat_elements (given : Datum) : NoRepeat given.elements := by
  unfold elements
  split
  case h_1 => trivial
  case h_2 => trivial

section

variable {items : List Datum}

theorem noRepeat_anyItem (ofItems : ∀ item ∈ items, NoRepeat (containsVariable item)) :
    NoRepeat (anyItem items) := by
  induction items with
  | nil => trivial
  | cons item items inductionHypothesis =>
    rw [List.forall_mem_cons] at ofItems
    rw [anyItem]
    split
    case h_1 => exact inductionHypothesis ofItems.2
    case h_2 => exact ofItems.1

theorem noRepeat_anyField (ofItems : ∀ item ∈ items, NoRepeat (valueContains item)) :
    NoRepeat (anyField items) := by
  induction items with
  | nil => trivial
  | cons item items inductionHypothesis =>
    rw [List.forall_mem_cons] at ofItems
    rw [anyField]
    split
    case h_1 => exact inductionHypothesis ofItems.2
    case h_2 => exact ofItems.1

end

theorem anyKey_eq (entries : List (Datum × Datum)) :
    anyKey entries = anyItem (entries.map (·.1)) := by
  induction entries with
  | nil => rfl
  | cons entry entries inductionHypothesis =>
    rw [anyKey, List.map_cons, anyItem, inductionHypothesis]

theorem anyKeyField_eq (entries : List (Datum × Datum)) :
    anyKeyField entries = anyField (entries.map (·.1)) := by
  induction entries with
  | nil => rfl
  | cons entry entries inductionHypothesis =>
    rw [anyKeyField, List.map_cons, anyField, inductionHypothesis]

theorem noRepeat_fieldContains {fields : List (FieldName × Datum)}
    (ofFields : ∀ field ∈ fields, NoRepeat (containsVariable field.2)) :
    NoRepeat (fieldContains fields) := by
  induction fields with
  | nil => trivial
  | cons field fields inductionHypothesis =>
    rw [List.forall_mem_cons] at ofFields
    rw [fieldContains]
    split
    case isTrue => exact ofFields.1
    case isFalse => exact inductionHypothesis ofFields.2

theorem noRepeat_containsVariable (given : Datum) : NoRepeat (containsVariable given) := by
  suffices climbs : Climbs fun given => NoRepeat (containsVariable given) ∧ NoRepeat (anyOf given) ∧
      NoRepeat (anyFieldOf given) ∧ NoRepeat (valueContains given) from (climbs.all given).1
  intro whole ofHeld
  have other := (noRepeat_elements whole).map (fun items => !items.isEmpty)
  cases whole with
  | list items | tuple items | set items =>
    exact ⟨trivial, noRepeat_anyItem fun item among => (ofHeld item among).1,
      noRepeat_anyField fun item among => (ofHeld item among).2.2.2, trivial⟩
  | dict entries =>
    have ofKeys := fun key among => ofHeld key (List.mem_append_left _ among)
    refine ⟨trivial, ?_, ?_, trivial⟩
    · rw [anyOf, anyKey_eq]
      exact noRepeat_anyItem fun key among => (ofKeys key among).1
    · rw [anyFieldOf, anyKeyField_eq]
      exact noRepeat_anyField fun key among => (ofKeys key among).2.2.2
  | model serial fields =>
    refine ⟨trivial, other, other, noRepeat_fieldContains fun field among => ?_⟩
    exact (ofHeld field.2 (List.mem_map_of_mem among)).1
  | listValue values =>
    exact ⟨(ofHeld values List.mem_cons_self).2.1, other, other, trivial⟩
  | objectValue fields =>
    exact ⟨(ofHeld fields List.mem_cons_self).2.2.1, other, other, trivial⟩
  | objectField name value | argument name value =>
    exact ⟨trivial, other, other, (ofHeld value (by simp [held, parts])).1⟩
  | member family name value others =>
    exact ⟨trivial, other, other, (ofHeld value List.mem_cons_self).1⟩
  | _ => exact ⟨trivial, other, other, trivial⟩
/-! ## Nodes of all shapes -/

/-- The kinds of node that have children with names. -/
def ownerKinds : List String :=
  ["ObjectValue", "Directive", "Field", "Operation", "Document"]

theorem noRepeat_declaration (name type default : Datum) :
    NoRepeat (declaration name type default) := by
  refine (noRepeat_checkName _ name).bind fun label => ?_
  split
  case h_1 => trivial
  case h_2 =>
    refine (noRepeat_containsVariable _).bind fun mentions => ?_
    cases mentions with
    | true => trivial
    | false => trivial

theorem noRepeat_enumValue (symbol : Datum) : NoRepeat (enumValue symbol) := by
  refine (noRepeat_checkName _ symbol).bind fun label => ?_
  split
  case isTrue => trivial
  case isFalse => trivial

theorem noRepeat_fragmentDefinition (name condition directives selections : Datum) :
    NoRepeat (fragmentDefinition name condition directives selections) := by
  refine (noRepeat_checkName _ name).bind fun label => ?_
  split
  case isTrue => trivial
  case isFalse => exact (noRepeat_checkName _ condition).bind fun passed => trivial

theorem noRepeat_printOptions (indent compact : Datum) :
    NoRepeat (printOptions indent compact) := by
  unfold printOptions
  split
  case h_1 => trivial
  case h_2 =>
    split
    case isTrue => trivial
    case isFalse => trivial
  case h_3 =>
    unfold cannot
    split
    case h_1 => trivial
    case h_2 => trivial

/-- Only a node of a shape with named children is refused for a repeated name. -/
theorem noRepeat_of_shape :
    ∀ shape ∈ Shape.all, shape.name ∉ ownerKinds → ∀ part, NoRepeat (shape.make part) := by
  simp only [Shape.all, List.forall_mem_cons]
  refine ⟨?namedType, ?listType, ?nonNullType, ?nullValue, ?boolean, ?int, ?float, ?string,
    ?enumValue, ?listValue, ?objectField, ?objectValue, ?declaration, ?argument, ?directive,
    ?field, ?fragmentSpread, ?inlineFragment, ?operation, ?fragmentDefinition, ?printOptions,
    ?document, List.forall_mem_nil _⟩ <;> intro notOwner part
  case listType | nonNullType | nullValue | boolean | int | float | string | listValue => trivial
  case namedType | objectField | argument | fragmentSpread =>
    exact (noRepeat_checkName _ _).map _
  case inlineFragment => exact (noRepeat_checkName? _ _).map _
  case enumValue => exact noRepeat_enumValue _
  case declaration => exact noRepeat_declaration _ _ _
  case fragmentDefinition => exact noRepeat_fragmentDefinition _ _ _ _
  case printOptions => exact noRepeat_printOptions _ _
  case objectValue | directive | field | operation | document => exact absurd (by decide) notOwner

/-- A part by its name, as given or as what stands in for it. -/
def Shape.picked (shape : Shape) (given : List (String × Datum)) (name : String) : Datum :=
  ((shape.parts.find? fun part => part.name = name).bind (pick? given)).getD .null

/-- Parts that belong to a shape are handed to the checks of its nodes. -/
theorem Shape.fill_cases (shape : Shape) (given : List (String × Datum)) :
    (∃ part, shape.fill given = .error (.unexpectedPart shape.name part)) ∨
      (∃ absent, shape.fill given = .error (.missingParts shape.name absent)) ∨
      shape.fill given = shape.make (shape.picked given) := by
  unfold fill
  split
  case h_1 => exact .inl ⟨_, rfl⟩
  case h_2 =>
    split
    case h_1 => exact .inr (.inr rfl)
    case h_2 => exact .inr (.inl ⟨_, rfl⟩)

/-- A node that is asked for by its kind has no parts, or is of a shape. -/
theorem construct?_cases
    {kind : String}
    {given : List (String × Datum)}
    {serial : Nat}
    {outcome : Except Fault Datum}
    (isOutcome : construct? kind given serial = some outcome) :
    (∃ bare, outcome = .ok (.bare bare serial)) ∨ outcome = .error (.takesNoParts kind) ∨
      ∃ shape ∈ Shape.all, shape.name = kind ∧ outcome = shape.fill given := by
  unfold construct? at isOutcome
  split at isOutcome
  case h_1 bare _ =>
    rw [← Option.some.inj isOutcome]
    split
    case isTrue => exact .inl ⟨bare, rfl⟩
    case isFalse => exact .inr (.inl rfl)
  case h_2 =>
    obtain ⟨shape, isFound, ofShape⟩ := Option.map_eq_some_iff.mp isOutcome
    have isNamed : shape.name = kind := by simpa using List.find?_some isFound
    exact .inr (.inr ⟨shape, List.mem_of_find?_eq_some isFound, isNamed, ofShape.symm⟩)

/-- A node that is refused for a repeated name is of a kind with named children. -/
theorem mem_ownerKinds_of_construct
    {kind word shown owner : String}
    {given : List (String × Datum)}
    {serial : Nat}
    {name : Datum}
    (refused : construct? kind given serial =
      some (.error (.duplicateName word name shown owner))) :
    kind ∈ ownerKinds := by
  rcases construct?_cases refused with ⟨_, same⟩ | same | ⟨shape, isShape, rfl, same⟩
  · cases same
  · cases same
  · by_contra notOwner
    have noRepeat := noRepeat_of_shape shape isShape notOwner (shape.picked given)
    rcases shape.fill_cases given with ⟨_, filled⟩ | ⟨_, filled⟩ | filled
    · cases same.trans filled
    · cases same.trans filled
    · rw [← filled, ← same] at noRepeat
      exact noRepeat

end Node
end GraphQL
