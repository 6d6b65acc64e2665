import GraphQL.Proofs.Request.Name

/-!
# Members of enums in running text

The symbol of an enum stands by itself between the brackets of a list, and is then put there
as its text.  Elsewhere it is put into running text, as is the name of a field of an object,
and a member of an enum that is given for either is shown there as the member.  Reading stops
on the point in it.  The text of a value that mentions no variable is read as a constant
otherwise.
-/

namespace GraphQL

open Outcome
open Source
open Text

/-! ## Texts in which reading may stop -/

/-- Reading stops inside the text, whatever follows. -/
def ReadingStops (text : String) : Prop :=
  Settled text ∧ (lexed text.toList).stop ≠ none

theorem readingStops_of_spells
    {text : String}
    {read : Lexed}
    (spells : Spells text read)
    (stop : read.stop ≠ none) :
    ReadingStops text :=
  ⟨settled_of_spells spells, by rwa [spells.lexed_eq]⟩

/-- Reading stops in a group in brackets if it stops in one of its texts. -/
theorem readingStops_bracketed
    (opening close : Punctuator)
    (opens : Opens close.text)
    {texts : List String}
    (settled : ∀ text ∈ texts, Settled text)
    {text : String}
    (present : text ∈ texts)
    (stops : ReadingStops text) :
    ReadingStops (opening.text ++ Lines.joinWith ", " texts ++ close.text) := by
  have spellsEach : List.Forall₂ Spells texts (texts.map fun text => lexed text.toList) :=
    List.forall₂_map_right_iff.mpr (List.forall₂_same.mpr settled)
  have spellsTexts := Spells.joinWith Layout.stands_comma (by decide) spellsEach
  have spells := (spellsTexts.after (stands_punctuator opening)).append
    (stands_punctuator close).spells opens.parts
  apply readingStops_of_spells spells
  intro reaches
  rw [Lexed.stop_append, Option.or_eq_none_iff, Lexed.stop_append, Option.or_eq_none_iff,
    Lexed.stop_concat_eq_none_iff, List.forall_mem_map] at reaches
  exact stops.2 (reaches.1.2 text present)

/-- The text is read as something good, unless it is such that reading gets stuck in it.  It
is known to stop there where things are orderly. -/
structure SpellsUnless
    {α : Type}
    (orderly stuck : Prop)
    (good : α → Prop)
    (lexemes : α → List Lexeme)
    (text : String) : Prop where
  /-- The lexemes of something good are read. -/
  spells : ¬stuck → ∃ value, good value ∧ Spells text (.of (lexemes value))
  /-- Reading stops in the text. -/
  stops : orderly → stuck → ReadingStops text

namespace SpellsUnless

variable
  {α : Type}
  {good : α → Prop}
  {lexemes : α → List Lexeme}
  {orderly stuck : Prop}
  {text : String}

/-- A text in which reading never stops. -/
theorem of_spells
    {value : α}
    (isGood : good value)
    (never : ¬stuck)
    (spells : Spells text (.of (lexemes value))) :
    SpellsUnless orderly stuck good lexemes text :=
  ⟨fun _ => ⟨value, isGood, spells⟩, fun _ isStuck => absurd isStuck never⟩

theorem settled
    (reads : SpellsUnless orderly stuck good lexemes text)
    (isOrderly : orderly) :
    Settled text := by
  by_cases isStuck : stuck
  · exact (reads.stops isOrderly isStuck).1
  · obtain ⟨_, _, spells⟩ := reads.spells isStuck
    exact settled_of_spells spells

/-- What is read may be taken for something else with the same lexemes. -/
theorem wrap
    {β : Type}
    {goodWrapped : β → Prop}
    {lexemesWrapped : β → List Lexeme}
    {stuckWrapped : Prop}
    (reads : SpellsUnless orderly stuck good lexemes text)
    (iffStuck : stuckWrapped ↔ stuck)
    (wraps : ∀ value, good value → ∃ wrapped, goodWrapped wrapped ∧
      lexemesWrapped wrapped = lexemes value) :
    SpellsUnless orderly stuckWrapped goodWrapped lexemesWrapped text where
  spells isFree := by
    obtain ⟨value, isGood, spells⟩ := reads.spells (mt iffStuck.mpr isFree)
    obtain ⟨wrapped, isGoodWrapped, same⟩ := wraps value isGood
    exact ⟨wrapped, isGoodWrapped, same ▸ spells⟩
  stops isOrderly isStuck := reads.stops isOrderly (iffStuck.mp isStuck)

/-- Texts in brackets, of which each may stop the reading. -/
theorem bracketed
    (opening close : Punctuator)
    (opens : Opens close.text)
    {ι : Type}
    {stuckAt : ι → Prop}
    {items : List ι}
    {texts : List String}
    (each : List.Forall₂ (fun item text => SpellsUnless orderly (stuckAt item) good lexemes text)
      items texts) :
    SpellsUnless orderly (∃ item ∈ items, stuckAt item)
      (fun values : List α => ∀ value ∈ values, good value)
      (fun values : List α => .punctuator opening ::
        (values.flatMap lexemes ++ [.punctuator close]))
      (opening.text ++ Lines.joinWith ", " texts ++ close.text) where
  spells isFree := by
    have spellsEach : ∀ text ∈ texts, ∃ value, good value ∧ Spells text (.of (lexemes value)) := by
      intro text present
      obtain ⟨item, among, reads⟩ := exists_of_mem_forall₂ each present
      exact reads.spells fun isStuck => isFree ⟨item, among, isStuck⟩
    obtain ⟨values, areSpelled⟩ := exists_forall₂ spellsEach
    have spellsNamed : List.Forall₂
        (fun text value => Spells text (.naming (fun text => .of [.name text]) (lexemes value)))
        texts values :=
      areSpelled.imp fun text value isSpelled => by
        rw [Lexed.naming_of]
        exact isSpelled.2
    refine ⟨values, fun value present => ?_, ?_⟩
    · obtain ⟨_, _, isGood, _⟩ := exists_of_mem_forall₂ areSpelled present
      exact isGood
    · rw [← Lexed.naming_of]
      exact Layout.spells_bracketed opening close opens spellsNamed
  stops := by
    rintro isOrderly ⟨item, among, isStuck⟩
    obtain ⟨text, present, reads⟩ := exists_of_mem_forall₂ each.flip among
    refine readingStops_bracketed opening close opens (fun text present => ?_) present
      (reads.stops isOrderly isStuck)
    obtain ⟨_, _, reads⟩ := exists_of_mem_forall₂ each present
    exact reads.settled isOrderly

/-- A name and a value with a colon between them. -/
theorem entry
    {stuckName stuckValue : Prop}
    {label text : String}
    (name : SpellsUnless orderly stuckName (fun _ => True) (fun name => [.name name]) label)
    (value : SpellsUnless orderly stuckValue (Source.Value.Readable true) Source.Value.lexemes
      text) :
    SpellsUnless orderly (stuckName ∨ stuckValue)
      (fun field : String × Source.Value => field.2.Readable true)
      (fun field => .name field.1 :: .punctuator .colon :: field.2.lexemes)
      (label ++ ": " ++ text) where
  spells isFree := by
    obtain ⟨nameFree, valueFree⟩ := not_or.mp isFree
    obtain ⟨word, -, spellsName⟩ := name.spells nameFree
    obtain ⟨constant, readable, spells⟩ := value.spells valueFree
    exact ⟨(word, constant), readable, Layout.spells_colon spellsName spells⟩
  stops isOrderly isStuck := by
    have spells := Layout.spells_colon (name.settled isOrderly) (value.settled isOrderly)
    refine readingStops_of_spells spells fun reaches => ?_
    rw [Lexed.stop_append, Option.or_eq_none_iff, Lexed.stop_append, Option.or_eq_none_iff]
      at reaches
    rcases isStuck with isStuck | isStuck
    · exact (name.stops isOrderly isStuck).2 reaches.1
    · exact (value.stops isOrderly isStuck).2 reaches.2.2

end SpellsUnless

/-- Every name is also read as a constant. -/
theorem exists_constant_of_name (name : String) :
    ∃ constant : Source.Value, constant.Readable true ∧ constant.lexemes = [.name name] := by
  cases reserved : Name.isReserved name with
  | false => exact ⟨.enum name, .enum name reserved, rfl⟩
  | true =>
    simp only [Name.isReserved, Bool.or_eq_true, decide_eq_true_eq] at reserved
    obtain (rfl | rfl) | rfl := reserved
    · exact ⟨.boolean true, .boolean true, rfl⟩
    · exact ⟨.boolean false, .boolean false, rfl⟩
    · exact ⟨.null, .null, rfl⟩

/-- The names have passed the gate, and where things are orderly, they are called by
identifiers if they are members of enums. -/
structure NamesPass (named : Label → Prop) (orderly : Prop) : Prop where
  /-- The text of a name has passed the gate. -/
  accepted : ∀ name, named name → Name.accepts name.text = true
  /-- An orderly name is called by an identifier. -/
  passed : orderly → ∀ name, named name → name.Passed

theorem namesPass_of_accepted : NamesPass Label.Accepted False :=
  ⟨fun _ accepted => accepted, fun isOrderly => isOrderly.elim⟩

theorem namesPass_of_passed : NamesPass Label.Passed True :=
  ⟨fun _ passed => passed.1, fun _ _ passed => passed⟩

/-- A name in running text is read as a name, unless it is a member of an enum. -/
theorem NamesPass.spellsUnless_shown
    {named : Label → Prop}
    {orderly : Prop}
    (names : NamesPass named orderly)
    {name : Label}
    (isNamed : named name) :
    SpellsUnless orderly (name.member?.isSome = true) (fun _ => True) (fun word => [.name word])
      name.shown := by
  cases same : name.member? with
  | none =>
    rw [Label.shown_of_text same]
    exact .of_spells trivial nofun (Name.spells_of_accepts (names.accepted name isNamed))
  | some found =>
    obtain ⟨family, member⟩ := found
    rw [Label.shown_of_member same]
    refine ⟨fun isFree => absurd rfl isFree, fun isOrderly _ => ?_⟩
    have spells := spells_member family ((names.passed isOrderly name isNamed).2 family member same)
    exact readingStops_of_spells spells nofun

/-! ## Members in running text -/

namespace Datum

/-- The value is an enum symbol that is given as a member of an enum. -/
def isMemberSymbol : Datum → Bool
  | .enumValue symbol => symbol.member?.isSome
  | _ => false

/-- A member of an enum is shown in the text of the value. -/
inductive ShowsMember : Datum → Prop
  | item {items : List Datum} {item : Datum} :
      item ∈ items →
      ShowsMember item →
      ShowsMember (.listValue (.tuple items))
  | name {fields : List Datum} {name : Label} {value : Datum} :
      .objectField name value ∈ fields →
      name.member?.isSome = true →
      ShowsMember (.objectValue (.tuple fields))
  | symbol {fields : List Datum} {name : Label} {value : Datum} :
      .objectField name value ∈ fields →
      value.isMemberSymbol = true →
      ShowsMember (.objectValue (.tuple fields))
  | value {fields : List Datum} {name : Label} {value : Datum} :
      .objectField name value ∈ fields →
      ShowsMember value →
      ShowsMember (.objectValue (.tuple fields))

/-- A member of an enum is shown where the value is put into running text. -/
def ShowsMemberInText (given : Datum) : Prop :=
  given.isMemberSymbol = true ∨ given.ShowsMember

/-- The value is a list or an object. -/
def isGroup : Datum → Bool
  | .listValue _ | .objectValue _ => true
  | _ => false

/-- Only lists and objects show members in their own text. -/
theorem not_showsMember_of_single
    {given : Datum}
    (single : given.isGroup = false) :
    ¬given.ShowsMember := by
  intro shows
  cases shows <;> cases single

theorem showsMember_list_iff (items : List Datum) :
    ShowsMember (.listValue (.tuple items)) ↔ ∃ item ∈ items, item.ShowsMember := by
  constructor
  · intro shows
    cases shows with
    | item present shows => exact ⟨_, present, shows⟩
  · rintro ⟨item, present, shows⟩
    exact .item present shows

theorem showsMember_object_iff (fields : List (Label × Datum)) :
    ShowsMember (.objectValue (Typed.objectFields fields)) ↔
      ∃ field ∈ fields, field.1.member?.isSome = true ∨ field.2.ShowsMemberInText := by
  constructor
  · intro shows
    cases shows with
    | name present isMember =>
      exact ⟨_, Typed.mem_objectFields_iff.mp present, .inl isMember⟩
    | symbol present isMember =>
      exact ⟨_, Typed.mem_objectFields_iff.mp present, .inr (.inl isMember)⟩
    | value present shows =>
      exact ⟨_, Typed.mem_objectFields_iff.mp present, .inr (.inr shows)⟩
  · rintro ⟨field, present, isMember | isMember | shows⟩
    · exact .name (Typed.mem_objectFields_iff.mpr present) isMember
    · exact .symbol (Typed.mem_objectFields_iff.mpr present) isMember
    · exact .value (Typed.mem_objectFields_iff.mpr present) shows

end Datum

/-- The text is read as a constant, unless reading gets stuck in it. -/
abbrev ConstantUnless (orderly stuck : Prop) (text : String) : Prop :=
  SpellsUnless orderly stuck (Source.Value.Readable true) Source.Value.lexemes text

/-- A value that is no group is read as the constant that its text spells. -/
theorem constantUnless_of_single
    {orderly : Prop}
    {given : Datum}
    {text : String}
    {constant : Source.Value}
    (single : given.isGroup = false)
    (readable : constant.Readable true)
    (spells : Spells text (.of constant.lexemes)) :
    ConstantUnless orderly given.ShowsMember text :=
  .of_spells readable (Datum.not_showsMember_of_single single) spells

namespace Written

variable
  {named : Label → Prop}
  {orderly : Prop}

/-- What is written for the fields of an object is their names as they are shown, and what
is written for their values as put into running text. -/
theorem forall₂_of_argumentsOf
    {fields : List (Label × Datum)}
    {entries? : Option (List (String × Value))}
    (written : argumentsOf (Typed.objectFields fields) = .ok entries?) :
    List.Forall₂ (fun field entry => entry.1 = field.1.shown ∧
        ∃ given, value field.2 = .ok given ∧ embed field.2 given = entry.2)
      fields (entries?.getD []) := by
  rw [Typed.objectFields, argumentsOf_tuple] at written
  split at written
  case isTrue isEmpty =>
    obtain rfl := Except.ok.inj written
    obtain rfl := List.map_eq_nil_iff.mp (List.isEmpty_iff.mp isEmpty)
    exact .nil
  case isFalse =>
    obtain ⟨entries, areWritten, rfl⟩ := map_eq_ok_iff.mp written
    rw [mapM_eq_ok_iff, List.forall₂_map_left_iff] at areWritten
    refine areWritten.imp fun field found isWritten => ?_
    have isEntry : (do return (field.1.shown, ← (value field.2).map (embed field.2))) =
      Except.ok found := isWritten
    rw [entry_eq_ok_iff, map_eq_ok_iff] at isEntry
    exact isEntry

/-- A value that is put into running text is read as a constant, unless it shows a member
of an enum there. -/
theorem constantUnless_embed
    (names : NamesPass named orderly)
    {given : Datum}
    {written : Value}
    (typed : Typed.Value named given)
    (reads : ConstantUnless orderly given.ShowsMember (Layout.value written)) :
    ConstantUnless orderly given.ShowsMemberInText (Layout.value (embed given written)) := by
  cases typed with
  | @enum symbol isNamed _ =>
    refine (names.spellsUnless_shown isNamed).wrap ?_ fun word _ => exists_constant_of_name word
    exact or_iff_left nofun
  | _ =>
    refine reads.wrap ?_ fun constant readable => ⟨constant, readable, rfl⟩
    exact or_iff_right (by simp [Datum.isMemberSymbol])

/-- The text of a list shows what the texts of its items show. -/
theorem constantUnless_list
    {items : List Datum}
    {values : List Value}
    (reads : List.Forall₂ (fun item given =>
      ConstantUnless orderly item.ShowsMember (Layout.value given)) items values) :
    ConstantUnless orderly (Datum.listValue (.tuple items)).ShowsMember
      (Layout.value (.list values)) := by
  rw [Layout.value, Layout.values_eq_map]
  refine (SpellsUnless.bracketed .bracketL .bracketR (by decide)
    (List.forall₂_map_right_iff.mpr reads)).wrap (Datum.showsMember_list_iff items)
      fun constants readable => ⟨.list constants, .list constants readable, ?_⟩
  rw [Source.Value.lexemes, Source.Value.itemLexemes_eq]

/-- The text of an object shows the names of its fields, and their values as put into running
text. -/
theorem constantUnless_object
    {fields : List (Label × Datum)}
    {entries : List (String × Value)}
    (reads : List.Forall₂ (fun field entry => SpellsUnless orderly
        (field.1.member?.isSome = true ∨ field.2.ShowsMemberInText)
        (fun field : String × Source.Value => field.2.Readable true)
        (fun field => .name field.1 :: .punctuator .colon :: field.2.lexemes)
        (entry.1 ++ ": " ++ Layout.value entry.2))
      fields entries) :
    ConstantUnless orderly (Datum.objectValue (Typed.objectFields fields)).ShowsMember
      (Layout.value (.object entries)) := by
  rw [Layout.value, Layout.named_eq_map]
  refine (SpellsUnless.bracketed .braceL .braceR (by decide)
    (List.forall₂_map_right_iff.mpr reads)).wrap (Datum.showsMember_object_iff fields)
      fun constants readable => ⟨.object constants, .object constants readable, ?_⟩
  rw [Source.Value.lexemes, Source.Value.fieldLexemes_eq]

/-- The text of a value that mentions no variable is read as a constant, unless it shows a
member of an enum. -/
theorem constantUnless_value
    (names : NamesPass named orderly)
    {given : Datum}
    (typed : Typed.Value named given)
    (constant : Node.containsVariable given = .ok false)
    {written : Value}
    (isWritten : value given = .ok written) :
    ConstantUnless orderly given.ShowsMember (Layout.value written) := by
  induction typed generalizing written with
  | reference | bare => cases constant
  | null =>
    obtain rfl := Except.ok.inj isWritten
    exact constantUnless_of_single rfl .null (Name.spells_of_isName (by decide))
  | boolean flag =>
    obtain rfl := Except.ok.inj isWritten
    cases flag with
    | true =>
      exact constantUnless_of_single rfl (.boolean true) (Name.spells_of_isName (by decide))
    | false =>
      exact constantUnless_of_single rfl (.boolean false) (Name.spells_of_isName (by decide))
  | @int given n isInt =>
    obtain ⟨text, isNumeral, rfl⟩ := map_eq_ok_iff.mp isWritten
    obtain rfl := Numeral.eq_of_whole isInt isNumeral
    exact constantUnless_of_single rfl (.int _) (Numeral.spells_int n)
  | float x =>
    obtain ⟨text, isNumeral, rfl⟩ := map_eq_ok_iff.mp isWritten
    exact constantUnless_of_single rfl (.float _)
      (Numeral.spells_fractional (.inl ⟨x, rfl⟩) isNumeral)
  | decimal x =>
    obtain ⟨text, isNumeral, rfl⟩ := map_eq_ok_iff.mp isWritten
    exact constantUnless_of_single rfl (.float _)
      (Numeral.spells_fractional (.inr ⟨x, rfl⟩) isNumeral)
  | @string given text isText =>
    rw [value, stringLiteral, isText] at isWritten
    obtain rfl := Except.ok.inj isWritten
    exact constantUnless_of_single rfl (.string text false) (Quoted.spells_encode text)
  | @enum symbol isNamed _ =>
    obtain rfl := Except.ok.inj isWritten
    obtain ⟨constant, readable, same⟩ := exists_constant_of_name (Name.stem symbol.text)
    refine constantUnless_of_single rfl readable ?_
    rw [same]
    exact Name.spells_of_accepts (names.accepted symbol isNamed)
  | @list items typed inductionHypothesis =>
    obtain ⟨values, areWritten, rfl⟩ := map_eq_ok_iff.mp isWritten
    rw [valuesOf, values_eq_mapM, mapM_eq_ok_iff] at areWritten
    have constants := Typed.containsVariable_of_anyItem constant
    -- An item stands by itself, so only what its own text shows counts.
    have each := (List.forall₂_and_left _ _).mpr ⟨fun item present =>
      @inductionHypothesis item present (constants item present), areWritten⟩
    exact constantUnless_list (each.imp fun _ _ isWritten => isWritten.1 isWritten.2)
  | @object fields isNamed typed inductionHypothesis =>
    obtain ⟨entries?, areWritten, rfl⟩ := map_eq_ok_iff.mp isWritten
    have constants := Typed.containsVariable_of_anyField constant
    have each := (List.forall₂_and_left _ _).mpr ⟨fun field present =>
      And.intro (isNamed field present)
        (And.intro (typed field present)
          (@inductionHypothesis field present (constants field present))),
      forall₂_of_argumentsOf areWritten⟩
    -- The value of a field is put into running text, so its symbol counts as well.
    refine constantUnless_object (each.imp ?_)
    rintro field entry ⟨⟨isNamed, typed, readsValue⟩, shown, given, isWritten, embedded⟩
    rw [shown, ← embedded]
    exact (names.spellsUnless_shown isNamed).entry
      (constantUnless_embed names typed (readsValue isWritten))

end Written

end GraphQL
