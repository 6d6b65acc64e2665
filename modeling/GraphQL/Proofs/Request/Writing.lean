import GraphQL.Proofs.Outcome
import GraphQL.Proofs.Request.Meaning
import GraphQL.Proofs.Request.Mirrored
import GraphQL.Proofs.Request.Numeral
import GraphQL.Request.Writing

/-!
# What is written for typed requests

A typed request can be written exactly if every number in it has a numeral and every
node is of some kind, and what is written means some document.  If all names are texts,
that document is the mirror of the request; a name that is an enum member may be written
in another way than it reads.
-/

namespace GraphQL

open Outcome (Yields fault?)

/-- Every number that has a place in the text has a numeral, and every node there is of
some kind. -/
def Datum.Printable (given : Datum) : Prop :=
  ∀ node ∈ given.nodes, node.isUnprintable = false

namespace Written

variable {α ω : Type}

/-- What is written means something, which mirrors the data if names are plain. -/
def Mirrors
    (plain : Prop)
    (means : ω → α → Prop)
    (mirror : Datum → α)
    (given : Datum)
    (written : ω) : Prop :=
  ∃ meant, means written meant ∧ (plain → meant = mirror given)

/-- What is written for items means a list, which mirrors the items. -/
theorem exists_mirrors
    {plain : Prop}
    {means : ω → α → Prop}
    {mirror : Datum → α}
    {items : List Datum}
    {written : List ω}
    (mirrors : List.Forall₂ (Mirrors plain means mirror) items written) :
    ∃ meant, List.Forall₂ means written meant ∧ (plain → meant = items.map mirror) := by
  induction mirrors with
  | nil => exact ⟨[], .nil, fun _ => rfl⟩
  | cons mirrorsFirst _ inductionHypothesis =>
    obtain ⟨first, meansFirst, sameFirst⟩ := mirrorsFirst
    obtain ⟨rest, meansRest, sameRest⟩ := inductionHypothesis
    refine ⟨first :: rest, .cons meansFirst meansRest, ?_⟩
    intro isPlain
    rw [sameFirst isPlain, sameRest isPlain, List.map_cons]

/-- Names are fit for a text wherever they are put into one, and if names are plain, they
are put there as they are. -/
structure NamesFit (named : Label → Prop) (fit : String → Prop) (plain : Prop) : Prop where
  /-- The text of a name is fit. -/
  text : ∀ name, named name → fit name.text
  /-- A name as it is shown is fit. -/
  shown : ∀ name, named name → fit name.shown
  /-- A plain name is shown as its text. -/
  same : plain → ∀ name, named name → name.shown = name.text

variable
  {named : Label → Prop}
  {fit : String → Prop}
  {plain : Prop}

/-- An optional name as it is shown is fit. -/
theorem NamesFit.shown_of_mem
    (names : NamesFit named fit plain)
    {name? : Option Label}
    (isNamed : ∀ name ∈ name?, named name) :
    ∀ text ∈ name?.map Label.shown, fit text := by
  intro text present
  obtain ⟨name, found, rfl⟩ := Option.mem_map.mp present
  exact names.shown name (isNamed name found)

/-- An optional plain name is shown as its text. -/
theorem NamesFit.same_map
    (names : NamesFit named fit plain)
    {name? : Option Label}
    (isNamed : ∀ name ∈ name?, named name)
    (isPlain : plain) :
    name?.map Label.shown = name?.map Label.text := by
  cases name? with
  | none => rfl
  | some name => rw [Option.map_some, Option.map_some, names.same isPlain name (isNamed name rfl)]

/-! ## Lists of steps -/

theorem values_eq_mapM (items : List Datum) : values items = items.mapM value := by
  induction items with
  | nil => rfl
  | cons item items inductionHypothesis =>
    rw [values, inductionHypothesis, List.mapM_cons]

/-- What is written for an argument. -/
def entry (item : Datum) : Except Fault (String × Value) := do
  let name ← nameOf item
  let given ← valueOf item
  return (name, given)

theorem arguments_eq_mapM (items : List Datum) : arguments items = items.mapM entry := by
  induction items with
  | nil => rfl
  | cons item items inductionHypothesis =>
    rw [arguments, inductionHypothesis, List.mapM_cons, entry]
    simp only [bind_assoc, pure_bind]

/-- What is written for a directive. -/
def directive (item : Datum) : Except Fault Directive := do
  let name ← nameOf item
  let arguments? ← directiveArguments item
  return ⟨name, arguments?⟩

theorem directives_eq_mapM (items : List Datum) : directives items = items.mapM directive := by
  induction items with
  | nil => rfl
  | cons item items inductionHypothesis =>
    rw [directives, inductionHypothesis, List.mapM_cons, directive]
    simp only [bind_assoc, pure_bind]

theorem selections_eq_mapM (items : List Datum) : selections items = items.mapM selection := by
  induction items with
  | nil => rfl
  | cons item items inductionHypothesis =>
    rw [selections, inductionHypothesis, List.mapM_cons]

theorem declarations_eq_mapM (items : List Datum) :
    declarations items = items.mapM variableDefinition := by
  induction items with
  | nil => rfl
  | cons item items inductionHypothesis =>
    rw [declarations, inductionHypothesis, List.mapM_cons, variableDefinition]
    simp only [bind_assoc, pure_bind]

theorem definitions_eq_mapM (items : List Datum) :
    definitions items = items.mapM definition := by
  induction items with
  | nil => rfl
  | cons item items inductionHypothesis =>
    rw [definitions, inductionHypothesis, List.mapM_cons]

/-! ## Values -/

theorem printable_cons_iff
    {given : Datum}
    {node : Datum}
    {rest : List Datum}
    (nodes : given.nodes = node :: rest)
    (printable : node.isUnprintable = false) :
    given.Printable ↔ ∀ node ∈ rest, node.isUnprintable = false := by
  simp [Datum.Printable, nodes, printable]

theorem printable_tuple_iff (items : List Datum) :
    (Datum.tuple items).Printable ↔ ∀ item ∈ items, item.Printable := by
  simp only [Datum.Printable, Datum.nodes_tuple, List.forall_mem_flatMap]

/-- Entries that are nodes of their own have numerals if their values do. -/
theorem printable_entries_iff
    {make : Label → Datum → Datum}
    (nodes : ∀ name given, (make name given).nodes = make name given :: given.nodes)
    (printable : ∀ name given, (make name given).isUnprintable = false)
    (entries : List (Label × Datum)) :
    (Datum.tuple (entries.map fun entry => make entry.1 entry.2)).Printable ↔
      ∀ entry ∈ entries, entry.2.Printable := by
  simp only [printable_tuple_iff, List.forall_mem_map]
  apply forall₂_congr
  intro entry _
  rw [printable_cons_iff (nodes _ _) (printable _ _)]
  rfl

/-- What is written for an entry of an object or a list of arguments. -/
def EntryMirrors
    (fit : String → Prop)
    (plain : Prop)
    (entry : Label × Datum)
    (written : String × Value) : Prop :=
  written.1 = entry.1.shown ∧
    Mirrors plain (Value.Means fit) Mirror.value entry.2 written.2

/-- A value that is put into running text still means something. -/
theorem mirrors_embed
    (names : NamesFit named fit plain)
    {given : Datum}
    (typed : Typed.Value named given)
    {written : Value}
    (mirrors : Mirrors plain (Value.Means fit) Mirror.value given written) :
    Mirrors plain (Value.Means fit) Mirror.value given (embed given written) := by
  cases typed with
  | @enum symbol isNamed =>
    refine ⟨.enum symbol.shown, .enum (names.shown symbol isNamed), ?_⟩
    intro isPlain
    rw [names.same isPlain symbol isNamed, Mirror.value]
  | _ => exact mirrors

theorem yields_entry
    (names : NamesFit named fit plain)
    {name : Label}
    {given : Datum}
    (typed : Typed.Value named given)
    (yields : Yields (value given) given.Printable
      (Mirrors plain (Value.Means fit) Mirror.value given))
    {item : Datum}
    (nameOfItem : nameOf item = .ok name.shown)
    (valueOfItem : valueOf item = (value given).map (embed given)) :
    Yields (entry item) given.Printable (EntryMirrors fit plain (name, given)) := by
  rw [entry, nameOfItem, valueOfItem]
  have yieldsEmbedded : Yields ((value given).map (embed given)) given.Printable
      (Mirrors plain (Value.Means fit) Mirror.value given) :=
    yields.map fun _ => mirrors_embed names typed
  refine (yieldsEmbedded.bind fun written mirrors =>
    show Yields (.ok (name.shown, written)) True _ from .ok ⟨rfl, mirrors⟩).congr ?_
  simp

theorem argumentsOf_tuple (items : List Datum) :
    argumentsOf (.tuple items) =
      if items.isEmpty then .ok none else (items.mapM entry).map some := by
  rw [← arguments_eq_mapM]
  cases items with
  | nil => rfl
  | cons item items => rfl

/-- Entries can be written exactly if all of their values can. -/
theorem yields_argumentsOf
    (names : NamesFit named fit plain)
    {entries : List (Label × Datum)}
    (make : Label → Datum → Datum)
    (nameOfMade : ∀ name given, nameOf (make name given) = .ok name.shown)
    (valueOfMade : ∀ name given, valueOf (make name given) = (value given).map (embed given))
    (typed : ∀ entry ∈ entries, Typed.Value named entry.2)
    (yields : ∀ entry ∈ entries, Yields (value entry.2) entry.2.Printable
      (Mirrors plain (Value.Means fit) Mirror.value entry.2)) :
    Yields (argumentsOf (.tuple (entries.map fun entry => make entry.1 entry.2)))
      (∀ entry ∈ entries, entry.2.Printable)
      (fun written? => written? ≠ some [] ∧
        List.Forall₂ (EntryMirrors fit plain) entries (written?.getD [])) := by
  rw [argumentsOf_tuple]
  apply Yields.unlessEmpty
  rw [List.mapM_map]
  apply Yields.mapM
  intro entry present
  exact yields_entry names (typed entry present) (yields entry present) (nameOfMade _ _)
    (valueOfMade _ _)

/-- Entries mean entries, which mirror them. -/
theorem exists_entries
    (names : NamesFit named fit plain)
    {entries : List (Label × Datum)}
    (isNamed : ∀ entry ∈ entries, named entry.1)
    {written : List (String × Value)}
    (mirrors : List.Forall₂ (EntryMirrors fit plain) entries written) :
    ∃ meant : List (String × Source.Value),
      List.Forall₂ (fun entry value => (entry.1 = value.1 ∧ fit entry.1) ∧
        Value.Means fit entry.2 value.2) written meant ∧
      (plain → meant = entries.map fun entry => (entry.1.text, Mirror.value entry.2)) := by
  induction mirrors with
  | nil => exact ⟨[], .nil, fun _ => rfl⟩
  | @cons entry first entries rest mirrorsFirst _ inductionHypothesis =>
    obtain ⟨shown, value, means, same⟩ := mirrorsFirst
    obtain ⟨meant, meansRest, sameRest⟩ :=
      inductionHypothesis fun other present => isNamed other (by simp [present])
    have isNamedFirst := isNamed entry (by simp)
    refine ⟨(first.1, value) :: meant, .cons ⟨⟨rfl, ?_⟩, means⟩ meansRest, ?_⟩
    · rw [shown]
      exact names.shown entry.1 isNamedFirst
    · intro isPlain
      rw [shown, names.same isPlain entry.1 isNamedFirst, same isPlain, sameRest isPlain,
        List.map_cons]

/-- Data that is written at once can always be written. -/
theorem yields_leaf
    {given : Datum}
    {written : ω}
    {meant : α}
    {means : ω → α → Prop}
    {mirror : Datum → α}
    (leaf : given.nodes = [given])
    (printable : given.isUnprintable = false)
    (meansMeant : means written meant)
    (same : plain → meant = mirror given) :
    Yields (.ok written : Except Fault ω) given.Printable
      (Mirrors plain means mirror given) := by
  refine (Yields.ok ⟨meant, meansMeant, same⟩).congr ?_
  simp [Datum.Printable, leaf, printable]

/-- Data of no particular kind cannot be written. -/
theorem yields_bare
    {given : Datum}
    {fault : Fault}
    {good : ω → Prop}
    (leaf : given.nodes = [given])
    (unprintable : given.isUnprintable = true) :
    Yields (.error fault : Except Fault ω) given.Printable good := by
  constructor
  · simp [Datum.Printable, leaf, unprintable]
  · simp

/-- The items of a tuple can be written exactly if all of them can. -/
theorem yields_items
    {step : Datum → Except Fault ω}
    {means : ω → α → Prop}
    {mirror : Datum → α}
    {items : List Datum}
    (yields : ∀ item ∈ items, Yields (step item) item.Printable (Mirrors plain means mirror item)) :
    Yields (items.mapM step) (Datum.tuple items).Printable
      (Mirrors plain (List.Forall₂ means) (Mirror.items mirror) (.tuple items)) :=
  ((Yields.mapM yields).mono fun _ mirrors => exists_mirrors mirrors).congr
    (printable_tuple_iff items).symm

/-- A number can be written exactly if it has a numeral. -/
theorem yields_numeral
    {given : Datum}
    {numeral : Except Fault String}
    {make : String → Value}
    (leaf : given.nodes = [given])
    (printable : given.isUnprintable = (fault? numeral).isSome)
    (means : ∀ text, numeral = .ok text → (make text).Means fit (Mirror.value given)) :
    Yields (numeral.map make) given.Printable
      (Mirrors plain (Value.Means fit) Mirror.value given) := by
  cases numeral with
  | ok text => exact yields_leaf leaf printable (means text rfl) fun _ => rfl
  | error fault => exact yields_bare leaf printable

/-- A number with a fraction means what it is the numeral of. -/
theorem means_fractional
    {given : Datum}
    (isNumber : (∃ x, given = .float x) ∨ ∃ x, given = .decimal x)
    {text : String}
    (numeral : Numeral.fractional given = .ok text) :
    (Value.float text).Means fit (Mirror.value (.floatValue given)) := by
  have mirror : Mirror.value (.floatValue given) = .float text := by
    rw [Mirror.value, numeral]
    rfl
  rw [mirror]
  exact .float (Numeral.spells_fractional isNumber numeral)

/-- A typed value can be written exactly if its numbers have numerals. -/
theorem yields_value
    (names : NamesFit named fit plain)
    {given : Datum}
    (typed : Typed.Value named given) :
    Yields (value given) given.Printable
      (Mirrors plain (Value.Means fit) Mirror.value given) := by
  induction typed with
  | @reference name type default isNamed =>
    apply yields_leaf (by simp [Datum.nodes]) rfl
      (Value.Means.reference (names.shown name isNamed))
    intro isPlain
    simp [Mirror.value, names.same isPlain name isNamed]
  | null =>
    exact yields_leaf (by simp [Datum.nodes]) rfl Value.Means.null fun _ => by
      simp [Mirror.value]
  | boolean flag =>
    exact yields_leaf (by simp [Datum.nodes]) rfl (Value.Means.boolean flag) fun _ => by
      simp [Mirror.value, Datum.truthy]
  | @int given n isInt =>
    refine yields_numeral (by simp [Datum.nodes]) (Numeral.isUnprintable_int isInt) ?_
    intro text numeral
    rw [Mirror.value, isInt, Numeral.eq_of_whole isInt numeral]
    exact .int (Numeral.spells_int n)
  | float x =>
    exact yields_numeral (by simp [Datum.nodes]) (Numeral.isUnprintable_float x)
      fun _ => means_fractional (.inl ⟨x, rfl⟩)
  | decimal x =>
    exact yields_numeral (by simp [Datum.nodes]) (Numeral.isUnprintable_decimal x)
      fun _ => means_fractional (.inr ⟨x, rfl⟩)
  | @string given text isText =>
    rw [value, stringLiteral, isText]
    exact yields_leaf (by simp [Datum.nodes]) rfl (Value.Means.string text) fun _ => by
      simp [Mirror.value, isText]
  | @enum symbol isNamed notReserved =>
    exact yields_leaf (by simp [Datum.nodes]) rfl
      (Value.Means.enum (names.text symbol isNamed)) fun _ => by simp [Mirror.value]
  | @list items typed inductionHypothesis =>
    rw [value, valuesOf, values_eq_mapM]
    refine ((yields_items inductionHypothesis).map ?_).congr ?_
    · rintro written ⟨meant, means, same⟩
      obtain ⟨sameLength, meansEach⟩ := List.forall₂_iff_zip.mp means
      refine ⟨.list meant, .list sameLength fun _ _ => meansEach, ?_⟩
      intro isPlain
      simp [Mirror.value, Mirror.items, same isPlain]
    · rw [printable_cons_iff (Datum.nodes_listValue _) rfl]
      rfl
  | @object fields isNamed typed inductionHypothesis =>
    rw [value, Typed.objectFields]
    refine ((yields_argumentsOf names .objectField (fun _ _ => rfl) (fun _ _ => rfl)
      typed inductionHypothesis).map ?_).congr ?_
    · rintro written? ⟨-, mirrors⟩
      obtain ⟨meant, means, same⟩ := exists_entries names isNamed mirrors
      obtain ⟨sameLength, meansEach⟩ := List.forall₂_iff_zip.mp means
      refine ⟨.object meant, .object sameLength (fun _ _ present => (meansEach present).1)
        (fun _ _ present => (meansEach present).2), ?_⟩
      intro isPlain
      simp [Mirror.value, Mirror.objectFields_eq_map, same isPlain]
    · rw [printable_cons_iff (Datum.nodes_objectValue _) rfl]
      exact (printable_entries_iff Datum.nodes_objectField (fun _ _ => rfl) fields).symm
  | bare serial => exact yields_bare (by simp [Datum.nodes]) rfl

/-! ## Arguments and directives -/

theorem yields_arguments
    (names : NamesFit named fit plain)
    {given : Datum}
    (typed : Typed.Arguments named given) :
    Yields (argumentsOf given) given.Printable
      (Mirrors plain (ArgumentsMean fit) (Mirror.items Mirror.argument) given) := by
  obtain ⟨isNamed, typed⟩ := typed
  refine ((yields_argumentsOf names .argument (fun _ _ => rfl) (fun _ _ => rfl)
    typed fun _ present => yields_value names (typed _ present)).mono ?_).congr ?_
  · rintro written? ⟨notEmptied, mirrors⟩
    obtain ⟨meant, means, same⟩ := exists_entries names isNamed mirrors
    refine ⟨meant.map fun entry => ⟨entry.1, entry.2⟩, ⟨notEmptied, ?_⟩, ?_⟩
    · rw [List.forall₂_map_right_iff]
      apply means.imp
      rintro entry value ⟨⟨sameName, fits⟩, meansValue⟩
      exact ⟨sameName, fits, meansValue⟩
    · intro isPlain
      simp [Mirror.items, Mirror.argument, same isPlain]
  · exact (printable_entries_iff Datum.nodes_argument (fun _ _ => rfl) _).symm

theorem yields_directive
    (names : NamesFit named fit plain)
    {name : Label}
    {arguments : Datum}
    (isNamed : named name)
    (typed : Typed.Arguments named arguments) :
    Yields (directive (.directive name arguments)) (Datum.directive name arguments).Printable
      (Mirrors plain (Directive.Means fit) Mirror.directive (.directive name arguments)) := by
  have nameOfDirective : nameOf (.directive name arguments) = .ok name.shown := rfl
  rw [directive, nameOfDirective]
  refine ((yields_arguments names typed).bind fun written ⟨meant, means, same⟩ =>
    .ok ?_).congr ?_
  · refine ⟨⟨name.shown, meant⟩, ⟨rfl, names.shown name isNamed, means⟩, ?_⟩
    intro isPlain
    rw [names.same isPlain name isNamed, same isPlain, Mirror.directive]
  · rw [printable_cons_iff (Datum.nodes_directive _ _) rfl, and_true]
    rfl

/-- Typed directives can be written exactly if their numbers have numerals. -/
theorem yields_directives
    (names : NamesFit named fit plain)
    {given : Datum}
    (typed : Typed.Directives named given) :
    Yields (directivesOf given) given.Printable
      (Mirrors plain (List.Forall₂ (Directive.Means fit)) (Mirror.items Mirror.directive)
        given) := by
  obtain ⟨isNamed, typed⟩ := typed
  rw [directivesOf, directives_eq_mapM]
  apply yields_items
  rw [List.forall_mem_map]
  intro entry present
  exact yields_directive names (isNamed entry present) (typed entry present)

/-! ## Selections -/

theorem selectionsOf_tuple (items : List Datum) :
    selectionsOf (.tuple items) =
      if items.isEmpty then .ok none else (items.mapM selection).map some := by
  rw [← selections_eq_mapM]
  cases items with
  | nil => rfl
  | cons item items => rfl

/-- The selections of a tuple are left out where there are none. -/
theorem yields_selectionsOf
    {items : List Datum}
    (yields : ∀ item ∈ items, Yields (selection item) item.Printable
      (Mirrors plain (Selection.Means fit) Mirror.selection item)) :
    Yields (selectionsOf (.tuple items)) (Datum.tuple items).Printable
      (fun selected? => selected? ≠ some [] ∧
        Mirrors plain (SelectionsMean fit) (Mirror.items Mirror.selection) (.tuple items)
          selected?) := by
  rw [selectionsOf_tuple]
  exact (yields_items yields).unlessEmpty

/-- The parts of a field can be written whichever way its alias and its name are. -/
theorem yields_field
    (names : NamesFit named fit plain)
    {name : Label}
    {alias? : Option Label}
    {arguments directives : Datum}
    {selections : List Datum}
    (typedArguments : Typed.Arguments named arguments)
    (typedDirectives : Typed.Directives named directives)
    (yields : ∀ item ∈ selections, Yields (selection item) item.Printable
      (Mirrors plain (Selection.Means fit) Mirror.selection item))
    {label? : Option String}
    {text : String}
    (fitsLabel : ∀ label ∈ label?, fit label)
    (fits : fit text)
    (same : plain → label? = alias?.map Label.text ∧ text = name.text) :
    Yields (do
        let arguments? ← argumentsOf arguments
        let applied ← directivesOf directives
        return Selection.field label? text arguments? applied
          (← selectionsOf (.tuple selections)))
      (Datum.field name alias? arguments directives (.tuple selections)).Printable
      (Mirrors plain (Selection.Means fit) Mirror.selection
        (.field name alias? arguments directives (.tuple selections))) := by
  refine ((yields_arguments names typedArguments).bind fun arguments? ⟨_, means, mirrors⟩ =>
    (yields_directives names typedDirectives).bind fun applied ⟨_, appliedMeans, appliedMirrors⟩ =>
      (yields_selectionsOf yields).bind fun selected?
        ⟨notEmptied, _, selectionsMean, selectionsMirror⟩ => .ok ?_).congr ?_
  · obtain ⟨sameLength, meansEach⟩ := List.forall₂_iff_zip.mp selectionsMean
    refine ⟨_, .field fitsLabel fits means appliedMeans notEmptied sameLength
      fun _ _ => meansEach, ?_⟩
    intro isPlain
    simp [Mirror.selection, same isPlain, mirrors isPlain, appliedMirrors isPlain,
      selectionsMirror isPlain, Mirror.items]
  · rw [printable_cons_iff (Datum.nodes_field _ _ _ _ _) rfl]
    simp [Datum.Printable, or_imp, forall_and]

/-- A typed selection can be written exactly if its numbers have numerals. -/
theorem yields_selection
    (names : NamesFit named fit plain)
    {given : Datum}
    (typed : Typed.Selection named given) :
    Yields (selection given) given.Printable
      (Mirrors plain (Selection.Means fit) Mirror.selection given) := by
  induction typed with
  | @field name alias? arguments directives selections isNamed aliasNamed typedArguments
      typedDirectives typed inductionHypothesis =>
    -- A field without an alias is written under its text, and any other as it is shown.
    cases alias? with
    | none =>
      exact yields_field names typedArguments typedDirectives inductionHypothesis nofun
        (names.text name isNamed) fun _ => ⟨rfl, rfl⟩
    | some label =>
      apply yields_field names typedArguments typedDirectives inductionHypothesis
        (names.shown_of_mem aliasNamed) (names.shown name isNamed)
      intro isPlain
      exact ⟨names.same_map aliasNamed isPlain, names.same isPlain name isNamed⟩
  | @spread name directives isNamed typedDirectives =>
    rw [selection]
    refine ((yields_directives names typedDirectives).map ?_).congr ?_
    · rintro applied ⟨_, means, mirrors⟩
      refine ⟨_, .spread (names.shown name isNamed) means, ?_⟩
      intro isPlain
      rw [names.same isPlain name isNamed, mirrors isPlain, Mirror.selection]
    · rw [printable_cons_iff (Datum.nodes_fragmentSpread _ _) rfl]
      rfl
  | @inlineFragment condition? directives selections isNamed typedDirectives typed
      inductionHypothesis =>
    rw [selection]
    refine ((yields_directives names typedDirectives).bind fun applied meant =>
      (yields_selectionsOf inductionHypothesis).bind fun selected? selected => .ok ?_).congr ?_
    · obtain ⟨_, means, mirrors⟩ := meant
      obtain ⟨_, _, selectionsMean, selectionsMirror⟩ := selected
      obtain ⟨sameLength, meansEach⟩ := List.forall₂_iff_zip.mp selectionsMean
      refine ⟨_, .inlineFragment (names.shown_of_mem isNamed) means sameLength
        fun _ _ => meansEach, ?_⟩
      intro isPlain
      simp [Mirror.selection, names.same_map isNamed isPlain, mirrors isPlain,
        selectionsMirror isPlain, Mirror.items]
    · rw [printable_cons_iff (Datum.nodes_inlineFragment _ _ _) rfl]
      simp [Datum.Printable, or_imp, forall_and]
  | bare serial => exact yields_bare (by simp [Datum.nodes]) rfl

/-! ## Definitions -/

/-- A typed reference to a type can be written exactly if it is of some kind. -/
theorem yields_typeRef
    (names : NamesFit named fit plain)
    {given : Datum}
    (typed : Typed.TypeRef named given) :
    Yields (typeRef given) given.Printable
      (fun type => TypeFits fit type ∧ (plain → type = Mirror.typeRef given)) := by
  induction typed with
  | @name label isNamed =>
    have fits := names.shown label isNamed
    refine (Yields.ok ⟨fits, fun isPlain => ?same⟩).congr ?printable
    case same => rw [names.same isPlain label isNamed, Mirror.typeRef]
    case printable => simp [Datum.Printable, Datum.nodes, Datum.isUnprintable]
  | @list of _ inductionHypothesis =>
    rw [typeRef]
    refine (inductionHypothesis.map ?_).congr
      (printable_cons_iff (Datum.nodes_listType _) rfl).symm
    rintro type ⟨fits, same⟩
    refine ⟨fits, ?_⟩
    intro isPlain
    rw [same isPlain, Mirror.typeRef]
  | @nonNull of _ inductionHypothesis =>
    rw [typeRef]
    refine (inductionHypothesis.map ?_).congr
      (printable_cons_iff (Datum.nodes_nonNullType _) rfl).symm
    rintro type ⟨fits, same⟩
    refine ⟨fits, ?_⟩
    intro isPlain
    rw [same isPlain, Mirror.typeRef]
  | bare serial => exact yields_bare (by simp [Datum.nodes]) rfl

/-- Every number in the declaration has a numeral, and every node is of some kind. -/
def PrintableDeclaration (given : Datum) : Prop :=
  ∀ node ∈ given.declaredNodes, node.isUnprintable = false

theorem variableDefinition_variable (name : Label) (type default : Datum) :
    variableDefinition (.variable name type default) = (do
      let written ← typeRef type
      return ⟨name.shown, written, ← defaultOf (.variable name type default)⟩) := rfl

/-- A default value is written as a value that is put into running text. -/
theorem defaultOf_variable
    (name : Label)
    (type : Datum)
    {default : Datum}
    (typed : Typed.Value named default) :
    defaultOf (.variable name type default) =
      (value default).map fun written => some (embed default written) := by
  cases typed <;> rfl

theorem yields_variableDefinition
    (names : NamesFit named fit plain)
    {given : Datum}
    (typed : Typed.Declaration named given) :
    Yields (variableDefinition given) (PrintableDeclaration given)
      (Mirrors plain (VariableDefinition.Means fit) Mirror.variableDefinition given) := by
  cases typed with
  | @plain name type isNamed typedType =>
    rw [variableDefinition_variable]
    refine ((yields_typeRef names typedType).bind fun written fitsAndSame =>
      show Yields (.ok (VariableDefinition.mk name.shown written none)) True _ from
        .ok ?_).congr ?_
    · obtain ⟨fits, same⟩ := fitsAndSame
      refine ⟨_, .plain (names.shown name isNamed) fits, ?_⟩
      intro isPlain
      rw [names.same isPlain name isNamed, same isPlain, Mirror.variableDefinition]
    · rw [PrintableDeclaration, Datum.nodes_variable_declared]
      simp [Datum.Printable, Datum.isUnprintable, Datum.nodes, or_imp, forall_and]
  | @withDefault name type default isNamed typedType typedDefault constant =>
    rw [variableDefinition_variable, defaultOf_variable name type typedDefault]
    have yieldsDefault : Yields
        ((value default).map fun written => some (embed default written)) default.Printable
        (fun written? => ∃ given, written? = some given ∧
          Mirrors plain (Value.Means fit) Mirror.value default given) :=
      (yields_value names typedDefault).map fun given mirrors =>
        ⟨_, rfl, mirrors_embed names typedDefault mirrors⟩
    refine ((yields_typeRef names typedType).bind fun written fitsAndSame =>
      yieldsDefault.bind fun written? meansDefault =>
        show Yields (.ok (VariableDefinition.mk name.shown written written?)) True _ from
          .ok ?_).congr ?_
    · obtain ⟨fits, same⟩ := fitsAndSame
      obtain ⟨given, rfl, meant, means, mirror⟩ := meansDefault
      refine ⟨_, .withDefault (names.shown name isNamed) fits means, ?_⟩
      intro isPlain
      rw [names.same isPlain name isNamed, same isPlain, mirror isPlain,
        typedDefault.mirror_variable]
    · rw [PrintableDeclaration, Datum.nodes_variable_declared, and_true]
      simp [Datum.Printable, Datum.isUnprintable, or_imp, forall_and]

theorem printableDeclaration_tuple_iff (items : List Datum) :
    PrintableDeclaration (.tuple items) ↔ ∀ item ∈ items, PrintableDeclaration item := by
  simp only [PrintableDeclaration, Datum.declaredNodes_tuple, List.forall_mem_flatMap]

theorem variablesOf_tuple (items : List Datum) :
    variablesOf (.tuple items) =
      if items.isEmpty then .ok none else (items.mapM variableDefinition).map some := by
  rw [← declarations_eq_mapM]
  cases items with
  | nil => rfl
  | cons item items => rfl

theorem yields_variablesOf
    (names : NamesFit named fit plain)
    {items : List Datum}
    (typed : ∀ item ∈ items, Typed.Declaration named item) :
    Yields (variablesOf (.tuple items)) (PrintableDeclaration (.tuple items))
      (fun declared? => declared? ≠ some [] ∧
        ∃ meant, List.Forall₂ (VariableDefinition.Means fit) (declared?.getD []) meant ∧
          (plain → meant = items.map Mirror.variableDefinition)) := by
  rw [variablesOf_tuple, printableDeclaration_tuple_iff]
  have yieldsEach := Yields.mapM fun item present =>
    yields_variableDefinition names (typed item present)
  exact (yieldsEach.mono fun _ mirrors => exists_mirrors mirrors).unlessEmpty

/-- The head of an operation of some kind is the keyword of the kind. -/
theorem head_kind (kind : Source.OperationKind) :
    Head.of (Typed.kind kind) = .ok (.word kind.text) := by
  cases kind <;> rfl

theorem mirror_kind (kind : Source.OperationKind) :
    Mirror.operationKind (Typed.kind kind) = kind := by
  cases kind <;> rfl

theorem definition_operation
    (kind : Source.OperationKind)
    (name? : Option Label)
    (declared directives selections : Datum) :
    definition (.operation (Typed.kind kind) name? declared directives selections) = (do
      let declared? ← variablesOf declared
      let applied ← directivesOf directives
      let selected? ← selectionsOf selections
      .ok (.operation kind.text (name?.map Label.shown) declared? applied selected?)) := by
  rw [definition, head_kind]
  cases name? <;> simp [Head.check, Head.checkShown, Head.operation]

/-- A typed definition can be written exactly if its numbers have numerals. -/
theorem yields_definition
    (names : NamesFit named fit plain)
    {given : Datum}
    (typed : Typed.Definition named given) :
    Yields (definition given) given.Printable
      (Mirrors plain (Definition.Means fit) Mirror.definition given) := by
  cases typed with
  | @operation kind name? declarations directives selections isNamed typedDeclarations
      typedDirectives typedSelections =>
    rw [definition_operation]
    refine ((yields_variablesOf names typedDeclarations).bind
      fun declared? ⟨notEmptied, declared, declaredMean, declaredMirror⟩ =>
        (yields_directives names typedDirectives).bind fun applied ⟨_, means, mirrors⟩ =>
          (yields_selectionsOf fun item present =>
            yields_selection names (typedSelections item present)).bind
              fun selected? ⟨_, _, selectionsMean, selectionsMirror⟩ => .ok ?_).congr ?_
    · refine ⟨_, .operation kind (names.shown_of_mem isNamed) notEmptied declaredMean means
        selectionsMean, ?_⟩
      intro isPlain
      rw [Mirror.definition, mirror_kind, names.same_map isNamed isPlain,
        declaredMirror isPlain, mirrors isPlain, selectionsMirror isPlain]
      rfl
    · rw [printable_cons_iff (Datum.nodes_operation _ _ _ _ _) rfl]
      simp [Datum.Printable, PrintableDeclaration, or_imp, forall_and]
  | @fragment name condition directives selections isNamed notOn conditionNamed
      typedDirectives typedSelections =>
    rw [definition]
    refine ((yields_directives names typedDirectives).bind fun applied ⟨_, means, mirrors⟩ =>
      (yields_selectionsOf fun item present =>
        yields_selection names (typedSelections item present)).bind
          fun selected? ⟨_, _, selectionsMean, selectionsMirror⟩ => .ok ?_).congr ?_
    · refine ⟨_, .fragment (names.shown name isNamed) (names.shown condition conditionNamed)
        means selectionsMean, ?_⟩
      intro isPlain
      rw [Mirror.definition, names.same isPlain name isNamed,
        names.same isPlain condition conditionNamed, mirrors isPlain, selectionsMirror isPlain]
    · rw [printable_cons_iff (Datum.nodes_fragmentDefinition _ _ _ _) rfl]
      simp [Datum.Printable, or_imp, forall_and]

/-- A typed document can be written exactly if its numbers have numerals. -/
theorem yields_document
    (names : NamesFit named fit plain)
    {given : Datum}
    (typed : Typed.Document named given) :
    Yields (document given) given.Printable
      (Mirrors plain (DocumentMeans fit) Mirror.document given) := by
  obtain ⟨typed⟩ := typed
  rw [document, definitionsOf, definitions_eq_mapM]
  refine ((yields_items fun item present =>
    yields_definition names (typed item present)).mono ?_).congr ?_
  · rintro written ⟨meant, means, same⟩
    refine ⟨⟨meant⟩, means, ?_⟩
    intro isPlain
    rw [Mirror.document, same isPlain]
  · rw [printable_cons_iff (Datum.nodes_document _) rfl]
    rfl

end Written
end GraphQL
