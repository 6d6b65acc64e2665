import GraphQL.Proofs.Data.Record

/-!
# Data within data

Data holds other data: collections their items, records their fields, members of enums
their values, and nodes their parts.  What is asked of every single piece is true
throughout some data exactly if it is true of the data itself and throughout all that it
holds.  If it is asked of nodes only, then it stays true when records become
dictionaries, in which there are no nodes.
-/

namespace GraphQL
namespace Datum

/-- What some data holds directly. -/
def held : Datum → List Datum
  | list items | tuple items | set items => items
  | dict entries => entries.map (·.1) ++ entries.map (·.2)
  | model _ fields => fields.map (·.2)
  | member _ _ value others => value :: others.map (·.2)
  | node => node.parts.map (·.2)

/-- The data is the other data, or is held somewhere in it. -/
inductive Within (part : Datum) : Datum → Prop
  | self : Within part part
  | held {whole direct : Datum} :
      direct ∈ whole.held →
      Within part direct →
      Within part whole

theorem Within.trans
    {part middle whole : Datum}
    (inside : Within part middle)
    (around : Within middle whole) :
    Within part whole := by
  induction around with
  | self => exact inside
  | held direct _ inductionHypothesis => exact .held direct inductionHypothesis

/-! ## Induction on what is held -/

section Induction

/-- The motive is true of data if it is true of what the data holds. -/
def Climbs (motive : Datum → Prop) : Prop :=
  ∀ whole : Datum, (∀ direct ∈ whole.held, motive direct) → motive whole

variable {motive : Datum → Prop}

theorem Climbs.ofLabel (climbs : Climbs motive) (label : Label) : motive (ofLabel label) := by
  have ofText : motive (.text label.text) := climbs _ nofun
  unfold Datum.ofLabel
  cases label.member? with
  | none => exact ofText
  | some member => exact climbs _ (List.forall_mem_singleton.mpr ofText)

theorem Climbs.ofLabel? (climbs : Climbs motive) (label? : Option Label) :
    motive (ofLabel? label?) := by
  cases label? with
  | none => exact climbs _ nofun
  | some label => exact climbs.ofLabel label

mutual

/-- What climbs from held data to the data that holds it is true of all data. -/
theorem Climbs.all (climbs : Climbs motive) (datum : Datum) : motive datum := by
  match datum with
  | .null | .unset | .scalar _ | .bare _ _ | .nullValue => exact climbs _ nofun
  | .list items | .tuple items | .set items => exact climbs _ (climbs.items items)
  | .dict entries =>
    have ofEntries := climbs.entries entries
    refine climbs _ (List.forall_mem_append.mpr ⟨?_, ?_⟩)
    · exact List.forall_mem_map.mpr fun entry present => (ofEntries entry present).1
    · exact List.forall_mem_map.mpr fun entry present => (ofEntries entry present).2
  | .model _ fields => exact climbs _ (List.forall_mem_map.mpr (climbs.fields fields))
  | .member _ _ value others =>
    have ofOthers := List.forall_mem_map.mpr (climbs.others others)
    exact climbs _ (List.forall_mem_cons.mpr ⟨climbs.all value, ofOthers⟩)
  | .namedType name | .enumValue name =>
    exact climbs _ (by simp [held, parts, climbs.ofLabel])
  | .listType part | .nonNullType part | .booleanValue part | .intValue part | .floatValue part
  | .stringValue part | .listValue part | .objectValue part | .document part =>
    exact climbs _ (by simp [held, parts, climbs.all part])
  | .objectField name part | .argument name part | .directive name part
  | .fragmentSpread name part =>
    exact climbs _ (by simp [held, parts, climbs.ofLabel, climbs.all part])
  | .variable name type default =>
    exact climbs _ (by simp [held, parts, climbs.ofLabel, climbs.all type, climbs.all default])
  | .field name alias? arguments directives selections =>
    exact climbs _ (by
      simp [held, parts, climbs.ofLabel, climbs.ofLabel?, climbs.all arguments,
        climbs.all directives, climbs.all selections])
  | .inlineFragment condition? directives selections =>
    exact climbs _ (by
      simp [held, parts, climbs.ofLabel?, climbs.all directives, climbs.all selections])
  | .operation kind name? declared directives selections =>
    exact climbs _ (by
      simp [held, parts, climbs.ofLabel?, climbs.all kind, climbs.all declared,
        climbs.all directives, climbs.all selections])
  | .fragmentDefinition name condition directives selections =>
    exact climbs _ (by
      simp [held, parts, climbs.ofLabel, climbs.all directives, climbs.all selections])
  | .printOptions indent compact =>
    exact climbs _ (by simp [held, parts, climbs.all indent, climbs.all compact])

theorem Climbs.items (climbs : Climbs motive) (items : List Datum) :
    ∀ item ∈ items, motive item := by
  match items with
  | [] => exact List.forall_mem_nil _
  | item :: items => exact List.forall_mem_cons.mpr ⟨climbs.all item, climbs.items items⟩

theorem Climbs.entries (climbs : Climbs motive) (entries : List (Datum × Datum)) :
    ∀ entry ∈ entries, motive entry.1 ∧ motive entry.2 := by
  match entries with
  | [] => exact List.forall_mem_nil _
  | (key, item) :: entries =>
    exact List.forall_mem_cons.mpr ⟨⟨climbs.all key, climbs.all item⟩, climbs.entries entries⟩

theorem Climbs.fields (climbs : Climbs motive) (fields : List (FieldName × Datum)) :
    ∀ field ∈ fields, motive field.2 := by
  match fields with
  | [] => exact List.forall_mem_nil _
  | (_, item) :: fields => exact List.forall_mem_cons.mpr ⟨climbs.all item, climbs.fields fields⟩

theorem Climbs.others (climbs : Climbs motive) (others : List (String × Datum)) :
    ∀ other ∈ others, motive other.2 := by
  match others with
  | [] => exact List.forall_mem_nil _
  | (_, item) :: others => exact List.forall_mem_cons.mpr ⟨climbs.all item, climbs.others others⟩

end

end Induction

/-! ## Throughout data -/

/-- Something is true of the data and of all that is held in it. -/
def Throughout (good : Datum → Prop) (whole : Datum) : Prop :=
  ∀ part, Within part whole → good part

variable {good : Datum → Prop}

theorem throughout_iff {whole : Datum} :
    Throughout good whole ↔ good whole ∧ ∀ direct ∈ whole.held, Throughout good direct := by
  constructor
  · intro throughout
    refine ⟨throughout whole .self, ?_⟩
    intro direct present part inside
    exact throughout part (.held present inside)
  · rintro ⟨isGood, throughoutHeld⟩ part inside
    cases inside with
    | self => exact isGood
    | held present further => exact throughoutHeld _ present part further

theorem Throughout.of_within
    {part whole : Datum}
    (throughout : Throughout good whole)
    (inside : Within part whole) :
    Throughout good part :=
  fun _ further => throughout _ (further.trans inside)

theorem Throughout.of_held
    {part whole : Datum}
    (throughout : Throughout good whole)
    (isHeld : part ∈ whole.held) :
    Throughout good part :=
  throughout.of_within (.held isHeld .self)

/-- Something is asked of nodes that have parts, and is true of everything else. -/
def AsksNodes (good : Datum → Prop) : Prop :=
  ∀ datum : Datum, datum.parts = [] → good datum

section Collections

variable (asksNodes : AsksNodes good)

include asksNodes

theorem throughout_iff_of_no_parts
    {whole : Datum}
    (noParts : whole.parts = []) :
    Throughout good whole ↔ ∀ direct ∈ whole.held, Throughout good direct := by
  rw [throughout_iff]
  exact and_iff_right (asksNodes whole noParts)

theorem throughout_tuple_iff {items : List Datum} :
    Throughout good (.tuple items) ↔ ∀ item ∈ items, Throughout good item :=
  throughout_iff_of_no_parts asksNodes rfl

theorem throughout_dict_iff {entries : List (Datum × Datum)} :
    Throughout good (.dict entries) ↔
      ∀ entry ∈ entries, Throughout good entry.1 ∧ Throughout good entry.2 := by
  rw [throughout_iff_of_no_parts asksNodes rfl, held, List.forall_mem_append,
    List.forall_mem_map, List.forall_mem_map]
  constructor
  · exact fun throughout entry present => ⟨throughout.1 entry present, throughout.2 entry present⟩
  · intro throughout
    exact ⟨fun entry present => (throughout entry present).1,
      fun entry present => (throughout entry present).2⟩

theorem throughout_of_nothing_held
    {whole : Datum}
    (noParts : whole.parts = [])
    (nothing : whole.held = []) :
    Throughout good whole := by
  rw [throughout_iff_of_no_parts asksNodes noParts, nothing]
  exact List.forall_mem_nil _

/-- A member of an enum that is only known by its text is good throughout. -/
theorem throughout_textMember (family : Family) (name value : String) :
    Throughout good (.member family name (.text value) []) := by
  rw [throughout_iff_of_no_parts asksNodes rfl]
  exact List.forall_mem_singleton.mpr (throughout_of_nothing_held asksNodes rfl rfl)

/-- A name is good throughout as data. -/
theorem throughout_ofLabel (label : Label) : Throughout good (ofLabel label) := by
  unfold ofLabel
  cases label.member? with
  | none => exact throughout_of_nothing_held asksNodes rfl rfl
  | some member => exact throughout_textMember asksNodes member.1 member.2 label.text

theorem throughout_ofLabel? (label? : Option Label) : Throughout good (ofLabel? label?) := by
  cases label? with
  | none => exact throughout_of_nothing_held asksNodes rfl rfl
  | some label => exact throughout_ofLabel asksNodes label

/-! ## Records as dictionaries -/

theorem throughout_ofParts
    {parts : List (String × Datum)}
    (throughout : ∀ part ∈ parts, Throughout good part.2) :
    Throughout good (ofParts parts) := by
  rw [ofParts, throughout_dict_iff asksNodes, List.forall_mem_map]
  intro part present
  exact ⟨throughout_of_nothing_held asksNodes rfl rfl, throughout part present⟩

end Collections

theorem expand_ofLabel (label : Label) : (ofLabel label).expand = ofLabel label := by
  unfold ofLabel
  split <;> rfl

theorem expand_ofLabel? (label? : Option Label) : (ofLabel? label?).expand = ofLabel? label? := by
  cases label? with
  | none => rfl
  | some label => exact expand_ofLabel label

theorem expandItems_eq (items : List Datum) : expandItems items = items.map expand := by
  induction items with
  | nil => rfl
  | cons item items inductionHypothesis => rw [expandItems, inductionHypothesis, List.map_cons]

theorem expandEntries_eq (entries : List (Datum × Datum)) :
    expandEntries entries = entries.map fun entry => (entry.1, entry.2.expand) := by
  induction entries with
  | nil => rfl
  | cons entry entries inductionHypothesis =>
    rw [expandEntries, inductionHypothesis, List.map_cons]

theorem held_of_parts
    {node : Datum}
    (someParts : node.parts ≠ []) :
    node.held = node.parts.map (·.2) := by
  cases node with
  | list | tuple | set | dict | model | member => exact absurd rfl someParts
  | _ => rfl

/-- A node in a record becomes the dictionary of its parts. -/
theorem expand_of_parts
    {node : Datum}
    (someParts : node.parts ≠ []) :
    node.expand = ofParts (node.parts.map fun part => (part.1, part.2.expand)) := by
  cases node <;> simp_all [expand, parts, expand_ofLabel, expand_ofLabel?]

/-- What becomes of data in a record is good throughout if the data is. -/
theorem throughout_expand
    (asksNodes : AsksNodes good)
    {given : Datum}
    (throughout : Throughout good given) :
    Throughout good given.expand := by
  suffices climbs : Climbs fun given => Throughout good given → Throughout good given.expand from
    climbs.all given throughout
  intro whole ofHeld throughout
  have ofDirect := fun direct present =>
    ofHeld direct present (throughout.of_held present)
  by_cases someParts : whole.parts ≠ []
  · rw [held_of_parts someParts, List.forall_mem_map] at ofDirect
    rw [expand_of_parts someParts]
    exact throughout_ofParts asksNodes (List.forall_mem_map.mpr ofDirect)
  · cases whole with
    | list items | tuple items | set items =>
      rw [expand, expandItems_eq, throughout_iff_of_no_parts asksNodes rfl]
      exact List.forall_mem_map.mpr ofDirect
    | dict entries =>
      rw [throughout_dict_iff asksNodes] at throughout
      rw [expand, expandEntries_eq, throughout_dict_iff asksNodes, List.forall_mem_map]
      intro entry present
      refine ⟨(throughout entry present).1, ofDirect entry.2 ?_⟩
      exact List.mem_append_right _ (List.mem_map_of_mem present)
    | model serial fields =>
      rw [expand_model]
      refine throughout_ofParts asksNodes ?_
      rw [Keyed.map_merge]
      intro entry present
      obtain ⟨field, isSet, rfl⟩ := List.mem_map.mp (Keyed.mem_of_mem_merge present)
      obtain ⟨field, isField, rfl⟩ := List.mem_map.mp isSet
      exact ofDirect field.2 (List.mem_map_of_mem (List.mem_of_mem_filter isField))
    | nullValue => exact throughout_ofParts asksNodes (List.forall_mem_nil _)
    | null | unset | scalar | bare | member => exact throughout
    | _ => simp [parts] at someParts

theorem unfoldItems_eq (items : List Datum) : unfoldItems items = items.map unfold := by
  induction items with
  | nil => rfl
  | cons item items inductionHypothesis => rw [unfoldItems, inductionHypothesis, List.map_cons]

theorem unfoldEntries_eq (entries : List (Datum × Datum)) :
    unfoldEntries entries = entries.map fun entry => (entry.1, entry.2.unfold) := by
  induction entries with
  | nil => rfl
  | cons entry entries inductionHypothesis =>
    rw [unfoldEntries, inductionHypothesis, List.map_cons]

/-- Data with the records in it as dictionaries is good throughout if the data is. -/
theorem throughout_unfold
    (asksNodes : AsksNodes good)
    {given : Datum}
    (throughout : Throughout good given) :
    Throughout good given.unfold := by
  suffices climbs : Climbs fun given => Throughout good given → Throughout good given.unfold from
    climbs.all given throughout
  intro whole ofHeld throughout
  have ofDirect := fun direct present =>
    ofHeld direct present (throughout.of_held present)
  cases whole with
  | list items | tuple items =>
    rw [unfold, unfoldItems_eq, throughout_iff_of_no_parts asksNodes rfl]
    exact List.forall_mem_map.mpr ofDirect
  | dict entries =>
    rw [throughout_dict_iff asksNodes] at throughout
    rw [unfold, unfoldEntries_eq, throughout_dict_iff asksNodes, List.forall_mem_map]
    intro entry present
    refine ⟨(throughout entry present).1, ofDirect entry.2 ?_⟩
    exact List.mem_append_right _ (List.mem_map_of_mem present)
  | model serial fields =>
    rw [unfold]
    split
    case isTrue => exact throughout_expand asksNodes throughout
    case isFalse => exact throughout
  | _ => exact throughout

end Datum
end GraphQL
