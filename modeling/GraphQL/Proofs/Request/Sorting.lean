import GraphQL.Proofs.Request.Repeat
import GraphQL.Proofs.Request.Typed
import Mathlib.Data.List.Perm.Basic

/-!
# How items are sorted

The factories of fields, selection sets, operations and fragments take their children as
items in any order and grouping.  All that counts of the items is their leaves from left to
right: the first leaf of a kind that is not accepted is refused, and otherwise every leaf
becomes a child of its kind, in the order of the leaves.  Leaves of different kinds may
therefore change places.  Once the items are sorted, only names can still be at fault.
-/

namespace GraphQL

open Outcome Datum

/-- Something is no name, or is the name of two things.  What is no name may be too long to be
shown. -/
def Fault.isNaming : Fault → Bool
  | invalidName _ _ | duplicateName _ _ _ _ | tooLongToWrite => true
  | _ => false

/-! ## Checks of names -/

namespace Node

theorem blames_checkName (kind : String) (given : Datum) :
    Blames (checkName kind given) (·.isNaming = true) := by
  unfold checkName
  split
  case h_1 =>
    split
    case isTrue => exact .ok _
    case isFalse => exact .error rfl
  case h_2 =>
    rcases Fault.raised_eq_or (.invalidName kind given) with same | same <;>
      (rw [same]; exact .error rfl)

theorem blames_checkName? (kind : String) (given : Datum) :
    Blames (checkName? kind given) (·.isNaming = true) := by
  unfold checkName?
  split
  case h_1 => exact .ok _
  case h_2 => exact (blames_checkName kind _).map some

/-- Of items with names, only the names can be refused. -/
theorem blames_checkDistinct
    {word owner : String}
    {seen items : List Datum}
    (areNamed : ∀ item ∈ items, ∃ name, item.part? "name" = some (ofLabel name)) :
    Blames (checkDistinct word owner seen items) (·.isNaming = true) := by
  induction items generalizing seen with
  | nil => exact .ok ()
  | cons item items inductionHypothesis =>
    rw [List.forall_mem_cons] at areNamed
    obtain ⟨⟨name, isNamed⟩, areNamed⟩ := areNamed
    rw [checkDistinct, part_eq_ok_iff.mpr isNamed, ok_bind, check_ofLabel, ok_bind]
    split
    case isTrue =>
      rw [shown_ofLabel]
      exact .error rfl
    case isFalse => exact inductionHypothesis areNamed

theorem blames_checkUnique
    {word owner : String}
    {items : List Datum}
    (areNamed : ∀ item ∈ items, ∃ name, item.part? "name" = some (ofLabel name)) :
    Blames (checkUnique word owner (.tuple items)) (·.isNaming = true) :=
  blames_checkDistinct areNamed

end Node

namespace Build

/-! ## Leaves of items -/

/-- Items that are nested in lists and tuples have some leaves, from left to right: what is
neither a list nor a tuple is a leaf, and a list or tuple stands for the leaves of its items. -/
inductive Flattens : List Datum → List Datum → Prop
  | nil : Flattens [] []
  | leaf {item : Datum} {items leaves : List Datum} :
      (∀ inner, item ≠ .list inner) →
      (∀ inner, item ≠ .tuple inner) →
      Flattens items leaves →
      Flattens (item :: items) (item :: leaves)
  | list {inner innerLeaves items leaves : List Datum} :
      Flattens inner innerLeaves →
      Flattens items leaves →
      Flattens (.list inner :: items) (innerLeaves ++ leaves)
  | tuple {inner innerLeaves items leaves : List Datum} :
      Flattens inner innerLeaves →
      Flattens items leaves →
      Flattens (.tuple inner :: items) (innerLeaves ++ leaves)

/-- What items are flattened to is their leaves. -/
theorem flattens_flatten (items : List Datum) : Flattens items (flatten items) := by
  refine flatten.induct
    (fun item => ∀ {items leavesOfItems : List Datum}, Flattens items leavesOfItems →
      Flattens (item :: items) (leaves item ++ leavesOfItems))
    (fun items => Flattens items (flatten items)) ?list ?tuple ?leaf ?nil ?cons items
  case list =>
    intro inner ofInner items leavesOfItems ofItems
    rw [leaves]
    exact .list ofInner ofItems
  case tuple =>
    intro inner ofInner items leavesOfItems ofItems
    rw [leaves]
    exact .tuple ofInner ofItems
  case leaf =>
    intro item notList notTuple items leavesOfItems ofItems
    rw [leaves.eq_3 item notList notTuple]
    exact .leaf notList notTuple ofItems
  case nil =>
    rw [flatten_nil]
    exact .nil
  case cons =>
    intro item items ofItem ofItems
    rw [flatten_cons]
    exact ofItem ofItems

/-- Items have no other leaves than what they are flattened to. -/
theorem flattens_iff {items found : List Datum} :
    Flattens items found ↔ found = flatten items := by
  constructor
  · intro flattens
    induction flattens with
    | nil => rw [flatten_nil]
    | leaf notList notTuple _ inductionHypothesis =>
      rw [flatten_cons, leaves.eq_3 _ notList notTuple, inductionHypothesis]
      rfl
    | list _ _ ofInner ofItems => rw [flatten_cons, leaves, ofInner, ofItems]
    | tuple _ _ ofInner ofItems => rw [flatten_cons, leaves, ofInner, ofItems]
  · rintro rfl
    exact flattens_flatten items

/-! ## Kinds of items -/

namespace ItemKind

/-- What the children of a kind are called as a part of their owner. -/
def partName : ItemKind → String
  | argument => "arguments"
  | .variable => "variables"
  | directive => "directives"
  | selection => "selections"

/-- The kind of an item, if it is of one. -/
def of? : Datum → Option ItemKind
  | .argument _ _ => some argument
  | .variable _ _ _ => some .variable
  | .directive _ _ => some directive
  | .bare .selection _ | .field _ _ _ _ _ | .fragmentSpread _ _ | .inlineFragment _ _ _ =>
    some selection
  | _ => none

theorem includes_iff {kind : ItemKind} {item : Datum} :
    kind.includes item = true ↔ of? item = some kind := by
  cases item with
  | bare sort serial =>
    cases sort <;> cases kind <;>
      simp [includes, of?, isArgument, isVariable, isDirective, isSelection]
  | _ => cases kind <;> simp [includes, of?, isArgument, isVariable, isDirective, isSelection]

/-- No item is of two kinds. -/
theorem eq_of_includes
    {kind other : ItemKind}
    {item : Datum}
    (included : kind.includes item = true)
    (includedToo : other.includes item = true) :
    kind = other :=
  Option.some.inj ((includes_iff.mp included).symm.trans (includes_iff.mp includedToo))

/-- Arguments and variables have names. -/
theorem exists_name_of_includes
    {kind : ItemKind}
    (named : kind = .argument ∨ kind = .variable)
    {item : Datum}
    (included : kind.includes item = true) :
    ∃ name, item.part? "name" = some (ofLabel name) := by
  rcases named with rfl | rfl
  · cases item with
    | argument name _ => exact ⟨name, rfl⟩
    | _ => cases included
  · cases item with
    | «variable» name _ _ => exact ⟨name, rfl⟩
    | _ => cases included

end ItemKind

/-- The item is of one of some kinds. -/
def Accepted (accepted : List ItemKind) (item : Datum) : Prop :=
  ∃ kind ∈ accepted, kind.includes item = true

/-- An accepted item is of exactly one kind. -/
theorem Accepted.existsUnique
    {accepted : List ItemKind}
    {item : Datum}
    (isAccepted : Accepted accepted item) :
    ∃! kind, kind ∈ accepted ∧ kind.includes item = true := by
  obtain ⟨kind, present, included⟩ := isAccepted
  exact ⟨kind, ⟨present, included⟩, fun _ other => ItemKind.eq_of_includes other.2 included⟩

/-- Items of accepted kinds, put together kind by kind, are the same items. -/
theorem perm_flatMap_filter
    {accepted : List ItemKind}
    (different : accepted.Nodup)
    {items : List Datum}
    (areAccepted : ∀ item ∈ items, Accepted accepted item) :
    items.Perm (accepted.flatMap fun kind => items.filter kind.includes) := by
  induction accepted generalizing items with
  | nil =>
    cases items with
    | nil => exact .nil
    | cons item items =>
      obtain ⟨_, present, -⟩ := areAccepted item List.mem_cons_self
      cases present
  | cons kind kinds inductionHypothesis =>
    rw [List.nodup_cons] at different
    have restAccepted : ∀ item ∈ items.filter fun item => !kind.includes item,
        Accepted kinds item := by
      intro item present
      obtain ⟨among, other⟩ := List.mem_filter.mp present
      obtain ⟨found, isKind, included⟩ := areAccepted item among
      rcases List.mem_cons.mp isKind with rfl | isKind
      · simp [included] at other
      · exact ⟨found, isKind, included⟩
    have ofRest := inductionHypothesis different.2 restAccepted
    -- What is of one of the other kinds is not of this one, so nothing of them was taken out.
    have same : ∀ other ∈ kinds,
        (items.filter fun item => !kind.includes item).filter other.includes =
          items.filter other.includes := by
      intro other isKind
      rw [List.filter_filter]
      refine List.filter_congr fun item _ => ?_
      cases included : other.includes item with
      | false => rfl
      | true =>
        have notBoth : kind.includes item ≠ true := by
          intro includedToo
          rw [ItemKind.eq_of_includes includedToo included] at different
          exact different.1 isKind
        simp [notBoth]
    have together : (kinds.flatMap fun other =>
        (items.filter fun item => !kind.includes item).filter other.includes) =
        kinds.flatMap fun other => items.filter other.includes :=
      List.flatMap_congr same
    rw [together] at ofRest
    rw [List.flatMap_cons]
    exact (List.filter_append_perm kind.includes items).symm.trans (ofRest.append_left _)

/-! ## The outcome of sorting -/

theorem any_includes_iff {accepted : List ItemKind} {item : Datum} :
    (accepted.any fun kind => kind.includes item) = true ↔ Accepted accepted item :=
  List.any_eq_true

/-- Items are sorted if all of their leaves are accepted. -/
theorem sort_of_accepted
    {accepted : List ItemKind}
    {items : List Datum}
    (areAccepted : ∀ leaf ∈ flatten items, Accepted accepted leaf) :
    sort accepted items = .ok ⟨flatten items⟩ := by
  have noneRefused : ((flatten items).find? fun leaf =>
      !accepted.any fun kind => kind.includes leaf) = none := by
    rw [List.find?_eq_none]
    intro leaf among
    simpa using any_includes_iff.mpr (areAccepted leaf among)
  simp only [sort, noneRefused]

/-- The first leaf that is not accepted is refused. -/
theorem sort_of_not_accepted
    {accepted : List ItemKind}
    {items before after : List Datum}
    {leaf : Datum}
    (split : flatten items = before ++ leaf :: after)
    (areAccepted : ∀ earlier ∈ before, Accepted accepted earlier)
    (notAccepted : ¬Accepted accepted leaf) :
    sort accepted items =
      .error (.unexpectedItem leaf.className (accepted.map ItemKind.text)) := by
  have refused : ((flatten items).find? fun leaf =>
      !accepted.any fun kind => kind.includes leaf) = some leaf := by
    rw [List.find?_eq_some_iff_append]
    refine ⟨by simpa [any_includes_iff] using mt any_includes_iff.mp notAccepted, before, after,
      split, ?_⟩
    intro earlier among
    simpa using any_includes_iff.mpr (areAccepted earlier among)
  simp only [sort, refused]

/-- Of leaves that are not all accepted, there is a first one that is not. -/
theorem exists_first_not_accepted
    {accepted : List ItemKind}
    {leaves : List Datum}
    {leaf : Datum}
    (among : leaf ∈ leaves)
    (notAccepted : ¬Accepted accepted leaf) :
    ∃ before first after, leaves = before ++ first :: after ∧
      (∀ earlier ∈ before, Accepted accepted earlier) ∧ ¬Accepted accepted first := by
  induction leaves with
  | nil => cases among
  | cons other leaves inductionHypothesis =>
    by_cases isAccepted : Accepted accepted other
    · rcases List.mem_cons.mp among with rfl | among
      · exact absurd isAccepted notAccepted
      · obtain ⟨before, first, after, rfl, areAccepted, firstNot⟩ := inductionHypothesis among
        exact ⟨other :: before, first, after, rfl,
          List.forall_mem_cons.mpr ⟨isAccepted, areAccepted⟩, firstNot⟩
    · exact ⟨[], other, leaves, rfl, List.forall_mem_nil _, isAccepted⟩

/-! ## Factories that sort -/

/-- A factory that sorts its items, with what else it is given.  The kind of an operation is
one of the three, or the word for it. -/
inductive Sorter
  | field (name label : Datum)
  | inlineFragment (condition : Datum)
  | fragment (name condition : Datum)
  | operation {given : Datum} {kind : Source.OperationKind}
      (isKind : operationKind given = .ok (Typed.kind kind)) (name : Datum)

namespace Sorter

/-- The kinds of items that the factory accepts. -/
def accepted : Sorter → List ItemKind
  | field _ _ => [.argument, .directive, .selection]
  | inlineFragment _ | fragment _ _ => [.directive, .selection]
  | operation _ _ => [.variable, .directive, .selection]

/-- What the factory makes of items. -/
def make (items : List Datum) : Sorter → Except Fault Datum
  | field name label => Build.field name items label
  | inlineFragment condition => Build.inlineFragment condition items
  | fragment name condition => Build.fragment name condition items
  | @operation given _ _ name => Build.operation given items name

/-- The first item, if it is the name of an operation. -/
def title? : List Datum → Sorter → Option Datum
  | first :: _, operation _ _ => if first.asText?.isSome then some first else none
  | _, _ => none

/-- The items without the name of an operation. -/
def children (items : List Datum) (sorter : Sorter) : List Datum :=
  if (sorter.title? items).isSome then items.tail else items

/-- An operation is given a name and has a name for its first item. -/
def isNamedTwice (items : List Datum) (sorter : Sorter) : Bool :=
  match sorter with
  | operation _ name => (sorter.title? items).isSome && !name.isNull
  | _ => false

/-- The node with given children of each kind. -/
def assemble (title? : Option Datum) (children : ItemKind → Datum) :
    Sorter → Except Fault Datum
  | field name label =>
    Node.field name label (children .argument) (children .directive) (children .selection)
  | inlineFragment condition =>
    Node.inlineFragment condition (children .directive) (children .selection)
  | fragment name condition =>
    Node.fragmentDefinition name condition (children .directive) (children .selection)
  | @operation _ kind _ name =>
    Node.operation (Typed.kind kind) (title?.getD name) (children .variable)
      (children .directive) (children .selection)

variable (sorter : Sorter) (items : List Datum)

theorem nodup_accepted : sorter.accepted.Nodup := by
  cases sorter <;> simp [accepted]

theorem operationName_eq (given name : Datum) {kind : Source.OperationKind}
    (isKind : operationKind given = .ok (Typed.kind kind)) :
    operationName name items =
      if (operation isKind name).isNamedTwice items then .error .nameGivenTwice
      else .ok (((operation isKind name).title? items).getD name,
        (operation isKind name).children items) := by
  cases items with
  | nil => rfl
  | cons first rest =>
    cases isText : first.asText? with
    | none => simp [operationName, isNamedTwice, children, title?, isText]
    | some text =>
      cases isNull : name.isNull with
      | false => simp [operationName, isNamedTwice, title?, isText, isNull]
      | true => simp [operationName, isNamedTwice, children, title?, isText, isNull]

/-- An operation that is named twice is refused. -/
theorem make_of_isNamedTwice (namedTwice : sorter.isNamedTwice items = true) :
    sorter.make items = .error .nameGivenTwice := by
  cases sorter with
  | operation isKind name =>
    rw [make, Build.operation, isKind, ok_bind, operationName_eq items _ name isKind,
      if_pos namedTwice]
    rfl
  | _ => cases namedTwice

/-- A factory sorts its items and makes a node with the children that it finds. -/
theorem make_eq (notTwice : sorter.isNamedTwice items = false) :
    sorter.make items = (do
      let sorted ← sort sorter.accepted (sorter.children items)
      sorter.assemble (sorter.title? items) sorted.of) := by
  have untitled (untitled : sorter.title? items = none) : sorter.children items = items := by
    rw [children, untitled]
    rfl
  cases sorter with
  | operation isKind name =>
    rw [make, Build.operation, isKind, ok_bind, operationName_eq items _ name isKind,
      if_neg (by simp [notTwice])]
    rfl
  | _ =>
    rw [untitled (by simp [title?])]
    rfl

/-! ## Nodes from sorted items -/

variable {sorter items}

/-- Children of accepted kinds are all that a node is made of. -/
theorem assemble_congr
    {title? : Option Datum}
    {first second : ItemKind → Datum}
    (same : ∀ kind ∈ sorter.accepted, first kind = second kind) :
    sorter.assemble title? first = sorter.assemble title? second := by
  cases sorter <;> simp_all [accepted, assemble]

theorem title_kind (kind : Source.OperationKind) (name? : Option Label) :
    ∃ called, Node.title (Typed.kind kind) name? = .ok called := by
  cases name? with
  | none => cases kind <;> exact ⟨_, rfl⟩
  | some name => exact ⟨name.shown, rfl⟩

/-- Where children are of the kinds they are sorted by, only names can be at fault. -/
theorem blames_assemble
    (title? : Option Datum)
    (sorted : Sorted) :
    Blames (sorter.assemble title? sorted.of) (·.isNaming = true) := by
  have areNamed {kind : ItemKind} (named : kind = .argument ∨ kind = .variable) :
      ∀ item ∈ sorted.items.filter kind.includes,
        ∃ name, item.part? "name" = some (ofLabel name) := by
    intro item present
    exact ItemKind.exists_name_of_includes named (List.of_mem_filter present)
  cases sorter with
  | field name label =>
    refine (Node.blames_checkName _ name).bind fun _ _ => ?_
    refine (Node.blames_checkName? _ label).bind fun _ _ => ?_
    exact (Node.blames_checkUnique (areNamed (.inl rfl))).bind fun _ _ => .ok _
  | inlineFragment condition => exact (Node.blames_checkName? _ condition).map _
  | fragment name condition =>
    refine (Node.blames_checkName _ name).bind fun _ _ => ?_
    split
    case isTrue => exact .error rfl
    case isFalse => exact (Node.blames_checkName _ condition).bind fun _ _ => .ok _
  | @operation _ kind _ name =>
    rw [assemble, Node.operation_eq]
    refine (Node.blames_checkName? _ _).bind fun name? _ => ?_
    obtain ⟨called, isTitle⟩ := title_kind kind name?
    rw [isTitle, ok_bind]
    exact (Node.blames_checkUnique (areNamed (.inr rfl))).bind fun _ _ => .ok _

/-- The parts of a node are the children that it was made of. -/
theorem part?_of_assemble
    {title? : Option Datum}
    {children : ItemKind → Datum}
    {node : Datum}
    (isMade : sorter.assemble title? children = .ok node) :
    ∀ kind ∈ sorter.accepted, node.part? kind.partName = some (children kind) := by
  cases sorter with
  | field name label =>
    obtain ⟨_, _, _, -, rfl⟩ := Node.exists_of_field isMade
    simp only [accepted, List.forall_mem_cons]
    exact ⟨rfl, rfl, rfl, List.forall_mem_nil _⟩
  | inlineFragment condition =>
    obtain ⟨_, rfl⟩ := Node.exists_of_inlineFragment isMade
    simp only [accepted, List.forall_mem_cons]
    exact ⟨rfl, rfl, List.forall_mem_nil _⟩
  | fragment name condition =>
    obtain ⟨_, _, rfl⟩ := Node.exists_of_fragmentDefinition isMade
    simp only [accepted, List.forall_mem_cons]
    exact ⟨rfl, rfl, List.forall_mem_nil _⟩
  | operation isKind name =>
    obtain ⟨_, _, -, rfl⟩ := Node.exists_of_operation isMade
    simp only [accepted, List.forall_mem_cons]
    exact ⟨rfl, rfl, rfl, List.forall_mem_nil _⟩

/-! ## Sorting without loss -/

/-- The leaves of the items that are sorted, from left to right. -/
def leaves (items : List Datum) (sorter : Sorter) : List Datum :=
  flatten (sorter.children items)

theorem make_of_accepted
    (notTwice : sorter.isNamedTwice items = false)
    (areAccepted : ∀ leaf ∈ sorter.leaves items, Accepted sorter.accepted leaf) :
    sorter.make items =
      sorter.assemble (sorter.title? items) (Sorted.of ⟨sorter.leaves items⟩) := by
  rw [make_eq sorter items notTwice, sort_of_accepted areAccepted, ok_bind]
  rfl

theorem make_of_not_accepted
    (notTwice : sorter.isNamedTwice items = false)
    {before after : List Datum}
    {leaf : Datum}
    (split : sorter.leaves items = before ++ leaf :: after)
    (areAccepted : ∀ earlier ∈ before, Accepted sorter.accepted earlier)
    (notAccepted : ¬Accepted sorter.accepted leaf) :
    sorter.make items =
      .error (.unexpectedItem leaf.className (sorter.accepted.map ItemKind.text)) := by
  rw [make_eq sorter items notTwice, sort_of_not_accepted split areAccepted notAccepted]
  rfl

end Sorter
end Build
end GraphQL
