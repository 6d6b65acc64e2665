import GraphQL.Proofs.Request.RoundTrip
import GraphQL.Proofs.Source.Giving
import GraphQL.Request.Node

/-!
# References to fragments

A reference to a fragment stays one when the text of a request is read, at whatever place
it has among the selections, exactly if the fragment is not called `on`.  The gate for
names lets that name through where a fragment is referred to, although no fragment can
have it.
-/

namespace GraphQL

/-! ## Places in trees -/

/-- What is found below an item of a tree, by numbers that lead down from it. -/
def below? {α : Type} (inside : α → List α) : α → List Nat → Option α
  | item, [] => some item
  | item, n :: place => (inside item)[n]?.bind fun next => below? inside next place

/-- Trees that are mapped item by item have the same places. -/
theorem below?_map
    {α β : Type}
    {inside : α → List α}
    {other : β → List β}
    {change : α → β}
    (maps : ∀ item, other (change item) = (inside item).map change)
    (item : α)
    (place : List Nat) :
    below? other (change item) place = (below? inside item place).map change := by
  induction place generalizing item with
  | nil => rfl
  | cons n place inductionHypothesis =>
    rw [below?, below?, maps, List.getElem?_map]
    cases (inside item)[n]? with
    | none => rfl
    | some next => exact inductionHypothesis next

/-- What holds of an item and of all inside what it holds of, holds of what is below. -/
theorem of_below?
    {α : Type}
    {inside : α → List α}
    {holds : α → Prop}
    (keeps : ∀ item, holds item → ∀ next ∈ inside item, holds next)
    {item found : α}
    (holdsItem : holds item)
    {place : List Nat}
    (below : below? inside item place = some found) :
    holds found := by
  induction place generalizing item with
  | nil =>
    obtain rfl := Option.some.inj below
    exact holdsItem
  | cons n place inductionHypothesis =>
    obtain ⟨next, present, belowNext⟩ := Option.bind_eq_some_iff.mp below
    exact inductionHypothesis (keeps item holdsItem next (List.mem_of_getElem? present)) belowNext

namespace Source

/-- The selections directly inside a selection. -/
def Selection.selections : Selection → List Selection
  | .field _ _ _ _ selections | .inlineFragment _ _ selections => selections
  | .spread _ _ => []

/-- The selections directly inside a definition. -/
def Definition.selections : Definition → List Selection
  | .operation _ _ _ _ selections | .fragment _ _ _ selections => selections
  | _ => []

/-- The selection at a place: the number of its definition comes first, then those of
the selections around it and its own. -/
def Document.selectionAt? (document : Document) : List Nat → Option Selection
  | n :: m :: place => do
    let definition ← document.definitions[n]?
    let selection ← definition.selections[m]?
    below? Selection.selections selection place
  | _ => none

theorem Selection.Readable.of_mem
    {selection : Selection}
    (readable : selection.Readable) :
    ∀ inner ∈ selection.selections, inner.Readable := by
  cases readable with
  | field _ _ _ _ _ _ _ readable => exact readable
  | spread _ _ _ _ => exact nofun
  | inlineFragment _ _ _ _ readable => exact readable

theorem Definition.Readable.of_mem
    {definition : Definition}
    (readable : definition.isExecutable = true → definition.Readable) :
    ∀ selection ∈ definition.selections, selection.Readable := by
  cases definition with
  | operation _ _ _ _ _ => exact (readable rfl).2.2
  | fragment _ _ _ _ => exact (readable rfl).2.2
  | _ => exact nofun

/-- Every selection that is read from a text can be read back. -/
theorem Document.readable_of_selectionAt?
    {text : String}
    {document : Document}
    (parsed : parse text = .ok document)
    {place : List Nat}
    {selection : Selection}
    (found : document.selectionAt? place = some selection) :
    selection.Readable := by
  match place with
  | [] | [_] => cases found
  | n :: m :: place =>
    obtain ⟨definition, presentDefinition, found⟩ := Option.bind_eq_some_iff.mp found
    obtain ⟨outer, presentOuter, below⟩ := Option.bind_eq_some_iff.mp found
    have readable := readable_of_parse parsed definition (List.mem_of_getElem? presentDefinition)
    exact of_below? (fun _ => Selection.Readable.of_mem)
      (Definition.Readable.of_mem readable outer (List.mem_of_getElem? presentOuter)) below

end Source

namespace Datum

/-- The selections directly inside a selection. -/
def selections : Datum → List Datum
  | .field _ _ _ _ (.tuple items) | .inlineFragment _ _ (.tuple items) => items
  | _ => []

/-- The selections directly inside a definition. -/
def topSelections : Datum → List Datum
  | .operation _ _ _ _ (.tuple items) | .fragmentDefinition _ _ _ (.tuple items) => items
  | _ => []

/-- The definitions of a document. -/
def definitions : Datum → List Datum
  | .document (.tuple items) => items
  | _ => []

/-- The selection at a place: the number of its definition comes first, then those of
the selections around it and its own. -/
def selectionAt? (document : Datum) : List Nat → Option Datum
  | n :: m :: place => do
    let definition ← document.definitions[n]?
    let selection ← definition.topSelections[m]?
    below? selections selection place
  | _ => none

end Datum

namespace Mirror

theorem selections_selection (given : Datum) :
    (selection given).selections = given.selections.map selection := by
  cases given with
  | field name alias? arguments directives selected =>
    cases selected with
    | tuple items => exact selections_eq_map items
    | _ => rfl
  | inlineFragment condition? directives selected =>
    cases selected with
    | tuple items => exact selections_eq_map items
    | _ => rfl
  | _ => rfl

theorem selections_definition (given : Datum) :
    (definition given).selections = given.topSelections.map selection := by
  cases given with
  | operation kind name? declared directives selected => cases selected <;> rfl
  | fragmentDefinition name condition directives selected => cases selected <;> rfl
  | _ => rfl

theorem definitions_document (given : Datum) :
    (document given).definitions = given.definitions.map definition := by
  cases given with
  | document definitions => cases definitions <;> rfl
  | _ => rfl

/-- The mirror of a request has the same places. -/
theorem selectionAt?_document (given : Datum) (place : List Nat) :
    (document given).selectionAt? place = (given.selectionAt? place).map selection := by
  match place with
  | [] | [_] => rfl
  | n :: m :: place =>
    rw [Source.Document.selectionAt?, Datum.selectionAt?, definitions_document, List.getElem?_map]
    cases given.definitions[n]? with
    | none => rfl
    | some found =>
      change ((definition found).selections[m]?.bind _) = ((found.topSelections[m]?.bind _).map _)
      rw [selections_definition, List.getElem?_map]
      cases found.topSelections[m]? with
      | none => rfl
      | some outer => exact below?_map selections_selection outer place

end Mirror

/-! ## Whether a reference stays one -/

theorem Node.exists_name_of_fragmentSpread
    {given directives spread : Datum}
    (made : fragmentSpread given directives = .ok spread) :
    ∃ name, given.asLabel? = some name ∧ spread = .fragmentSpread name directives := by
  obtain ⟨name, checked, rfl⟩ := Outcome.map_eq_ok_iff.mp made
  unfold checkName at checked
  split at checked
  · next label found =>
    split at checked
    · obtain rfl := Except.ok.inj checked
      exact ⟨label, found, rfl⟩
    · cases checked
  · cases checked

/-- A reference to a fragment that can be made is read as one, at its place in any other
request and in any layout, exactly if the fragment is not called `on`.  The rest of the
request is then read as it should be, too. -/
theorem Datum.selectionAt?_parse_build
    {given directives spread document : Datum}
    (made : Node.fragmentSpread given directives = .ok spread)
    {place : List Nat}
    (placed : document.selectionAt? place = some spread)
    (typed : Typed.Document Label.IsWord document)
    (complete : ∀ node ∈ document.nodes,
      node.lacksSelections = false ∧ node.isDoublyNonNull = false)
    (printable : ∀ node ∈ document.nodes, node.isUnprintable = false)
    (others : spread.isSpreadOfOn = false → ∀ node ∈ document.nodes, node.isSpreadOfOn = false)
    (layout : Layout) :
    ∃ name text, given.asLabel? = some name ∧ document.build layout = .ok text ∧
      ((∃ parsed applied, Source.Document.parse text = .ok parsed ∧
          parsed.selectionAt? place = some (.spread name.text applied)) ↔
        name.text ≠ "on") ∧
      (name.text ≠ "on" → Source.Document.parse text = .ok (Mirror.document document)) := by
  obtain ⟨name, isName, rfl⟩ := Node.exists_name_of_fragmentSpread made
  have nonempty : document ≠ .document (.tuple []) := by
    rintro rfl
    match place with
    | [] | [_] => cases placed
    | _ :: _ :: _ => cases placed
  by_cases isOn : name.text = "on"
  · obtain ⟨text, built, -⟩ := exists_build_of_words typed printable layout
    refine ⟨name, text, isName, built, iff_of_false ?_ (not_not.mpr isOn), absurd isOn⟩
    rintro ⟨parsed, applied, accepted, found⟩
    cases Source.Document.readable_of_selectionAt? accepted found with
    | spread _ _ notOn _ => exact notOn isOn
  · have notOn := others (by simpa [isSpreadOfOn] using isOn)
    obtain ⟨text, built, accepted⟩ :=
      exists_parse_of_complete typed printable layout notOn ⟨nonempty, complete⟩
    have found : (Mirror.document document).selectionAt? place =
        some (.spread name.text (Mirror.items Mirror.directive directives)) := by
      rw [Mirror.selectionAt?_document, placed, Option.map_some, Mirror.selection]
    exact ⟨name, text, isName, built, iff_of_true ⟨_, _, accepted, found⟩ isOn, fun _ => accepted⟩

/-! ## A reference that does not stay one -/

/-- A query that refers to a fragment called `on`, and then asks for a field. -/
def Datum.ambiguous : Datum :=
  .document (.tuple [
    .operation .query none (.tuple []) (.tuple [])
      (.tuple [
        .fragmentSpread (.plain "on") (.tuple []),
        .field (.plain "a") none (.tuple []) (.tuple [])
          (.tuple [.field (.plain "b") none (.tuple []) (.tuple []) (.tuple [])])])])

/-- What the text of that query stands for: the reference and the field behind it are one
inline fragment. -/
def Source.Document.absorbed : Document :=
  ⟨[.operation .query none [] [] [.inlineFragment (some "a") [] [.field none "b" [] [] []]]]⟩

theorem Typed.document_ambiguous : Typed.Document Label.IsWord Datum.ambiguous := by
  have inner : Typed.Selection Label.IsWord
      (.field (.plain "b") none (.tuple []) (.tuple []) (.tuple [])) :=
    .field (Label.isWord_plain (by decide)) nofun .nil .nil (by simp)
  have field : Typed.Selection Label.IsWord
      (.field (.plain "a") none (.tuple []) (.tuple [])
        (.tuple [.field (.plain "b") none (.tuple []) (.tuple []) (.tuple [])])) :=
    .field (Label.isWord_plain (by decide)) nofun .nil .nil (by simpa using inner)
  have spread : Typed.Selection Label.IsWord (.fragmentSpread (.plain "on") (.tuple [])) :=
    .spread (Label.isWord_plain (by decide)) .nil
  refine .of (List.forall_mem_singleton.mpr (.operation .query nofun (by simp) .nil ?_))
  exact List.forall_mem_cons.mpr ⟨spread, List.forall_mem_singleton.mpr field⟩

theorem Source.Document.parse_absorbed
    {text : String}
    (read : lexed text.toList = .of (Mirror.document Datum.ambiguous).lexemes) :
    parse text = .ok absorbed := by
  have same : (Mirror.document Datum.ambiguous).lexemes = absorbed.lexemes := by decide
  have field : Selection.Readable (.field none "b" [] [] []) := .field _ _ _ _ _ nofun nofun nofun
  have fragment : Selection.Readable (.inlineFragment (some "a") [] [.field none "b" [] [] []]) :=
    .inlineFragment _ _ _ nofun (List.forall_mem_singleton.mpr field)
  have readable : ∀ definition ∈ absorbed.definitions, definition.Readable :=
    List.forall_mem_singleton.mpr (And.intro nofun ⟨nofun, List.forall_mem_singleton.mpr fragment⟩)
  have complete : absorbed.Complete := by
    simp [absorbed, Complete, Definition.Complete, Selection.Filled, Selection.AllFilled]
  exact parse_of_complete readable complete (read.trans (congrArg Lexed.of same))

theorem Datum.selectionAt?_parse_build_ambiguous :
    ∃ text, ambiguous.build .standard = .ok text ∧
      (¬∃ parsed applied, Source.Document.parse text = .ok parsed ∧
        parsed.selectionAt? [0, 0] = some (.spread "on" applied)) ∧
      Source.Document.parse text = .ok .absorbed := by
  have made : Node.fragmentSpread (.text "on") (.tuple []) =
      .ok (.fragmentSpread (.plain "on") (.tuple [])) := by rfl
  have placed : ambiguous.selectionAt? [0, 0] =
      some (.fragmentSpread (.plain "on") (.tuple [])) := by rfl
  obtain ⟨name, text, isName, built, stays, -⟩ := selectionAt?_parse_build made placed
    Typed.document_ambiguous (by decide) (by decide) (by decide) .standard
  obtain rfl := Option.some.inj isName
  obtain ⟨other, builtToo, read⟩ :=
    exists_build_of_words Typed.document_ambiguous (by decide) .standard
  obtain rfl := Except.ok.inj (built.symm.trans builtToo)
  exact ⟨text, built, fun spread => stays.mp spread rfl, Source.Document.parse_absorbed read⟩

end GraphQL
