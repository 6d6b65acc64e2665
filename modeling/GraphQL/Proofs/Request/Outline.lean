import GraphQL.Proofs.Request.Unbroken

/-!
# The lines of a request

Laying out a request breaks it into the same lines in every layout.  Every definition and
every selection opens a line, and a set of selections that is not empty closes one; each
has the level of the node that it belongs to.  Spread out, every line is indented by its
level, and compact, all lines of a definition are put behind one another.
-/

namespace GraphQL

open Text (Lines.joinWith)

/-! ## Outlines -/

/-- What a line is there for. -/
inductive Mark
  /-- It opens a node. -/
  | opening (node : Datum)
  /-- It closes the selections of a node. -/
  | closing

namespace Datum

mutual

/-- The lines of a node, each with its level: the line that opens the node, the lines of
its selections one level further in, and the line that closes them. -/
def outline (depth : Nat) : Datum → List (Nat × Mark)
  | .field name alias? arguments directives selections =>
    (depth, .opening (.field name alias? arguments directives selections)) ::
      enclosed depth selections
  | .inlineFragment condition? directives selections =>
    (depth, .opening (.inlineFragment condition? directives selections)) ::
      enclosed depth selections
  | .operation kind name? declared directives selections =>
    (depth, .opening (.operation kind name? declared directives selections)) ::
      enclosed depth selections
  | .fragmentDefinition name condition directives selections =>
    (depth, .opening (.fragmentDefinition name condition directives selections)) ::
      enclosed depth selections
  | node => [(depth, .opening node)]

/-- The lines of the selections of a node, which are closed on the level of the node. -/
def enclosed (depth : Nat) : Datum → List (Nat × Mark)
  | .tuple (first :: rest) =>
    outline (depth + 1) first ++ outlines (depth + 1) rest ++ [(depth, .closing)]
  | _ => []

/-- The lines of nodes of one level. -/
def outlines (depth : Nat) : List Datum → List (Nat × Mark)
  | [] => []
  | first :: rest => outline depth first ++ outlines depth rest

end

theorem outlines_eq_flatMap (depth : Nat) (nodes : List Datum) :
    outlines depth nodes = nodes.flatMap (outline depth) := by
  induction nodes with
  | nil => rfl
  | cons first rest inductionHypothesis =>
    rw [outlines, inductionHypothesis, List.flatMap_cons]

theorem enclosed_tuple_nil (depth : Nat) : enclosed depth (.tuple []) = [] := by
  rw [enclosed]
  nofun

theorem enclosed_tuple_cons (depth : Nat) (first : Datum) (rest : List Datum) :
    enclosed depth (.tuple (first :: rest)) =
      (first :: rest).flatMap (outline (depth + 1)) ++ [(depth, .closing)] := by
  rw [enclosed, outlines_eq_flatMap, List.flatMap_cons]

end Datum

/-! ## Lines -/

/-- A line of a definition: its level, and its text without indentation. -/
structure Line where
  /-- The level of the line. -/
  depth : Nat
  /-- What stands on the line. -/
  text : String

namespace Layout

/-- The line of a node that has to have selections, from what stands before them. -/
def introduced (head : String) : Option (List Written.Selection) → String
  | none => head ++ " " ++ noSelections
  | some _ => head ++ " \x7b"

/-- The line that a selection opens: all of it but its selections. -/
def opening : Written.Selection → String
  | .field alias? name arguments? applied none =>
    label alias? name ++ parentheses (arguments?.map named) ++ directives applied
  | .field alias? name arguments? applied (some _) =>
    label alias? name ++ parentheses (arguments?.map named) ++ directives applied ++ " \x7b"
  | .spread name applied => "..." ++ name ++ directives applied
  | .inlineFragment condition? applied selections? =>
    introduced (condition condition? ++ directives applied) selections?

/-- The line that a definition opens: all of it but its selections. -/
def title : Written.Definition → String
  | .operation keyword name? declared? applied selections? =>
    introduced (keyword ++ operationName name? ++ variableDefinitions declared? ++
      directives applied) selections?
  | .listed head selections? => introduced head selections?
  | .fragment name condition applied selections? =>
    introduced ("fragment " ++ name ++ " on " ++ condition ++ directives applied) selections?

/-- A line as it is indented. -/
def indented (indent : String) (line : Line) : String :=
  String.join (List.replicate line.depth indent) ++ line.text

/-- The lines of a definition one below the other, each indented by its level. -/
def spread (indent : String) (lines : List Line) : String :=
  Lines.joinWith "\n" (lines.map (indented indent))

/-- The lines of a definition behind one another. -/
def squeezed (lines : List Line) : String :=
  Lines.joinWith " " (lines.map Line.text)

end Layout

/-- The line is what a mark says: the opening of what is written for a node, or a brace. -/
inductive Line.Shows : Line → Nat × Mark → Prop
  | selection
      (depth : Nat)
      {node : Datum}
      {written : Written.Selection} :
      Written.selection node = .ok written →
      Shows ⟨depth, Layout.opening written⟩ (depth, .opening node)
  | definition
      (depth : Nat)
      {node : Datum}
      {written : Written.Definition} :
      Written.definition node = .ok written →
      Shows ⟨depth, Layout.title written⟩ (depth, .opening node)
  | closing (depth : Nat) : Shows ⟨depth, "\x7d"⟩ (depth, .closing)

/-! ## Lines in a layout -/

namespace Layout

/-- What stands in front of a line of a level. -/
def lead (layout : Layout) (depth : Nat) : String :=
  if layout.compact then "" else layout.margin depth

theorem lead_zero (layout : Layout) : layout.lead 0 = "" := by
  simp [lead]

/-- What stands between two lines of a definition. -/
def gap (layout : Layout) : String :=
  if layout.compact then " " else "\n"

/-- A line in a layout. -/
def line (layout : Layout) (given : Line) : String :=
  layout.lead given.depth ++ given.text

/-- The lines of a definition in a layout. -/
def arranged (layout : Layout) (lines : List Line) : String :=
  Lines.joinWith layout.gap (lines.map layout.line)

theorem arranged_of_compact
    {layout : Layout}
    (compact : layout.compact = true)
    (lines : List Line) :
    layout.arranged lines = squeezed lines := by
  have same : layout.line = Line.text := by
    funext given
    simp [line, lead, compact]
  rw [arranged, gap, if_pos compact, same, squeezed]

theorem arranged_of_spread
    {layout : Layout}
    (isSpread : layout.compact = false)
    (lines : List Line) :
    layout.arranged lines = spread layout.indent lines := by
  have same : layout.line = indented layout.indent := by
    funext given
    simp [line, lead, margin, indented, isSpread]
  rw [arranged, gap, if_neg (by simp [isSpread]), same, spread]

/-- Braces put a gap around the selections in them and between any two of them. -/
theorem braces_eq (layout : Layout) (depth : Nat) (items : List String) :
    layout.braces depth items =
      "\x7b" ++ layout.gap ++
        Lines.joinWith layout.gap (items.map (layout.lead (depth + 1) ++ ·)) ++
        layout.gap ++ (layout.lead depth ++ "\x7d") := by
  have compactOpening : "\x7b " = "\x7b" ++ " " := by decide
  have compactClose : " \x7d" = " " ++ "\x7d" := by decide
  have spreadOpening : "\x7b\n" = "\x7b" ++ "\n" := by decide
  cases compact : layout.compact with
  | true => simp [braces, lead, gap, compact, compactOpening, compactClose, String.append_assoc]
  | false => simp [braces, lead, gap, compact, spreadOpening, String.append_assoc]

/-- Lines in groups, between the line of their owner and the line that closes them. -/
theorem arranged_enclosed
    (layout : Layout)
    (depth : Nat)
    (head : String)
    {groups : List (List Line)}
    (notEmpty : groups ≠ [])
    (noneEmpty : ∀ group ∈ groups, group ≠ []) :
    layout.arranged (⟨depth, head ++ " \x7b"⟩ :: (groups.flatten ++ [⟨depth, "\x7d"⟩])) =
      layout.lead depth ++ (head ++ " " ++
        ("\x7b" ++ layout.gap ++ Lines.joinWith layout.gap (groups.map layout.arranged) ++
          layout.gap ++ (layout.lead depth ++ "\x7d"))) := by
  have flattened : Lines.joinWith layout.gap (groups.flatten.map layout.line) =
      Lines.joinWith layout.gap (groups.map layout.arranged) := by
    rw [List.map_flatten, Text.Lines.joinWith_flatten, List.map_map]
    · rfl
    · simpa using noneEmpty
  have someLines : groups.flatten.map layout.line ≠ [] := by
    obtain ⟨group, rest, rfl⟩ := List.exists_cons_of_ne_nil notEmpty
    simp [noneEmpty group List.mem_cons_self]
  have brace : " \x7b" = " " ++ "\x7b" := by decide
  rw [arranged, ← List.singleton_append, List.map_append, List.map_append,
    Text.Lines.joinWith_append _ (by simp) (by simp),
    Text.Lines.joinWith_append _ someLines (by simp), flattened]
  simp only [List.map_cons, List.map_nil, Text.Lines.joinWith_singleton, line, brace,
    String.append_assoc]

end Layout

/-- Lines follow an outline, and are what a text of some level is made of in every
layout. -/
structure Outlined
    (outline : List (Nat × Mark))
    (depth : Nat)
    (text : Layout → String)
    (lines : List Line) : Prop where
  /-- Every line is the one that the outline has in its place. -/
  shows : List.Forall₂ Line.Shows lines outline
  /-- There are lines. -/
  notEmpty : lines ≠ []
  /-- Every line can be one. -/
  solid : ∀ line ∈ lines, Solid line.text
  /-- The text, with what stands in front of its first line, is made of the lines. -/
  arranged : ∀ layout, layout.lead depth ++ text layout = layout.arranged lines

namespace Outlined

variable {depth : Nat} {mark : Mark}

/-- A text that stands on a line of its own. -/
theorem single
    {text : String}
    (shows : Line.Shows ⟨depth, text⟩ (depth, mark))
    (solid : Solid text) :
    Outlined [(depth, mark)] depth (fun _ => text) [⟨depth, text⟩] where
  shows := .cons shows .nil
  notEmpty := List.cons_ne_nil _ _
  solid := List.forall_mem_singleton.mpr solid
  arranged _ := rfl

/-- What is known of each of some selections. -/
def Each
    (depth : Nat)
    (items : List Datum)
    (selected : List Written.Selection) : Prop :=
  List.Forall₂
    (fun item written => ∃ lines,
      Outlined (item.outline depth) depth (fun layout => layout.selection depth written) lines)
    items selected

/-- The lines of selections are found selection by selection. -/
theorem Each.exists_groups
    {items : List Datum}
    {selected : List Written.Selection}
    (each : Each depth items selected) :
    ∃ groups : List (List Line),
      List.Forall₂ Line.Shows groups.flatten (items.flatMap (Datum.outline depth)) ∧
      (groups = [] → items = []) ∧
      (∀ group ∈ groups, group ≠ []) ∧
      (∀ line ∈ groups.flatten, Solid line.text) ∧
      ∀ layout : Layout,
        (layout.selections depth selected).map (layout.lead depth ++ ·) =
          groups.map layout.arranged := by
  induction each with
  | nil => exact ⟨[], .nil, fun _ => rfl, nofun, nofun, fun _ => rfl⟩
  | cons first _ inductionHypothesis =>
    obtain ⟨lines, outlined⟩ := first
    obtain ⟨groups, shows, -, notEmpty, solid, arranged⟩ := inductionHypothesis
    refine ⟨lines :: groups, ?_, nofun, ?_, ?_, ?_⟩
    · rw [List.flatten_cons, List.flatMap_cons]
      exact List.rel_append outlined.shows shows
    · exact List.forall_mem_cons.mpr ⟨outlined.notEmpty, notEmpty⟩
    · rw [List.flatten_cons, List.forall_mem_append]
      exact ⟨outlined.solid, solid⟩
    · intro layout
      rw [Layout.selections, List.map_cons, List.map_cons, outlined.arranged, arranged]

/-- The lines of a node with selections: a line that opens it, those of its selections,
and a brace. -/
theorem enclosed
    {first : Datum}
    {rest : List Datum}
    {selected : List Written.Selection}
    (each : Each (depth + 1) (first :: rest) selected)
    {head : String}
    (shows : Line.Shows ⟨depth, head ++ " \x7b"⟩ (depth, mark))
    (solid : Solid head) :
    ∃ lines, Outlined ((depth, mark) :: Datum.enclosed depth (.tuple (first :: rest))) depth
      (fun layout =>
        head ++ " " ++ layout.braces depth (layout.selections (depth + 1) selected))
      lines := by
  obtain ⟨groups, showsEach, notEmpty, noneEmpty, solidEach, arranged⟩ := each.exists_groups
  refine ⟨⟨depth, head ++ " \x7b"⟩ :: (groups.flatten ++ [⟨depth, "\x7d"⟩]),
    ⟨?_, List.cons_ne_nil _ _, ?_, ?_⟩⟩
  · rw [Datum.enclosed_tuple_cons]
    exact .cons shows (List.rel_append showsEach (.cons (.closing depth) .nil))
  · rw [List.forall_mem_cons, List.forall_mem_append, List.forall_mem_singleton]
    exact ⟨solid.append (by decide), solidEach, (⟨by decide, by decide⟩ : Solid "\x7d")⟩
  · intro layout
    rw [layout.arranged_enclosed depth head (fun none => nomatch notEmpty none) noneEmpty,
      layout.braces_eq, arranged]

/-- Selections that are written are known one by one if all that can be are. -/
theorem each_of_selectionsOf
    {items : List Datum}
    {selected? : Option (List Written.Selection)}
    (found : Written.selectionsOf (.tuple items) = .ok selected?)
    (outlined : ∀ item ∈ items, ∀ written, Written.selection item = .ok written →
      ∃ lines, Outlined (item.outline depth) depth
        (fun layout => layout.selection depth written) lines) :
    items = [] ∧ selected? = none ∨
      items ≠ [] ∧ ∃ selected, selected? = some selected ∧ Each depth items selected := by
  rw [Written.selectionsOf_tuple] at found
  cases items with
  | nil =>
    obtain rfl := Except.ok.inj found
    exact .inl ⟨rfl, rfl⟩
  | cons first rest =>
    obtain ⟨selected, foundEach, rfl⟩ := Outcome.map_eq_ok_iff.mp found
    have both := (List.forall₂_and_left _ _).mpr
      ⟨outlined, Outcome.mapM_eq_ok_iff.mp foundEach⟩
    exact .inr ⟨List.cons_ne_nil _ _, selected, rfl, both.imp fun _ _ known => known.1 _ known.2⟩

/-- The lines of a node that has to have selections. -/
theorem introduced
    {items : List Datum}
    {selected? : Option (List Written.Selection)}
    (found : Written.selectionsOf (.tuple items) = .ok selected?)
    (outlined : ∀ item ∈ items, ∀ written, Written.selection item = .ok written →
      ∃ lines, Outlined (item.outline (depth + 1)) (depth + 1)
        (fun layout => layout.selection (depth + 1) written) lines)
    {head : String}
    (shows : Line.Shows ⟨depth, Layout.introduced head selected?⟩ (depth, mark))
    (solid : Solid head) :
    ∃ lines, Outlined ((depth, mark) :: Datum.enclosed depth (.tuple items)) depth
      (fun layout => head ++ " " ++
        match selected? with
        | none => Layout.noSelections
        | some selected => layout.braces depth (layout.selections (depth + 1) selected))
      lines := by
  rcases each_of_selectionsOf found outlined with
    ⟨rfl, rfl⟩ | ⟨notEmpty, selected, rfl, each⟩
  · rw [Datum.enclosed_tuple_nil]
    exact ⟨_, single shows ((solid.append (by decide)).append (by decide))⟩
  · obtain ⟨first, rest, rfl⟩ := List.exists_cons_of_ne_nil notEmpty
    exact enclosed each shows solid

end Outlined

/-! ## Lines of nodes -/

section Nodes

variable
  {named : Label → Prop}
  {plain : Prop}

/-- What is written for a field is a field with what is written for its selections. -/
theorem Written.exists_of_selection_field
    {name : Label}
    {alias? : Option Label}
    {arguments directives selections : Datum}
    {written : Selection}
    (found : selection (.field name alias? arguments directives selections) = .ok written) :
    ∃ label? text arguments? applied selected?,
      written = .field label? text arguments? applied selected? ∧
        selectionsOf selections = .ok selected? := by
  have invert (label? : Option String) (text : String)
      (found : (do
        let arguments? ← argumentsOf arguments
        let applied ← directivesOf directives
        return Selection.field label? text arguments? applied (← selectionsOf selections)) =
          Except.ok written) :
      ∃ label? text arguments? applied selected?,
        written = .field label? text arguments? applied selected? ∧
          selectionsOf selections = .ok selected? := by
    obtain ⟨arguments?, -, found⟩ := Outcome.bind_eq_ok_iff.mp found
    obtain ⟨applied, -, found⟩ := Outcome.bind_eq_ok_iff.mp found
    obtain ⟨selected?, foundSelected, same⟩ := Outcome.bind_eq_ok_iff.mp found
    exact ⟨label?, text, arguments?, applied, selected?, (Except.ok.inj same).symm,
      foundSelected⟩
  cases alias? with
  | none => exact invert none name.text found
  | some label => exact invert (some label.shown) name.shown found

/-- A typed selection has the lines of its outline, at every level. -/
theorem exists_outlined_selection
    (names : Written.NamesFit named Solid plain)
    {given : Datum}
    (typed : Typed.Selection named given)
    {written : Written.Selection}
    (found : Written.selection given = .ok written)
    (depth : Nat) :
    ∃ lines, Outlined (given.outline depth) depth (fun layout => layout.selection depth written)
      lines := by
  induction typed generalizing written depth with
  | @field name alias? arguments directives selections isNamed aliasNamed typedArguments
      typedDirectives typed inductionHypothesis =>
    obtain ⟨meant, means, -⟩ := (Written.yields_selection names
      (.field isNamed aliasNamed typedArguments typedDirectives typed)).good written found
    obtain ⟨label?, text, arguments?, applied, selected?, rfl, foundSelected⟩ :=
      Written.exists_of_selection_field found
    cases means with
    | field solidAlias solid argumentsMean appliedMean =>
      have solidHead := ((Layout.solid_label solidAlias solid).append
        (Layout.unbroken_arguments argumentsMean)).append (Layout.unbroken_directives appliedMean)
      rw [Datum.outline]
      rcases Outlined.each_of_selectionsOf foundSelected
          (fun item present _ foundItem => inductionHypothesis item present foundItem (depth + 1))
        with ⟨rfl, rfl⟩ | ⟨notEmpty, selected, rfl, each⟩
      · rw [Datum.enclosed_tuple_nil]
        exact ⟨_, .single (.selection depth found) solidHead⟩
      · obtain ⟨first, rest, rfl⟩ := List.exists_cons_of_ne_nil notEmpty
        exact Outlined.enclosed each (.selection depth found) solidHead
  | @spread name directives isNamed typedDirectives =>
    obtain ⟨meant, means, -⟩ :=
      (Written.yields_selection names (.spread isNamed typedDirectives)).good written found
    obtain ⟨applied, -, rfl⟩ := Outcome.map_eq_ok_iff.mp found
    cases means with
    | spread solid appliedMean =>
      have solidName : Solid ("..." ++ name.shown) :=
        Solid.append ⟨by decide, by decide⟩ solid.unbroken
      have solidLine := solidName.append (Layout.unbroken_directives appliedMean)
      exact ⟨_, .single (.selection depth found) solidLine⟩
  | @inlineFragment condition? directives selections isNamed typedDirectives typed
      inductionHypothesis =>
    obtain ⟨meant, means, -⟩ := (Written.yields_selection names
      (.inlineFragment isNamed typedDirectives typed)).good written found
    obtain ⟨applied, -, foundRest⟩ := Outcome.bind_eq_ok_iff.mp found
    obtain ⟨selected?, foundSelected, same⟩ := Outcome.bind_eq_ok_iff.mp foundRest
    obtain rfl := Except.ok.inj same
    cases means with
    | inlineFragment solid appliedMean =>
      have solidHead := (Layout.solid_condition solid).append
        (Layout.unbroken_directives appliedMean)
      obtain ⟨lines, outlined⟩ := Outlined.introduced foundSelected
        (fun item present _ foundItem => inductionHypothesis item present foundItem (depth + 1))
        (.selection depth found) solidHead
      refine ⟨lines, outlined.shows, outlined.notEmpty, outlined.solid, ?_⟩
      intro layout
      rw [← outlined.arranged]
      cases selected? with
      | none => rfl
      | some selected => rfl
  | bare serial => cases found

/-- The selection set of a definition has the lines of the outline of its selections. -/
theorem exists_outlined_selectionSet
    (names : Written.NamesFit named Solid plain)
    {selections : List Datum}
    (typed : ∀ selection ∈ selections, Typed.Selection named selection)
    {selected? : Option (List Written.Selection)}
    (found : Written.selectionsOf (.tuple selections) = .ok selected?)
    {mark : Mark}
    {head : String}
    (shows : Line.Shows ⟨0, Layout.introduced head selected?⟩ (0, mark))
    (solid : Solid head) :
    ∃ lines, Outlined ((0, mark) :: Datum.enclosed 0 (.tuple selections)) 0
      (fun layout => head ++ " " ++ layout.selectionSet selected?) lines := by
  obtain ⟨lines, outlined⟩ := Outlined.introduced found
    (fun item present _ foundItem => exists_outlined_selection names (typed item present) foundItem
      1) shows solid
  refine ⟨lines, outlined.shows, outlined.notEmpty, outlined.solid, ?_⟩
  intro layout
  rw [← outlined.arranged]
  cases selected? with
  | none => rfl
  | some selected => rfl

/-- A typed definition has the lines of its outline. -/
theorem exists_outlined_definition
    (names : Written.NamesFit named Solid plain)
    {given : Datum}
    (typed : Typed.Definition named given)
    {written : Written.Definition}
    (found : Written.definition given = .ok written) :
    ∃ lines, Outlined (given.outline 0) 0 (fun layout => layout.definition written) lines := by
  obtain ⟨meant, means, -⟩ := (Written.yields_definition names typed).good written found
  cases typed with
  | @operation kind name? declarations directives selections _ _ _ typedSelections =>
    have foundSteps := found
    rw [Written.definition_operation] at foundSteps
    obtain ⟨declared?, -, foundSteps⟩ := Outcome.bind_eq_ok_iff.mp foundSteps
    obtain ⟨applied, -, foundSteps⟩ := Outcome.bind_eq_ok_iff.mp foundSteps
    obtain ⟨selected?, foundSelected, same⟩ := Outcome.bind_eq_ok_iff.mp foundSteps
    obtain rfl := Except.ok.inj same
    generalize kind.text = keyword at found means ⊢
    cases means with
    | operation kind solidName _ declaredMean appliedMean =>
      have solidHead := (((Layout.solid_keyword kind).append
        (Layout.unbroken_operationName solidName)).append
          (Layout.unbroken_variableDefinitions declaredMean)).append
            (Layout.unbroken_directives appliedMean)
      exact exists_outlined_selectionSet names typedSelections foundSelected (.definition 0 found)
        solidHead
  | @fragment name condition directives selections _ _ _ _ typedSelections =>
    obtain ⟨applied, -, foundRest⟩ := Outcome.bind_eq_ok_iff.mp found
    obtain ⟨selected?, foundSelected, same⟩ := Outcome.bind_eq_ok_iff.mp foundRest
    obtain rfl := Except.ok.inj same
    cases means with
    | fragment solid solidCondition appliedMean =>
      have solidWord : Solid "fragment " := ⟨by decide, by decide⟩
      have unbrokenOn : Unbroken " on " := by decide
      have solidHead := (((solidWord.append solid.unbroken).append unbrokenOn).append
        solidCondition.unbroken).append (Layout.unbroken_directives appliedMean)
      exact exists_outlined_selectionSet names typedSelections foundSelected (.definition 0 found)
        solidHead

end Nodes

end GraphQL
