import GraphQL.Proofs.Request.Meaning
import GraphQL.Proofs.Source.Lexemes
import GraphQL.Proofs.Text.Name
import GraphQL.Proofs.Text.Quoted
import GraphQL.Request.Layout

/-!
# What a layout is read as

A request as it is written is read as the lexemes of the document that it means, in
every layout.  Both layouts of a selection set put something that is passed over at the
same places, so the difference between them is lost in reading.
-/

namespace GraphQL
namespace Layout

open Source (Lexeme Lexed Opens Spells Stands inParentheses)
open Text (Lines.joinWith)

/-- Fit names are read in some way, and the words of the grammar as themselves. -/
structure NamesRead (fit : String → Prop) (name : String → Lexed) : Prop where
  /-- A fit name is read in its way. -/
  spells : ∀ text, fit text → Spells text (name text)
  /-- A word is read as a name. -/
  word : ∀ text, Text.Name.IsName text → name text = .of [.name text]

variable
  {fit : String → Prop}
  {name : String → Lexed}

theorem NamesRead.spells_word
    (names : NamesRead fit name)
    (text : String)
    (isName : Text.Name.IsName text) :
    Spells text (.naming name [.name text]) := by
  rw [Lexed.naming_name, names.word text isName]
  exact Text.Name.spells_of_isName isName

/-! ## Pieces -/

theorem stands_comma : Stands ", " (.of []) := .of_isIgnored (by decide)

theorem stands_space : Stands " " (.of []) := .of_isIgnored (by decide)

/-- A punctuator with a space after it. -/
theorem stands_before_space (mark : Source.Punctuator) :
    Stands (mark.text ++ " ") (.of [.punctuator mark]) :=
  (Source.stands_punctuator mark).append stands_space

/-- A punctuator with a space before it. -/
theorem stands_after_space (mark : Source.Punctuator) :
    Stands (" " ++ mark.text) (.of [.punctuator mark]) :=
  stands_space.append (Source.stands_punctuator mark)

-- The literal is split by rewriting first, as unifying it with a text put together would
-- run the lexer on it.
theorem stands_colon : Stands ": " (.of [.punctuator .colon]) := by
  have split : ": " = Source.Punctuator.colon.text ++ " " := by decide
  rw [split]
  exact stands_before_space .colon

theorem stands_sign : Stands " @" (.of [.punctuator .atSign]) := by
  have split : " @" = " " ++ Source.Punctuator.atSign.text := by decide
  rw [split]
  exact stands_after_space .atSign

theorem stands_equals : Stands " = " (.of [.punctuator .equals]) := by
  have split : " = " = " " ++ Source.Punctuator.equals.text ++ " " := by decide
  rw [split]
  exact (stands_after_space .equals).append stands_space

/-- Texts between an opening and a closing punctuator, with something between neighbours
that is passed over, spell the lexemes of all of them between the punctuators. -/
theorem spells_group
    {openingText separator closeText : String}
    {opening close : Source.Punctuator}
    (standsOpening : Stands openingText (.of [.punctuator opening]))
    (standsSeparator : Stands separator (.of []))
    (opensSeparator : Opens separator)
    (standsClose : Stands closeText (.of [.punctuator close]))
    (opensClose : Opens closeText)
    {α : Type}
    {lexemes : α → List Lexeme}
    {texts : List String}
    {values : List α}
    (spells : List.Forall₂ (fun text value => Spells text (.naming name (lexemes value)))
      texts values) :
    Spells (openingText ++ Lines.joinWith separator texts ++ closeText)
      (.naming name (.punctuator opening ::
        (values.flatMap lexemes ++ [.punctuator close]))) := by
  have spellsItems :
      Spells (Lines.joinWith separator texts) (.naming name (values.flatMap lexemes)) := by
    rw [Lexed.naming_flatMap]
    apply Spells.joinWith standsSeparator opensSeparator
    rwa [List.forall₂_map_right_iff]
  rw [Lexed.naming_punctuator, Lexed.naming_append, Lexed.naming_punctuator,
    Lexed.naming_nil, Lexed.append_of_nil, ← Lexed.append_assoc]
  exact (spellsItems.after standsOpening).append standsClose.spells opensClose.parts

/-- Texts with commas between neighbours, in brackets. -/
theorem spells_bracketed
    (opening close : Source.Punctuator)
    (opens : Opens close.text)
    {α : Type}
    {lexemes : α → List Lexeme}
    {texts : List String}
    {values : List α}
    (spells : List.Forall₂ (fun text value => Spells text (.naming name (lexemes value)))
      texts values) :
    Spells (opening.text ++ Lines.joinWith ", " texts ++ close.text)
      (.naming name (.punctuator opening ::
        (values.flatMap lexemes ++ [.punctuator close]))) :=
  spells_group (Source.stands_punctuator opening) stands_comma (by decide)
    (Source.stands_punctuator close) opens spells

/-! ## Values -/

theorem values_eq_map (items : List Written.Value) : values items = items.map value := by
  induction items with
  | nil => rfl
  | cons item items inductionHypothesis => rw [values, inductionHypothesis, List.map_cons]

theorem named_eq_map (fields : List (String × Written.Value)) :
    named fields = fields.map fun field => field.1 ++ ": " ++ value field.2 := by
  induction fields with
  | nil => rfl
  | cons field fields inductionHypothesis => rw [named, inductionHypothesis, List.map_cons]

/-- Two texts with a colon between them. -/
theorem spells_colon
    {label text : String}
    {labelRead read : Lexed}
    (spellsLabel : Spells label labelRead)
    (spells : Spells text read) :
    Spells (label ++ ": " ++ text) (labelRead ++ (.of [.punctuator .colon] ++ read)) := by
  have opens : Opens ": " := by decide
  rw [String.append_assoc]
  exact spellsLabel.append (spells.after stands_colon) (opens.append _).parts

/-- A name, a colon and what stands after it. -/
theorem spells_entry
    (names : NamesRead fit name)
    {label text : String}
    (fits : fit label)
    {lexemes : List Lexeme}
    (spells : Spells text (.naming name lexemes)) :
    Spells (label ++ ": " ++ text)
      (.naming name (.name label :: .punctuator .colon :: lexemes)) := by
  rw [Lexed.naming_name, Lexed.naming_punctuator]
  exact spells_colon (names.spells label fits) spells

/-- A value is read as the value that it means. -/
theorem spells_value
    (names : NamesRead fit name)
    {written : Written.Value}
    {meant : Source.Value}
    (means : written.Means fit meant) :
    Spells (value written) (.naming name meant.lexemes) := by
  induction means with
  | reference fits =>
    simp only [value, Source.Value.lexemes, Lexed.naming_punctuator, Lexed.naming_name,
      Lexed.naming_nil, Lexed.append_of_nil]
    exact (names.spells _ fits).after (Source.stands_punctuator .dollar)
  | int spells => exact spells
  | float spells => exact spells
  | string text => exact Text.Quoted.spells_encode text
  | boolean flag =>
    cases flag with
    | true => exact names.spells_word "true" (by decide)
    | false => exact names.spells_word "false" (by decide)
  | null => exact names.spells_word "null" (by decide)
  | enum fits =>
    simp only [value, Source.Value.lexemes, Lexed.naming_name, Lexed.naming_nil,
      Lexed.append_of_nil]
    exact names.spells _ fits
  | list sameLength _ inductionHypothesis =>
    simp only [value, Source.Value.lexemes, Source.Value.itemLexemes_eq, values_eq_map]
    apply spells_bracketed .bracketL .bracketR (by decide)
    rw [List.forall₂_map_left_iff, List.forall₂_iff_zip]
    exact ⟨sameLength, inductionHypothesis _ _⟩
  | object sameLength fits _ inductionHypothesis =>
    simp only [value, Source.Value.lexemes, Source.Value.fieldLexemes_eq, named_eq_map]
    apply spells_bracketed .braceL .braceR (by decide)
    rw [List.forall₂_map_left_iff, List.forall₂_iff_zip]
    refine ⟨sameLength, ?_⟩
    intro field meant present
    obtain ⟨sameName, fit⟩ := fits field meant present
    rw [← sameName]
    exact spells_entry names fit (inductionHypothesis field meant present)

/-! ## Arguments and directives -/

/-- Texts in parentheses, if there are any. -/
theorem spells_parentheses
    {α : Type}
    {lexemes : α → List Lexeme}
    {texts? : Option (List String)}
    {values : List α}
    (notEmptied : texts? ≠ some [])
    (spells : List.Forall₂ (fun text value => Spells text (.naming name (lexemes value)))
      (texts?.getD []) values) :
    Spells (parentheses texts?) (.naming name (inParentheses lexemes values)) := by
  cases texts? with
  | none =>
    cases spells
    exact .empty
  | some texts =>
    cases spells with
    | nil => exact absurd rfl notEmptied
    | cons spellsFirst spellsRest =>
      exact spells_bracketed .parenL .parenR (by decide) (.cons spellsFirst spellsRest)

theorem parts_parentheses (texts? : Option (List String)) : Source.Parts (parentheses texts?) := by
  cases texts? with
  | none => exact .empty
  | some texts =>
    have opens : Opens "(" := by decide
    rw [parentheses, String.append_assoc]
    exact (opens.append _).parts

theorem spells_arguments
    (names : NamesRead fit name)
    {entries? : Option (List (String × Written.Value))}
    {arguments : List Source.Argument}
    (mean : Written.ArgumentsMean fit entries? arguments) :
    Spells (parentheses (entries?.map named))
      (.naming name (inParentheses Source.Argument.lexemes arguments)) := by
  obtain ⟨notEmptied, entries⟩ := mean
  have spellsEntries : List.Forall₂
      (fun entry argument => Spells (entry.1 ++ ": " ++ value entry.2)
        (.naming name (Source.Argument.lexemes argument)))
      (entries?.getD []) arguments := by
    apply entries.imp
    rintro entry argument ⟨sameName, fits, means⟩
    rw [Source.Argument.lexemes, ← sameName]
    exact spells_entry names fits (spells_value names means)
  apply spells_parentheses
  · cases entries? with
    | none => simp
    | some entries => simpa [named_eq_map] using notEmptied
  · cases entries? with
    | none => simpa using spellsEntries
    | some entries => simpa [named_eq_map, List.forall₂_map_left_iff] using spellsEntries

theorem opens_directive (applied : Written.Directive) : Opens (directive applied) := by
  have opens : Opens " @" := by decide
  rw [directive, String.append_assoc]
  exact opens.append _

theorem spells_directive
    (names : NamesRead fit name)
    {applied : Written.Directive}
    {meant : Source.Directive}
    (means : applied.Means fit meant) :
    Spells (directive applied) (.naming name meant.lexemes) := by
  obtain ⟨sameName, fits, arguments⟩ := means
  rw [directive, Source.Directive.lexemes, ← sameName, Lexed.naming_punctuator,
    Lexed.naming_name, ← Lexed.append_assoc]
  exact ((names.spells _ fits).after stands_sign).append (spells_arguments names arguments)
    (parts_parentheses _)

theorem parts_directives (applied : List Written.Directive) :
    Source.Parts (directives applied) := by
  cases applied with
  | nil => exact .empty
  | cons first rest =>
    rw [directives, List.map_cons, String.join_cons]
    exact ((opens_directive first).append _).parts

/-- Directives are read as the directives that they mean. -/
theorem spells_directives
    (names : NamesRead fit name)
    {applied : List Written.Directive}
    {meant : List Source.Directive}
    (means : List.Forall₂ (Written.Directive.Means fit) applied meant) :
    Spells (directives applied) (.naming name (Source.directiveLexemes meant)) := by
  induction means with
  | nil => exact .empty
  | cons means _ inductionHypothesis =>
    rw [directives, List.map_cons, String.join_cons, Source.directiveLexemes,
      List.flatMap_cons, Lexed.naming_append]
    exact (spells_directive names means).append inductionHypothesis (parts_directives _)

/-! ## Selections -/

/-- Indentation is passed over. -/
theorem stands_margin (layout : Layout) (depth : Nat) :
    Stands (layout.margin depth) (.of []) := by
  have blank : layout.indent.toList.all Source.Lexer.isIgnored = true := by
    rw [List.all_eq_true]
    intro c present
    have isIndent := List.all_eq_true.mp layout.blank c present
    simp only [GraphQL.isIndent, Bool.or_eq_true, decide_eq_true_eq] at isIndent
    rcases isIndent with rfl | rfl <;> rfl
  induction depth with
  | zero =>
    rw [margin_zero]
    exact .of_isIgnored (by decide)
  | succ depth inductionHypothesis =>
    rw [margin_succ]
    exact (Stands.of_isIgnored blank).append inductionHypothesis

/-- A selection set is read as its selections in braces, whichever way it is laid out. -/
theorem spells_braces
    (layout : Layout)
    (depth : Nat)
    {α : Type}
    {lexemes : α → List Lexeme}
    {items : List String}
    {values : List α}
    (spells : List.Forall₂ (fun text value => Spells text (.naming name (lexemes value)))
      items values) :
    Spells (layout.braces depth items)
      (.naming name (.punctuator .braceL ::
        (values.flatMap lexemes ++ [.punctuator .braceR]))) := by
  have standsLine : Stands "\n" (.of []) := .of_isIgnored (by decide)
  have standsOpening : Stands "\x7b" (.of [.punctuator .braceL]) :=
    Source.stands_punctuator .braceL
  have standsClose : Stands "\x7d" (.of [.punctuator .braceR]) :=
    Source.stands_punctuator .braceR
  unfold braces
  split
  · exact spells_group (standsOpening.append stands_space) stands_space (by decide)
      (stands_space.append standsClose) (by decide) spells
  · have opensLine : Opens "\n" := by decide
    have spellsItems : List.Forall₂
        (fun text value => Spells text (.naming name (lexemes value)))
        (items.map (layout.margin (depth + 1) ++ ·)) values := by
      rw [List.forall₂_map_left_iff]
      apply spells.imp
      intro text value spellsText
      exact spellsText.after (layout.stands_margin (depth + 1))
    have regrouped (items : String) :
        "\x7b\n" ++ items ++ "\n" ++ layout.margin depth ++ "\x7d" =
          "\x7b\n" ++ items ++ ("\n" ++ layout.margin depth ++ "\x7d") := by
      simp only [String.append_assoc]
    rw [regrouped]
    exact spells_group (standsOpening.append standsLine) standsLine opensLine
      ((standsLine.append (layout.stands_margin depth)).append standsClose)
      ((opensLine.append _).append _) spellsItems

theorem spells_noSelections :
    Spells noSelections (.naming name (Source.Selection.bracedLexemes [])) :=
  ((Source.stands_punctuator .braceL).append (Source.stands_punctuator .braceR)).spells

theorem selections_eq_map (layout : Layout) (depth : Nat) (selected : List Written.Selection) :
    layout.selections depth selected = selected.map (layout.selection depth) := by
  induction selected with
  | nil => rfl
  | cons first rest inductionHypothesis =>
    rw [selections, inductionHypothesis, List.map_cons]

/-- The braces of an owner that has to have selections, if there are any. -/
theorem spells_selected
    (layout : Layout)
    (depth : Nat)
    (selected? : Option (List Written.Selection))
    {meant : List Source.Selection}
    (spells : List.Forall₂
      (fun selected selection =>
        Spells (layout.selection (depth + 1) selected) (.naming name selection.lexemes))
      (selected?.getD []) meant) :
    Spells
      (match selected? with
        | none => noSelections
        | some selected => layout.braces depth (layout.selections (depth + 1) selected))
      (.naming name (Source.Selection.bracedLexemes meant)) := by
  cases selected? with
  | none =>
    cases spells
    exact spells_noSelections
  | some selected =>
    apply spells_braces
    rw [selections_eq_map, List.forall₂_map_left_iff]
    exact spells

theorem spells_label
    (names : NamesRead fit name)
    {alias? : Option String}
    {field : String}
    (fitsAlias : ∀ label ∈ alias?, fit label)
    (fits : fit field) :
    Spells (label alias? field)
      (.naming name (Source.Selection.labelLexemes alias? field)) := by
  have spellsField : Spells field (.naming name [.name field]) := by
    simpa using names.spells field fits
  cases alias? with
  | none => exact spellsField
  | some label => exact spells_entry names (fitsAlias label rfl) spellsField

theorem spells_condition
    (names : NamesRead fit name)
    {condition? : Option String}
    (fits : ∀ condition ∈ condition?, fit condition) :
    Spells (condition condition?)
      (.naming name (.punctuator .spread :: Source.Selection.conditionLexemes condition?)) := by
  rw [Lexed.naming_punctuator]
  refine Spells.after ?_ (Source.stands_punctuator .spread)
  cases condition? with
  | none => exact .empty
  | some condition =>
    have spellsOn := (names.spells_word "on" (by decide)).after stands_space
    have spellsCondition : Spells (" " ++ condition) (.naming name [.name condition]) := by
      simpa using (names.spells condition (fits condition rfl)).after stands_space
    have opens : Opens " " := by decide
    have spellsBoth := spellsOn.append spellsCondition (opens.append _).parts
    rw [Lexed.of_nil_append, ← Lexed.naming_append, ← String.append_assoc] at spellsBoth
    exact spellsBoth

/-- A text before a selection set, from which a space sets it apart. -/
theorem spells_before_set
    {head set : String}
    {headLexemes setLexemes : List Lexeme}
    (spells : Spells head (.naming name headLexemes))
    (spellsSet : Spells set (.naming name setLexemes)) :
    Spells (head ++ " " ++ set) (.naming name (headLexemes ++ setLexemes)) := by
  have opens : Opens " " := by decide
  rw [String.append_assoc, Lexed.naming_append]
  exact spells.append (spellsSet.after stands_space) (opens.append _).parts

section Steps

variable
  (names : NamesRead fit name)
  (layout : Layout)
  {depth : Nat}
  {applied : List Written.Directive}
  {directives : List Source.Directive}
  (appliedMeans : List.Forall₂ (Written.Directive.Means fit) applied directives)
  {selected? : Option (List Written.Selection)}
  {selections : List Source.Selection}
  (spells : List.Forall₂
    (fun selected selection =>
      Spells (layout.selection (depth + 1) selected) (.naming name selection.lexemes))
    (selected?.getD []) selections)

include names appliedMeans spells

/-- A field is read as the field that it means if its selections are. -/
theorem spells_field
    {alias? : Option String}
    {field : String}
    {entries? : Option (List (String × Written.Value))}
    {arguments : List Source.Argument}
    (fitsAlias : ∀ label ∈ alias?, fit label)
    (fits : fit field)
    (means : Written.ArgumentsMean fit entries? arguments)
    (notEmptied : selected? ≠ some []) :
    Spells (layout.selection depth (.field alias? field entries? applied selected?))
      (.naming name
        (Source.Selection.field alias? field arguments directives selections).lexemes) := by
  have spellsEntries := (spells_label names fitsAlias fits).append
    (spells_arguments names means) (parts_parentheses _)
  have spellsHead := spellsEntries.append (spells_directives names appliedMeans)
    (parts_directives _)
  rw [← Lexed.naming_append, ← Lexed.naming_append] at spellsHead
  rw [Source.Selection.lexemes_field, ← List.append_assoc, ← List.append_assoc]
  cases selected? with
  | none =>
    cases spells
    simpa [selection] using spellsHead
  | some selected =>
    have notEmpty : ¬selections.isEmpty := by
      cases spells with
      | nil => exact absurd rfl notEmptied
      | cons _ _ => simp
    rw [if_neg notEmpty]
    exact spells_before_set spellsHead (spells_selected layout depth (some selected) spells)

/-- An inline fragment is read as the one that it means if its selections are. -/
theorem spells_inlineFragment
    {condition? : Option String}
    (fits : ∀ condition ∈ condition?, fit condition) :
    Spells (layout.selection depth (.inlineFragment condition? applied selected?))
      (.naming name
        (Source.Selection.inlineFragment condition? directives selections).lexemes) := by
  have spellsHead := (spells_condition names fits).append (spells_directives names appliedMeans)
    (parts_directives _)
  rw [← Lexed.naming_append] at spellsHead
  have spellsBoth := spells_before_set spellsHead (spells_selected layout depth selected? spells)
  rw [Source.Selection.lexemes_inlineFragment, ← List.append_assoc, ← List.cons_append]
  cases selected? with
  | none => exact spellsBoth
  | some selected => exact spellsBoth

end Steps

/-- A selection is read as the selection that it means, at every level. -/
theorem spells_selection
    (names : NamesRead fit name)
    (layout : Layout)
    {written : Written.Selection}
    {meant : Source.Selection}
    (means : written.Means fit meant)
    (depth : Nat) :
    Spells (layout.selection depth written) (.naming name meant.lexemes) := by
  induction means generalizing depth with
  | field fitsAlias fits means appliedMeans notEmptied sameLength _ inductionHypothesis =>
    refine spells_field names layout appliedMeans ?_ fitsAlias fits means notEmptied
    rw [List.forall₂_iff_zip]
    refine ⟨sameLength, ?_⟩
    intro selected selection present
    exact inductionHypothesis selected selection present (depth + 1)
  | spread fits directives =>
    rw [Source.Selection.lexemes, Lexed.naming_punctuator, Lexed.naming_name,
      ← Lexed.append_assoc]
    have spellsName := (names.spells _ fits).after (Source.stands_punctuator .spread)
    exact spellsName.append (spells_directives names directives) (parts_directives _)
  | inlineFragment fits appliedMeans sameLength _ inductionHypothesis =>
    refine spells_inlineFragment names layout appliedMeans ?_ fits
    rw [List.forall₂_iff_zip]
    refine ⟨sameLength, ?_⟩
    intro selected selection present
    exact inductionHypothesis selected selection present (depth + 1)

/-! ## Definitions -/

theorem spells_typeRef
    (names : NamesRead fit name)
    {type : Source.TypeRef}
    (fits : Written.TypeFits fit type) :
    Spells type.print (.naming name type.lexemes) := by
  induction type with
  | named label =>
    simpa [Source.TypeRef.lexemes, Source.TypeRef.print] using names.spells label fits
  | list of inductionHypothesis =>
    have opens : Opens "]" := by decide
    rw [Source.TypeRef.lexemes, Lexed.naming_punctuator, Lexed.naming_append,
      ← Lexed.append_assoc]
    exact ((inductionHypothesis fits).after (Source.stands_punctuator .bracketL)).append
      (Source.stands_punctuator .bracketR).spells opens.parts
  | nonNull of inductionHypothesis =>
    have opens : Opens "!" := by decide
    rw [Source.TypeRef.lexemes, Lexed.naming_append]
    exact (inductionHypothesis fits).append (Source.stands_punctuator .bang).spells opens.parts

theorem spells_variableDefinition
    (names : NamesRead fit name)
    {declared : Written.VariableDefinition}
    {meant : Source.VariableDefinition}
    (means : declared.Means fit meant) :
    Spells (variableDefinition declared) (.naming name meant.lexemes) := by
  have spellsTyped {label : String} {type : Source.TypeRef} (fits : fit label)
      (typeFits : Written.TypeFits fit type) :
      Spells ("$" ++ label ++ ": " ++ type.print)
        (.naming name (.punctuator .dollar :: .name label :: .punctuator .colon ::
          type.lexemes)) := by
    have regrouped : "$" ++ label ++ ": " ++ type.print =
        "$" ++ (label ++ ": " ++ type.print) := by
      simp only [String.append_assoc]
    rw [regrouped, Lexed.naming_punctuator]
    exact (spells_entry names fits (spells_typeRef names typeFits)).after
      (Source.stands_punctuator .dollar)
  cases means with
  | plain fits typeFits =>
    simpa [variableDefinition, Source.VariableDefinition.lexemes, Source.defaultLexemes,
      Source.directiveLexemes] using spellsTyped fits typeFits
  | withDefault fits typeFits means =>
    have opens : Opens " = " := by decide
    have spellsBoth := (spellsTyped fits typeFits).append
      ((spells_value names means).after stands_equals) (opens.append _).parts
    rw [← Lexed.naming_punctuator, ← Lexed.naming_append] at spellsBoth
    simpa [variableDefinition, Source.VariableDefinition.lexemes, Source.defaultLexemes,
      Source.directiveLexemes] using spellsBoth

theorem spells_variableDefinitions
    (names : NamesRead fit name)
    {declared? : Option (List Written.VariableDefinition)}
    {declarations : List Source.VariableDefinition}
    (notEmptied : declared? ≠ some [])
    (mean : List.Forall₂ (Written.VariableDefinition.Means fit) (declared?.getD []) declarations) :
    Spells (variableDefinitions declared?)
      (.naming name (inParentheses Source.VariableDefinition.lexemes declarations)) := by
  have spellsEach := mean.imp fun declared meant means => spells_variableDefinition names means
  apply spells_parentheses
  · cases declared? with
    | none => simp
    | some declared => simpa using notEmptied
  · cases declared? with
    | none => simpa using spellsEach
    | some declared => simpa [List.forall₂_map_left_iff] using spellsEach

theorem spells_selectionSet
    (names : NamesRead fit name)
    (layout : Layout)
    {selected? : Option (List Written.Selection)}
    {meant : List Source.Selection}
    (mean : Written.SelectionsMean fit selected? meant) :
    Spells (layout.selectionSet selected?)
      (.naming name (Source.Selection.bracedLexemes meant)) := by
  have spells := spells_selected layout 0 selected?
    (mean.imp fun selected selection means => spells_selection names layout means 1)
  cases selected? with
  | none => exact spells
  | some selected => exact spells

/-- A word of the grammar and a name with spaces between and around them. -/
theorem spells_word_name
    (names : NamesRead fit name)
    (word : String)
    {label : String}
    (isName : Text.Name.IsName word)
    (fits : fit label) :
    Spells (word ++ " " ++ label) (.naming name [.name word, .name label]) := by
  have opens : Opens " " := by decide
  have spellsLabel : Spells (" " ++ label) (.naming name [.name label]) := by
    simpa using (names.spells label fits).after stands_space
  have spellsBoth := (names.spells_word word isName).append spellsLabel (opens.append _).parts
  rwa [← String.append_assoc, ← Lexed.naming_append] at spellsBoth

theorem spells_operationName
    (names : NamesRead fit name)
    {name? : Option String}
    (fits : ∀ label ∈ name?, fit label) :
    Spells (operationName name?) (.naming name (name?.map Lexeme.name).toList) := by
  cases name? with
  | none => exact .empty
  | some label =>
    have spellsLabel := (names.spells label (fits label rfl)).after stands_space
    simpa [operationName] using spellsLabel

theorem parts_operationName (name? : Option String) : Source.Parts (operationName name?) := by
  cases name? with
  | none => exact .empty
  | some label =>
    have opens : Opens " " := by decide
    exact (opens.append label).parts

/-- A fragment is introduced by its name and its condition. -/
theorem spells_title
    (names : NamesRead fit name)
    {label condition : String}
    (fits : fit label)
    (fitsCondition : fit condition) :
    Spells ("fragment " ++ label ++ " on " ++ condition)
      (.naming name [.name "fragment", .name label, .name "on", .name condition]) := by
  have opens : Opens " " := by decide
  have spellsOn := (spells_word_name names "on" (by decide) fitsCondition).after stands_space
  have spellsBoth := (spells_word_name names "fragment" (by decide) fits).append spellsOn
    (opens.append _).parts
  rw [Lexed.of_nil_append, ← Lexed.naming_append] at spellsBoth
  have regrouped : "fragment" ++ " " ++ label ++ (" " ++ ("on" ++ " " ++ condition)) =
      "fragment " ++ label ++ " on " ++ condition := by
    apply String.toList_injective
    simp
  rwa [regrouped] at spellsBoth

/-- A definition is read as the definition that it means. -/
theorem spells_definition
    (names : NamesRead fit name)
    (layout : Layout)
    {written : Written.Definition}
    {meant : Source.Definition}
    (means : written.Means fit meant) :
    Spells (layout.definition written) (.naming name meant.lexemes) := by
  cases means with
  | @operation kind name? declared? declarations applied directives selected? selections
      fits notEmptied declarationsMean directivesMean selectionsMean =>
    have isName : Text.Name.IsName kind.text := by cases kind <;> decide
    have spellsNamed := (names.spells_word kind.text isName).append
      (spells_operationName names fits) (parts_operationName name?)
    have spellsDeclared := spellsNamed.append
      (spells_variableDefinitions names notEmptied declarationsMean) (parts_parentheses _)
    have spellsHead := spellsDeclared.append (spells_directives names directivesMean)
      (parts_directives applied)
    simp only [← Lexed.naming_append, List.cons_append, List.nil_append] at spellsHead
    have spellsBoth :=
      spells_before_set spellsHead (spells_selectionSet names layout selectionsMean)
    unfold definition Source.Definition.lexemes
    simpa only [List.cons_append] using spellsBoth
  | @fragment label condition applied directives selected? selections
      fits fitsCondition directivesMean selectionsMean =>
    have spellsHead := (spells_title names fits fitsCondition).append
      (spells_directives names directivesMean) (parts_directives applied)
    simp only [← Lexed.naming_append, List.cons_append, List.nil_append] at spellsHead
    have spellsBoth :=
      spells_before_set spellsHead (spells_selectionSet names layout selectionsMean)
    unfold definition Source.Definition.lexemes
    simpa only [List.cons_append] using spellsBoth

/-- A document is read as the lexemes of the document that it means, in every layout. -/
theorem spells_document
    (names : NamesRead fit name)
    (layout : Layout)
    {written : List Written.Definition}
    {meant : Source.Document}
    (mean : Written.DocumentMeans fit written meant) :
    Spells (layout.document written) (.naming name meant.lexemes) := by
  have spellsEach := mean.imp fun definition meant means =>
    spells_definition names layout means
  rw [Source.Document.lexemes, Lexed.naming_flatMap, document]
  unfold separator
  split
  · apply Spells.joinWith (.of_isIgnored (by decide)) (by decide)
    rwa [List.forall₂_map_left_iff, List.forall₂_map_right_iff]
  · apply Spells.joinWith (.of_isIgnored (by decide)) (by decide)
    rwa [List.forall₂_map_left_iff, List.forall₂_map_right_iff]

end Layout
end GraphQL
