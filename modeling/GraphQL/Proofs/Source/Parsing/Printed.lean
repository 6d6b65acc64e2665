import GraphQL.Proofs.Source.Formed
import GraphQL.Proofs.Source.Rendering.Document
import Mathlib.Data.List.Chain

/-!
# Parsing canonical text

In canonical text, a query that has nothing before its selections opens with a brace.  A
definition that holds nothing takes this brace for the one that opens what it holds.  Where no
such query stands right behind such a definition, the definitions of a document are read back
one by one, and nowhere else.
-/

namespace GraphQL
namespace Source

/-! ## Definitions that meet -/

/-- There may be something in braces, but there is nothing. -/
def TypeBody.isOpen : TypeBody → Bool
  | .scalar | .union _ => false
  | .object _ fields | .interface _ fields => fields.isEmpty
  | .enum values => values.isEmpty
  | .input fields => fields.isEmpty

namespace Definition

/-- The definition ends where something in braces might stand. -/
def isOpen : Definition → Bool
  | .type _ definition | .typeExtension definition => definition.body.isOpen
  | .schemaExtension _ roots => roots.isEmpty
  | _ => false

/-- The definition is a query that has nothing before its selections. -/
def isBare : Definition → Bool
  | .operation kind name? declared directives _ =>
    Canonical.isShorthand kind name? declared directives
  | _ => false

/-- The next definition opens with no brace that the definition would take for its own. -/
def ApartFrom (definition next : Definition) : Prop :=
  definition.isOpen = true → next.isBare = false

instance (definition next : Definition) : Decidable (definition.ApartFrom next) :=
  inferInstanceAs (Decidable (_ → _))

end Definition

/-- No definition of the document takes the brace of the next one for its own. -/
def Document.Apart (document : Document) : Prop :=
  document.definitions.IsChain Definition.ApartFrom

instance (document : Document) : Decidable document.Apart :=
  inferInstanceAs (Decidable (List.IsChain _ _))

/-- What carries no definition on does not carry on the body of a type, unless with a brace. -/
theorem TypeBody.endsBefore
    {body : TypeBody}
    {rest : List Lexeme}
    (follows : Follows rest)
    (apart : body.isOpen = true → Avoids [.braceL] rest) :
    body.EndsBefore rest := by
  cases body with
  | scalar => exact follows
  | union members => exact follows
  | object interfaces fields | interface interfaces fields =>
    exact fun empty => ⟨follows, apart (by simp [isOpen, empty])⟩
  | enum values => exact fun empty => ⟨follows, apart (by simp [isOpen, empty])⟩
  | input fields => exact fun empty => ⟨follows, apart (by simp [isOpen, empty])⟩

/-! ## How definitions begin -/

/-- What the first lexeme of a definition is like. -/
structure Definition.Fronts (definition : Definition) (front : Lexeme) : Prop where
  /-- The text does not end. -/
  notEnd : front ≠ .endOfText
  /-- No interfaces are listed. -/
  notImplements : front ≠ .name "implements"
  /-- No punctuator but the brace of a query that has nothing before its selections. -/
  brace : ∀ mark, front = .punctuator mark → mark = .braceL ∧ definition.isBare = true

/-- A word, perhaps with a description before it, may begin any definition. -/
theorem Definition.exists_described_cons
    (definition : Definition)
    (description? : Option Description)
    {word : String}
    (notImplements : word ≠ "implements")
    (rest : List Lexeme) :
    ∃ front more, descriptionLexemes description? ++ .name word :: rest = front :: more ∧
      definition.Fronts front := by
  cases description? with
  | none => exact ⟨_, _, rfl, nofun, by simp [notImplements], nofun⟩
  | some description =>
    obtain ⟨text, block⟩ := description
    cases block with
    | false => exact ⟨_, _, rfl, nofun, nofun, nofun⟩
    | true => exact ⟨_, _, rfl, nofun, nofun, nofun⟩

/-- A definition begins with a description or a word, or with a brace. -/
theorem Definition.exists_printed_cons (definition : Definition) :
    ∃ front more, definition.printed = front :: more ∧ definition.Fronts front := by
  have described := definition.exists_described_cons
  cases definition with
  | operation kind name? declared directives selections =>
    rw [printed]
    by_cases shorthand : Canonical.isShorthand kind name? declared directives = true
    · rw [if_pos shorthand]
      refine ⟨_, _, rfl, by simp, by simp, fun mark same => ⟨?_, shorthand⟩⟩
      exact (Lexeme.punctuator.inj same).symm
    · rw [if_neg shorthand]
      exact described none (by cases kind <;> simp [OperationKind.text]) _
  | fragment name condition directives selections => exact described none (by simp) _
  | schema description? directives roots => exact described description? (by simp) _
  | schemaExtension directives roots => exact described none (by simp) _
  | type description? definition =>
    refine described description? ?_ definition.lexemes.tail
    cases definition.body <;> simp [TypeBody.keyword]
  | typeExtension extension => exact described none (by simp) _
  | directive description? definition => exact described description? (by simp) _

theorem follows_printed (definitions : List Definition) :
    Follows (definitions.flatMap Definition.printed) := by
  cases definitions with
  | nil => exact ⟨by simp, by simp⟩
  | cons definition definitions =>
    obtain ⟨front, more, split, fronts⟩ := definition.exists_printed_cons
    rw [List.flatMap_cons, split]
    refine ⟨fun mark present same => ?_, by simpa using fronts.notImplements⟩
    obtain ⟨rfl, -⟩ := fronts.brace mark (by simpa using same)
    simp at present

theorem avoids_brace_printed
    {definitions : List Definition}
    (notBare : ∀ next ∈ definitions.head?, next.isBare = false) :
    Avoids [.braceL] (definitions.flatMap Definition.printed) := by
  cases definitions with
  | nil => simp
  | cons definition definitions =>
    obtain ⟨front, more, split, fronts⟩ := definition.exists_printed_cons
    rw [List.flatMap_cons, split]
    intro mark _ same
    obtain ⟨-, isBare⟩ := fronts.brace mark (by simpa using same)
    simp [notBare definition (by simp)] at isBare

/-- A query that has nothing before its selections opens with a brace. -/
theorem exists_brace_cons
    {definition : Definition}
    (isBare : definition.isBare = true) :
    ∃ more, definition.printed = .punctuator .braceL :: more := by
  cases definition with
  | operation kind name? declared directives selections =>
    exact ⟨_, if_pos isBare⟩
  | _ => cases isBare

namespace Parser

/-! ## Definitions that are read -/

theorem reads_bare
    {selections : List Selection}
    (readable : ∀ selection ∈ selections, selection.Readable)
    (nonempty : selections ≠ [])
    (filled : ∀ selection ∈ selections, selection.Filled)
    (rest : List Lexeme) :
    Reads Parser.definition (Selection.bracedLexemes selections ++ rest)
      (.operation .query none [] [] selections) rest := by
  have readsSet := reads_selectionSet readable nonempty filled rest
  rw [definition_eq]
  exact .bind (reads_peek _) (.ite_true rfl (.bind readsSet (.pure _ _)))

/-- A definition is read in front of what does not carry it on. -/
theorem reads_printed
    {definition : Definition}
    (formed : definition.Formed)
    {rest : List Lexeme}
    (follows : Follows rest)
    (apart : definition.isOpen = true → Avoids [.braceL] rest) :
    Reads Parser.definition (definition.printed ++ rest) definition rest := by
  cases definition with
  | operation kind name? declared directives selections =>
    obtain ⟨readable, complete⟩ := formed
    rw [Definition.printed]
    by_cases shorthand : Canonical.isShorthand kind name? declared directives = true
    · obtain ⟨rfl, rfl, rfl, rfl⟩ := Canonical.isShorthand_iff.mp shorthand
      obtain ⟨-, -, readable⟩ := readable
      obtain ⟨-, nonempty, filled⟩ := complete
      rw [if_pos shorthand]
      exact reads_bare readable nonempty filled rest
    · rw [if_neg shorthand]
      exact reads_definition readable complete rest
  | fragment => exact reads_definition formed.1 formed.2 rest
  | schema description? directives roots => exact reads_schema description? formed.1 formed.2 rest
  | schemaExtension directives roots =>
    refine reads_schemaExtension formed.1 formed.2 fun empty => ⟨follows, apart ?_⟩
    simp [Definition.isOpen, empty]
  | type description? definition =>
    exact reads_type description? formed (TypeBody.endsBefore follows apart)
  | typeExtension extension =>
    exact reads_typeExtension formed.1 formed.2 (TypeBody.endsBefore follows apart)
  | directive description? definition => exact reads_directive description? formed follows

theorem readsInTurn_of_isChain
    {definitions : List Definition}
    (formed : ∀ definition ∈ definitions, definition.Formed)
    (apart : definitions.IsChain Definition.ApartFrom) :
    ReadsInTurn Definition.printed definitions := by
  induction definitions with
  | nil => exact .nil
  | cons definition definitions inductionHypothesis =>
    obtain ⟨apartHere, apart⟩ := List.isChain_cons.mp apart
    obtain ⟨front, more, split, fronts⟩ := definition.exists_printed_cons
    have reads := reads_printed (formed definition (by simp)) (follows_printed definitions)
      fun isOpen => avoids_brace_printed fun next isNext => apartHere next isNext isOpen
    exact .cons ⟨front, more, split, fronts.notEnd⟩ reads
      (inductionHypothesis (fun other present => formed other (by simp [present])) apart)

/-! ## Definitions that take a brace -/

/-- Whatever the reader gives from the lexemes is good. -/
def Yields {α : Type} (parser : Parser α) (lexemes : List Lexeme) (good : α → Prop) : Prop :=
  ∀ value left, StateT.run parser (.of lexemes) = .ok (value, left) → good value

section Steps

variable
  {α β : Type}
  {parser : Parser α}
  {next : α → Parser β}
  {lexemes : List Lexeme}
  {good : α → Prop}
  {goodNext : β → Prop}

theorem Yields.bind
    (yields : Yields parser lexemes good)
    (givesNext : ∀ value, good value → Gives (next value) goodNext) :
    Yields (parser >>= next) lexemes goodNext := by
  intro value left ran
  rw [StateT.run_bind] at ran
  obtain ⟨⟨first, between⟩, ranFirst, ranNext⟩ := Outcome.bind_eq_ok_iff.mp ran
  exact givesNext first (yields first between ranFirst) between value left ranNext

theorem Reads.bind_yields
    {value : α}
    {middle : List Lexeme}
    (reads : Reads parser lexemes value middle)
    (yields : Yields (next value) middle goodNext) :
    Yields (parser >>= next) lexemes goodNext := by
  intro result left ran
  rw [StateT.run_bind, reads] at ran
  exact yields result left ran

theorem Yields.of_run_eq
    {other : Parser α}
    (yields : Yields other lexemes good)
    (same : StateT.run parser (.of lexemes) = StateT.run other (.of lexemes)) :
    Yields parser lexemes good :=
  fun value left ran => yields value left (same.symm.trans ran)

theorem Yields.ite_true
    {condition : Prop}
    [Decidable condition]
    {other : Parser α}
    (holds : condition)
    (yields : Yields parser lexemes good) :
    Yields (if condition then parser else other) lexemes good := by
  rwa [if_pos holds]

theorem Yields.ite_false
    {condition : Prop}
    [Decidable condition]
    {other : Parser α}
    (fails : ¬condition)
    (yields : Yields parser lexemes good) :
    Yields (if condition then other else parser) lexemes good := by
  rwa [if_neg fails]

/-- Behind an opening brace there is something. -/
theorem yields_braces (item : Parser α) (more : List Lexeme) :
    Yields (optionalEnclosed .braceL .braceR item) (.punctuator .braceL :: more)
      fun values => values.isEmpty = false := by
  have gives : Gives (someItems .braceR item) fun values => values.isEmpty = false :=
    .after fun _ => .after fun _ => .pure rfl
  refine (reads_optional _ _).bind_yields fun values left ran => ?_
  exact gives _ values left ran

end Steps

/-- A type that holds nothing takes a brace for its own. -/
theorem yields_typeDefinition
    {definition : TypeDefinition}
    (formed : definition.Formed)
    (isOpen : definition.body.isOpen = true)
    (more : List Lexeme) :
    Yields (typeDefinition definition.body.keyword)
      (definition.lexemes.tail ++ .punctuator .braceL :: more)
      fun found => found.body.isOpen = false := by
  obtain ⟨name, directives, body⟩ := definition
  obtain ⟨directed, -⟩ := formed
  have follows : Follows (.punctuator .braceL :: more) := ⟨by simp, by simp⟩
  have readsApplied := reads_directives directed follows.avoids_atSign
  cases body with
  | scalar => cases isOpen
  | union members => cases isOpen
  | object interfaces fields | interface interfaces fields =>
    obtain rfl : fields = [] := by simpa [TypeBody.isOpen] using isOpen
    obtain ⟨notAmp, notImplements⟩ := follows.directives directives
    have readsInterfaces := reads_interfaces interfaces notAmp notImplements
    simp only [TypeDefinition.lexemes, List.tail_cons, List.cons_append, List.append_assoc,
      inBraces, List.nil_append]
    exact (reads_name _ _).bind_yields (readsInterfaces.bind_yields (readsApplied.bind_yields
      ((yields_braces _ _).bind fun _ holds => .pure holds)))
  | enum values =>
    obtain rfl : values = [] := by simpa [TypeBody.isOpen] using isOpen
    simp only [TypeDefinition.lexemes, List.tail_cons, List.cons_append, List.append_assoc,
      inBraces, List.nil_append]
    exact (reads_name _ _).bind_yields (readsApplied.bind_yields
      ((yields_braces _ _).bind fun _ holds => .pure holds))
  | input fields =>
    obtain rfl : fields = [] := by simpa [TypeBody.isOpen] using isOpen
    simp only [TypeDefinition.lexemes, List.tail_cons, List.cons_append, List.append_assoc,
      inBraces, List.nil_append]
    exact (reads_name _ _).bind_yields (readsApplied.bind_yields
      ((yields_braces _ _).bind fun _ holds => .pure holds))

theorem yields_type
    (description? : Option Description)
    {definition : TypeDefinition}
    (formed : definition.Formed)
    (isOpen : definition.body.isOpen = true)
    (more : List Lexeme) :
    Yields Parser.definition
      ((Definition.type description? definition).lexemes ++ .punctuator .braceL :: more)
      fun found => found.isOpen = false := by
  have notDirective : definition.body.keyword ≠ "directive" := by
    cases definition.body <;> simp [TypeBody.keyword]
  have yields : Yields (typeSystemDefinition definition.body.keyword)
      (descriptionLexemes description? ++ .name definition.body.keyword ::
        (definition.lexemes.tail ++ .punctuator .braceL :: more))
      fun found => found.isOpen = false :=
    (reads_description _ _ _).bind_yields ((reads_keyword _ _).bind_yields
      (.ite_false (keyword_ne_schema _) (.ite_false notDirective
        ((yields_typeDefinition formed isOpen more).bind fun _ holds => .pure holds))))
  rw [Definition.lexemes, List.append_assoc]
  exact yields.of_run_eq
    (run_definition_of_typeSystem description? (isTypeSystemKeyword_keyword _) _)

theorem yields_typeExtension
    {extension : TypeDefinition}
    (formed : extension.Formed)
    (isOpen : extension.body.isOpen = true)
    (more : List Lexeme) :
    Yields Parser.definition
      ((Definition.typeExtension extension).lexemes ++ .punctuator .braceL :: more)
      fun found => found.isOpen = false := by
  have yields : Yields Parser.extension
      (.name "extend" :: .name extension.body.keyword ::
        (extension.lexemes.tail ++ .punctuator .braceL :: more))
      fun found => found.isOpen = false := by
    refine (reads_lookahead _ _ _).bind_yields (.ite_false (keyword_ne_schema _)
      (.ite_true (isTypeKeyword_keyword _) ((reads_next _ _).bind_yields
        ((reads_next _ _).bind_yields ((yields_typeDefinition formed isOpen more).bind ?_)))))
    exact fun _ holds => .ite (fun _ => .after fun _ => .unexpected _) fun _ => .pure holds
  exact yields.of_run_eq (run_definition_of_extension _)

theorem yields_schemaExtension
    {directives : List Directive}
    (directed : ∀ directive ∈ directives, directive.Readable true)
    (more : List Lexeme) :
    Yields Parser.definition
      ((Definition.schemaExtension directives []).lexemes ++ .punctuator .braceL :: more)
      fun found => found.isOpen = false := by
  have readsApplied := @reads_directives _ _ directed (.punctuator .braceL :: more) (by simp)
  have yields : Yields Parser.extension
      (.name "extend" :: .name "schema" ::
        (directiveLexemes directives ++ .punctuator .braceL :: more))
      fun found => found.isOpen = false := by
    refine (reads_lookahead _ _ _).bind_yields (.ite_true rfl ((reads_next _ _).bind_yields
      ((reads_next _ _).bind_yields (readsApplied.bind_yields ((yields_braces _ _).bind ?_)))))
    exact fun _ holds => .ite (fun _ => .after fun _ => .unexpected _) fun _ => .pure holds
  simp only [Definition.lexemes, inBraces, List.append_nil, List.cons_append]
  exact yields.of_run_eq (run_definition_of_extension _)

/-- A definition that ends where something in braces might stand takes a brace for its own. -/
theorem yields_definition
    {definition : Definition}
    (formed : definition.Formed)
    (isOpen : definition.isOpen = true)
    (more : List Lexeme) :
    Yields Parser.definition (definition.printed ++ .punctuator .braceL :: more)
      fun found => found.isOpen = false := by
  cases definition with
  | type description? definition => exact yields_type description? formed isOpen more
  | typeExtension extension => exact yields_typeExtension formed.1 isOpen more
  | schemaExtension directives roots =>
    obtain rfl : roots = [] := by simpa [Definition.isOpen] using isOpen
    exact yields_schemaExtension formed.1 more
  | _ => cases isOpen

/-- A definition that is read as itself takes no brace of the next one, and the next ones are
left. -/
theorem apart_of_run_definition
    {definition : Definition}
    (formed : definition.Formed)
    {definitions : List Definition}
    {left : Cursor}
    (ran : StateT.run Parser.definition
      (.of (definition.printed ++ definitions.flatMap Definition.printed)) =
        .ok (definition, left)) :
    (∀ next ∈ definitions.head?, definition.ApartFrom next) ∧
      left = .of (definitions.flatMap Definition.printed) := by
  have apart : ∀ next ∈ definitions.head?, definition.ApartFrom next := by
    intro next isNext isOpen
    cases definitions with
    | nil => cases isNext
    | cons other definitions =>
      obtain rfl : other = next := by simpa using isNext
      by_contra isBare
      obtain ⟨more, split⟩ := exists_brace_cons (Bool.eq_true_of_not_eq_false isBare)
      rw [List.flatMap_cons, split, List.cons_append] at ran
      have notOpen := yields_definition formed isOpen _ definition left ran
      simp [isOpen] at notOpen
  have reads := reads_printed formed (follows_printed definitions) fun isOpen =>
    avoids_brace_printed fun next isNext => apart next isNext isOpen
  rw [reads] at ran
  exact ⟨apart, (Prod.mk.inj (Except.ok.inj ran)).2.symm⟩

/-- Definitions that are read as themselves are apart. -/
theorem isChain_of_run_definitionsWithin
    {definitions : List Definition}
    (formed : ∀ definition ∈ definitions, definition.Formed)
    {count : Nat}
    {left : Cursor}
    (ran : StateT.run (definitionsWithin count) (.of (definitions.flatMap Definition.printed)) =
      .ok (definitions, left)) :
    definitions.IsChain Definition.ApartFrom := by
  induction definitions generalizing count with
  | nil => exact .nil
  | cons definition definitions inductionHypothesis =>
    cases count with
    | zero =>
      rw [definitionsWithin, StateT.run_bind, run_peek, Outcome.ok_bind, run_unexpected] at ran
      cases ran
    | succ count =>
      obtain ⟨front, more, split, fronts⟩ := definition.exists_printed_cons
      rw [List.flatMap_cons, definitionsWithin,
        reads_definition_bind ⟨front, more, split, fronts.notEnd⟩, StateT.run_bind] at ran
      obtain ⟨⟨found, between⟩, ranDefinition, ran⟩ := Outcome.bind_eq_ok_iff.mp ran
      rw [StateT.run_bind] at ran
      obtain ⟨⟨others, ending⟩, ranOthers, same⟩ := Outcome.bind_eq_ok_iff.mp ran
      simp only [run_pure, Except.ok.injEq, Prod.mk.injEq, List.cons.injEq] at same
      obtain ⟨⟨rfl, rfl⟩, rfl⟩ := same
      obtain ⟨apart, rfl⟩ := apart_of_run_definition (formed found (by simp)) ranDefinition
      exact List.isChain_cons.mpr ⟨apart, inductionHypothesis
        (fun other present => formed other (by simp [present])) ranOthers⟩

theorem isChain_of_run_document
    {definitions : List Definition}
    (formed : ∀ definition ∈ definitions, definition.Formed)
    {left : Cursor}
    (ran : StateT.run document (.of (definitions.flatMap Definition.printed)) =
      .ok (⟨definitions⟩, left)) :
    definitions.IsChain Definition.ApartFrom := by
  rw [document, StateT.run_bind] at ran
  obtain ⟨⟨found, between⟩, ranDefinition, ran⟩ := Outcome.bind_eq_ok_iff.mp ran
  rw [StateT.run_bind] at ran
  obtain ⟨⟨count, here⟩, ranBound, ran⟩ := Outcome.bind_eq_ok_iff.mp ran
  rw [StateT.run_bind] at ran
  obtain ⟨⟨others, ending⟩, ranOthers, same⟩ := Outcome.bind_eq_ok_iff.mp ran
  simp only [run_pure, Except.ok.injEq, Prod.mk.injEq, Document.mk.injEq] at same
  obtain ⟨rfl, rfl⟩ := same
  obtain ⟨apart, rfl⟩ := apart_of_run_definition (formed found (by simp)) ranDefinition
  rw [reads_bound] at ranBound
  obtain ⟨-, rfl⟩ := Prod.mk.inj (Except.ok.inj ranBound)
  exact List.isChain_cons.mpr ⟨apart, isChain_of_run_definitionsWithin
    (fun other present => formed other (by simp [present])) ranOthers⟩

end Parser

/-- A text with the lexemes that a document is printed with stands for the document exactly if
no definition takes a brace of the next one. -/
theorem Document.parse_eq_ok_iff_apart
    {document : Document}
    (nonempty : document.definitions ≠ [])
    (formed : ∀ definition ∈ document.definitions, definition.Formed)
    {text : String}
    (read : lexed text.toList = .of document.printed) :
    parse text = .ok document ↔ document.Apart := by
  constructor
  · intro parsed
    have outcome := Parser.mapError_run_of_lexed Parser.placeless_document read
    change (parse text).mapError _ = _ at outcome
    rw [parsed] at outcome
    cases ran : StateT.run Parser.document (.of document.printed) with
    | error error => simp [ran, Except.map, Except.mapError] at outcome
    | ok found =>
      obtain ⟨found, left⟩ := found
      obtain rfl : document = found := by simpa [ran, Except.map, Except.mapError] using outcome
      exact Parser.isChain_of_run_document formed ran
  · intro apart
    exact parse_of_readsInTurn nonempty (Parser.readsInTurn_of_isChain formed apart) read

end Source
end GraphQL
