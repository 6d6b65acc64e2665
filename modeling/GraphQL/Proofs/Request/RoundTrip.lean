import GraphQL.Proofs.Request.Name
import GraphQL.Proofs.Request.Unprintable
import GraphQL.Proofs.Source.Drawing
import GraphQL.Proofs.Source.Parsing.Document

/-!
# Reading back what is built

The text of a typed request is read back exactly if the request is complete, and it is
then read as the mirror of the request, whatever the layout.  A fragment called `on`
cannot be referred to, and a number without a numeral cannot be written.
-/

namespace GraphQL

open Source (lexed Lexed)
open Written (NamesFit)
open Layout (NamesRead)

/-- What is built for a request has the lexemes of a document, which is the mirror of
the request if the names in it are plain. -/
theorem Datum.exists_lexed_build
    {named : Label → Prop}
    {fit : String → Prop}
    {plain : Prop}
    {name : String → Lexed}
    (fits : NamesFit named fit plain)
    (reads : NamesRead fit name)
    {document : Datum}
    (typed : Typed.Document named document)
    (printable : document.Printable) :
    ∃ meant : Source.Document, (plain → meant = Mirror.document document) ∧
      ∀ layout, ∃ text, document.build layout = .ok text ∧
        lexed text.toList = .naming name meant.lexemes := by
  have yields := Written.yields_document fits typed
  obtain ⟨written, found⟩ := yields.exists_iff.mpr printable
  obtain ⟨meant, means, same⟩ := yields.good written found
  refine ⟨meant, same, fun layout => ⟨layout.document written, ?_, ?_⟩⟩
  · rw [build, found]
    rfl
  · exact (Layout.spells_document reads layout means).lexed_eq

namespace Datum

/-- Every name that has passed the gate is read as one name token, with the stem of the
name for a value. -/
theorem lexed_of_build
    {document : Datum}
    (typed : Typed.Document Label.PassedText document)
    {layout : Layout}
    {text : String}
    (built : document.build layout = .ok text) :
    lexed text.toList = .naming (fun name => .of [.name (Text.Name.stem name)])
      (Mirror.document document).lexemes := by
  have yields := Written.yields_document Written.namesFit_of_passedText typed
  have printable : document.Printable := by
    obtain ⟨written, found, -⟩ := Outcome.map_eq_ok_iff.mp built
    exact yields.exists_iff.mp ⟨written, found⟩
  obtain ⟨_, same, builtEach⟩ := exists_lexed_build Written.namesFit_of_passedText
    Layout.namesRead_of_accepts typed printable
  obtain rfl := same trivial
  obtain ⟨other, builtOther, read⟩ := builtEach layout
  obtain rfl := Except.ok.inj (built.symm.trans builtOther)
  exact read

/-- A typed request is built exactly if every number in it has a numeral and every node is of
some kind. -/
theorem exists_build_iff
    {document : Datum}
    (typed : Typed.Document Label.IsWord document)
    (layout : Layout) :
    (∃ text, document.build layout = .ok text) ↔
      ∀ node ∈ document.nodes, node.isUnprintable = false := by
  have yields := Written.yields_document (Written.namesFit_of_isWord True) typed
  rw [build, Outcome.exists_map_iff]
  exact yields.exists_iff

section Words

variable
  {document : Datum}
  (typed : Typed.Document Label.IsWord document)
  (printable : ∀ node ∈ document.nodes, node.isUnprintable = false)
  (layout : Layout)

include typed printable

/-- What is built for a request whose names are words has the lexemes of its mirror. -/
theorem exists_build_of_words :
    ∃ text, document.build layout = .ok text ∧
      lexed text.toList = .of (Mirror.document document).lexemes := by
  obtain ⟨_, same, built⟩ := exists_lexed_build (Written.namesFit_of_isWord True)
    Layout.namesRead_of_isName typed printable
  obtain rfl := same trivial
  obtain ⟨text, builtText, read⟩ := built layout
  rw [Lexed.naming_of] at read
  exact ⟨text, builtText, read⟩

/-- A complete request is read back, unless it refers to a fragment called `on`. -/
theorem exists_parse_of_complete
    (notOn : ∀ node ∈ document.nodes, node.isSpreadOfOn = false)
    (complete : document ≠ .document (.tuple []) ∧ ∀ node ∈ document.nodes, node.Complete) :
    ∃ text, document.build layout = .ok text ∧
      Source.Document.parse text = .ok (Mirror.document document) := by
  obtain ⟨text, built, read⟩ := exists_build_of_words typed printable layout
  exact ⟨text, built, Source.Document.parse_of_complete (typed.readable notOn)
    (typed.complete_iff.mpr complete) read⟩

/-- A request that is not complete is refused by the parser. -/
theorem exists_parse_of_not_complete
    (notOn : ∀ node ∈ document.nodes, node.isSpreadOfOn = false)
    (incomplete : ¬(document ≠ .document (.tuple []) ∧ ∀ node ∈ document.nodes, node.Complete)) :
    ∃ text error, document.build layout = .ok text ∧
      Source.Document.parse text = .error error := by
  obtain ⟨text, built, read⟩ := exists_build_of_words typed printable layout
  rw [← typed.complete_iff] at incomplete
  obtain ⟨error, refused⟩ :=
    Source.Document.parse_of_not_complete (typed.readable notOn) incomplete read
  exact ⟨text, error, built, refused⟩

end Words

/-- A typed request whose names are words is built exactly if every number in it has a
numeral and every node is of some kind.  What is built can be read exactly if the request
holds a definition, no operation or fragment in it lacks selections, and no declared type is
doubly marked; it then reads as the mirror of the request. -/
theorem parse_build
    {document : Datum}
    (typed : Typed.Document Label.IsWord document)
    (notOn : ∀ node ∈ document.nodes, node.isSpreadOfOn = false)
    (layout : Layout) :
    ((∃ text, document.build layout = .ok text) ↔
        ∀ node ∈ document.nodes, node.isUnprintable = false) ∧
      ∀ text, document.build layout = .ok text →
        ((∃ parsed, Source.Document.parse text = .ok parsed) ↔
          document ≠ .document (.tuple []) ∧
            ∀ node ∈ document.nodes,
              node.lacksSelections = false ∧ node.isDoublyNonNull = false) ∧
        ∀ parsed, Source.Document.parse text = .ok parsed →
          parsed = Mirror.document document := by
  have builds := exists_build_iff typed layout
  refine ⟨builds, fun text built => ?_⟩
  have printable := builds.mp ⟨text, built⟩
  by_cases complete : document ≠ .document (.tuple []) ∧ ∀ node ∈ document.nodes, node.Complete
  · obtain ⟨other, builtToo, accepted⟩ :=
      exists_parse_of_complete typed printable layout notOn complete
    obtain rfl : other = text := Except.ok.inj (builtToo.symm.trans built)
    refine ⟨iff_of_true ⟨_, accepted⟩ complete, ?_⟩
    intro parsed acceptedToo
    exact Except.ok.inj (acceptedToo.symm.trans accepted)
  · obtain ⟨other, error, builtToo, refused⟩ :=
      exists_parse_of_not_complete typed printable layout notOn complete
    obtain rfl : other = text := Except.ok.inj (builtToo.symm.trans built)
    have neverAccepted (parsed : Source.Document) : Source.Document.parse other ≠ .ok parsed := by
      rw [refused]
      nofun
    refine ⟨iff_of_false ?_ complete, ?_⟩
    · rintro ⟨parsed, accepted⟩
      exact neverAccepted parsed accepted
    · intro parsed accepted
      exact absurd accepted (neverAccepted parsed)

end Datum

/-! ## A request that is read back -/

/-- A query with a variable, which refers to a fragment. -/
def Datum.hero : Datum :=
  .document (.tuple [
    .operation .query (some (.plain "Hero"))
      (.tuple [.variable (.plain "id") (.nonNullType (.namedType (.plain "ID"))) .null])
      (.tuple [])
      (.tuple [
        .field (.plain "hero") (some (.plain "found"))
          (.tuple [.argument (.plain "id") (.variable (.plain "id") .null .null)])
          (.tuple [])
          (.tuple [.fragmentSpread (.plain "Names") (.tuple [])])]),
    .fragmentDefinition (.plain "Names") (.plain "Character")
      (.tuple [])
      (.tuple [.field (.plain "name") none (.tuple []) (.tuple []) (.tuple [])])])

theorem Label.isWord_plain
    {text : String}
    (isName : Text.Name.IsName text) :
    (plain text).IsWord :=
  ⟨rfl, isName⟩

theorem Typed.document_hero : Typed.Document Label.IsWord Datum.hero := by
  have names : Typed.Selection Label.IsWord (.fragmentSpread (.plain "Names") (.tuple [])) :=
    .spread (Label.isWord_plain (by decide)) .nil
  have id : (Label.plain "id").IsWord := Label.isWord_plain (by decide)
  have hero : Typed.Selection Label.IsWord
      (.field (.plain "hero") (some (.plain "found"))
        (.tuple [.argument (.plain "id") (.variable (.plain "id") .null .null)])
        (.tuple [])
        (.tuple [.fragmentSpread (.plain "Names") (.tuple [])])) := by
    refine .field (Label.isWord_plain (by decide)) ?_ ?_ .nil (by simpa using names)
    · rintro _ ⟨⟩
      exact Label.isWord_plain (by decide)
    · exact @Typed.Arguments.of _ [(.plain "id", .variable (.plain "id") .null .null)]
        (by simpa using id) (by simpa using .reference _ _ id)
  have name : Typed.Selection Label.IsWord
      (.field (.plain "name") none (.tuple []) (.tuple []) (.tuple [])) :=
    .field (Label.isWord_plain (by decide)) nofun .nil .nil (by simp)
  refine .of (List.forall_mem_cons.mpr ⟨?_, List.forall_mem_singleton.mpr ?_⟩)
  · refine .operation .query ?_ ?_ .nil (by simpa using hero)
    · rintro _ ⟨⟩
      exact Label.isWord_plain (by decide)
    · simpa using .plain id (.nonNull (.name (Label.isWord_plain (by decide))))
  · exact .fragment (Label.isWord_plain (by decide)) (by decide) (Label.isWord_plain (by decide))
      .nil (by simpa using name)

theorem Datum.parse_build_hero :
    ∃ text, hero.build .standard = .ok text ∧
      Source.Document.parse text = .ok (Mirror.document hero) := by
  obtain ⟨builds, reads⟩ := parse_build Typed.document_hero (by decide) .standard
  obtain ⟨text, built⟩ := builds.mpr (by decide)
  obtain ⟨accepted, same⟩ := reads text built
  obtain ⟨parsed, read⟩ := accepted.mpr ⟨by simp [hero], by decide⟩
  exact ⟨text, built, by rw [read, same parsed read]⟩

/-! ## Requests that are not read back -/

namespace Datum

/-- A query with a variable and a field with an argument. -/
def asking (declared given : Datum) : Datum :=
  .document (.tuple [
    .operation .query none (.tuple [declared]) (.tuple [])
      (.tuple [
        .field (.plain "a") none (.tuple [.argument (.plain "x") given]) (.tuple [])
          (.tuple [])])])

/-- A variable without a default value. -/
def wanted : Datum :=
  .variable (.plain "w") (.namedType (.plain "T")) .null

/-- A variable that is named by a member of an enum, whose text is a name. -/
def wantedByMember : Datum :=
  .variable ⟨"w", some (.custom .text 0, "A")⟩ (.namedType (.plain "T")) .null

section Asking

variable
  {named : Label → Prop}
  (plain : ∀ text : String, Text.Name.IsName text → named (.plain text))

include plain

theorem typed_asking
    {declared given : Datum}
    (typedDeclared : Typed.Declaration named declared)
    (typedGiven : Typed.Value named given) :
    Typed.Document named (asking declared given) := by
  refine .of (List.forall_mem_singleton.mpr (.operation .query nofun
    (List.forall_mem_singleton.mpr typedDeclared) .nil (List.forall_mem_singleton.mpr ?_)))
  refine .field (plain "a" (by decide)) nofun ?_ .nil (List.forall_mem_nil _)
  exact @Typed.Arguments.of _ [(.plain "x", given)]
    (List.forall_mem_singleton.mpr (plain "x" (by decide)))
    (List.forall_mem_singleton.mpr typedGiven)

theorem typed_wanted : Typed.Declaration named wanted :=
  .plain (plain "w" (by decide)) (.name (plain "T" (by decide)))

end Asking

/-- Every name in the request spells a word and nothing else is wrong with it that keeps a
text from being read: no fragment that is referred to is called `on`, the numbers are finite,
and nothing is missing. -/
structure Admissible (request : Datum) : Prop where
  /-- The parts are what they are declared to be, and the names spell words. -/
  typed : Typed.Document Label.SpellsWord request
  /-- There is a definition. -/
  nonempty : request ≠ .document (.tuple [])
  /-- Nothing is wrong at any node. -/
  fine : ∀ node ∈ request.nodes, node.isSpreadOfOn = false ∧ node.isNonFinite = false ∧
    node.lacksSelections = false ∧ node.isDoublyNonNull = false

theorem spellsWord_plain
    (text : String)
    (isName : Text.Name.IsName text) :
    (Label.plain text).SpellsWord :=
  isName

theorem admissible_asking
    {declared given : Datum}
    (typedDeclared : Typed.Declaration Label.SpellsWord declared)
    (typedGiven : Typed.Value Label.SpellsWord given)
    (fine : (asking declared given).nodes.all (fun node => !node.isSpreadOfOn &&
      !node.isNonFinite && !node.lacksSelections && !node.isDoublyNonNull) = true) :
    Admissible (asking declared given) where
  typed := typed_asking spellsWord_plain typedDeclared typedGiven
  nonempty := by simp [asking]
  fine := by
    simpa only [List.all_eq_true, Bool.and_eq_true, Bool.not_eq_true', and_assoc] using fine

/-- A whole number that is too long stops the writing, as nothing before it does. -/
theorem build_asking_of_isLong
    {number : Int}
    (isLong : Number.Whole.isLong number = true)
    (layout : Layout) :
    (asking wanted (.intValue (.int number))).build layout = .error .tooLongToWrite := by
  have typed : Typed.Document Label.SpellsWord (asking wanted (.intValue (.int number))) :=
    typed_asking spellsWord_plain (typed_wanted spellsWord_plain) (.int rfl)
  refine ((typed.stops.map layout.document).error_iff _).mpr ?_
  rw [List.findSome?_eq_some_iff]
  exact ⟨[_, _, _, _, _, _, _], _, [], rfl, if_pos isLong, by simp [fault?]⟩

/-- A value of no particular kind and a whole number that is too long are not written, and a
member of an enum whose text is a name is written as the member, which is no name. -/
theorem exists_admissible_unread :
    (Admissible (asking wanted (.bare .value 0)) ∧
        (asking wanted (.bare .value 0)).build .standard = .error (.misplaced .value "Value")) ∧
      (Admissible (asking wanted (.intValue (.int (10 ^ Number.Whole.mostDigits)))) ∧
        (asking wanted (.intValue (.int (10 ^ Number.Whole.mostDigits)))).build .standard =
          .error .tooLongToWrite) ∧
      Admissible (asking wantedByMember .nullValue) ∧
        ∃ text error, (asking wantedByMember .nullValue).build .standard = .ok text ∧
          Source.Document.parse text = .error error := by
  have typedWanted : Typed.Declaration Label.SpellsWord wanted := typed_wanted spellsWord_plain
  have typedByMember : Typed.Declaration Label.SpellsWord wantedByMember :=
    .plain (spellsWord_plain "w" (by decide)) (.name (spellsWord_plain "T" (by decide)))
  refine ⟨⟨admissible_asking typedWanted (.bare 0) rfl, rfl⟩, ?long,
    admissible_asking typedByMember .null rfl, ?refused⟩
  case long =>
    have isLong := Numeral.isLong_power
    generalize (10 : Int) ^ Number.Whole.mostDigits = number at isLong ⊢
    exact ⟨admissible_asking typedWanted (.int rfl) rfl, build_asking_of_isLong isLong .standard⟩
  case refused =>
    have stops : (lexed "query($E.A: T) \x7b\n  a(x: null)\n\x7d".toList).stop.isSome = true := by
      decide +kernel
    obtain ⟨error, refused⟩ :=
      Source.Document.exists_error_of_stop (Option.isSome_iff_ne_none.mp stops)
    exact ⟨_, error, rfl, refused⟩

end Datum
end GraphQL
