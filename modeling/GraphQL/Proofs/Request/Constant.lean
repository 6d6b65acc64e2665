import GraphQL.Proofs.Request.Mention
import GraphQL.Proofs.Request.Stopping
import GraphQL.Proofs.Source.Drawing
import GraphQL.Proofs.Source.Parsing.Document

/-!
# Default values are constants

A variable can be declared with a default value exactly if no variable is mentioned in it.
The text of the default is then a constant, unless a member of an enum is shown in it.
-/

namespace GraphQL
namespace Datum

/-- A default value is written at the end of the declaration. -/
theorem declarationText_withDefault
    (name : Label)
    {named : Label → Prop}
    {type default : Datum}
    {mapped : Source.TypeRef}
    {written : Written.Value}
    (isMapped : Written.typeRef type = .ok mapped)
    (typed : Typed.Value named default)
    (isWritten : Written.value default = .ok written) :
    declarationText (.variable name type default) =
      .ok ("$" ++ name.shown ++ ": " ++ mapped.print ++ " = " ++
        Layout.value (Written.embed default written)) := by
  rw [declarationText, Written.variableDefinition_variable,
    Written.defaultOf_variable name type typed, isMapped, isWritten]
  simp [Except.map, pure, Except.pure, Layout.variableDefinition, String.append_assoc]

/-- If all names are words, a default value is read as the constant with the same parts. -/
theorem parse_default_of_isWord
    {default : Datum}
    {written : Written.Value}
    (typed : Typed.Value Label.IsWord default)
    (mentionsNone : Node.containsVariable default = .ok false)
    (isWritten : Written.value default = .ok written) :
    Source.Value.parse true (Layout.value (Written.embed default written)) =
      .ok (Mirror.value default) := by
  have names := Written.namesFit_of_isWord True
  have mirrors := (Written.yields_value names typed).good written isWritten
  obtain ⟨meant, means, same⟩ := Written.mirrors_embed names typed mirrors
  have spells := Layout.spells_value Layout.namesRead_of_isName means
  rw [Source.Lexed.naming_of, same trivial] at spells
  exact Source.Value.parse_of_readable (typed.readable fun _ => mentionsNone) spells.lexed_eq

/-- Default values are constants.  Of every tree of literals and variables it is told
whether a variable occurs in it, and exactly those trees in which one does are refused as
the default value of a variable, also where they stand for other data.  What is declared for
any variable that is not refused ends with a text that is read as a constant, which has the
parts of the default if all names are words, unless a member of an enum that is given for a
name is shown in that text.  If members are called by identifiers, such a text is refused. -/
theorem declaration_constant (value : Datum) :
    (value.ValueTree →
      ∃ found, Node.containsVariable value = .ok found ∧ (found = true ↔ value.Mentions)) ∧
    (∀ (name type : Datum) (label : Label),
      Node.checkName "variable name" name = .ok label → value.ValueTree →
      (value.Mentions →
        Node.declaration name type value = .error (.variableInDefault label)) ∧
      (¬value.Mentions →
        Node.declaration name type value = .ok (.variable label type value))) ∧
    (∀ (name wanted type given : Datum) (label : Label),
      Node.checkName "variable name" name = .ok label → Node.asType wanted = .ok type →
      given ≠ .unset → given.unfold.HoldsTrees → given.toValue = .ok value →
      (value.Mentions →
        Build.declare name wanted given = .error (.variableInDefault label)) ∧
      (¬value.Mentions →
        Build.declare name wanted given = .ok (.variable label type value))) ∧
    ∀ (name type : Datum) (label : Label) (mapped : Source.TypeRef),
      Node.declaration name type value = .ok (.variable label type value) →
      Written.typeRef type = .ok mapped → Typed.Value Label.Accepted value →
      value.Printable →
      ∃ text, declarationText (.variable label type value) =
          .ok ("$" ++ label.shown ++ ": " ++ mapped.print ++ " = " ++ text) ∧
        (¬value.ShowsMemberInText → ∃ constant : Source.Value,
          Source.Value.parse true text = .ok constant ∧ constant.Readable true) ∧
        (Typed.Value Label.IsWord value →
          Source.Value.parse true text = .ok (Mirror.value value)) ∧
        (value.ShowsMemberInText → Typed.Value Label.Passed value →
          ∃ error, Source.Value.parse true text = .error error) := by
  refine ⟨Node.exists_containsVariable,
    fun name type label checked tree => Node.declaration_of_tree type checked tree,
    fun name wanted type given label checked isType isGiven trees converted => ?declared,
    fun name type label mapped isMade isMapped typed printable => ?text⟩
  case declared =>
    rw [Build.declare_eq_declaration name isType isGiven converted]
    exact Node.declaration_of_tree type checked (valueTree_of_convert trees converted)
  case text =>
    have isGiven : value ≠ .null := by rintro rfl; cases typed
    have mentionsNone := Node.containsVariable_of_declaration isMade isGiven
    obtain ⟨written, isWritten⟩ :=
      (Written.yields_value Written.namesFit_of_accepted typed).exists_iff.mpr printable
    refine ⟨_, declarationText_withDefault label isMapped typed isWritten, fun isFree => ?_,
      fun areWords => parse_default_of_isWord areWords mentionsNone isWritten,
      fun isStuck passed => ?_⟩
    · have reads := Written.constantUnless_embed namesPass_of_accepted typed
        (Written.constantUnless_value namesPass_of_accepted typed mentionsNone isWritten)
      obtain ⟨constant, readable, spells⟩ := reads.spells isFree
      exact ⟨constant, Source.Value.parse_of_readable readable spells.lexed_eq, readable⟩
    · have reads := Written.constantUnless_embed namesPass_of_passed passed
        (Written.constantUnless_value namesPass_of_passed passed mentionsNone isWritten)
      exact Source.Value.exists_error_of_stop true (reads.stops trivial isStuck).2

/-- A variable inside a list is refused as a default value, a list of an enum symbol that is
a member of an enum is declared as a constant, and so is not an object with that member for
the name of a field. -/
theorem declaration_constant_member :
    let name : Label := .plain "x"
    let type : Datum := .namedType (.plain "C")
    let member : Label := ⟨"k", some (.custom .text 0, "A")⟩
    let reference : Datum := .variable (.plain "v") type .null
    let nested : Datum := .list [.null, .list [reference]]
    let symbols : Datum := .listValue (.tuple [.enumValue member])
    let object : Datum := .objectValue (Typed.objectFields [(member, .intValue (.int 1))])
    Build.declare (.text "x") (.text "C") nested = .error (.variableInDefault name) ∧
      (∃ text, declarationText (.variable name type symbols) = .ok ("$x: C = " ++ text) ∧
        ∃ constant : Source.Value, Source.Value.parse true text = .ok constant ∧
          constant.Readable true) ∧
      ∃ text, declarationText (.variable name type object) = .ok ("$x: C = " ++ text) ∧
        ∃ error, Source.Value.parse true text = .error error := by
  intro name type member reference nested symbols object
  have passed : member.Passed := by
    refine ⟨by decide, ?_⟩
    rintro _ _ ⟨⟩
    decide +kernel
  refine ⟨?_, ?_, ?_⟩
  · have mentions : Mentions
        (.listValue (.tuple [.nullValue, .listValue (.tuple [reference])])) :=
      .item (List.mem_cons_of_mem _ List.mem_cons_self)
        (.item List.mem_cons_self (.reference _ _ _))
    obtain ⟨-, -, declared, -⟩ := declaration_constant
      (.listValue (.tuple [.nullValue, .listValue (.tuple [reference])]))
    refine (declared (.text "x") (.text "C") type nested name rfl rfl (by simp [nested]) ?_
      rfl).1 mentions
    have other {given : Datum} (notValue : given.isValue = false)
        (ofHeld : ∀ direct ∈ given.held, direct.HoldsTrees) : given.HoldsTrees :=
      throughout_iff.mpr ⟨fun isValue => absurd isValue (by simp [notValue]), ofHeld⟩
    have ofReference : reference.HoldsTrees := by
      refine throughout_iff.mpr ⟨fun _ => .reference _ _ _, ?_⟩
      refine List.forall_mem_cons.mpr ⟨other rfl nofun, List.forall_mem_cons.mpr ⟨?_, ?_⟩⟩
      · exact other rfl (List.forall_mem_singleton.mpr (other rfl nofun))
      · exact List.forall_mem_singleton.mpr (other rfl nofun)
    refine other rfl (List.forall_mem_cons.mpr ⟨other rfl nofun, ?_⟩)
    exact List.forall_mem_singleton.mpr (other rfl (List.forall_mem_singleton.mpr ofReference))
  · obtain ⟨-, -, -, texts⟩ := declaration_constant symbols
    obtain ⟨text, isText, isConstant, -, -⟩ := texts (.text "x") type name (.named "C") rfl rfl
      (.list (List.forall_mem_singleton.mpr (.enum passed.1 (by decide))))
      (by unfold Printable; decide)
    refine ⟨text, isText, isConstant ?_⟩
    rintro (isMember | shows)
    · cases isMember
    · obtain ⟨item, present, shows⟩ := (showsMember_list_iff _).mp shows
      obtain rfl := List.mem_singleton.mp present
      cases shows
  · have typed {named : Label → Prop} (isNamed : named member) : Typed.Value named object :=
      .object (List.forall_mem_singleton.mpr isNamed) (List.forall_mem_singleton.mpr (.int rfl))
    obtain ⟨-, -, -, texts⟩ := declaration_constant object
    obtain ⟨text, isText, -, -, isRefused⟩ := texts (.text "x") type name (.named "C") rfl rfl
      (typed passed.1) (by unfold Printable; decide)
    exact ⟨text, isText, isRefused (.inr (.name List.mem_cons_self rfl)) (typed passed)⟩

end Datum
end GraphQL
