import GraphQL.Proofs.Request.RoundTrip
import GraphQL.Proofs.Source.Placeless

/-!
# Other layouts of a request

The layout of a request changes nothing but blanks between tokens.  This needs neither a
complete request nor one that can be read back: it holds for everything that can be put
together from names that have passed the gate.
-/

namespace GraphQL

open Source (lexed Lexed tokenize)

namespace Datum

/-- A typed request either cannot be built for the same reason in two layouts, or it is
built in both.  The texts then have the same tokens, and they are equivalent unless both
cannot be read.  If all names are texts, reading the tokens gets to the end. -/
theorem build_relayout
    {document : Datum}
    (typed : Typed.Document Label.Passed document)
    (first second : Layout) :
    (∃ fault, document.build first = .error fault ∧ document.build second = .error fault) ∨
    ∃ text other, document.build first = .ok text ∧ document.build second = .ok other ∧
      (tokenize text).lexed = (tokenize other).lexed ∧
      (Typed.Document Label.PassedText document → (tokenize text).lexed.stop = none) ∧
      ((∃ error, Source.Document.parse text = .error error) ∧
          (∃ error, Source.Document.parse other = .error error) ∨
        Source.equivalent text other = .ok true) := by
  have yields := Written.yields_document Written.namesFit_of_passed typed
  by_cases printable : document.Printable
  · right
    obtain ⟨meant, -, built⟩ := exists_lexed_build Written.namesFit_of_passed
      Layout.namesRead_of_settled typed printable
    obtain ⟨text, builtText, read⟩ := built first
    obtain ⟨other, builtOther, readOther⟩ := built second
    have same : lexed text.toList = lexed other.toList := read.trans readOther.symm
    have ends (typedTexts : Typed.Document Label.PassedText document) :
        (tokenize text).lexed.stop = none := by
      rw [Source.lexed_tokenize, lexed_of_build typedTexts builtText]
      exact Lexed.stop_naming _ (fun _ => rfl) _
    refine ⟨text, other, builtText, builtOther, same, ends, ?_⟩
    rcases Source.Document.parse_eq_of_lexed_eq same with
      ⟨error, otherError, refused, refusedOther, -⟩ | ⟨parsed, accepted, acceptedOther⟩
    · exact .inl ⟨⟨error, refused⟩, otherError, refusedOther⟩
    · exact .inr (Source.equivalent_of_parse_eq accepted acceptedOther)
  · left
    cases written : Written.document document with
    | error fault => exact ⟨fault, by rw [build, written]; rfl, by rw [build, written]; rfl⟩
    | ok definitions => exact absurd (yields.exists_iff.mp ⟨definitions, written⟩) printable

/-! ## A request that cannot be read in any layout -/

/-- A mutation with a doubly marked type and an empty set of selections. -/
def unfinished : Datum :=
  .document (.tuple [
    .operation .mutation (some (.plain "Save\n"))
      (.tuple [
        .variable (.plain "id") (.nonNullType (.nonNullType (.namedType (.plain "ID")))) .null])
      (.tuple [])
      (.tuple [.inlineFragment none (.tuple []) (.tuple [])])])

theorem build_relayout_unfinished :
    ∃ text other, unfinished.build .standard = .ok text ∧
      unfinished.build ⟨"\t", true, by decide⟩ = .ok other ∧
      (tokenize text).lexed = (tokenize other).lexed := by
  have passed (text : String) (accepted : Text.Name.accepts text = true) :
      (Label.plain text).Passed := ⟨accepted, nofun⟩
  have typed : Typed.Document Label.Passed unfinished := by
    refine .of (List.forall_mem_singleton.mpr (.operation .mutation ?_ ?_ .nil ?_))
    · rintro _ ⟨⟩
      exact passed _ (by decide)
    · simpa using .plain (passed _ (by decide)) (.nonNull (.nonNull (.name (passed _ (by decide)))))
    · simpa using .inlineFragment nofun .nil (by simp)
  rcases build_relayout typed .standard ⟨"\t", true, by decide⟩ with
    ⟨fault, refused, -⟩ | ⟨text, other, built, builtOther, same, -⟩
  · cases refused
  · exact ⟨text, other, built, builtOther, same⟩

end Datum
end GraphQL
