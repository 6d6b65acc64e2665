import GraphQL.Proofs.Diff.Reading
import GraphQL.Proofs.Diff.Unchanged
import GraphQL.Proofs.Source.Ending
import GraphQL.Proofs.Source.Equivalence
import Mathlib

/-!
# What a difference shows

Two texts with different canonical texts have a difference, which says how to get from one
canonical text to the other.  What it says is about reading lines.  A line feed ends a
reading line, but a line separator within a string does so too, and is not shown then: where
canonical texts differ in such characters only, nothing is shown at all.  Where they have
none, reading lines are what line feeds separate, and the difference shows at least one line
that is taken away or put in.
-/

namespace GraphQL

open Text (Lines.isBoundary Lines.reading Lines.IsPlain)

namespace Diff

/-- The lines of a text that line feeds separate. -/
def separated (text : String) : List String :=
  (text.toList.splitOn '\n').map String.ofList

theorem linesOf_eq_separated
    {text : String}
    (plain : Lines.IsPlain text.toList) :
    linesOf text = separated text := by
  rw [linesOf, separated, Text.Lines.reading_eq_splitOn plain]

/-- A text without other ends of lines is told by its lines. -/
theorem eq_of_linesOf_eq
    {text other : String}
    (plain : Lines.IsPlain text.toList)
    (plainToo : Lines.IsPlain other.toList)
    (same : linesOf text = linesOf other) :
    text = other := by
  have injective : Function.Injective String.ofList := fun _ _ => String.ofList_inj.mp
  exact String.toList_inj.mp
    (plain.eq_of_reading_eq plainToo (injective.list_map same))

/-- What the difference of two texts says about their lines. -/
def changes (old new : String) : List Change :=
  (hunks (script (linesOf old) (linesOf new))).map Hunk.change

theorem patch_changes (old new : String) :
    patch (changes old new) (linesOf old) = some (linesOf new) := by
  have applied := patch_hunks (script (linesOf old) (linesOf new))
  rwa [oldSide_script, newSide_script] at applied

theorem changes_eq_nil_iff
    {old new : String} :
    changes old new = [] ↔ linesOf old = linesOf new := by
  constructor
  · intro none
    have applied := patch_changes old new
    rw [none] at applied
    exact Option.some.inj applied
  · intro same
    rw [changes, same, hunks_script_self, List.map_nil]

/-- Every change takes a line away or puts one in. -/
theorem exists_isChange_of_mem_changes
    {old new : String}
    {change : Change}
    (present : change ∈ changes old new) :
    ∃ edit ∈ change.edits, edit.isChange = true := by
  obtain ⟨hunk, among, rfl⟩ := List.mem_map.mp present
  exact exists_isChange_of_mem_hunks (fun _ => isEmpty_of_mem_tidy) among

/-- A line is taken away or put in exactly where lines differ. -/
theorem exists_isChange_iff
    {old new : String} :
    (∃ change ∈ changes old new, ∃ edit ∈ change.edits, edit.isChange = true) ↔
      linesOf old ≠ linesOf new := by
  rw [ne_eq, ← changes_eq_nil_iff]
  constructor
  · rintro ⟨change, present, -⟩ none
    rw [none] at present
    cases present
  · intro some
    obtain ⟨change, rest, found⟩ := List.exists_cons_of_ne_nil some
    have present : change ∈ changes old new := found ▸ List.mem_cons_self
    exact ⟨change, present, exists_isChange_of_mem_changes present⟩

/-- A difference has no text exactly where no lines differ. -/
theorem unified_eq_empty_iff
    {oldName newName old new : String} :
    unified oldName newName old new = "" ↔ linesOf old = linesOf new := by
  rw [← changes_eq_nil_iff, changes, List.map_eq_nil_iff, unified]
  cases hunks (script (linesOf old) (linesOf new)) with
  | nil => simp
  | cons hunk shown => simp [Text.Lines.joinWith_cons_cons]

end Diff

namespace Source

/-- The canonical text of a text that is read ends in a line. -/
theorem endsInLine_normalize
    {text canonical : String}
    (normalized : normalize text = .ok canonical) :
    Text.Lines.EndsInLine canonical := by
  obtain ⟨document, parsed, same⟩ := Outcome.bind_eq_ok_iff.mp normalized
  obtain rfl := Except.ok.inj same
  exact Document.endsInLine_print parsed

theorem isPlain_normalize
    {text canonical : String}
    (normalized : normalize text = .ok canonical)
    (lineFeed : ∀ c ∈ canonical.toList, Lines.isBoundary c = true → c = '\n') :
    Lines.IsPlain canonical.toList :=
  have ends := endsInLine_normalize normalized
  ⟨ends.notEmpty, ends.noFinalBreak, lineFeed⟩

/-- Texts with different canonical texts have a difference, which holds both of them.  What
is said about it can be read as changes of lines, and these turn the reading lines of the
one canonical text into those of the other.  Something is said, and a line is taken away or
put in, exactly where reading lines differ.  That they do, and that they are what line feeds
separate, is certain where nothing but a line feed ends a reading line. -/
theorem difference_exact
    {expected actual first second : String}
    (normalized : normalize expected = .ok first)
    (normalizedToo : normalize actual = .ok second)
    (differ : first ≠ second) :
    difference? expected actual = .ok (some ⟨first, second⟩) ∧
      ∃ (diff : String) (changes : List Diff.Change),
        (Difference.mk first second).message =
            "GraphQL requests are not equivalent:\n" ++ diff ∧
          Diff.read? "expected" "actual" diff = some changes ∧
          Diff.patch changes (Diff.linesOf first) = some (Diff.linesOf second) ∧
          (diff ≠ "" ↔ Diff.linesOf first ≠ Diff.linesOf second) ∧
          ((∃ change ∈ changes, ∃ edit ∈ change.edits, edit.isChange = true) ↔
            Diff.linesOf first ≠ Diff.linesOf second) ∧
          ((∀ c ∈ first.toList ++ second.toList, Lines.isBoundary c = true → c = '\n') →
            (∃ change ∈ changes, ∃ edit ∈ change.edits, edit.isChange = true) ∧
              Diff.patch changes (Diff.separated first) = some (Diff.separated second)) := by
  refine ⟨?_, Diff.unified "expected" "actual" first second, Diff.changes first second, rfl,
    Diff.read?_unified (by decide) (by decide) first second, Diff.patch_changes first second,
    not_congr Diff.unified_eq_empty_iff, Diff.exists_isChange_iff, fun lineFeed => ?_⟩
  · rw [difference?, normalizeBoth, normalized, normalizedToo]
    simp [Except.mapError, bind, Except.bind, pure, Except.pure, differ]
  · rw [List.forall_mem_append] at lineFeed
    have plain := isPlain_normalize normalized lineFeed.1
    have plainToo := isPlain_normalize normalizedToo lineFeed.2
    constructor
    · exact Diff.exists_isChange_iff.mpr fun same =>
        differ (Diff.eq_of_linesOf_eq plain plainToo same)
    · rw [← Diff.linesOf_eq_separated plain, ← Diff.linesOf_eq_separated plainToo]
      exact Diff.patch_changes first second

/-- A query of one field, with arguments. -/
def fieldOnly (name : String) (arguments : List Argument) : Document :=
  ⟨[.operation .query none [] [] [.field none name arguments [] []]]⟩

/-- A query of one field, with a separator in a string. -/
def separatedQuery (separator : String) : Document :=
  fieldOnly "a" [⟨"x", .string ("p" ++ separator ++ "q") false⟩]

/-- Another field is shown as a line in the place of another one.  Of two separators in a
string nothing is shown, though they differ. -/
theorem difference_exact_separators :
    (∃ changes : List Diff.Change,
      (∃ change ∈ changes, ∃ edit ∈ change.edits, edit.isChange = true) ∧
        Diff.patch changes ["\x7b", "  a", "\x7d"] = some ["\x7b", "  b", "\x7d"]) ∧
      difference? "\x7b a(x: \"p\u2028q\") \x7d" "\x7b a(x: \"p\u2029q\") \x7d" =
        .ok (some ⟨"\x7b\n  a(x: \"p\u2028q\")\n\x7d", "\x7b\n  a(x: \"p\u2029q\")\n\x7d"⟩) ∧
      (Difference.mk "\x7b\n  a(x: \"p\u2028q\")\n\x7d"
        "\x7b\n  a(x: \"p\u2029q\")\n\x7d").message =
          "GraphQL requests are not equivalent:\n" := by
  constructor
  · have parsedA : Document.parse "\x7ba\x7d" = .ok (fieldOnly "a" []) := by cbv
    have parsedB : Document.parse "\x7bb\x7d" = .ok (fieldOnly "b" []) := by cbv
    have normalizedA : normalize "\x7ba\x7d" = .ok "\x7b\n  a\n\x7d" :=
      normalize_of_parse parsedA
    have normalizedB : normalize "\x7bb\x7d" = .ok "\x7b\n  b\n\x7d" :=
      normalize_of_parse parsedB
    have lineFeeds : ("\x7b\n  a\n\x7d".toList ++ "\x7b\n  b\n\x7d".toList).all
        (fun c => !Lines.isBoundary c || c = '\n') = true := by decide
    obtain ⟨-, -, changes, -, -, -, -, -, shown⟩ :=
      difference_exact normalizedA normalizedB (by decide)
    refine ⟨changes, shown fun c present boundary => ?_⟩
    simpa [boundary] using List.all_eq_true.mp lineFeeds c present
  · have parsedLine : Document.parse "\x7b a(x: \"p\u2028q\") \x7d" =
        .ok (separatedQuery "\u2028") := by cbv
    have parsedParagraph : Document.parse "\x7b a(x: \"p\u2029q\") \x7d" =
        .ok (separatedQuery "\u2029") := by cbv
    have normalizedLine : normalize "\x7b a(x: \"p\u2028q\") \x7d" =
        .ok "\x7b\n  a(x: \"p\u2028q\")\n\x7d" := normalize_of_parse parsedLine
    have normalizedParagraph : normalize "\x7b a(x: \"p\u2029q\") \x7d" =
        .ok "\x7b\n  a(x: \"p\u2029q\")\n\x7d" := normalize_of_parse parsedParagraph
    have sameLines : Diff.linesOf "\x7b\n  a(x: \"p\u2028q\")\n\x7d" =
        Diff.linesOf "\x7b\n  a(x: \"p\u2029q\")\n\x7d" := by decide +kernel
    obtain ⟨found, diff, -, message, -, -, hasText, -⟩ :=
      difference_exact normalizedLine normalizedParagraph (by decide)
    obtain rfl : diff = "" := not_not.mp (mt hasText.mp (not_not.mpr sameLines))
    exact ⟨found, message⟩

end Source
end GraphQL
