import GraphQL.Proofs.Diff.Patch
import GraphQL.Proofs.Text.Reading

/-!
# Reading differences

The text of a difference says all that is needed to apply it.  Its lines are told apart
by their first characters; the ranges of a hunk are read from the line that it opens with.
A difference of two texts is read as the hunks of their script.
-/

namespace GraphQL
namespace Diff

open Text (Lines.joinWith)

/-! ## The text of a difference -/

/-- The number that digits stand for. -/
def number? (digits : List Char) : Option Nat :=
  if digits ≠ [] ∧ digits.all Char.isDigit then some (Nat.ofDigitChars 10 digits 0) else none

/-- The range that a text names: by its first line and its length, or by its only line.
An empty range is named by the line before it. -/
def range? (cs : List Char) : Option Range :=
  match cs.splitOn ',' with
  | [line] => (number? line).map fun line => ⟨line - 1, 1⟩
  | [line, length] => do
    let line ← number? line
    let length ← number? length
    return ⟨if length = 0 then line else line - 1, length⟩
  | _ => none

/-- The ranges that a hunk opens with. -/
def ranges? (cs : List Char) : Option (Range × Range) :=
  match cs.splitOn ' ' with
  | [['@', '@'], '-' :: old, '+' :: new, ['@', '@']] => do
    let old ← range? old
    let new ← range? new
    return (old, new)
  | _ => none

/-- The line of a hunk after its mark. -/
def edit? : List Char → Option Edit
  | ' ' :: cs => some (.keep (String.ofList cs))
  | '-' :: cs => some (.remove (String.ofList cs))
  | '+' :: cs => some (.add (String.ofList cs))
  | _ => none

/-- The edits in front of the first hunk, and the hunks. -/
def readHunks : List (List Char) → Option (List Edit × List Change)
  | [] => some ([], [])
  | line :: lines => do
    let (edits, changes) ← readHunks lines
    match edit? line with
    | some edit => return (edit :: edits, changes)
    | none =>
      let (old, new) ← ranges? line
      return ([], ⟨old, new, edits⟩ :: changes)

/-- The hunks in the lines of a difference after its headings.  No line stands in front of
them. -/
def changes? (lines : List (List Char)) : Option (List Change) :=
  match readHunks lines with
  | some ([], changes) => some changes
  | _ => none

/-- What the text of a difference says.  An empty text says that there is none. -/
def read? (oldName newName text : String) : Option (List Change) :=
  if text.isEmpty then some []
  else
    match text.toList.splitOn '\n' with
    | heading :: headingNew :: lines =>
      if heading = ("--- " ++ oldName).toList ∧ headingNew = ("+++ " ++ newName).toList then
        changes? lines
      else none
    | _ => none

/-! ## Ranges -/

theorem isDigit_of_mem_toDigits {n : Nat} {c : Char} (present : c ∈ Nat.toDigits 10 n) :
    c.isDigit = true :=
  Nat.isDigit_of_mem_toDigits (by decide) (by decide) present

theorem number?_toDigits (n : Nat) : number? (Nat.toDigits 10 n) = some n := by
  have areDigits : Nat.toDigits 10 n ≠ [] ∧ (Nat.toDigits 10 n).all Char.isDigit = true :=
    ⟨Nat.toDigits_ne_nil, List.all_eq_true.mpr fun _ => isDigit_of_mem_toDigits⟩
  rw [number?, if_pos areDigits, Nat.ofDigitChars_toDigits (by decide) (by decide)]

/-- No mark is in the digits of a number. -/
theorem not_mem_toDigits
    {c : Char}
    (mark : c.isDigit = false)
    (n : Nat) :
    c ∉ Nat.toDigits 10 n :=
  fun present => Bool.false_ne_true (mark.symm.trans (isDigit_of_mem_toDigits present))

/-- No mark but the comma is in the name of a range. -/
theorem not_mem_rangeText
    {c : Char}
    (mark : c.isDigit = false)
    (notComma : c ≠ ',')
    (start length : Nat) :
    c ∉ (rangeText start length).toList := by
  rw [rangeText]
  split <;> simp [not_mem_toDigits mark, notComma]

/-- A range is read from its name. -/
theorem range?_rangeText (start length : Nat) :
    range? (rangeText start length).toList = some ⟨start, length⟩ := by
  have noComma (n : Nat) : ',' ∉ Nat.toDigits 10 n := not_mem_toDigits (by decide) n
  rw [rangeText]
  split
  case isTrue one =>
    have digits : (toString (start + 1)).toList = Nat.toDigits 10 (start + 1) := by simp
    rw [digits, range?, List.splitOn_eq_singleton (noComma _)]
    simp [number?_toDigits, one]
  case isFalse =>
    generalize lineEq : (if length = 0 then start else start + 1) = line
    have parts : (toString line ++ "," ++ toString length).toList =
        [','].intercalate [Nat.toDigits 10 line, Nat.toDigits 10 length] := by
      simp [List.intercalate]
    rw [parts, range?, List.splitOn_intercalate ',' (by simp [noComma]) (by simp)]
    have start_eq : (if length = 0 then line else line - 1) = start := by
      rw [← lineEq]
      split <;> simp
    simp [number?_toDigits, start_eq]

/-! ## Hunks -/

/-- The line that a hunk opens with. -/
def Hunk.opening (hunk : Hunk) : String :=
  "@@ -" ++ rangeText hunk.oldStart (oldSide hunk.segments).length ++ " +" ++
    rangeText hunk.newStart (newSide hunk.segments).length ++ " @@"

theorem hunkLines_eq (hunk : Hunk) :
    hunkLines hunk = hunk.opening :: hunk.segments.flatMap segmentLines := rfl

/-- The ranges of a hunk are read from the line that it opens with. -/
theorem ranges?_opening (hunk : Hunk) :
    ranges? hunk.opening.toList = some (hunk.change.old, hunk.change.new) := by
  have noSpace (start length : Nat) : ' ' ∉ (rangeText start length).toList :=
    not_mem_rangeText (by decide) (by decide) start length
  rw [Hunk.opening]
  generalize oldEq : rangeText hunk.oldStart (oldSide hunk.segments).length = old
  generalize newEq : rangeText hunk.newStart (newSide hunk.segments).length = new
  have parts : ("@@ -" ++ old ++ " +" ++ new ++ " @@").toList =
      [' '].intercalate [['@', '@'], '-' :: old.toList, '+' :: new.toList, ['@', '@']] := by
    simp [List.intercalate]
  have apart : ∀ part ∈ [['@', '@'], '-' :: old.toList, '+' :: new.toList, ['@', '@']],
      ' ' ∉ part := by
    simp [← oldEq, ← newEq, noSpace]
  rw [parts, ranges?, List.splitOn_intercalate ' ' apart (by simp), ← oldEq, ← newEq]
  simp [range?_rangeText]

theorem edit?_opening (hunk : Hunk) : edit? hunk.opening.toList = none := by
  simp [Hunk.opening, edit?]

/-- The lines of a segment are read as its edits. -/
theorem readHunks_segmentLines
    (segment : Segment String)
    {lines : List (List Char)}
    {edits : List Edit}
    {changes : List Change}
    (read : readHunks lines = some (edits, changes)) :
    readHunks ((segmentLines segment).map String.toList ++ lines) =
      some (segment.edits ++ edits, changes) := by
  have marked (mark : String) (edit : String → Edit)
      (reads : ∀ line : String, edit? (mark ++ line).toList = some (edit line))
      (texts : List String) {lines : List (List Char)} {edits : List Edit}
      (read : readHunks lines = some (edits, changes)) :
      readHunks ((texts.map (mark ++ ·)).map String.toList ++ lines) =
        some (texts.map edit ++ edits, changes) := by
    induction texts with
    | nil => exact read
    | cons text texts inductionHypothesis =>
      rw [List.map_cons, List.map_cons, List.cons_append, readHunks, inductionHypothesis]
      simp only [Option.bind_eq_bind, Option.bind_some, reads]
      rfl
  cases segment with
  | same texts => exact marked " " .keep (by simp [edit?]) texts read
  | change old new =>
    have readNew := marked "+" .add (by simp [edit?]) new read
    have readBoth := marked "-" .remove (by simp [edit?]) old readNew
    rw [segmentLines, List.map_append, List.append_assoc, readBoth, Segment.edits,
      List.append_assoc]

/-- The lines of hunks are read as what the hunks say. -/
theorem readHunks_hunkLines (hunks : List Hunk) :
    readHunks ((hunks.flatMap hunkLines).map String.toList) =
      some ([], hunks.map Hunk.change) := by
  induction hunks with
  | nil => rfl
  | cons hunk hunks inductionHypothesis =>
    have readBody (segments : List (Segment String)) :
        readHunks ((segments.flatMap segmentLines).map String.toList ++
          (hunks.flatMap hunkLines).map String.toList) =
            some (segments.flatMap Segment.edits, hunks.map Hunk.change) := by
      induction segments with
      | nil => exact inductionHypothesis
      | cons segment segments readRest =>
        rw [List.flatMap_cons, List.map_append, List.append_assoc,
          readHunks_segmentLines segment readRest, List.flatMap_cons]
    rw [List.flatMap_cons, hunkLines_eq, List.map_append, List.map_cons, List.cons_append,
      readHunks, readBody]
    simp only [Option.bind_eq_bind, Option.bind_some, edit?_opening, ranges?_opening]
    rfl

/-! ## Lines of hunks -/

/-- Every line of the segment, on either side, is good. -/
def Segment.All (good : String → Prop) (segment : Segment String) : Prop :=
  (∀ line ∈ segment.old, good line) ∧ ∀ line ∈ segment.new, good line

/-- The lines of the hunks of a script are lines of the script. -/
theorem lines_of_mem_hunks
    {good : String → Prop}
    {script : List (Segment String)}
    (goodOld : ∀ line ∈ oldSide script, good line)
    (goodNew : ∀ line ∈ newSide script, good line)
    {hunk : Hunk}
    (present : hunk ∈ hunks script) :
    ∀ segment ∈ hunk.segments, Segment.All good segment := by
  have all : ∀ segment ∈ script, Segment.All good segment := by
    intro segment among
    exact ⟨fun line inOld => goodOld line (List.mem_flatMap.mpr ⟨segment, among, inOld⟩),
      fun line inNew => goodNew line (List.mem_flatMap.mpr ⟨segment, among, inNew⟩)⟩
  have ofPart (lines part : List String) (subset : part ⊆ lines)
      (all : Segment.All good (.same lines)) : Segment.All good (.same part) :=
    ⟨fun line present => all.1 line (subset present),
      fun line present => all.2 line (subset present)⟩
  exact (all_of_mem_hunks ofPart all present).2

/-! ## Differences -/

/-- No line feed is in a line of a text. -/
theorem lineFeed_not_mem_linesOf (text : String) :
    ∀ line ∈ linesOf text, '\n' ∉ line.toList := by
  intro line present among
  obtain ⟨chars, inReading, rfl⟩ := List.mem_map.mp present
  rw [String.toList_ofList] at among
  cases Text.Lines.isBoundary_of_mem_reading inReading among

/-- No line feed is in a line of a hunk. -/
theorem lineFeed_not_mem_hunkLines
    {hunk : Hunk}
    (all : ∀ segment ∈ hunk.segments, Segment.All (fun line => '\n' ∉ line.toList) segment) :
    ∀ line ∈ hunkLines hunk, '\n' ∉ line.toList := by
  rw [hunkLines_eq, List.forall_mem_cons]
  constructor
  · have noBreak (start length : Nat) : '\n' ∉ (rangeText start length).toList :=
      not_mem_rangeText (by decide) (by decide) start length
    simp [Hunk.opening, noBreak]
  · rw [List.forall_mem_flatMap]
    intro segment present
    obtain ⟨allOld, allNew⟩ := all segment present
    cases segment with
    | same lines => simpa [segmentLines, Segment.old] using allOld
    | change old new =>
      rw [segmentLines, List.forall_mem_append]
      exact ⟨by simpa [Segment.old] using allOld, by simpa [Segment.new] using allNew⟩

/-- The difference of two texts is read as the hunks of their script. -/
theorem read?_unified
    {oldName newName : String}
    (noBreak : '\n' ∉ oldName.toList)
    (noBreakNew : '\n' ∉ newName.toList)
    (old new : String) :
    read? oldName newName (unified oldName newName old new) =
      some ((hunks (script (linesOf old) (linesOf new))).map Hunk.change) := by
  have allGood : ∀ hunk ∈ hunks (script (linesOf old) (linesOf new)),
      ∀ line ∈ hunkLines hunk, '\n' ∉ line.toList := by
    intro hunk present
    apply lineFeed_not_mem_hunkLines
    apply lines_of_mem_hunks _ _ present
    · rw [oldSide_script]
      exact lineFeed_not_mem_linesOf old
    · rw [newSide_script]
      exact lineFeed_not_mem_linesOf new
  rw [unified]
  generalize hunks (script (linesOf old) (linesOf new)) = shown at allGood
  cases shown with
  | nil => rfl
  | cons hunk shown =>
    generalize linesEq : (hunk :: shown).flatMap hunkLines = lines
    have noBreaks : ∀ line ∈
        (("--- " ++ oldName) :: ("+++ " ++ newName) :: lines).map String.toList,
          '\n' ∉ line := by
      rw [List.forall_mem_map, List.forall_mem_cons, List.forall_mem_cons, ← linesEq,
        List.forall_mem_flatMap]
      exact ⟨by simpa using noBreak, by simpa using noBreakNew, allGood⟩
    have split : (Lines.joinWith "\n" (("--- " ++ oldName) :: ("+++ " ++ newName) ::
        lines)).toList.splitOn '\n' =
          ("--- " ++ oldName).toList :: ("+++ " ++ newName).toList :: lines.map String.toList := by
      rw [Text.Lines.toList_joinWith]
      exact List.splitOn_intercalate '\n' noBreaks (by simp)
    have notEmpty : (Lines.joinWith "\n" (("--- " ++ oldName) :: ("+++ " ++ newName) ::
        lines)).isEmpty = false := by
      simp [Lines.joinWith]
    rw [if_neg (by simp), read?, notEmpty, if_neg Bool.false_ne_true, split]
    simp only [and_self, if_true]
    rw [changes?, ← linesEq, readHunks_hunkLines]

end Diff
end GraphQL
