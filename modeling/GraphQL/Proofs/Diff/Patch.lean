import GraphQL.Diff.Unified
import GraphQL.Proofs.Diff.Script

/-!
# Hunks as patches

A hunk says which lines are kept, taken away and put in at some place of a text.  Hunks
are applied one after another: every one has to fit where it says that it belongs, and
what no hunk covers stays as it is.  The hunks of a script turn its first list into its
second one.
-/

namespace GraphQL
namespace Diff

/-! ## Patches -/

/-- A range of lines. -/
structure Range where
  /-- The number of lines before it. -/
  start : Nat
  /-- The number of lines in it. -/
  length : Nat
  deriving DecidableEq, Repr

/-- A line of a hunk, without its mark. -/
inductive Edit
  | keep (line : String)
  | remove (line : String)
  | add (line : String)
  deriving DecidableEq, Repr

namespace Edit

/-- The line in the first text, if it is there. -/
def old? : Edit → Option String
  | keep line | remove line => some line
  | add _ => none

/-- The line in the second text, if it is there. -/
def new? : Edit → Option String
  | keep line | add line => some line
  | remove _ => none

/-- The line is taken away or put in. -/
def isChange : Edit → Bool
  | keep _ => false
  | remove _ | add _ => true

end Edit

/-- What a hunk says: the ranges that it covers in both texts, and its lines. -/
structure Change where
  /-- The range in the first text. -/
  old : Range
  /-- The range in the second text. -/
  new : Range
  /-- The lines. -/
  edits : List Edit
  deriving DecidableEq, Repr

namespace Change

/-- The lines that are covered in the first text. -/
def oldLines (change : Change) : List String :=
  change.edits.filterMap Edit.old?

/-- The lines that stand in their place in the second text. -/
def newLines (change : Change) : List String :=
  change.edits.filterMap Edit.new?

/-- The number of lines that are passed to get from a place to the change. -/
def passed (change : Change) (position : Nat) : Nat :=
  change.old.start - position

/-- The change can be applied to the lines after `position` in the first text, which come
after `newPosition` in the second: its ranges are as long as its lines say and start at the
same line, and the lines that it covers are there. -/
def fits (change : Change) (position newPosition : Nat) (lines : List String) : Bool :=
  change.old.length = change.oldLines.length && change.new.length = change.newLines.length &&
    position ≤ change.old.start && change.passed position ≤ lines.length &&
    change.new.start = newPosition + change.passed position &&
    change.oldLines.isPrefixOf (lines.drop (change.passed position))

end Change

/-- The lines with changes applied to them in their order.  The lines are those after
`position` in the first text, and come after `newPosition` in the second.  A change that
does not fit cannot be applied. -/
def patchFrom (position newPosition : Nat) : List Change → List String → Option (List String)
  | [], lines => some lines
  | change :: changes, lines =>
    if change.fits position newPosition lines then
      (patchFrom (change.old.start + change.old.length) (change.new.start + change.new.length)
        changes (lines.drop (change.passed position + change.old.length))).map fun rest =>
          lines.take (change.passed position) ++ (change.newLines ++ rest)
    else none

/-- A text, as its lines, with changes applied to it. -/
def patch : List Change → List String → Option (List String) :=
  patchFrom 0 0

/-! ## Hunks -/

/-- The edits of a segment. -/
def Segment.edits : Segment String → List Edit
  | .same lines => lines.map Edit.keep
  | .change old new => old.map Edit.remove ++ new.map Edit.add

/-- What a hunk says. -/
def Hunk.change (hunk : Hunk) : Change where
  old := ⟨hunk.oldStart, (oldSide hunk.segments).length⟩
  new := ⟨hunk.newStart, (newSide hunk.segments).length⟩
  edits := hunk.segments.flatMap Segment.edits

@[simp] theorem old_change (hunk : Hunk) :
    hunk.change.old = ⟨hunk.oldStart, (oldSide hunk.segments).length⟩ := rfl

@[simp] theorem new_change (hunk : Hunk) :
    hunk.change.new = ⟨hunk.newStart, (newSide hunk.segments).length⟩ := rfl

theorem oldLines_change (hunk : Hunk) : hunk.change.oldLines = oldSide hunk.segments := by
  rw [Change.oldLines, Hunk.change, List.filterMap_flatMap, oldSide]
  congr 1
  funext segment
  cases segment <;>
    simp [Segment.edits, Segment.old, List.filterMap_map, Function.comp_def, Edit.old?]

theorem newLines_change (hunk : Hunk) : hunk.change.newLines = newSide hunk.segments := by
  rw [Change.newLines, Hunk.change, List.filterMap_flatMap, newSide]
  congr 1
  funext segment
  cases segment <;>
    simp [Segment.edits, Segment.new, List.filterMap_map, Function.comp_def, Edit.new?]

/-- A hunk is applied to lines that it covers, behind those that it leaves alone. -/
theorem patchFrom_change
    (hunk : Hunk)
    {position newPosition : Nat}
    {front : List String}
    (start : hunk.oldStart = position + front.length)
    (newStart : hunk.newStart = newPosition + front.length)
    (changes : List Change)
    (rest : List String) :
    patchFrom position newPosition (hunk.change :: changes)
        (front ++ (oldSide hunk.segments ++ rest)) =
      (patchFrom (hunk.oldStart + (oldSide hunk.segments).length)
        (hunk.newStart + (newSide hunk.segments).length) changes rest).map fun more =>
          front ++ (newSide hunk.segments ++ more) := by
  have passed : hunk.change.passed position = front.length := by
    rw [Change.passed, old_change, start]
    exact Nat.add_sub_cancel_left _ _
  have fits : hunk.change.fits position newPosition
      (front ++ (oldSide hunk.segments ++ rest)) = true := by
    simp [Change.fits, passed, oldLines_change, newLines_change, start, newStart]
  have dropped : (front ++ (oldSide hunk.segments ++ rest)).drop
      (front.length + (oldSide hunk.segments).length) = rest := by
    rw [← List.drop_drop, List.drop_left, List.drop_left]
  rw [patchFrom, if_pos fits, passed, newLines_change, old_change, new_change, dropped,
    List.take_left]

/-- A segment that stays the same is the same on both sides, and so are such segments. -/
theorem newSide_of_not_any
    {segments : List (Segment String)}
    (none : segments.any Segment.isChange = false) :
    newSide segments = oldSide segments := by
  induction segments with
  | nil => rfl
  | cons segment segments inductionHypothesis =>
    rw [List.any_cons, Bool.or_eq_false_iff] at none
    rw [newSide_cons, oldSide_cons, inductionHypothesis none.2]
    cases segment with
    | same lines => rfl
    | change old new => cases none.1

/-- Segments are applied as a hunk or, if nothing changes in them, by leaving them alone;
either way, what comes after them only has to be right behind some lines. -/
theorem patchFrom_hunk?
    (segments : List (Segment String))
    {oldStart newStart position newPosition : Nat}
    {front : List String}
    (start : oldStart = position + front.length)
    (startNew : newStart = newPosition + front.length)
    (changes : List Change)
    (rest result : List String)
    (applied : ∀ (position newPosition : Nat) (front : List String),
      oldStart + (oldSide segments).length = position + front.length →
      newStart + (newSide segments).length = newPosition + front.length →
      patchFrom position newPosition changes (front ++ rest) = some (front ++ result)) :
    patchFrom position newPosition
        ((hunk? oldStart newStart segments).map Hunk.change ++ changes)
        (front ++ (oldSide segments ++ rest)) =
      some (front ++ (newSide segments ++ result)) := by
  rw [hunk?]
  split
  case isTrue =>
    have appliedBehind := applied (oldStart + (oldSide segments).length)
      (newStart + (newSide segments).length) [] rfl rfl
    rw [List.map_singleton, List.singleton_append,
      patchFrom_change ⟨oldStart, newStart, segments⟩ start startNew]
    simp only [List.nil_append] at appliedBehind
    rw [appliedBehind]
    rfl
  case isFalse unchanged =>
    have same := newSide_of_not_any (Bool.not_eq_true _ ▸ unchanged)
    have appliedBehind := applied position newPosition (front ++ oldSide segments)
      (by rw [List.length_append]; omega) (by rw [List.length_append, same]; omega)
    rw [List.map_nil, List.nil_append, ← List.append_assoc, appliedBehind, same,
      List.append_assoc]

/-- What is between the lines that are shown at both ends of a segment. -/
theorem exists_middle
    {lines : List String}
    (long : 2 * context < lines.length) :
    ∃ middle, middle.length = lines.length - 2 * context ∧
      lines = lines.take context ++ (middle ++ lines.drop (lines.length - context)) := by
  refine ⟨(lines.drop context).take (lines.length - 2 * context), ?_, ?_⟩
  · rw [List.length_take, List.length_drop]
    omega
  · have ends : lines.drop (lines.length - context) =
        (lines.drop context).drop (lines.length - 2 * context) := by
      rw [List.drop_drop]
      congr 1
      omega
    rw [ends, List.take_append_drop, List.take_append_drop]

/-- The hunks that are split off a script lead from its first side to its second one,
whatever comes before and after it. -/
theorem patchFrom_splitHunks
    (script collected : List (Segment String))
    {oldStart newStart position newPosition : Nat}
    {front : List String}
    (start : oldStart = position + front.length)
    (startNew : newStart = newPosition + front.length)
    (tail : List String) :
    patchFrom position newPosition
        ((splitHunks oldStart newStart collected script).map Hunk.change)
        (front ++ (oldSide collected ++ (oldSide script ++ tail))) =
      some (front ++ (newSide collected ++ (newSide script ++ tail))) := by
  induction script generalizing collected oldStart newStart position newPosition front with
  | nil =>
    rw [splitHunks]
    have applied := patchFrom_hunk? collected start startNew [] tail tail
      fun _ _ _ _ _ => rfl
    simpa using applied
  | cons segment script inductionHypothesis =>
    cases segment with
    | change old new =>
      rw [splitHunks]
      · have collectedToo := inductionHypothesis (collected ++ [.change old new]) start startNew
        simpa using collectedToo
      · intro _ same
        cases same
    | same lines =>
      rw [splitHunks]
      split
      case isFalse =>
        have collectedToo := inductionHypothesis (collected ++ [.same lines]) start startNew
        simpa using collectedToo
      case isTrue long =>
        obtain ⟨middle, length, split⟩ := exists_middle long
        rw [List.map_append]
        generalize coveredEq : collected ++ [.same (lines.take context)] = covered
        generalize lastEq : lines.drop (lines.length - context) = last at split ⊢
        have applied := patchFrom_hunk? covered start startNew
          ((splitHunks (oldStart + (oldSide covered).length + (lines.length - 2 * context))
            (newStart + (newSide covered).length + (lines.length - 2 * context))
            [.same last] script).map Hunk.change)
          (middle ++ (last ++ (oldSide script ++ tail)))
          (middle ++ (last ++ (newSide script ++ tail)))
          fun position newPosition front start startNew => by
            have behind : oldStart + (oldSide covered).length + (lines.length - 2 * context) =
                position + (front ++ middle).length := by
              rw [start, List.length_append, length, Nat.add_assoc]
            have behindNew : newStart + (newSide covered).length + (lines.length - 2 * context) =
                newPosition + (front ++ middle).length := by
              rw [startNew, List.length_append, length, Nat.add_assoc]
            have appliedBehind := inductionHypothesis [.same last] behind behindNew
            simpa [Segment.old, Segment.new] using appliedBehind
        have oldEq (more : List String) : oldSide collected ++ (lines ++ more) =
            oldSide covered ++ (middle ++ (last ++ more)) := by
          conv_lhs => rw [split]
          simp [← coveredEq, Segment.old]
        have newEq (more : List String) : newSide collected ++ (lines ++ more) =
            newSide covered ++ (middle ++ (last ++ more)) := by
          conv_lhs => rw [split]
          simp [← coveredEq, Segment.new]
        rw [oldSide_cons, newSide_cons, Segment.old, Segment.new, List.append_assoc,
          List.append_assoc, oldEq, newEq]
        exact applied

/-- What is left out at the start of a script is on both sides. -/
theorem exists_trimStart (script : List (Segment String)) :
    ∃ front : List String, front.length = (trimStart script).1 ∧
      oldSide script = front ++ oldSide (trimStart script).2 ∧
      newSide script = front ++ newSide (trimStart script).2 := by
  rw [trimStart.eq_def]
  split
  case h_1 lines rest =>
    refine ⟨lines.take (lines.length - context), by simp, ?_, ?_⟩
    · rw [oldSide_cons, oldSide_cons, Segment.old, Segment.old, ← List.append_assoc,
        List.take_append_drop]
    · rw [newSide_cons, newSide_cons, Segment.new, Segment.new, ← List.append_assoc,
        List.take_append_drop]
  case h_2 => exact ⟨[], rfl, rfl, rfl⟩

/-- What is left out at the end of a script is on both sides. -/
theorem exists_trimEnd (script : List (Segment String)) :
    ∃ tail : List String,
      oldSide script = oldSide (trimEnd script) ++ tail ∧
      newSide script = newSide (trimEnd script) ++ tail := by
  induction script with
  | nil => exact ⟨[], rfl, rfl⟩
  | cons segment rest inductionHypothesis =>
    rw [trimEnd.eq_def]
    split
    case h_1 same => cases same
    case h_2 lines same =>
      obtain ⟨rfl, rfl⟩ := List.cons.inj same
      exact ⟨lines.drop context, by simp [Segment.old], by simp [Segment.new]⟩
    case h_3 first rest' _ same =>
      obtain ⟨rfl, rfl⟩ := List.cons.inj same
      obtain ⟨tail, sameOld, sameNew⟩ := inductionHypothesis
      exact ⟨tail, by simp [sameOld], by simp [sameNew]⟩

/-- The hunks of a script turn its first side into its second one. -/
theorem patch_hunks (script : List (Segment String)) :
    patch ((hunks script).map Hunk.change) (oldSide script) = some (newSide script) := by
  obtain ⟨front, length, startOld, startNew⟩ := exists_trimStart script
  obtain ⟨tail, endOld, endNew⟩ := exists_trimEnd (trimStart script).2
  have start : front.length = 0 + front.length := (Nat.zero_add _).symm
  have applied := patchFrom_splitHunks (trimEnd (trimStart script).2) [] start start tail
  rw [startOld, startNew, endOld, endNew, patch, hunks]
  rwa [length] at applied

/-! ## What hunks are made of -/

theorem mem_hunk?_iff
    {oldStart newStart : Nat}
    {segments : List (Segment String)}
    {hunk : Hunk} :
    hunk ∈ hunk? oldStart newStart segments ↔
      segments.any Segment.isChange = true ∧ hunk = ⟨oldStart, newStart, segments⟩ := by
  rw [hunk?]
  split
  case isTrue changes => simp [changes]
  case isFalse unchanged => simp [unchanged]

section Good

variable
  {good : Segment String → Prop}
  (ofPart : ∀ lines part : List String, part ⊆ lines → good (.same lines) → good (.same part))

include ofPart

theorem all_of_mem_splitHunks
    {oldStart newStart : Nat}
    {collected script : List (Segment String)}
    (allCollected : ∀ segment ∈ collected, good segment)
    (all : ∀ segment ∈ script, good segment)
    {hunk : Hunk}
    (present : hunk ∈ splitHunks oldStart newStart collected script) :
    hunk.segments.any Segment.isChange = true ∧ ∀ segment ∈ hunk.segments, good segment := by
  induction script generalizing oldStart newStart collected with
  | nil =>
    rw [splitHunks, mem_hunk?_iff] at present
    obtain ⟨changes, rfl⟩ := present
    exact ⟨changes, allCollected⟩
  | cons first script inductionHypothesis =>
    rw [List.forall_mem_cons] at all
    have allConcat {part : Segment String} (isGood : good part) :
        ∀ segment ∈ collected ++ [part], good segment := by
      rw [List.forall_mem_append, List.forall_mem_singleton]
      exact ⟨allCollected, isGood⟩
    cases first with
    | change old new =>
      rw [splitHunks] at present
      · exact inductionHypothesis (allConcat all.1) all.2 present
      · intro _ same
        cases same
    | same lines =>
      rw [splitHunks] at present
      split at present
      case isFalse => exact inductionHypothesis (allConcat all.1) all.2 present
      case isTrue =>
        rcases List.mem_append.mp present with here | behind
        · obtain ⟨changes, rfl⟩ := mem_hunk?_iff.mp here
          exact ⟨changes, allConcat (ofPart lines _ (List.take_subset _ _) all.1)⟩
        · have goodEnd := ofPart lines _ (List.drop_subset (lines.length - context) lines) all.1
          exact inductionHypothesis (List.forall_mem_singleton.mpr goodEnd) all.2 behind

theorem all_trimStart
    {script : List (Segment String)}
    (all : ∀ segment ∈ script, good segment) :
    ∀ segment ∈ (trimStart script).2, good segment := by
  rw [trimStart.eq_def]
  split
  case h_1 lines rest =>
    rw [List.forall_mem_cons] at all ⊢
    exact ⟨ofPart lines _ (List.drop_subset _ _) all.1, all.2⟩
  case h_2 => exact all

theorem all_trimEnd
    {script : List (Segment String)}
    (all : ∀ segment ∈ script, good segment) :
    ∀ segment ∈ trimEnd script, good segment := by
  induction script with
  | nil => exact all
  | cons first rest inductionHypothesis =>
    rw [List.forall_mem_cons] at all
    rw [trimEnd.eq_def]
    split
    case h_1 same => cases same
    case h_2 lines same =>
      obtain ⟨rfl, rfl⟩ := List.cons.inj same
      exact List.forall_mem_singleton.mpr (ofPart lines _ (List.take_subset _ _) all.1)
    case h_3 other more _ same =>
      obtain ⟨rfl, rfl⟩ := List.cons.inj same
      exact List.forall_mem_cons.mpr ⟨all.1, inductionHypothesis all.2⟩

/-- Every hunk of a script has a change, and is made of segments of the script and of parts
of such segments as stay the same. -/
theorem all_of_mem_hunks
    {script : List (Segment String)}
    (all : ∀ segment ∈ script, good segment)
    {hunk : Hunk}
    (present : hunk ∈ hunks script) :
    hunk.segments.any Segment.isChange = true ∧ ∀ segment ∈ hunk.segments, good segment :=
  all_of_mem_splitHunks ofPart (List.forall_mem_nil _)
    (all_trimEnd ofPart (all_trimStart ofPart all)) present

end Good

/-- Every hunk of a script without empty changes takes a line away or puts one in. -/
theorem exists_isChange_of_mem_hunks
    {script : List (Segment String)}
    (noneEmpty : ∀ segment ∈ script, segment.isChange = true → segment.isEmpty = false)
    {hunk : Hunk}
    (present : hunk ∈ hunks script) :
    ∃ edit ∈ hunk.change.edits, edit.isChange = true := by
  have neverChanges (lines part : List String) (_ : part ⊆ lines)
      (_ : (Segment.same lines).isChange = true → (Segment.same lines).isEmpty = false)
      (isChange : (Segment.same part).isChange = true) : (Segment.same part).isEmpty = false := by
    cases isChange
  obtain ⟨changes, noneEmptyHere⟩ := all_of_mem_hunks neverChanges noneEmpty present
  obtain ⟨segment, among, isChange⟩ := List.any_eq_true.mp changes
  have notEmpty := noneEmptyHere segment among isChange
  cases segment with
  | same lines => cases isChange
  | change old new =>
    obtain ⟨edit, inSegment⟩ : ∃ edit, edit ∈ (Segment.change old new).edits := by
      apply List.exists_mem_of_ne_nil
      simpa [Segment.edits, Segment.isEmpty, Segment.old, Segment.new] using notEmpty
    refine ⟨edit, List.mem_flatMap.mpr ⟨_, among, inSegment⟩, ?_⟩
    rcases List.mem_append.mp inSegment with removed | added
    · obtain ⟨line, -, rfl⟩ := List.mem_map.mp removed
      rfl
    · obtain ⟨line, -, rfl⟩ := List.mem_map.mp added
      rfl

end Diff
end GraphQL
