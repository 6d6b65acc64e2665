import GraphQL.Diff.Script
import GraphQL.Text.Lines

/-!
# Unified differences

The difference of two lists of lines is shown as hunks: changes with up to three
lines around them that stay the same.  Changes that are more than six lines apart
are in different hunks.  A hunk opens with the ranges of lines that it covers;
then come the lines, those taken away before those put in their place.
-/

namespace GraphQL
namespace Diff

/-- The number of lines shown around a change. -/
def context : Nat := 3

/-- A part of a script: the numbers of lines before it on both sides, and its
segments. -/
structure Hunk where
  /-- The number of lines before the hunk in the first text. -/
  oldStart : Nat
  /-- The number of lines before the hunk in the second text. -/
  newStart : Nat
  /-- The segments of the hunk. -/
  segments : List (Segment String)
  deriving DecidableEq, Repr

/-- The script without the start of a segment that stays the same, and how much
was left out. -/
def trimStart : List (Segment String) → Nat × List (Segment String)
  | .same lines :: rest =>
    (lines.length - context, .same (lines.drop (lines.length - context)) :: rest)
  | script => (0, script)

/-- The script without the end of a segment that stays the same. -/
def trimEnd : List (Segment String) → List (Segment String)
  | [] => []
  | [.same lines] => [.same (lines.take context)]
  | segment :: rest => segment :: trimEnd rest

/-- The hunk with given segments, if it has a change. -/
def hunk? (oldStart newStart : Nat) (segments : List (Segment String)) : List Hunk :=
  if segments.any Segment.isChange then [⟨oldStart, newStart, segments⟩] else []

/-- The hunks of a script.  `collected` is the hunk at hand, which starts at
`oldStart` and `newStart`. -/
def splitHunks (oldStart newStart : Nat) (collected : List (Segment String)) :
    List (Segment String) → List Hunk
  | [] => hunk? oldStart newStart collected
  | .same lines :: rest =>
    if 2 * context < lines.length then
      let covered := collected ++ [.same (lines.take context)]
      let skipped := lines.length - 2 * context
      hunk? oldStart newStart covered ++
        splitHunks (oldStart + (oldSide covered).length + skipped)
          (newStart + (newSide covered).length + skipped)
          [.same (lines.drop (lines.length - context))] rest
    else splitHunks oldStart newStart (collected ++ [.same lines]) rest
  | segment :: rest => splitHunks oldStart newStart (collected ++ [segment]) rest

/-- The hunks of a script. -/
def hunks (script : List (Segment String)) : List Hunk :=
  let (skipped, rest) := trimStart script
  splitHunks skipped skipped [] (trimEnd rest)

/-- A range of lines: its first line and its length, which is left out if it is
one.  An empty range is named by the line before it. -/
def rangeText (start length : Nat) : String :=
  if length = 1 then toString (start + 1)
  else toString (if length = 0 then start else start + 1) ++ "," ++ toString length

/-- The lines of a segment, each with a mark. -/
def segmentLines : Segment String → List String
  | .same lines => lines.map (" " ++ ·)
  | .change old new => old.map ("-" ++ ·) ++ new.map ("+" ++ ·)

/-- The lines of a hunk. -/
def hunkLines (hunk : Hunk) : List String :=
  ("@@ -" ++ rangeText hunk.oldStart (oldSide hunk.segments).length ++ " +" ++
    rangeText hunk.newStart (newSide hunk.segments).length ++ " @@") ::
    hunk.segments.flatMap segmentLines

/-- The reading lines of a text. -/
def linesOf (text : String) : List String :=
  (Text.Lines.reading text.toList).map String.ofList

/-- The difference of two texts, whose names head it. -/
def unified (oldName newName old new : String) : String :=
  let shown := hunks (script (linesOf old) (linesOf new))
  if shown.isEmpty then ""
  else
    Text.Lines.joinWith "\n"
      (("--- " ++ oldName) :: ("+++ " ++ newName) :: shown.flatMap hunkLines)

end Diff
end GraphQL
