/-!
# Edit scripts

A script tells how to get from one list to another: segments that both have, and
segments of the first that are replaced by segments of the second.  It is found
by taking the longest run that both lists have, and doing the same on either side
of it.  Of runs of one length the one that starts first is taken, in the first
list and then in the second.

In a long second list, entries that occur too often do not start or continue the
search for a run; a run is only extended over them.  `oldSide` and `newSide` say
which lists a script connects.
-/

namespace GraphQL
namespace Diff

/-- A segment of a script. -/
inductive Segment (α : Type)
  | same (entries : List α)
  | change (old new : List α)
  deriving DecidableEq, Repr

namespace Segment

variable {α : Type}

/-- What a segment covers of the first list. -/
def old : Segment α → List α
  | same entries => entries
  | change entries _ => entries

/-- What a segment covers of the second list. -/
def new : Segment α → List α
  | same entries => entries
  | change _ entries => entries

/-- The segment covers nothing. -/
def isEmpty (segment : Segment α) : Bool :=
  segment.old.isEmpty && segment.new.isEmpty

/-- The segment changes something. -/
def isChange : Segment α → Bool
  | same _ => false
  | change .. => true

end Segment

/-- The first list that a script connects. -/
def oldSide {α : Type} (script : List (Segment α)) : List α :=
  script.flatMap Segment.old

/-- The second list that a script connects. -/
def newSide {α : Type} (script : List (Segment α)) : List α :=
  script.flatMap Segment.new

@[simp] theorem oldSide_nil {α : Type} : oldSide ([] : List (Segment α)) = [] := rfl

@[simp] theorem oldSide_cons {α : Type} (segment : Segment α) (script : List (Segment α)) :
    oldSide (segment :: script) = segment.old ++ oldSide script := rfl

@[simp] theorem oldSide_append {α : Type} (first second : List (Segment α)) :
    oldSide (first ++ second) = oldSide first ++ oldSide second := by
  simp [oldSide]

/-- A script without empty segments, and with neighbours that both lists have as
one segment. -/
def tidy {α : Type} : List (Segment α) → List (Segment α)
  | [] => []
  | .same xs :: rest =>
    match tidy rest with
    | .same ys :: more => .same (xs ++ ys) :: more
    | more => .same xs :: more
  | segment :: rest => if segment.isEmpty then tidy rest else segment :: tidy rest

theorem oldSide_tidy {α : Type} (script : List (Segment α)) :
    oldSide (tidy script) = oldSide script := by
  induction script with
  | nil => rfl
  | cons segment rest tidied =>
    cases segment with
    | same xs =>
      simp only [tidy]
      split
      · next ys more shape =>
        rw [shape] at tidied
        simpa [Segment.old] using tidied
      · simp [tidied]
    | change xs ys =>
      simp only [tidy]
      split
      · next empty =>
        simp only [Segment.isEmpty, Segment.old, Bool.and_eq_true, List.isEmpty_iff] at empty
        simp [tidied, Segment.old, empty.1]
      · simp [tidied]

/-- A run that two lists have: where it starts in each, and its length. -/
structure Run where
  /-- The start in the first list. -/
  first : Nat
  /-- The start in the second list. -/
  second : Nat
  /-- The length. -/
  size : Nat
  deriving DecidableEq, Repr

variable {α : Type} [BEq α]

/-- The lengths of the runs that end with `a` at each place of a list.  `previous`
holds the lengths of those that end one entry earlier in the first list,
`diagonal` the one before the place at hand. -/
def runLengths (a : α) : Nat → List Nat → List α → List Nat
  | _, _, [] => []
  | diagonal, previous, b :: bs =>
    (if a == b then diagonal + 1 else 0) :: runLengths a (previous.headD 0) previous.tail bs

/-- The longer of a run and the longest of those that end at an entry of the first
list and, from `second` on, at each entry of the second. -/
def improve (first : Nat) (best : Run) : Nat → List Nat → Run
  | _, [] => best
  | second, size :: sizes =>
    improve first
      (if best.size < size then ⟨first + 1 - size, second + 1 - size, size⟩ else best)
      (second + 1) sizes

/-- The longest run, apart from entries that are passed over. -/
def searchRun (common : List α) (bs : List α) : Nat → List Nat → Run → List α → Run
  | _, _, best, [] => best
  | first, previous, best, a :: as =>
    let sizes := if common.contains a then [] else runLengths a 0 previous bs
    searchRun common bs (first + 1) sizes (improve first best 0 sizes) as

/-- The number of entries that two lists have in common from the start. -/
def commonStart : List α → List α → Nat
  | a :: as, b :: bs => if a == b then commonStart as bs + 1 else 0
  | _, _ => 0

/-- A run made longer on both sides as far as the lists agree. -/
def extend (as bs : List α) (run : Run) : Run :=
  let back := commonStart (as.take run.first).reverse (bs.take run.second).reverse
  let ahead := commonStart (as.drop (run.first + run.size)) (bs.drop (run.second + run.size))
  ⟨run.first - back, run.second - back, run.size + back + ahead⟩

/-- The longest run that two lists have. -/
def longestRun (common as bs : List α) : Run :=
  extend as bs (searchRun common bs 0 [] ⟨0, 0, 0⟩ as)

/-- The length from which on a second list counts as long. -/
def longList : Nat := 200

/-- The entries that are passed over in the search: in a long list those that
make up more than a hundredth of it and one. -/
def tooCommon (bs : List α) : List α :=
  if bs.length < longList then []
  else (bs.filter fun b => bs.length / 100 + 1 < bs.count b).eraseDups

/-- A script by the longest runs, at most `depth` of them inside one another. -/
def scriptWithin (common : List α) : Nat → List α → List α → List (Segment α)
  | 0, as, bs => [.change as bs]
  | depth + 1, as, bs =>
    let run := longestRun common as bs
    if run.size = 0 then [.change as bs]
    else
      scriptWithin common depth (as.take run.first) (bs.take run.second) ++
        .same ((as.drop run.first).take run.size) ::
          scriptWithin common depth (as.drop (run.first + run.size))
            (bs.drop (run.second + run.size))

/-- The script from one list to another. -/
def script (as bs : List α) : List (Segment α) :=
  tidy (scriptWithin (tooCommon bs) (as.length + 1) as bs)

/-! ## The first side -/

theorem oldSide_scriptWithin (common : List α) (depth : Nat) (as bs : List α) :
    oldSide (scriptWithin common depth as bs) = as := by
  induction depth generalizing as bs with
  | zero => simp [scriptWithin, Segment.old]
  | succ depth shorter =>
    simp only [scriptWithin]
    split
    · simp [Segment.old]
    · simp only [oldSide_append, oldSide_cons, shorter, Segment.old]
      rw [← List.drop_drop, List.take_append_drop, List.take_append_drop]

/-- A script starts from its first list. -/
theorem oldSide_script (as bs : List α) : oldSide (script as bs) = as := by
  rw [script, oldSide_tidy, oldSide_scriptWithin]

/-- The number of entries that a script keeps. -/
def kept (script : List (Segment α)) : Nat :=
  script.foldl (fun n segment => if segment.isChange then n else n + segment.old.length) 0

end Diff
end GraphQL
