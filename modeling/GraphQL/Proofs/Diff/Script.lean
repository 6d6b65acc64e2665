import GraphQL.Diff.Script
import Mathlib.Data.List.Basic

/-!
# Where edit scripts lead

A script leads to its second list, because the runs that it is made of are in both lists:
every length that the search goes by is the length of an end that the two lists share up
to the places at hand, and making a run longer only takes up entries that agree.
-/

namespace GraphQL
namespace Diff

variable {α : Type}

@[simp] theorem newSide_nil : newSide ([] : List (Segment α)) = [] := rfl

@[simp] theorem newSide_cons (segment : Segment α) (script : List (Segment α)) :
    newSide (segment :: script) = segment.new ++ newSide script := rfl

@[simp] theorem newSide_append (first second : List (Segment α)) :
    newSide (first ++ second) = newSide first ++ newSide second := by
  simp [newSide]

theorem newSide_tidy (script : List (Segment α)) : newSide (tidy script) = newSide script := by
  induction script with
  | nil => rfl
  | cons segment rest inductionHypothesis =>
    cases segment with
    | same xs =>
      rw [tidy]
      split
      case h_1 ys more shape =>
        rw [shape] at inductionHypothesis
        simpa [Segment.new] using inductionHypothesis
      case h_2 => simp [inductionHypothesis]
    | change xs ys =>
      rw [tidy]
      split
      case isTrue empty =>
        simp only [Segment.isEmpty, Segment.new, Bool.and_eq_true, List.isEmpty_iff] at empty
        simp [inductionHypothesis, Segment.new, empty.2]
      case isFalse => simp [inductionHypothesis]
      case x_1 =>
        intro _ same
        cases same

/-- A tidy script has no change that changes nothing. -/
theorem isEmpty_of_mem_tidy
    {script : List (Segment α)}
    {segment : Segment α}
    (present : segment ∈ tidy script)
    (changes : segment.isChange = true) :
    segment.isEmpty = false := by
  induction script with
  | nil => cases present
  | cons first rest inductionHypothesis =>
    cases first with
    | same xs =>
      rw [tidy] at present
      split at present
      case h_1 ys more shape =>
        rcases List.mem_cons.mp present with rfl | later
        · cases changes
        · exact inductionHypothesis (shape ▸ List.mem_cons_of_mem _ later)
      case h_2 =>
        rcases List.mem_cons.mp present with rfl | later
        · cases changes
        · exact inductionHypothesis later
    | change xs ys =>
      rw [tidy] at present
      split at present
      case isTrue => exact inductionHypothesis present
      case isFalse notEmpty =>
        rcases List.mem_cons.mp present with rfl | later
        · simpa using notEmpty
        · exact inductionHypothesis later
      case x_1 =>
        intro _ same
        cases same

/-! ## Shared parts -/

/-- The last entries of two lists are the same, as many as are said. -/
def SharedEnd (size : Nat) (xs ys : List α) : Prop :=
  ∃ entries, entries.length = size ∧ entries <:+ xs ∧ entries <:+ ys

/-- A run is shared if the same entries stand at its places in both lists. -/
def Run.Shared (run : Run) (as bs : List α) : Prop :=
  ∃ before entries behind beforeNew behindNew,
    as = before ++ entries ++ behind ∧ bs = beforeNew ++ entries ++ behindNew ∧
      before.length = run.first ∧ beforeNew.length = run.second ∧ entries.length = run.size

namespace SharedEnd

variable {size : Nat} {xs ys : List α}

theorem zero (xs ys : List α) : SharedEnd 0 xs ys :=
  ⟨[], rfl, List.nil_suffix, List.nil_suffix⟩

/-- One more entry that both lists have makes a shared end longer. -/
theorem concat
    (shared : SharedEnd size xs ys)
    (a : α) :
    SharedEnd (size + 1) (xs ++ [a]) (ys ++ [a]) := by
  obtain ⟨entries, rfl, ⟨before, rfl⟩, ⟨beforeNew, rfl⟩⟩ := shared
  exact ⟨entries ++ [a], by simp, ⟨before, by simp⟩, ⟨beforeNew, by simp⟩⟩

/-- A shared end is a run that ends where the lists do. -/
theorem shared
    (isShared : SharedEnd size xs ys)
    (behind behindNew : List α) :
    Run.Shared ⟨xs.length - size, ys.length - size, size⟩ (xs ++ behind) (ys ++ behindNew) := by
  obtain ⟨entries, rfl, ⟨before, rfl⟩, ⟨beforeNew, rfl⟩⟩ := isShared
  exact ⟨before, entries, behind, beforeNew, behindNew, rfl, rfl, by simp, by simp, rfl⟩

end SharedEnd

/-! ## The search for a run -/

theorem length_runLengths [BEq α] (a : α) (diagonal : Nat) (previous : List Nat) (bs : List α) :
    (runLengths a diagonal previous bs).length = bs.length := by
  induction bs generalizing diagonal previous with
  | nil => rfl
  | cons b bs inductionHypothesis => simp [runLengths, inductionHypothesis]

/-- Lengths of shared ends for one entry of the first list give those for the next. -/
theorem sharedEnd_runLengths
    [BEq α] [LawfulBEq α]
    (a : α)
    {xs ys bs : List α}
    {diagonal : Nat}
    {previous : List Nat}
    (sharedDiagonal : SharedEnd diagonal xs ys)
    (sharedPrevious : ∀ place size, previous[place]? = some size →
      SharedEnd size xs (ys ++ bs.take (place + 1))) :
    ∀ place size, (runLengths a diagonal previous bs)[place]? = some size →
      SharedEnd size (xs ++ [a]) (ys ++ bs.take (place + 1)) := by
  induction bs generalizing ys diagonal previous with
  | nil => nofun
  | cons b bs inductionHypothesis =>
    intro place size found
    cases place with
    | zero =>
      rw [runLengths, List.getElem?_cons_zero] at found
      obtain rfl := Option.some.inj found
      split
      case isTrue same =>
        obtain rfl := eq_of_beq same
        simpa using sharedDiagonal.concat a
      case isFalse => exact .zero _ _
    | succ place =>
      rw [runLengths, List.getElem?_cons_succ] at found
      have sharedNext : SharedEnd (previous.headD 0) xs (ys ++ [b]) := by
        cases previous with
        | nil => exact .zero _ _
        | cons next previous => simpa using sharedPrevious 0 next rfl
      have sharedTail : ∀ place size, previous.tail[place]? = some size →
          SharedEnd size xs (ys ++ [b] ++ bs.take (place + 1)) := by
        intro place size found
        rw [List.getElem?_tail] at found
        simpa using sharedPrevious (place + 1) size found
      simpa using inductionHypothesis sharedNext sharedTail place size found

/-- The better of two shared runs is shared. -/
theorem shared_improve
    {xs behind bs : List α}
    {first second : Nat}
    (ends : xs.length = first + 1)
    {best : Run}
    (sharedBest : best.Shared (xs ++ behind) bs)
    {sizes : List Nat}
    (within : second + sizes.length ≤ bs.length)
    (shared : ∀ place size, sizes[place]? = some size →
      SharedEnd size xs (bs.take (second + place + 1))) :
    (improve first best second sizes).Shared (xs ++ behind) bs := by
  induction sizes generalizing best second with
  | nil => exact sharedBest
  | cons size sizes inductionHypothesis =>
    rw [List.length_cons] at within
    rw [improve]
    apply inductionHypothesis
    · split
      case isTrue =>
        have sharedHere := (shared 0 size rfl).shared behind (bs.drop (second + 1))
        rw [Nat.add_zero, List.take_append_drop, ends, List.length_take_of_le (by omega)]
          at sharedHere
        exact sharedHere
      case isFalse => exact sharedBest
    · omega
    · intro place found
      have sharedThere := shared (place + 1) found
      rw [List.getElem?_cons_succ] at sharedThere
      rwa [show second + 1 + place + 1 = second + (place + 1) + 1 by omega]

variable [BEq α] [LawfulBEq α]

/-- The search only finds shared runs. -/
theorem shared_searchRun
    (common : List α)
    {xs as bs : List α}
    {previous : List Nat}
    {best : Run}
    (sharedBest : best.Shared (xs ++ as) bs)
    (sharedPrevious : ∀ place size, previous[place]? = some size →
      SharedEnd size xs (bs.take (place + 1))) :
    (searchRun common bs xs.length previous best as).Shared (xs ++ as) bs := by
  induction as generalizing xs previous best with
  | nil => exact sharedBest
  | cons a as inductionHypothesis =>
    rw [searchRun]
    generalize sizesEq : (if common.contains a then [] else runLengths a 0 previous bs) = sizes
    have sharedSizes : ∀ place size, sizes[place]? = some size →
        SharedEnd size (xs ++ [a]) (bs.take (place + 1)) := by
      intro place size found
      rw [← sizesEq] at found
      split at found
      case isTrue => cases found
      case isFalse =>
        exact sharedEnd_runLengths a (.zero xs []) sharedPrevious place size found
    have within : 0 + sizes.length ≤ bs.length := by
      rw [← sizesEq]
      split
      case isTrue => simp
      case isFalse => simp [length_runLengths]
    have regrouped : xs ++ a :: as = xs ++ [a] ++ as := by simp
    have length : xs.length + 1 = (xs ++ [a]).length := by simp
    rw [regrouped] at sharedBest ⊢
    have sharedBetter := shared_improve length.symm sharedBest within (by simpa using sharedSizes)
    rw [length]
    exact inductionHypothesis sharedBetter sharedSizes

/-! ## Longest runs -/

/-- Two lists start with the entries that they have in common from the start. -/
theorem exists_commonStart (as bs : List α) :
    ∃ entries restA restB, as = entries ++ restA ∧ bs = entries ++ restB ∧
      entries.length = commonStart as bs := by
  induction as generalizing bs with
  | nil => exact ⟨[], [], bs, rfl, rfl, by simp [commonStart]⟩
  | cons a as inductionHypothesis =>
    cases bs with
    | nil => exact ⟨[], a :: as, [], rfl, rfl, by simp [commonStart]⟩
    | cons b bs =>
      by_cases same : a == b
      · obtain rfl := eq_of_beq same
        obtain ⟨entries, restA, restB, rfl, rfl, length⟩ := inductionHypothesis bs
        exact ⟨a :: entries, restA, restB, rfl, rfl, by simp [commonStart, length]⟩
      · exact ⟨[], a :: as, b :: bs, rfl, rfl, by simp [commonStart, same]⟩

omit [LawfulBEq α] in
/-- A run is made longer by what the parts before it end with and those behind it start
with. -/
theorem extend_eq
    (before entries behind beforeNew behindNew : List α) :
    extend (before ++ entries ++ behind) (beforeNew ++ entries ++ behindNew)
        ⟨before.length, beforeNew.length, entries.length⟩ =
      ⟨before.length - commonStart before.reverse beforeNew.reverse,
        beforeNew.length - commonStart before.reverse beforeNew.reverse,
        entries.length + commonStart before.reverse beforeNew.reverse +
          commonStart behind behindNew⟩ := by
  have dropOld : (before ++ entries ++ behind).drop (before.length + entries.length) = behind :=
    List.drop_left' List.length_append
  have dropNew : (beforeNew ++ entries ++ behindNew).drop (beforeNew.length + entries.length) =
      behindNew :=
    List.drop_left' List.length_append
  simp only [extend, dropOld, dropNew]
  simp only [List.append_assoc, List.take_left]

/-- A shared run that is made longer is shared. -/
theorem shared_extend
    {as bs : List α}
    {run : Run}
    (shared : run.Shared as bs) :
    (extend as bs run).Shared as bs := by
  obtain ⟨first, second, size⟩ := run
  obtain ⟨before, entries, behind, beforeNew, behindNew, rfl, rfl, rfl, rfl, rfl⟩ := shared
  obtain ⟨back, restA, restB, sameBefore, sameBeforeNew, backLength⟩ :=
    exists_commonStart before.reverse beforeNew.reverse
  obtain ⟨ahead, leftA, leftB, sameBehind, sameBehindNew, aheadLength⟩ :=
    exists_commonStart behind behindNew
  rw [extend_eq, ← backLength, ← aheadLength]
  obtain rfl : before = restA.reverse ++ back.reverse := by
    rw [← List.reverse_append, ← sameBefore, List.reverse_reverse]
  obtain rfl : beforeNew = restB.reverse ++ back.reverse := by
    rw [← List.reverse_append, ← sameBeforeNew, List.reverse_reverse]
  refine ⟨restA.reverse, back.reverse ++ entries ++ ahead, leftA, restB.reverse, leftB, ?_, ?_,
    by simp, by simp, by simp; omega⟩
  · simp [sameBehind]
  · simp [sameBehindNew]

theorem shared_longestRun (common as bs : List α) : (longestRun common as bs).Shared as bs := by
  have sharedNothing : Run.Shared ⟨0, 0, 0⟩ ([] ++ as) bs :=
    ⟨[], [], as, [], bs, rfl, rfl, rfl, rfl, rfl⟩
  exact shared_extend (shared_searchRun common sharedNothing nofun)

/-! ## Scripts -/

theorem newSide_scriptWithin (common : List α) (depth : Nat) (as bs : List α) :
    newSide (scriptWithin common depth as bs) = bs := by
  induction depth generalizing as bs with
  | zero => simp [scriptWithin, Segment.new, newSide]
  | succ depth inductionHypothesis =>
    rw [scriptWithin]
    split
    case isTrue => simp [Segment.new, newSide]
    case isFalse =>
      have shared := shared_longestRun common as bs
      generalize longestRun common as bs = run at shared
      obtain ⟨before, entries, behind, beforeNew, behindNew, rfl, rfl, first, second, size⟩ :=
        shared
      have kept : ((before ++ entries ++ behind).drop run.first).take run.size = entries := by
        rw [List.append_assoc, List.drop_left' first, List.take_left' size]
      have takeNew : (beforeNew ++ entries ++ behindNew).take run.second = beforeNew := by
        rw [List.append_assoc, List.take_left' second]
      have dropNew : (beforeNew ++ entries ++ behindNew).drop (run.second + run.size) =
          behindNew :=
        List.drop_left' (by rw [List.length_append, second, size])
      rw [newSide_append, newSide_cons, inductionHypothesis, inductionHypothesis, kept, takeNew,
        dropNew, Segment.new, List.append_assoc]

/-- A script leads to its second list. -/
theorem newSide_script (as bs : List α) : newSide (script as bs) = bs := by
  rw [script, newSide_tidy, newSide_scriptWithin]

end Diff
end GraphQL
