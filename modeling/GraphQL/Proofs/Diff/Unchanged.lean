import GraphQL.Diff.Unified
import GraphQL.Proofs.Diff.Script

/-!
# Lists without a difference

The script from a list to itself keeps all of it.  The longest run that the search finds
starts at the same place on both sides: no run that ends at an entry is longer than the
streak of entries up to there that are not passed over, and the list shares that streak
with itself.  Such a run is then made longer up to both ends.
-/

namespace GraphQL
namespace Diff

variable {α : Type} [BEq α]

/-! ## Streaks -/

/-- For each entry, how many entries up to there are not passed over.  There are `streak`
of them in front of the list. -/
def streaks (common : List α) : Nat → List α → List Nat
  | _, [] => []
  | streak, a :: as =>
    let next := if common.contains a then 0 else streak + 1
    next :: streaks common next as

/-- The lengths are at most those of another list, place by place. -/
inductive Below : List Nat → List Nat → Prop
  | nil (bounds : List Nat) : Below [] bounds
  | cons {size bound : Nat} {sizes bounds : List Nat} :
      size ≤ bound →
      Below sizes bounds →
      Below (size :: sizes) (bound :: bounds)

/-- The first of some lengths is at most the first bound. -/
theorem Below.headD_le
    {previous bounds : List Nat}
    {bound : Nat}
    (below : Below previous (bound :: bounds)) :
    previous.headD 0 ≤ bound := by
  cases below with
  | nil => exact Nat.zero_le bound
  | cons le _ => exact le

theorem Below.tail
    {previous bounds : List Nat}
    {bound : Nat}
    (below : Below previous (bound :: bounds)) :
    Below previous.tail bounds := by
  cases below with
  | nil => exact .nil bounds
  | cons _ below => exact below

section Rows

variable [LawfulBEq α] {a : α} {diagonal : Nat} {previous : List Nat} {bs : List α}

/-- No run that ends with an entry is longer than the streaks of the second list. -/
theorem below_runLengths
    {common : List α}
    (searched : common.contains a = false)
    {streak : Nat}
    (diagonalLe : diagonal ≤ streak)
    (below : Below previous (streaks common streak bs)) :
    Below (runLengths a diagonal previous bs) (streaks common streak bs) := by
  induction bs generalizing diagonal previous streak with
  | nil => exact .nil _
  | cons b bs inductionHypothesis =>
    rw [runLengths, streaks]
    refine .cons ?_ (inductionHypothesis below.headD_le below.tail)
    split
    case isTrue same =>
      obtain rfl := eq_of_beq same
      rw [searched, if_neg Bool.false_ne_true]
      omega
    case isFalse => exact Nat.zero_le _

omit [LawfulBEq α] in
/-- Runs that end with an entry are at most one longer than those that end before it. -/
theorem runLengths_le
    {streak : Nat}
    (diagonalLe : diagonal ≤ streak)
    (bounded : ∀ size ∈ previous, size ≤ streak) :
    ∀ size ∈ runLengths a diagonal previous bs, size ≤ streak + 1 := by
  induction bs generalizing diagonal previous with
  | nil => nofun
  | cons b bs inductionHypothesis =>
    rw [runLengths, List.forall_mem_cons]
    constructor
    · split <;> omega
    · apply inductionHypothesis
      · cases previous with
        | nil => exact Nat.zero_le streak
        | cons size previous => exact bounded size List.mem_cons_self
      · exact fun size present => bounded size (List.mem_of_mem_tail present)

/-- Where the entry is found itself, the run is one longer than the one before it. -/
theorem getElem?_runLengths (ys zs : List α) :
    (runLengths a diagonal previous (ys ++ a :: zs))[ys.length]? =
      some (((diagonal :: previous)[ys.length]?).getD 0 + 1) := by
  induction ys generalizing diagonal previous with
  | nil => simp [runLengths]
  | cons y ys inductionHypothesis =>
    rw [List.cons_append, runLengths, List.length_cons, List.getElem?_cons_succ,
      inductionHypothesis, List.getElem?_cons_succ]
    cases previous with
    | nil => cases ys <;> simp
    | cons size previous => rfl

end Rows

/-! ## The run that is found -/

theorem improve_append (first second : Nat) (best : Run) (sizes more : List Nat) :
    improve first best second (sizes ++ more) =
      improve first (improve first best second sizes) (second + sizes.length) more := by
  induction sizes generalizing best second with
  | nil => rfl
  | cons size sizes inductionHypothesis =>
    rw [List.cons_append, improve, improve, inductionHypothesis, List.length_cons]
    congr 1
    omega

/-- Nothing that is not longer is taken for better. -/
theorem improve_of_le
    {first second : Nat}
    {best : Run}
    {sizes : List Nat}
    (bounded : ∀ size ∈ sizes, size ≤ best.size) :
    improve first best second sizes = best := by
  induction sizes generalizing second with
  | nil => rfl
  | cons size sizes inductionHypothesis =>
    rw [List.forall_mem_cons] at bounded
    rw [improve, if_neg (by omega), inductionHypothesis bounded.2]

/-- Lengths in front are at most bounds in front. -/
theorem Below.exists_of_mem_take
    {sizes early late : List Nat}
    (below : Below sizes (early ++ late)) :
    ∀ size ∈ sizes.take early.length, ∃ bound ∈ early, size ≤ bound := by
  induction early generalizing sizes with
  | nil => simp
  | cons bound early inductionHypothesis =>
    cases below with
    | nil => simp
    | cons le below =>
      rw [List.length_cons, List.take_succ_cons, List.forall_mem_cons]
      refine ⟨⟨bound, List.mem_cons_self, le⟩, ?_⟩
      intro size present
      obtain ⟨other, among, leOther⟩ := inductionHypothesis below size present
      exact ⟨other, List.mem_cons_of_mem _ among, leOther⟩

/-- What is known when the search of a list in itself has come to some entry: `streak`
entries in front of it are not passed over, and the run that was found starts at the same
place on both sides and is as long as every streak so far. -/
structure Searched
    (common xs as : List α)
    (previous : List Nat)
    (best : Run)
    (early : List Nat)
    (streak : Nat) : Prop where
  /-- The streaks so far, and those that follow. -/
  split : streaks common 0 (xs ++ as) = early ++ streaks common streak as
  /-- There is one for each entry so far. -/
  length : early.length = xs.length
  /-- No run is longer than the streak at its end in the second list. -/
  below : Below previous (streaks common 0 (xs ++ as))
  /-- No run is longer than the streak at its end in the first list. -/
  bounded : ∀ size ∈ previous, size ≤ streak
  /-- The streak is shared with the list itself. -/
  reached : ((0 :: previous)[xs.length]?).getD 0 = streak
  /-- The run starts at the same place on both sides. -/
  aligned : best.first = best.second
  /-- The run is as long as every streak so far. -/
  longest : ∀ size ∈ early, size ≤ best.size

/-- An entry that is passed over ends the streak. -/
theorem Searched.pass
    {common xs as : List α}
    {a : α}
    {previous early : List Nat}
    {best : Run}
    {streak : Nat}
    (searched : Searched common xs (a :: as) previous best early streak)
    (passedOver : common.contains a = true) :
    Searched common (xs ++ [a]) as [] best (early ++ [0]) 0 where
  split := by
    have split := searched.split
    rw [streaks, passedOver, if_pos rfl] at split
    simpa using split
  length := by simp [searched.length]
  below := .nil _
  bounded := nofun
  reached := by simp
  aligned := searched.aligned
  longest := by
    rw [List.forall_mem_append]
    exact ⟨searched.longest, by simp⟩

/-- An entry that is not passed over goes on with the streak. -/
theorem Searched.step
    [LawfulBEq α]
    {common xs as : List α}
    {a : α}
    {previous early : List Nat}
    {best : Run}
    {streak : Nat}
    (searched : Searched common xs (a :: as) previous best early streak)
    (notPassed : common.contains a = false) :
    Searched common (xs ++ [a]) as (runLengths a 0 previous (xs ++ a :: as))
      (improve xs.length best 0 (runLengths a 0 previous (xs ++ a :: as)))
      (early ++ [streak + 1]) (streak + 1) := by
  have below : Below (runLengths a 0 previous (xs ++ a :: as))
      (streaks common 0 (xs ++ a :: as)) :=
    below_runLengths notPassed (Nat.le_refl 0) searched.below
  have bounded : ∀ size ∈ runLengths a 0 previous (xs ++ a :: as), size ≤ streak + 1 :=
    runLengths_le (Nat.zero_le streak) searched.bounded
  have here : (runLengths a 0 previous (xs ++ a :: as))[xs.length]? =
      some (((0 :: previous)[xs.length]?).getD 0 + 1) := getElem?_runLengths xs as
  rw [searched.reached] at here
  generalize runLengths a 0 previous (xs ++ a :: as) = sizes at below bounded here
  obtain ⟨within, same⟩ := List.getElem?_eq_some_iff.mp here
  have splitSizes : sizes = sizes.take xs.length ++ (streak + 1) :: sizes.drop (xs.length + 1) := by
    rw [← same, List.getElem_cons_drop, List.take_append_drop]
  have earlyLe : ∀ size ∈ sizes.take xs.length, size ≤ best.size := by
    rw [searched.split] at below
    rw [← searched.length]
    intro size present
    obtain ⟨bound, among, le⟩ := below.exists_of_mem_take size present
    exact Nat.le_trans le (searched.longest bound among)
  have place : 0 + (sizes.take xs.length).length = xs.length := by
    rw [List.length_take]
    omega
  have improved : improve xs.length best 0 sizes =
      if best.size < streak + 1 then
        ⟨xs.length + 1 - (streak + 1), xs.length + 1 - (streak + 1), streak + 1⟩
      else best := by
    rw [splitSizes, improve_append, improve_of_le earlyLe, place, improve, improve_of_le]
    intro size present
    have le := bounded size (List.mem_of_mem_drop present)
    split
    case isTrue => exact le
    case isFalse => omega
  have split := searched.split
  rw [streaks, notPassed, if_neg Bool.false_ne_true] at split
  refine
    { split := by simpa using split
      length := by simp [searched.length]
      below := by simpa using below
      bounded := bounded
      reached := by simp [here]
      aligned := ?_
      longest := ?_ }
  · rw [improved]
    split_ifs
    · rfl
    · exact searched.aligned
  · rw [improved, List.forall_mem_append, List.forall_mem_singleton]
    split_ifs with longer
    · refine ⟨?_, Nat.le_refl _⟩
      intro size present
      exact Nat.le_trans (searched.longest size present) (Nat.le_of_lt longer)
    · exact ⟨searched.longest, by omega⟩

/-- The search of a list in itself finds a run at the same place on both sides. -/
theorem aligned_searchRun
    [LawfulBEq α]
    {common xs as : List α}
    {previous early : List Nat}
    {best : Run}
    {streak : Nat}
    (searched : Searched common xs as previous best early streak) :
    (searchRun common (xs ++ as) xs.length previous best as).first =
      (searchRun common (xs ++ as) xs.length previous best as).second := by
  induction as generalizing xs previous best early streak with
  | nil => exact searched.aligned
  | cons a as inductionHypothesis =>
    rw [searchRun]
    have regrouped : xs ++ a :: as = xs ++ [a] ++ as := by simp
    have length : xs.length + 1 = (xs ++ [a]).length := by simp
    cases passedOver : common.contains a with
    | true =>
      have next := inductionHypothesis (searched.pass passedOver)
      rw [← regrouped, ← length] at next
      exact next
    | false =>
      have next := inductionHypothesis (searched.step passedOver)
      rw [← regrouped, ← length] at next
      exact next

theorem commonStart_self [LawfulBEq α] (as : List α) : commonStart as as = as.length := by
  induction as with
  | nil => rfl
  | cons a as inductionHypothesis => simp [commonStart, inductionHypothesis]

/-- The longest run that a list shares with itself is all of it. -/
theorem longestRun_self [LawfulBEq α] (common as : List α) :
    longestRun common as as = ⟨0, 0, as.length⟩ := by
  have searched : Searched common [] as [] ⟨0, 0, 0⟩ [] 0 :=
    { split := rfl
      length := rfl
      below := .nil _
      bounded := nofun
      reached := rfl
      aligned := rfl
      longest := nofun }
  have aligned := aligned_searchRun searched
  have sharedNothing : Run.Shared ⟨0, 0, 0⟩ ([] ++ as) as :=
    ⟨[], [], as, [], as, rfl, rfl, rfl, rfl, rfl⟩
  have shared : (searchRun common as 0 [] ⟨0, 0, 0⟩ as).Shared as as :=
    shared_searchRun common sharedNothing nofun
  rw [longestRun]
  simp only [List.nil_append, List.length_nil] at aligned shared
  generalize searchRun common as 0 [] ⟨0, 0, 0⟩ as = run at aligned shared
  obtain ⟨first, second, size⟩ := run
  obtain ⟨before, entries, behind, beforeNew, behindNew, rfl, same, rfl, rfl, rfl⟩ := shared
  rw [List.append_assoc, List.append_assoc] at same
  obtain ⟨rfl, sameRest⟩ := List.append_inj same aligned
  obtain rfl := List.append_cancel_left sameRest
  rw [extend_eq, commonStart_self, commonStart_self]
  simp only [List.length_reverse, Nat.sub_self, List.length_append]
  congr 1
  omega

/-- The script from a list to itself keeps all of it. -/
theorem script_self [LawfulBEq α] (as : List α) :
    script as as = if as.isEmpty then [] else [.same as] := by
  have nothing (common : List α) (depth : Nat) :
      scriptWithin common depth [] [] = [.change [] []] := by
    cases depth with
    | zero => rfl
    | succ depth =>
      rw [scriptWithin, longestRun_self]
      rfl
  rw [script, scriptWithin, longestRun_self]
  cases as with
  | nil => rfl
  | cons a as =>
    dsimp only
    rw [if_neg (by simp)]
    simp [nothing, tidy, Segment.isEmpty, Segment.old, Segment.new]

/-- There are no hunks in the script from a list to itself. -/
theorem hunks_script_self (as : List String) : hunks (script as as) = [] := by
  rw [script_self]
  split
  case isTrue => rfl
  case isFalse =>
    rw [hunks]
    dsimp only [trimStart, trimEnd]
    rw [splitHunks, if_neg (by simp; omega), splitHunks]
    rfl

end Diff
end GraphQL
