import GraphQL.Text.Block
import Mathlib.Data.List.TakeDrop

/-!
# Texts with unified line ends

A line of source text ends at a line feed, a carriage return or the pair of both.  Writing
every line end as a line feed changes nothing but carriage returns, keeps the lines of the
text, and keeps what is found at its front by a test that no line end passes.
-/

namespace GraphQL
namespace Text
namespace Lines

/-! ## Texts with line ends -/

theorem unify_cons_of_ne
    {c : Char}
    (noReturn : c ≠ '\r')
    (cs : List Char) :
    unify (c :: cs) = c :: unify cs := by
  rw [unify, if_neg noReturn]
  intro more isReturn
  exact absurd isReturn noReturn

/-- A front without carriage returns stays as it is. -/
theorem unify_append
    {front : List Char}
    (noReturn : '\r' ∉ front)
    (rest : List Char) :
    unify (front ++ rest) = front ++ unify rest := by
  induction front with
  | nil => rfl
  | cons c front inductionHypothesis =>
    obtain ⟨other, others⟩ := List.ne_and_not_mem_of_not_mem_cons noReturn
    rw [List.cons_append, unify_cons_of_ne (Ne.symm other), inductionHypothesis others,
      List.cons_append]

/-- A front without line feeds was there before. -/
theorem exists_of_unify_eq_append
    {cs front rest : List Char}
    (noLineFeed : '\n' ∉ front)
    (split : unify cs = front ++ rest) :
    ∃ before, cs = front ++ before ∧ unify before = rest := by
  induction front generalizing cs with
  | nil => exact ⟨cs, rfl, split⟩
  | cons c front inductionHypothesis =>
    obtain ⟨other, others⟩ := List.ne_and_not_mem_of_not_mem_cons noLineFeed
    fun_cases unify cs with
    | case1 => cases split
    | case2 more => exact absurd (List.cons.inj split).1 other
    | case3 d more notPair =>
      rw [unify.eq_3 d more notPair, List.cons_append] at split
      obtain ⟨sameFirst, sameRest⟩ := List.cons.inj split
      by_cases isReturn : d = '\r'
      · rw [if_pos isReturn] at sameFirst
        exact absurd sameFirst other
      · rw [if_neg isReturn] at sameFirst
        obtain ⟨before, rfl, unified⟩ := inductionHypothesis others sameRest
        exact ⟨before, by rw [sameFirst, List.cons_append], unified⟩

theorem exists_of_unify_eq_cons
    {c : Char}
    {cs rest : List Char}
    (notLineFeed : c ≠ '\n')
    (opens : unify cs = c :: rest) :
    ∃ before, cs = c :: before ∧ unify before = rest := by
  have split : unify cs = [c] ++ rest := opens
  exact exists_of_unify_eq_append (by simpa using notLineFeed.symm) split

/-- The lines of a text do not show how they end. -/
theorem source_unify (cs : List Char) : source (unify cs) = source cs := by
  fun_induction unify cs with
  | case1 => rfl
  | case2 cs inductionHypothesis => simp [source, inductionHypothesis]
  | case3 c cs notPair inductionHypothesis =>
    rw [source.eq_3 c cs notPair]
    by_cases isReturn : c = '\r'
    · simp [source, isReturn, inductionHypothesis]
    · rw [if_neg isReturn, source.eq_3, inductionHypothesis]
      intro more isReturnToo
      exact absurd isReturnToo isReturn

/-! ## Tests that no line end passes -/

section Tests

variable
  (test : Char → Bool)
  (failsReturn : test '\r' = false)
  (failsLineFeed : test '\n' = false)

include failsReturn failsLineFeed

/-- The first character passes a test for both texts or for none. -/
theorem any_head?_unify (cs : List Char) : (unify cs).head?.any test = cs.head?.any test := by
  fun_cases unify cs with
  | case1 => rfl
  | case2 => simp [failsReturn, failsLineFeed]
  | case3 c cs notPair =>
    by_cases isReturn : c = '\r'
    · simp [isReturn, failsReturn, failsLineFeed]
    · simp [isReturn]

theorem span_unify (cs : List Char) :
    (unify cs).span test = ((cs.span test).1, unify (cs.span test).2) := by
  simp only [List.span_eq_takeWhile_dropWhile]
  induction cs with
  | nil => rfl
  | cons c cs inductionHypothesis =>
    obtain ⟨sameTaken, sameLeft⟩ := Prod.mk.inj inductionHypothesis
    by_cases passes : test c = true
    · have noReturn : c ≠ '\r' := by
        rintro rfl
        simp [failsReturn] at passes
      rw [unify_cons_of_ne noReturn]
      simp [passes, sameTaken, sameLeft]
    · have front : (unify (c :: cs)).head?.any test = false := by
        rw [any_head?_unify test failsReturn failsLineFeed]
        simpa using passes
      cases opens : unify (c :: cs) with
      | nil => simp [passes, opens]
      | cons d ds =>
        rw [opens] at front
        simp_all

end Tests

end Lines

/-- The value of a block string does not show how its lines end. -/
theorem Block.value_unify (raw : List Char) : value (Lines.unify raw) = value raw := by
  rw [value, Lines.source_unify, value]

end Text
end GraphQL
