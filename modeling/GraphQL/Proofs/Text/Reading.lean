import GraphQL.Text.Lines

/-!
# Reading lines

No boundary is left in a reading line.  Where line feeds are the only boundaries of a text,
and none is at its end, reading lines are what line feeds separate; in other texts there
are more of them, and different texts have the same ones.

A text ends in a line if no line feed is at its end; several texts put one after another do
so if the last of them does.
-/

namespace GraphQL
namespace Text
namespace Lines

/-- Joined texts by their characters. -/
theorem toList_joinWith (separator : String) (texts : List String) :
    (joinWith separator texts).toList =
      separator.toList.intercalate (texts.map String.toList) := by
  induction texts with
  | nil => rfl
  | cons text texts inductionHypothesis =>
    cases texts with
    | nil => simp
    | cons next texts =>
      rw [joinWith_cons_cons, String.toList_append, String.toList_append, inductionHypothesis,
        List.map_cons, List.map_cons, List.map_cons, List.intercalate_cons_cons]

/-- No boundary is in a reading line. -/
theorem isBoundary_of_mem_reading
    {cs line : List Char}
    (present : line ∈ reading cs)
    {c : Char}
    (among : c ∈ line) :
    isBoundary c = false := by
  fun_induction reading cs generalizing line with
  | case1 => cases present
  | case2 cs inductionHypothesis =>
    rcases List.mem_cons.mp present with rfl | later
    · cases among
    · exact inductionHypothesis later among
  | case3 d cs _ boundary inductionHypothesis =>
    rcases List.mem_cons.mp present with rfl | later
    · cases among
    · exact inductionHypothesis later among
  | case4 d cs _ inLine none inductionHypothesis =>
    obtain rfl := List.mem_singleton.mp present
    obtain rfl := List.mem_singleton.mp among
    simpa using inLine
  | case5 d cs _ inLine first rest shape inductionHypothesis =>
    rw [shape] at inductionHypothesis
    rcases List.mem_cons.mp present with rfl | later
    · rcases List.mem_cons.mp among with rfl | inFirst
      · simpa using inLine
      · exact inductionHypothesis List.mem_cons_self inFirst
    · exact inductionHypothesis (List.mem_cons_of_mem _ later) among

/-- No boundary but line feeds is in the text, and no line feed is at its end. -/
structure IsPlain (cs : List Char) : Prop where
  /-- The text is not empty. -/
  notEmpty : cs ≠ []
  /-- No line feed is at the end. -/
  ends : cs.getLast? ≠ some '\n'
  /-- A boundary is a line feed. -/
  lineFeed : ∀ c ∈ cs, isBoundary c = true → c = '\n'

theorem IsPlain.tail
    {c : Char}
    {cs : List Char}
    (plain : IsPlain (c :: cs))
    (notEmpty : cs ≠ []) :
    IsPlain cs where
  notEmpty := notEmpty
  ends := by
    obtain ⟨d, ds, rfl⟩ := List.exists_cons_of_ne_nil notEmpty
    simpa [List.getLast?_cons_cons] using plain.ends
  lineFeed := (List.forall_mem_cons.mp plain.lineFeed).2

/-- The reading lines of a text without other boundaries are what line feeds separate. -/
theorem reading_eq_splitOn
    {cs : List Char}
    (plain : IsPlain cs) :
    reading cs = cs.splitOn '\n' := by
  have otherwise {c : Char} (inLine : ¬isBoundary c = true) : ¬(c == '\n') = true := by
    intro isBreak
    obtain rfl := eq_of_beq isBreak
    exact inLine rfl
  fun_induction reading cs with
  | case1 => exact absurd rfl plain.notEmpty
  | case2 cs _ =>
    exact absurd (plain.lineFeed '\r' List.mem_cons_self (by decide)) (by decide)
  | case3 c cs _ boundary inductionHypothesis =>
    obtain rfl := plain.lineFeed c List.mem_cons_self boundary
    have notEmpty : cs ≠ [] := by
      rintro rfl
      exact plain.ends rfl
    rw [inductionHypothesis (plain.tail notEmpty), List.splitOn_cons_eq_if_modifyHead]
    rfl
  | case4 c cs _ inLine none inductionHypothesis =>
    have isEmpty : cs = [] := by
      refine Classical.byContradiction fun notEmpty => ?_
      have split := inductionHypothesis (plain.tail notEmpty)
      exact List.splitOn_ne_nil '\n' cs (split.symm.trans none)
    rw [isEmpty, List.splitOn_cons_eq_if_modifyHead, if_neg (otherwise inLine)]
    rfl
  | case5 c cs _ inLine first rest shape inductionHypothesis =>
    have notEmpty : cs ≠ [] := by
      rintro rfl
      cases shape
    rw [List.splitOn_cons_eq_if_modifyHead, if_neg (otherwise inLine),
      ← inductionHypothesis (plain.tail notEmpty), shape]
    rfl

/-- A text without other boundaries is told by its reading lines. -/
theorem IsPlain.eq_of_reading_eq
    {cs ds : List Char}
    (plain : IsPlain cs)
    (plainToo : IsPlain ds)
    (same : reading cs = reading ds) :
    cs = ds := by
  rw [reading_eq_splitOn plain, reading_eq_splitOn plainToo] at same
  calc
    cs = ['\n'].intercalate (cs.splitOn '\n') := (List.intercalate_splitOn '\n').symm
    _ = ['\n'].intercalate (ds.splitOn '\n') := by rw [same]
    _ = ds := List.intercalate_splitOn '\n'

/-! ## How texts end -/

/-- The text is not empty, and no line feed is at its end. -/
def EndsInLine (text : String) : Prop :=
  ∃ c, text.toList.getLast? = some c ∧ c ≠ '\n'

/-- No line feed is at the end of the text, which may be empty. -/
def NoFinalBreak (text : String) : Prop :=
  text.toList.getLast? ≠ some '\n'

theorem EndsInLine.append
    {second : String}
    (ends : EndsInLine second)
    (first : String) :
    EndsInLine (first ++ second) := by
  obtain ⟨c, last, notBreak⟩ := ends
  refine ⟨c, ?_, notBreak⟩
  rw [String.toList_append, List.getLast?_append, last, Option.some_or]

theorem EndsInLine.joinWith
    {texts : List String}
    (notEmpty : texts ≠ [])
    (ends : ∀ text ∈ texts, EndsInLine text)
    (separator : String) :
    EndsInLine (Lines.joinWith separator texts) := by
  induction texts with
  | nil => exact absurd rfl notEmpty
  | cons text texts inductionHypothesis =>
    rw [List.forall_mem_cons] at ends
    cases texts with
    | nil => exact ends.1
    | cons next texts =>
      exact (inductionHypothesis (List.cons_ne_nil next texts) ends.2).append _

theorem EndsInLine.noFinalBreak
    {text : String}
    (ends : EndsInLine text) :
    NoFinalBreak text := by
  obtain ⟨c, last, notBreak⟩ := ends
  rw [NoFinalBreak, last]
  simpa using notBreak

theorem NoFinalBreak.endsInLine
    {text : String}
    (ends : NoFinalBreak text)
    (notEmpty : text.toList ≠ []) :
    EndsInLine text := by
  have last := List.getLast?_eq_some_getLast notEmpty
  refine ⟨_, last, fun isBreak => ends ?_⟩
  rw [last, isBreak]

theorem EndsInLine.notEmpty
    {text : String}
    (ends : EndsInLine text) :
    text.toList ≠ [] := by
  obtain ⟨c, last, -⟩ := ends
  exact List.ne_nil_of_mem (List.mem_of_getLast? last)

theorem noFinalBreak_empty : NoFinalBreak "" := nofun

theorem NoFinalBreak.append
    {first second : String}
    (ends : NoFinalBreak first)
    (endsToo : NoFinalBreak second) :
    NoFinalBreak (first ++ second) := by
  by_cases isEmpty : second.toList = []
  · rw [NoFinalBreak, String.toList_append, isEmpty, List.append_nil]
    exact ends
  · exact ((endsToo.endsInLine isEmpty).append first).noFinalBreak

theorem EndsInLine.append_noFinalBreak
    {first second : String}
    (ends : EndsInLine first)
    (endsToo : NoFinalBreak second) :
    EndsInLine (first ++ second) := by
  refine (ends.noFinalBreak.append endsToo).endsInLine ?_
  rw [String.toList_append]
  exact List.append_ne_nil_of_left_ne_nil ends.notEmpty _

end Lines
end Text
end GraphQL
