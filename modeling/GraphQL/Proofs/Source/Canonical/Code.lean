import GraphQL.Source.Printer
import Mathlib.Data.List.Infix

/-!
# Things that are told by their texts

A thing is told by its text if no other thing has that text.  Where more text follows, this
asks for more: the two texts may go on differently, and still the same thing has to be
written and the same has to follow.  That depends on what may follow, which is given by
marks: the text is at its end, or it goes on with one of them.

Texts that are put together from such texts are of that kind again, as long as the marks
keep the parts apart.
-/

namespace GraphQL
namespace Source
namespace Canonical

open Text

variable {α β γ : Type}

/-! ## What follows -/

/-- The text is at its end, or it goes on with one of the marks. -/
def Starts (marks : List (List Char)) (rest : List Char) : Prop :=
  rest = [] ∨ ∃ mark ∈ marks, mark <+: rest

/-- Each of the other marks goes on from one of the marks. -/
def covers (marks others : List (List Char)) : Bool :=
  others.all fun other => marks.any fun mark => mark.isPrefixOf other

/-- The mark is not empty, and neither does it go on from one of the others nor one of
them from it. -/
def isApart (mark : List Char) (others : List (List Char)) : Bool :=
  !mark.isEmpty && others.all fun other => !mark.isPrefixOf other && !other.isPrefixOf mark

theorem starts_nil (marks : List (List Char)) : Starts marks [] :=
  .inl rfl

theorem starts_append
    {mark : List Char}
    {marks : List (List Char)}
    (present : mark ∈ marks)
    (rest : List Char) :
    Starts marks (mark ++ rest) :=
  .inr ⟨mark, present, List.prefix_append mark rest⟩

theorem Starts.cons
    {marks : List (List Char)}
    {rest : List Char}
    (starts : Starts marks rest)
    (mark : List Char) :
    Starts (mark :: marks) rest := by
  obtain isEnd | ⟨other, present, opens⟩ := starts
  · exact .inl isEnd
  · exact .inr ⟨other, List.mem_cons_of_mem _ present, opens⟩

theorem Starts.mono
    {marks others : List (List Char)}
    {rest : List Char}
    (starts : Starts others rest)
    (covered : covers marks others = true) :
    Starts marks rest := by
  obtain rfl | ⟨other, present, opens⟩ := starts
  · exact starts_nil marks
  · obtain ⟨mark, among, isPrefix⟩ :=
      List.any_eq_true.mp (List.all_eq_true.mp covered other present)
    exact .inr ⟨mark, among, (List.isPrefixOf_iff_prefix.mp isPrefix).trans opens⟩

/-- A text that goes on with a mark does not go on with one that is apart from it. -/
theorem not_starts_of_isApart
    {mark : List Char}
    {others : List (List Char)}
    (apart : isApart mark others = true)
    (rest : List Char) :
    ¬Starts others (mark ++ rest) := by
  obtain ⟨notEmpty, apart⟩ := Bool.and_eq_true_iff.mp apart
  rintro (isEnd | ⟨other, present, opens⟩)
  · rw [List.append_eq_nil_iff] at isEnd
    simp [isEnd.1] at notEmpty
  · have notPrefix := List.all_eq_true.mp apart other present
    simp only [Bool.and_eq_true, Bool.not_eq_true', ← Bool.not_eq_true,
      List.isPrefixOf_iff_prefix] at notPrefix
    obtain shorter | longer := List.prefix_or_prefix_of_prefix opens (List.prefix_append mark rest)
    · exact notPrefix.2 shorter
    · exact notPrefix.1 longer

/-- A text that opens with a character of some kind does not go on with a mark that does
not. -/
theorem not_starts_of_head
    {test : Char → Bool}
    {marks : List (List Char)}
    (apart : marks.all (fun mark => mark.head?.any fun c => !test c) = true)
    {c : Char}
    (opens : test c = true)
    (rest : List Char) :
    ¬Starts marks (c :: rest) := by
  rintro (isEnd | ⟨mark, present, isPrefix⟩)
  · cases isEnd
  · have otherwise := List.all_eq_true.mp apart mark present
    cases mark with
    | nil => cases otherwise
    | cons d ds =>
      obtain ⟨rfl, -⟩ := List.cons_prefix_cons.mp isPrefix
      simp [opens] at otherwise

/-! ## Being told by a text -/

/-- The value is told by its text before marks: a good value with the same text, up to what
follows, is the same, and so is what follows. -/
def Told (write : α → List Char) (good : α → Prop) (marks : List (List Char))
    (value : α) : Prop :=
  ∀ ⦃other rest left⦄, good other → Starts marks rest → Starts marks left →
    write value ++ rest = write other ++ left → value = other ∧ rest = left

/-- The text of a good value before marks starts with one of the marks that it opens
with. -/
def Leads (opens : List (List Char)) (write : α → List Char) (good : α → Prop)
    (marks : List (List Char)) : Prop :=
  ∀ ⦃value rest⦄, good value → Starts marks rest → Starts opens (write value ++ rest)

/-- The value is told by its text before marks, it is good, and good values open with marks
that tell what stands before them. -/
structure Follows (opens : List (List Char)) (write : α → List Char) (good : α → Prop)
    (marks : List (List Char)) (value : α) : Prop where
  /-- The value is told by its text. -/
  told : Told write good marks value
  /-- The value is good. -/
  isGood : good value
  /-- Good values open with the marks. -/
  leads : Leads opens write good marks

section Told

variable
  {write : α → List Char}
  {good : α → Prop}
  {marks : List (List Char)}
  {value : α}

/-- The text of the value starts with one of the marks that good values open with. -/
theorem Follows.starts
    {opens : List (List Char)}
    (follows : Follows opens write good marks value)
    {rest : List Char}
    (starts : Starts marks rest) :
    Starts opens (write value ++ rest) :=
  follows.leads follows.isGood starts

theorem Follows.mono
    {opens fewer : List (List Char)}
    (follows : Follows fewer write good marks value)
    (covered : covers opens fewer = true) :
    Follows opens write good marks value :=
  ⟨follows.told, follows.isGood, fun _ _ isGood starts =>
    (follows.leads isGood starts).mono covered⟩

/-- A value is told by its text if it is known by its parts and these are told. -/
theorem Told.of_parts
    {parts : α → β}
    {writeParts : β → List Char}
    {goodParts : β → Prop}
    (told : Told writeParts goodParts marks (parts value))
    (isGood : good value)
    (known : Function.Injective parts)
    (written : ∀ other, good other → write other = writeParts (parts other))
    (areGood : ∀ other, good other → goodParts (parts other)) :
    Told write good marks value := by
  intro other rest left goodOther starts startsLeft same
  rw [written value isGood, written other goodOther] at same
  obtain ⟨sameParts, sameRest⟩ := told (areGood other goodOther) starts startsLeft same
  exact ⟨known sameParts, sameRest⟩

/-- What is made of a value that is told is told with it. -/
theorem Told.made
    (told : Told write good marks value)
    (make : α → β)
    {other : α}
    {rest left : List Char}
    (isGood : good other)
    (starts : Starts marks rest)
    (startsLeft : Starts marks left)
    (same : write value ++ rest = write other ++ left) :
    make value = make other ∧ rest = left := by
  obtain ⟨rfl, sameRest⟩ := told isGood starts startsLeft same
  exact ⟨rfl, sameRest⟩

/-- Nothing that follows a fixed text is told worse than without it. -/
theorem Told.marked
    (mark : List Char)
    (told : Told write good marks value) :
    Told (fun value => mark ++ write value) good marks value := by
  intro other rest left isGood starts startsLeft same
  simp only [List.append_assoc] at same
  exact told isGood starts startsLeft (List.append_cancel_left same)

theorem follows_marked
    (mark : List Char)
    (told : Told write good marks value)
    (isGood : good value) :
    Follows [mark] (fun value => mark ++ write value) good marks value := by
  refine ⟨told.marked mark, isGood, fun value rest _ _ => ?_⟩
  rw [List.append_assoc]
  exact starts_append List.mem_cons_self _

/-- Behind a closing text anything may follow. -/
theorem Told.closed
    {close : List Char}
    (told : Told write good [close] value)
    (marks : List (List Char)) :
    Told (fun value => write value ++ close) good marks value := by
  intro other rest left isGood _ _ same
  simp only [List.append_assoc] at same
  obtain ⟨sameValue, sameRest⟩ := told isGood
    (starts_append List.mem_cons_self rest) (starts_append List.mem_cons_self left) same
  exact ⟨sameValue, List.append_cancel_left sameRest⟩

end Told

/-! ## One after the other -/

section Append

variable
  {first : α → List Char}
  {second : β → List Char}
  {goodFirst : α → Prop}
  {goodSecond : β → Prop}
  {opens between marks : List (List Char)}

/-- Two texts in a row. -/
def inTurn (first : α → List Char) (second : β → List Char) (pair : α × β) : List Char :=
  first pair.1 ++ second pair.2

/-- Both values of a pair are good. -/
def Both (goodFirst : α → Prop) (goodSecond : β → Prop) (pair : α × β) : Prop :=
  goodFirst pair.1 ∧ goodSecond pair.2

theorem Told.inTurn
    {pair : α × β}
    (told : Told first goodFirst between pair.1)
    (follows : Follows between second goodSecond marks pair.2) :
    Told (inTurn first second) (Both goodFirst goodSecond) marks pair := by
  intro other rest left areGood starts startsLeft same
  -- Both texts go on with marks, so the first value is told whatever the second one is.
  simp only [Canonical.inTurn, List.append_assoc] at same
  obtain ⟨sameFirst, same⟩ := told areGood.1 (follows.starts starts)
    (follows.leads areGood.2 startsLeft) same
  obtain ⟨sameSecond, sameRest⟩ := follows.told areGood.2 starts startsLeft same
  exact ⟨Prod.ext sameFirst sameSecond, sameRest⟩

theorem Follows.inTurn
    {pair : α × β}
    (follows : Follows opens first goodFirst between pair.1)
    (next : Follows between second goodSecond marks pair.2) :
    Follows opens (inTurn first second) (Both goodFirst goodSecond) marks pair := by
  refine ⟨follows.told.inTurn next, ⟨follows.isGood, next.isGood⟩, ?_⟩
  intro pair rest areGood starts
  rw [Canonical.inTurn, List.append_assoc]
  exact follows.leads areGood.1 (next.leads areGood.2 starts)

end Append

/-! ## What may be missing -/

section Missing

variable
  {write : α → List Char}
  {good : α → Prop}
  {mark : List Char}
  {marks : List (List Char)}
  {missing value : α}

/-- Nothing is written for one value, and the texts of all others open with a mark. -/
structure OpensUnless (mark : List Char) (write : α → List Char) (missing : α) : Prop where
  /-- Nothing is written for the value. -/
  nothing : write missing = []
  /-- The texts of all others open with the mark. -/
  opens : ∀ value, value ≠ missing → mark <+: write value

theorem OpensUnless.leads
    (shape : OpensUnless mark write missing)
    (good : α → Prop)
    (marks : List (List Char)) :
    Leads (mark :: marks) write good marks := by
  intro value rest _ starts
  by_cases isMissing : value = missing
  · rw [isMissing, shape.nothing]
    exact starts.cons mark
  · exact .inr ⟨mark, List.mem_cons_self,
      (shape.opens value isMissing).trans (List.prefix_append _ _)⟩

/-- Whether something is missing is seen by the mark, so a value is told if it is among
those that are not missing. -/
theorem OpensUnless.told
    (shape : OpensUnless mark write missing)
    (apart : isApart mark marks = true)
    (told : value ≠ missing → Told write (fun other => good other ∧ other ≠ missing) marks value) :
    Told write good marks value := by
  intro other rest left isGood starts startsLeft same
  have elsewhere {value : α} (present : value ≠ missing) (more : List Char) :
      ¬Starts marks (write value ++ more) := by
    obtain ⟨written, opens⟩ := shape.opens value present
    rw [← opens, List.append_assoc]
    exact not_starts_of_isApart apart _
  by_cases isMissing : value = missing
  · rw [isMissing, shape.nothing] at same
    by_cases isMissingToo : other = missing
    · rw [isMissingToo, shape.nothing] at same
      exact ⟨isMissing.trans isMissingToo.symm, same⟩
    · exact absurd (same ▸ starts) (elsewhere isMissingToo left)
  · by_cases isMissingToo : other = missing
    · rw [isMissingToo, shape.nothing] at same
      exact absurd (same ▸ startsLeft) (elsewhere isMissing rest)
    · exact told isMissing ⟨isGood, isMissingToo⟩ starts startsLeft same

/-- A mark, if it is there. -/
def flag (mark : List Char) (present : Bool) : List Char :=
  if present then mark else []

@[simp] theorem flag_true (mark : List Char) : flag mark true = mark := rfl

@[simp] theorem flag_false (mark : List Char) : flag mark false = [] := rfl

theorem opensUnless_flag (mark : List Char) : OpensUnless mark (flag mark) false := by
  refine ⟨rfl, fun present notFalse => ?_⟩
  rw [eq_true_of_ne_false notFalse]
  exact List.prefix_refl mark

theorem follows_flag
    (mark : List Char)
    (apart : isApart mark marks = true)
    (present : Bool) :
    Follows (mark :: marks) (flag mark) (fun _ => True) marks present := by
  refine ⟨(opensUnless_flag mark).told apart fun notFalse => ?_, trivial,
    (opensUnless_flag mark).leads _ marks⟩
  rintro other rest left ⟨-, notFalseToo⟩ _ _ same
  rw [eq_true_of_ne_false notFalse, eq_true_of_ne_false notFalseToo] at same ⊢
  exact ⟨rfl, List.append_cancel_left same⟩

end Missing

section Pieces

variable
  {write : α → List Char}
  {good : α → Prop}
  {mark : List Char}
  {marks : List (List Char)}

/-- A text behind a mark, if there is something to be written. -/
def piece (mark : List Char) (write : α → List Char) : Option α → List Char
  | none => []
  | some value => mark ++ write value

/-- Texts that are put behind a mark each. -/
def pieces (mark : List Char) (write : α → List Char) (values : List α) : List Char :=
  values.flatMap fun value => mark ++ write value

theorem opensUnless_piece (mark : List Char) (write : α → List Char) :
    OpensUnless mark (piece mark write) none := by
  refine ⟨rfl, fun value? present => ?_⟩
  obtain ⟨value, rfl⟩ := Option.ne_none_iff_exists'.mp present
  exact List.prefix_append _ _

theorem opensUnless_pieces (mark : List Char) (write : α → List Char) :
    OpensUnless mark (pieces mark write) [] := by
  refine ⟨rfl, fun values notEmpty => ?_⟩
  obtain ⟨value, values, rfl⟩ := List.exists_cons_of_ne_nil notEmpty
  rw [pieces, List.flatMap_cons, List.append_assoc]
  exact List.prefix_append _ _

theorem told_piece
    {value? : Option α}
    (told : ∀ value ∈ value?, Told write good marks value)
    (apart : isApart mark marks = true) :
    Told (piece mark write) (fun value? => ∀ value ∈ value?, good value) marks value? := by
  refine (opensUnless_piece mark write).told apart fun present => ?_
  obtain ⟨value, rfl⟩ := Option.ne_none_iff_exists'.mp present
  rintro other? rest left ⟨isGood, presentToo⟩ starts startsLeft same
  obtain ⟨other, rfl⟩ := Option.ne_none_iff_exists'.mp presentToo
  simp only [piece, List.append_assoc] at same
  obtain ⟨rfl, sameRest⟩ :=
    told value rfl (isGood other rfl) starts startsLeft (List.append_cancel_left same)
  exact ⟨rfl, sameRest⟩

theorem told_pieces
    {values : List α}
    (told : ∀ value ∈ values, Told write good (mark :: marks) value)
    (apart : isApart mark marks = true) :
    Told (pieces mark write) (fun values => ∀ value ∈ values, good value) marks values := by
  induction values with
  | nil => exact (opensUnless_pieces mark write).told apart fun notEmpty => absurd rfl notEmpty
  | cons value values inductionHypothesis =>
    refine (opensUnless_pieces mark write).told apart fun _ => ?_
    rintro others rest left ⟨areGood, notEmpty⟩ starts startsLeft same
    obtain ⟨other, others, rfl⟩ := List.exists_cons_of_ne_nil notEmpty
    obtain ⟨toldFirst, toldRest⟩ := List.forall_mem_cons.mp told
    obtain ⟨goodFirst, goodRest⟩ := List.forall_mem_cons.mp areGood
    have leads := (opensUnless_pieces mark write).leads (fun _ => True) marks
    simp only [pieces, List.flatMap_cons, List.append_assoc] at same
    obtain ⟨rfl, sameTail⟩ := toldFirst goodFirst (leads trivial starts)
      (leads trivial startsLeft) (List.append_cancel_left same)
    obtain ⟨rfl, sameRest⟩ := inductionHypothesis toldRest goodRest starts startsLeft sameTail
    exact ⟨rfl, sameRest⟩

theorem follows_piece
    (mark : List Char)
    {value? : Option α}
    (told : ∀ value ∈ value?, Told write good marks value)
    (isGood : ∀ value ∈ value?, good value)
    (apart : isApart mark marks = true) :
    Follows (mark :: marks) (piece mark write) (fun value? => ∀ value ∈ value?, good value) marks
      value? :=
  ⟨told_piece told apart, isGood, (opensUnless_piece mark write).leads _ marks⟩

theorem follows_pieces
    (mark : List Char)
    {values : List α}
    (told : ∀ value ∈ values, Told write good (mark :: marks) value)
    (areGood : ∀ value ∈ values, good value)
    (apart : isApart mark marks = true) :
    Follows (mark :: marks) (pieces mark write) (fun values => ∀ value ∈ values, good value) marks
      values :=
  ⟨told_pieces told apart, areGood, (opensUnless_pieces mark write).leads _ marks⟩

end Pieces

/-! ## Lists -/

section Lists

variable
  {write : α → List Char}
  {good : α → Prop}
  {separator opening : List Char}
  {marks : List (List Char)}
  {values : List α}

/-- Texts with a separator between neighbours. -/
def listed (separator : List Char) (write : α → List Char) : List α → List Char
  | [] => []
  | value :: values => write value ++ pieces separator write values

/-- Texts with a separator between neighbours are told if each of them is, and if none of
them can be mistaken for what follows the list. -/
theorem told_listed
    (told : ∀ value ∈ values, Told write good (separator :: marks) value)
    (areGood : ∀ value ∈ values, good value)
    (apart : isApart separator marks = true)
    (elsewhere : ∀ value, good value → ∀ more, ¬Starts marks (write value ++ more)) :
    Told (listed separator write) (fun values => ∀ value ∈ values, good value) marks values := by
  intro others rest left goodOthers starts startsLeft same
  cases values with
  | nil =>
    cases others with
    | nil => exact ⟨rfl, same⟩
    | cons other others =>
      rw [listed, List.nil_append, listed, List.append_assoc] at same
      exact absurd (same ▸ starts) (elsewhere other (goodOthers other List.mem_cons_self) _)
  | cons value values =>
    obtain ⟨toldFirst, toldRest⟩ := List.forall_mem_cons.mp told
    cases others with
    | nil =>
      rw [listed, listed, List.nil_append, List.append_assoc] at same
      exact absurd (same ▸ startsLeft) (elsewhere value (areGood value List.mem_cons_self) _)
    | cons other others =>
      obtain ⟨goodFirst, goodRest⟩ := List.forall_mem_cons.mp goodOthers
      have leads := (opensUnless_pieces separator write).leads (fun _ => True) marks
      simp only [listed, List.append_assoc] at same
      obtain ⟨rfl, sameTail⟩ :=
        toldFirst goodFirst (leads trivial starts) (leads trivial startsLeft) same
      obtain ⟨rfl, sameRest⟩ := told_pieces toldRest apart goodRest starts startsLeft sameTail
      exact ⟨rfl, sameRest⟩

/-- A text behind an opening one, unless there is nothing to be written. -/
def opened (opening : List Char) (write : List α → List Char) : List α → List Char
  | [] => []
  | value :: values => opening ++ write (value :: values)

theorem opensUnless_opened (opening : List Char) (write : List α → List Char) :
    OpensUnless opening (opened opening write) [] := by
  refine ⟨rfl, fun values notEmpty => ?_⟩
  obtain ⟨value, values, rfl⟩ := List.exists_cons_of_ne_nil notEmpty
  exact List.prefix_append _ _

theorem told_opened
    {write : List α → List Char}
    {good : List α → Prop}
    (told : Told write good marks values)
    (apart : isApart opening marks = true) :
    Told (opened opening write) good marks values := by
  refine (opensUnless_opened opening write).told apart fun notEmpty => ?_
  obtain ⟨value, values, rfl⟩ := List.exists_cons_of_ne_nil notEmpty
  rintro others rest left ⟨areGood, notEmptyToo⟩ starts startsLeft same
  obtain ⟨other, others, rfl⟩ := List.exists_cons_of_ne_nil notEmptyToo
  simp only [opened, List.append_assoc] at same
  exact told areGood starts startsLeft (List.append_cancel_left same)

theorem follows_opened
    (opening : List Char)
    {write : List α → List Char}
    {good : List α → Prop}
    (told : Told write good marks values)
    (areGood : good values)
    (apart : isApart opening marks = true) :
    Follows (opening :: marks) (opened opening write) good marks values :=
  ⟨told_opened told apart, areGood, (opensUnless_opened opening write).leads good marks⟩

end Lists

/-! ## Indentation -/

/-- A text that is moved to the right, and the line after it, which is not: nothing else
gives the same text. -/
theorem indentRest_append_inj
    {close : Char}
    (notSpace : close ≠ ' ')
    {cs ds rest left : List Char}
    (same : Lines.indentRest [' ', ' '] cs ++ '\n' :: close :: rest =
      Lines.indentRest [' ', ' '] ds ++ '\n' :: close :: left) :
    cs = ds ∧ rest = left := by
  -- Behind a line feed a text that is moved goes on with a space, and the line after it does
  -- not, so line feeds stand at the same places.
  induction cs generalizing ds with
  | nil =>
    cases ds with
    | nil => simpa [Lines.indentRest] using same
    | cons d ds =>
      by_cases isLineFeed : d = '\n'
      · simp [Lines.indentRest, isLineFeed, notSpace] at same
      · simp [Lines.indentRest, isLineFeed, Ne.symm isLineFeed] at same
  | cons c cs inductionHypothesis =>
    cases ds with
    | nil =>
      by_cases isLineFeed : c = '\n'
      · simp [Lines.indentRest, isLineFeed, Ne.symm notSpace] at same
      · simp [Lines.indentRest, isLineFeed] at same
    | cons d ds =>
      by_cases isLineFeed : c = '\n'
      · by_cases isLineFeedToo : d = '\n'
        · simp only [Lines.indentRest, isLineFeed, isLineFeedToo, if_true, List.cons_append,
            List.cons.injEq, true_and, List.nil_append] at same
          obtain ⟨rfl, sameRest⟩ := inductionHypothesis same
          exact ⟨by rw [isLineFeed, isLineFeedToo], sameRest⟩
        · simp [Lines.indentRest, isLineFeed, isLineFeedToo, Ne.symm isLineFeedToo] at same
      · by_cases isLineFeedToo : d = '\n'
        · simp [Lines.indentRest, isLineFeed, isLineFeedToo] at same
        · simp only [Lines.indentRest, isLineFeed, isLineFeedToo, if_false, List.cons_append,
            List.cons.injEq] at same
          obtain ⟨rfl, same⟩ := same
          obtain ⟨rfl, sameRest⟩ := inductionHypothesis same
          exact ⟨rfl, sameRest⟩

/-- A text on lines of its own, moved to the right, up to the closing character. -/
def indentedTo (close : Char) (write : α → List Char) (value : α) : List Char :=
  Lines.indentRest [' ', ' '] (write value) ++ ['\n', close]

theorem told_indentedTo
    {close : Char}
    (notSpace : close ≠ ' ')
    {write : α → List Char}
    {good : α → Prop}
    {value : α}
    (told : Told write good [] value)
    (marks : List (List Char)) :
    Told (indentedTo close write) good marks value := by
  intro other rest left isGood _ _ same
  simp only [indentedTo, List.append_assoc, List.cons_append, List.nil_append] at same
  obtain ⟨sameText, sameRest⟩ := indentRest_append_inj notSpace same
  have sameEnd : write value ++ [] = write other ++ [] := by rw [sameText]
  exact ⟨(told isGood (starts_nil _) (starts_nil _) sameEnd).1, sameRest⟩

/-- Texts on lines of their own, moved to the right, are told up to the closing character. -/
theorem told_lines
    {close : Char}
    (notSpace : close ≠ ' ')
    {write : α → List Char}
    {good : α → Prop}
    {values : List α}
    (told : ∀ value ∈ values, Told write good [['\n']] value)
    (areGood : ∀ value ∈ values, good value)
    (notEmpty : ∀ value, good value → write value ≠ [])
    (marks : List (List Char)) :
    Told (indentedTo close (listed ['\n'] write)) (fun values => ∀ value ∈ values, good value)
      marks values := by
  refine told_indentedTo notSpace (told_listed told areGood rfl ?_) marks
  rintro value isGood more (isEnd | ⟨mark, present, -⟩)
  · exact notEmpty value isGood (List.append_eq_nil_iff.mp isEnd).1
  · cases present

end Canonical
end Source
end GraphQL
