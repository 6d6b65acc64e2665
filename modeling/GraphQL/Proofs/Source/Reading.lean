import GraphQL.Proofs.Source.Lexemes
import GraphQL.Proofs.Source.Placeless

/-!
# Reading lexemes

Readers are followed on bare lexemes, without positions.  A reader either reads a value
and leaves the lexemes after it, or fails.  Both are put together step by step, and a
sequence is read exactly as far as its items are.
-/

namespace GraphQL
namespace Source

/-- The place in front of lexemes. -/
def Cursor.of : List Lexeme → Cursor
  | [] => ⟨⟨.endOfText, 0⟩, [], .ok 0⟩
  | lexeme :: lexemes => ⟨⟨lexeme, 0⟩, lexemes.map (⟨·, 0⟩), .ok 0⟩

/-- The lexemes do not begin with any of the punctuators. -/
def Avoids (marks : List Punctuator) (lexemes : List Lexeme) : Prop :=
  ∀ mark ∈ marks, lexemes.head? ≠ some (.punctuator mark)

namespace Avoids

theorem mono
    {marks fewer : List Punctuator}
    {lexemes : List Lexeme}
    (avoids : Avoids marks lexemes)
    (included : fewer ⊆ marks) :
    Avoids fewer lexemes :=
  fun mark present => avoids mark (included present)

@[simp] theorem name_cons (marks : List Punctuator) (text : String) (lexemes : List Lexeme) :
    Avoids marks (.name text :: lexemes) := by
  simp [Avoids]

@[simp] theorem punctuator_cons_iff
    (marks : List Punctuator)
    (mark : Punctuator)
    (lexemes : List Lexeme) :
    Avoids marks (.punctuator mark :: lexemes) ↔ mark ∉ marks := by
  simp only [Avoids, List.head?_cons, ne_eq, Option.some.injEq, Lexeme.punctuator.injEq]
  exact ⟨fun avoids present => avoids mark present rfl,
    fun absent other present same => absent (same ▸ present)⟩

@[simp] theorem nil (marks : List Punctuator) : Avoids marks [] := by
  simp [Avoids]

end Avoids

namespace Parser

variable {α β : Type}

/-- The reader reads a value from the front of the lexemes and leaves the rest. -/
def Reads (parser : Parser α) (lexemes : List Lexeme) (value : α) (rest : List Lexeme) : Prop :=
  StateT.run parser (.of lexemes) = .ok (value, .of rest)

/-- The reader refuses the lexemes. -/
def Fails (parser : Parser α) (lexemes : List Lexeme) : Prop :=
  ∃ error, StateT.run parser (.of lexemes) = .error error

/-! ## Steps -/

namespace Reads

protected theorem pure (value : α) (lexemes : List Lexeme) :
    Reads (pure value) lexemes value lexemes := rfl

theorem bind
    {first : Parser α}
    {next : α → Parser β}
    {lexemes middle rest : List Lexeme}
    {value : α}
    {result : β}
    (reads : Reads first lexemes value middle)
    (readsNext : Reads (next value) middle result rest) :
    Reads (first >>= next) lexemes result rest := by
  unfold Reads at *
  rw [StateT.run_bind, reads]
  exact readsNext

/-- A step may fail after one that reads. -/
theorem bind_fails
    {first : Parser α}
    {next : α → Parser β}
    {lexemes middle : List Lexeme}
    {value : α}
    (reads : Reads first lexemes value middle)
    (fails : Fails (next value) middle) :
    Fails (first >>= next) lexemes := by
  obtain ⟨error, failed⟩ := fails
  refine ⟨error, ?_⟩
  rw [StateT.run_bind, reads]
  exact failed

theorem ite_true
    {condition : Prop}
    [Decidable condition]
    {first second : Parser α}
    {lexemes rest : List Lexeme}
    {value : α}
    (holds : condition)
    (reads : Reads first lexemes value rest) :
    Reads (if condition then first else second) lexemes value rest := by
  rwa [if_pos holds]

theorem ite_false
    {condition : Prop}
    [Decidable condition]
    {first second : Parser α}
    {lexemes rest : List Lexeme}
    {value : α}
    (holds : ¬condition)
    (reads : Reads second lexemes value rest) :
    Reads (if condition then first else second) lexemes value rest := by
  rwa [if_neg holds]

end Reads

theorem Fails.bind
    {first : Parser α}
    {lexemes : List Lexeme}
    (fails : Fails first lexemes)
    (next : α → Parser β) :
    Fails (first >>= next) lexemes := by
  obtain ⟨error, failed⟩ := fails
  refine ⟨error, ?_⟩
  rw [StateT.run_bind, failed]
  rfl

/-! ## Single tokens -/

@[simp] theorem run_next_of_cons (lexeme : Lexeme) (lexemes : List Lexeme) :
    StateT.run next (.of (lexeme :: lexemes)) = .ok ((), .of lexemes) := by
  rw [run_next]
  cases lexemes <;> rfl

theorem reads_next (lexeme : Lexeme) (lexemes : List Lexeme) :
    Reads next (lexeme :: lexemes) () lexemes :=
  run_next_of_cons lexeme lexemes

/-- The current token before lexemes. -/
def firstToken (lexemes : List Lexeme) : Token :=
  ⟨lexemes.headD .endOfText, 0⟩

theorem current_of (lexemes : List Lexeme) :
    (Cursor.of lexemes).current = firstToken lexemes := by
  cases lexemes <;> rfl

theorem reads_peek (lexemes : List Lexeme) :
    Reads peek lexemes (firstToken lexemes) lexemes := by
  rw [Reads, run_peek, current_of]

theorem firstToken_lexeme_eq_punctuator_iff (lexemes : List Lexeme) (mark : Punctuator) :
    (firstToken lexemes).lexeme = .punctuator mark ↔
      lexemes.head? = some (.punctuator mark) := by
  cases lexemes <;> simp [firstToken]

theorem reads_isAt (mark : Punctuator) (lexemes : List Lexeme) :
    Reads (isAt mark) (.punctuator mark :: lexemes) true (.punctuator mark :: lexemes) := by
  refine .bind (reads_peek _) ?_
  simp only [firstToken, List.headD_cons, decide_true]
  exact .pure _ _

theorem reads_isAt_of_avoids
    {mark : Punctuator}
    {lexemes : List Lexeme}
    (avoids : Avoids [mark] lexemes) :
    Reads (isAt mark) lexemes false lexemes := by
  have other : ¬(firstToken lexemes).lexeme = .punctuator mark := by
    rw [firstToken_lexeme_eq_punctuator_iff]
    exact avoids mark (by simp)
  refine .bind (reads_peek _) ?_
  simp only [other, decide_false]
  exact .pure _ _

theorem reads_expect (mark : Punctuator) (lexemes : List Lexeme) :
    Reads (expect mark) (.punctuator mark :: lexemes) () lexemes :=
  .bind (reads_peek _) (.ite_true rfl (reads_next _ _))

theorem fails_expect
    {mark : Punctuator}
    {lexemes : List Lexeme}
    (avoids : Avoids [mark] lexemes) :
    Fails (expect mark) lexemes := by
  have other : ¬(firstToken lexemes).lexeme = .punctuator mark := by
    rw [firstToken_lexeme_eq_punctuator_iff]
    exact avoids mark (by simp)
  refine (reads_peek _).bind_fails ?_
  rw [if_neg other]
  exact ⟨_, run_wrong _ _ _⟩

theorem reads_optional (mark : Punctuator) (lexemes : List Lexeme) :
    Reads (Parser.optional mark) (.punctuator mark :: lexemes) true lexemes :=
  .bind (reads_isAt mark lexemes) (.bind (reads_next _ _) (.pure _ _))

theorem reads_optional_of_avoids
    {mark : Punctuator}
    {lexemes : List Lexeme}
    (avoids : Avoids [mark] lexemes) :
    Reads (Parser.optional mark) lexemes false lexemes :=
  .bind (reads_isAt_of_avoids avoids) (.pure _ _)

theorem reads_keyword (word : String) (lexemes : List Lexeme) :
    Reads (keyword word) (.name word :: lexemes) () lexemes :=
  .bind (reads_peek _) (.ite_true rfl (reads_next _ _))

theorem reads_optionalKeyword (word : String) (lexemes : List Lexeme) :
    Reads (optionalKeyword word) (.name word :: lexemes) true lexemes :=
  .bind (reads_peek _) (.ite_true rfl (.bind (reads_next _ _) (.pure _ _)))

theorem reads_optionalKeyword_of_ne
    {word : String}
    {lexemes : List Lexeme}
    (other : lexemes.head? ≠ some (.name word)) :
    Reads (optionalKeyword word) lexemes false lexemes := by
  refine .bind (reads_peek _) (.ite_false ?_ (.pure _ _))
  cases lexemes with
  | nil => simp [firstToken]
  | cons lexeme lexemes => simpa [firstToken] using other

theorem reads_name (text : String) (lexemes : List Lexeme) :
    Reads name (.name text :: lexemes) text lexemes :=
  .bind (reads_peek _) (.bind (reads_next _ _) (.pure _ _))

/-- A punctuator is no name. -/
theorem fails_name (mark : Punctuator) (lexemes : List Lexeme) :
    Fails name (.punctuator mark :: lexemes) :=
  (reads_peek _).bind_fails ⟨_, run_wrong _ _ _⟩

theorem reads_bound (lexemes : List Lexeme) :
    Reads bound lexemes (lexemes.length - 1 + 2) lexemes := by
  cases lexemes with
  | nil => rfl
  | cons lexeme lexemes =>
    change Except.ok ((lexemes.map _).length + 2, _) = _
    rw [List.length_map]
    rfl

/-! ## Sequences -/

/-- The lexemes begin with something, and it is none of the punctuators. -/
def Begins (marks : List Punctuator) (lexemes : List Lexeme) : Prop :=
  lexemes ≠ [] ∧ Avoids marks lexemes

theorem Begins.append
    {marks : List Punctuator}
    {lexemes : List Lexeme}
    (begins : Begins marks lexemes)
    (rest : List Lexeme) :
    Avoids marks (lexemes ++ rest) := by
  obtain ⟨nonempty, avoids⟩ := begins
  cases lexemes with
  | nil => exact absurd rfl nonempty
  | cons lexeme lexemes => exact avoids

/-- As much depth as there are lexemes is not none. -/
theorem Begins.exists_succ
    {marks : List Punctuator}
    {lexemes : List Lexeme}
    (begins : Begins marks lexemes)
    {depth : Nat}
    (enough : lexemes.length ≤ depth) :
    ∃ less, depth = less + 1 := by
  have positive := List.length_pos_iff.mpr begins.1
  exact ⟨depth - 1, by omega⟩

/-- The reader refuses the lexemes at once, or leaves some that neither end the
sequence nor are another item. -/
def Breaks (close : Punctuator) (item : Parser α) (lexemes : List Lexeme) : Prop :=
  Fails item lexemes ∨
    ∃ value rest, Reads item lexemes value rest ∧ Avoids [close] rest ∧ Fails item rest

/-- What becomes of an item in a sequence up to a closing punctuator: if it is good and
none of some other punctuators follows, it is read, and if not, it breaks the
sequence. -/
structure Settles
    (close : Punctuator)
    (marks : List Punctuator)
    (item : Parser α)
    (written : α → List Lexeme)
    (good : α → Prop)
    (value : α) : Prop where
  /-- The item neither ends the sequence nor carries on the item before it. -/
  begins : Begins (close :: marks) (written value)
  /-- A good item is read. -/
  reads : good value → ∀ rest, Avoids marks rest →
    Reads item (written value ++ rest) value rest
  /-- Any other item breaks the sequence. -/
  breaks : ¬good value → ∀ rest, Breaks close item (written value ++ rest)

/-- An item that is read is good. -/
theorem Settles.of_reads
    {close : Punctuator}
    {marks : List Punctuator}
    {item : Parser α}
    {written : α → List Lexeme}
    {value : α}
    (begins : Begins (close :: marks) (written value))
    (reads : ∀ rest, Avoids marks rest → Reads item (written value ++ rest) value rest) :
    Settles close marks item written (fun _ => True) value :=
  ⟨begins, fun _ => reads, fun notGood => absurd trivial notGood⟩

section Sequences

variable
  {close : Punctuator}
  {marks : List Punctuator}
  {item : Parser α}
  {written : α → List Lexeme}
  {good : α → Prop}
  {values : List α}

theorem length_le_length_flatMap
    (settles : ∀ value ∈ values, Settles close marks item written good value) :
    values.length ≤ (values.flatMap written).length := by
  induction values with
  | nil => simp
  | cons value values inductionHypothesis =>
    have first := List.length_pos_iff.mpr (settles value (by simp)).begins.1
    have others := inductionHypothesis fun other present => settles other (by simp [present])
    simp only [List.flatMap_cons, List.length_append, List.length_cons]
    omega

/-- What is left of a sequence up to its end carries on no item. -/
theorem avoids_flatMap
    (apart : close ∉ marks)
    (settles : ∀ value ∈ values, Settles close marks item written good value)
    (rest : List Lexeme) :
    Avoids marks (values.flatMap written ++ .punctuator close :: rest) := by
  cases values with
  | nil => exact (Avoids.punctuator_cons_iff _ _ _).mpr apart
  | cons value values =>
    rw [List.flatMap_cons, List.append_assoc]
    exact ((settles value (by simp)).begins.append _).mono (by simp)

/-- A sequence of good items is read up to its end. -/
theorem reads_itemsUntil
    (apart : close ∉ marks)
    (settles : ∀ value ∈ values, Settles close marks item written good value)
    (allGood : ∀ value ∈ values, good value)
    (rest : List Lexeme)
    {count : Nat}
    (enough : values.length < count) :
    Reads (itemsUntil close item count)
      (values.flatMap written ++ .punctuator close :: rest) values rest := by
  obtain ⟨count, rfl⟩ : ∃ fewer, count = fewer + 1 := ⟨count - 1, by omega⟩
  induction values generalizing count with
  | nil => exact .bind (reads_optional close rest) (.ite_true rfl (.pure _ _))
  | cons value values inductionHypothesis =>
    obtain ⟨count, rfl⟩ : ∃ fewer, count = fewer + 1 :=
      ⟨count - 1, by simp only [List.length_cons] at enough; omega⟩
    have others : ∀ other ∈ values, Settles close marks item written good other :=
      fun other present => settles other (by simp [present])
    have othersGood : ∀ other ∈ values, good other :=
      fun other present => allGood other (by simp [present])
    obtain ⟨begins, reads, -⟩ := settles value (by simp)
    have readsValue := reads (allGood value (by simp)) _ (avoids_flatMap apart others rest)
    have readsOthers := inductionHypothesis others othersGood count
      (by simp only [List.length_cons] at enough; omega)
    rw [List.flatMap_cons, List.append_assoc]
    refine .bind (reads_optional_of_avoids ?_) (.ite_false (by simp) ?_)
    · exact (begins.append _).mono (by simp)
    · exact .bind readsValue (.bind readsOthers (.pure _ _))

/-- A sequence with an item that is not good is refused. -/
theorem fails_itemsUntil
    (apart : close ∉ marks)
    (settles : ∀ value ∈ values, Settles close marks item written good value)
    (bad : ∃ value ∈ values, ¬good value)
    (rest : List Lexeme)
    (count : Nat) :
    Fails (itemsUntil close item count)
      (values.flatMap written ++ .punctuator close :: rest) := by
  induction count generalizing values with
  | zero => exact (reads_peek _).bind_fails ⟨_, run_unexpected _ _⟩
  | succ count inductionHypothesis =>
    cases values with
    | nil => simp at bad
    | cons value values =>
      have others : ∀ other ∈ values, Settles close marks item written good other :=
        fun other present => settles other (by simp [present])
      obtain ⟨begins, reads, breaks⟩ := settles value (by simp)
      rw [List.flatMap_cons, List.append_assoc]
      refine (reads_optional_of_avoids ((begins.append _).mono (by simp))).bind_fails ?_
      rw [if_neg (by simp)]
      by_cases isGood : good value
      · refine (reads isGood _ (avoids_flatMap apart others rest)).bind_fails (.bind ?_ _)
        apply inductionHypothesis others
        obtain ⟨other, present, notGood⟩ := bad
        rcases List.mem_cons.mp present with rfl | present
        · exact absurd isGood notGood
        · exact ⟨other, present, notGood⟩
      · rcases breaks isGood _ with fails | ⟨found, left, readsFound, notEnd, fails⟩
        · exact fails.bind _
        · refine readsFound.bind_fails (.bind ?_ _)
          cases count with
          | zero => exact (reads_peek _).bind_fails ⟨_, run_unexpected _ _⟩
          | succ count =>
            refine (reads_optional_of_avoids notEnd).bind_fails ?_
            rw [if_neg (by simp)]
            exact fails.bind _

theorem reads_items
    (apart : close ∉ marks)
    (settles : ∀ value ∈ values, Settles close marks item written good value)
    (allGood : ∀ value ∈ values, good value)
    (rest : List Lexeme) :
    Reads (items close item) (values.flatMap written ++ .punctuator close :: rest)
      values rest := by
  have fewer := length_le_length_flatMap settles
  refine .bind (reads_bound _) (reads_itemsUntil apart settles allGood rest ?_)
  simp only [List.length_append, List.length_cons]
  omega

theorem fails_items
    (apart : close ∉ marks)
    (settles : ∀ value ∈ values, Settles close marks item written good value)
    (bad : ∃ value ∈ values, ¬good value)
    (rest : List Lexeme) :
    Fails (items close item) (values.flatMap written ++ .punctuator close :: rest) :=
  (reads_bound _).bind_fails (fails_itemsUntil apart settles bad rest _)

/-- Good items are read up to their end if there is one at all. -/
theorem reads_someItems
    (apart : close ∉ marks)
    (settles : ∀ value ∈ values, Settles close marks item written good value)
    (allGood : ∀ value ∈ values, good value)
    (nonempty : values ≠ [])
    (rest : List Lexeme) :
    Reads (someItems close item) (values.flatMap written ++ .punctuator close :: rest)
      values rest := by
  cases values with
  | nil => exact absurd rfl nonempty
  | cons value values =>
    have others : ∀ other ∈ values, Settles close marks item written good other :=
      fun other present => settles other (by simp [present])
    have othersGood : ∀ other ∈ values, good other :=
      fun other present => allGood other (by simp [present])
    have readsValue := (settles value (by simp)).reads (allGood value (by simp)) _
      (avoids_flatMap apart others rest)
    rw [List.flatMap_cons, List.append_assoc]
    exact .bind readsValue (.bind (reads_items apart others othersGood rest) (.pure _ _))

/-- Items are refused if one of them is not good, and where there is none. -/
theorem fails_someItems
    (apart : close ∉ marks)
    (settles : ∀ value ∈ values, Settles close marks item written good value)
    (failsAtEnd : ∀ rest, Fails item (.punctuator close :: rest))
    (bad : values = [] ∨ ∃ value ∈ values, ¬good value)
    (rest : List Lexeme) :
    Fails (someItems close item) (values.flatMap written ++ .punctuator close :: rest) := by
  cases values with
  | nil => exact (failsAtEnd rest).bind _
  | cons value values =>
    have others : ∀ other ∈ values, Settles close marks item written good other :=
      fun other present => settles other (by simp [present])
    obtain ⟨-, reads, breaks⟩ := settles value (by simp)
    rw [List.flatMap_cons, List.append_assoc]
    by_cases isGood : good value
    · refine (reads isGood _ (avoids_flatMap apart others rest)).bind_fails (.bind ?_ _)
      apply fails_items apart others
      simpa [isGood] using bad
    · rcases breaks isGood _ with fails | ⟨found, left, readsFound, notEnd, fails⟩
      · exact fails.bind _
      · refine readsFound.bind_fails (.bind ?_ _)
        refine (reads_bound _).bind_fails ?_
        refine (reads_optional_of_avoids notEnd).bind_fails ?_
        rw [if_neg (by simp)]
        exact fails.bind _

/-- Good items between punctuators are read if there is one at all. -/
theorem reads_optionalEnclosed
    (opening : Punctuator)
    (apart : close ∉ marks)
    (settles : ∀ value ∈ values, Settles close marks item written good value)
    (allGood : ∀ value ∈ values, good value)
    (nonempty : values ≠ [])
    (rest : List Lexeme) :
    Reads (optionalEnclosed opening close item)
      (.punctuator opening :: (values.flatMap written ++ .punctuator close :: rest))
      values rest :=
  .bind (reads_optional _ _)
    (.ite_true rfl (reads_someItems apart settles allGood nonempty rest))

/-- Good items in parentheses are read, and so is their absence. -/
theorem reads_inParentheses
    (apart : .parenR ∉ marks)
    (settles : ∀ value ∈ values, Settles .parenR marks item written good value)
    (allGood : ∀ value ∈ values, good value)
    {rest : List Lexeme}
    (follows : Avoids [.parenL] rest) :
    Reads (optionalEnclosed .parenL .parenR item) (inParentheses written values ++ rest)
      values rest := by
  cases values with
  | nil => exact .bind (reads_optional_of_avoids follows) (.pure _ _)
  | cons value values =>
    rw [inParentheses, List.cons_append, List.append_assoc]
    exact reads_optionalEnclosed .parenL apart settles allGood (by simp) rest

/-- Good items in braces are read if there is one at all. -/
theorem reads_inBraces
    (apart : .braceR ∉ marks)
    (settles : ∀ value ∈ values, Settles .braceR marks item written good value)
    (allGood : ∀ value ∈ values, good value)
    (nonempty : values ≠ [])
    (rest : List Lexeme) :
    Reads (optionalEnclosed .braceL .braceR item) (inBraces written values ++ rest)
      values rest := by
  cases values with
  | nil => exact absurd rfl nonempty
  | cons value values =>
    rw [inBraces, List.cons_append, List.append_assoc]
    exact reads_optionalEnclosed .braceL apart settles allGood (by simp) rest

/-- Items in parentheses of which one is not good are refused. -/
theorem fails_inParentheses
    (apart : .parenR ∉ marks)
    (settles : ∀ value ∈ values, Settles .parenR marks item written good value)
    (failsAtEnd : ∀ rest, Fails item (.punctuator .parenR :: rest))
    (bad : ∃ value ∈ values, ¬good value)
    (rest : List Lexeme) :
    Fails (optionalEnclosed .parenL .parenR item) (inParentheses written values ++ rest) := by
  cases values with
  | nil => simp at bad
  | cons value values =>
    rw [inParentheses, List.cons_append, List.append_assoc]
    refine (reads_optional _ _).bind_fails ?_
    rw [if_pos rfl]
    exact fails_someItems apart settles failsAtEnd (.inr bad) rest

/-- Items after a delimiter each are read as long as there are some. -/
theorem reads_itemsAfter
    {delimiter : Punctuator}
    (apart : delimiter ∉ marks)
    (reads : ∀ value ∈ values, ∀ rest, Avoids marks rest →
      Reads item (written value ++ rest) value rest)
    {rest : List Lexeme}
    (follows : Avoids (delimiter :: marks) rest)
    {count : Nat}
    (enough : values.length ≤ count) :
    Reads (itemsAfter delimiter item count)
      (values.flatMap (fun value => .punctuator delimiter :: written value) ++ rest)
      values rest := by
  induction values generalizing count with
  | nil =>
    cases count with
    | zero => exact .pure _ _
    | succ count => exact .bind (reads_optional_of_avoids (follows.mono (by simp))) (.pure _ _)
  | cons value values inductionHypothesis =>
    obtain ⟨count, rfl⟩ : ∃ fewer, count = fewer + 1 :=
      ⟨count - 1, by simp only [List.length_cons] at enough; omega⟩
    have readsOthers := @inductionHypothesis
      (fun other present => reads other (by simp [present])) count
      (by simp only [List.length_cons] at enough; omega)
    have followsValue : Avoids marks
        (values.flatMap (fun value => .punctuator delimiter :: written value) ++ rest) := by
      cases values with
      | nil => exact follows.mono (by simp)
      | cons other values => exact (Avoids.punctuator_cons_iff _ _ _).mpr apart
    rw [List.flatMap_cons, List.append_assoc]
    refine .bind (reads_optional _ _) (.ite_true rfl ?_)
    exact .bind (reads value (by simp) _ followsValue) (.bind readsOthers (.pure _ _))

end Sequences

end Parser
end Source
end GraphQL
