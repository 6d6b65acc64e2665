/-!
# Lines of a text

Two notions of line are in use.  A *reading line* ends at any of ten boundary
characters, and a boundary at the end of the text opens no further line; counts
of lines in messages and in differences are counts of reading lines.  A *source
line* ends at a line feed, a carriage return or the pair of both, and a text
with `n` such ends has `n + 1` source lines.
-/

namespace GraphQL
namespace Text
namespace Lines

/-- The characters that end a reading line. -/
def isBoundary (c : Char) : Bool :=
  c = '\n' || c = '\r' || c = '\x0b' || c = '\x0c' || c = '\x1c' || c = '\x1d' ||
    c = '\x1e' || c = '\u0085' || c = '\u2028' || c = '\u2029'

/-- The reading lines of a text, without their ends.  A carriage return and the
line feed after it are one end. -/
def reading : List Char → List (List Char)
  | [] => []
  | '\r' :: '\n' :: cs => [] :: reading cs
  | c :: cs =>
    if isBoundary c then [] :: reading cs
    else
      match reading cs with
      | [] => [[c]]
      | line :: lines => (c :: line) :: lines

/-- The source lines of a text, without their ends; there is always one. -/
def source : List Char → List (List Char)
  | [] => [[]]
  | '\r' :: '\n' :: cs => [] :: source cs
  | c :: cs =>
    if c = '\n' || c = '\r' then [] :: source cs
    else
      match source cs with
      | [] => [[c]]
      | line :: lines => (c :: line) :: lines

/-- The text with every end of a source line written as a line feed. -/
def unify : List Char → List Char
  | [] => []
  | '\r' :: '\n' :: cs => '\n' :: unify cs
  | c :: cs => (if c = '\r' then '\n' else c) :: unify cs

/-- The texts put one after another with `separator` between neighbours. -/
def joinWith (separator : String) : List String → String
  | [] => ""
  | [text] => text
  | text :: texts => text ++ separator ++ joinWith separator texts

/-- The text with `margin` put after every line feed. -/
def indentRest (margin : List Char) : List Char → List Char
  | [] => []
  | c :: cs => if c = '\n' then c :: (margin ++ indentRest margin cs) else c :: indentRest margin cs

/-! ## Laws -/

@[simp] theorem joinWith_nil (separator : String) : joinWith separator [] = "" := rfl

@[simp] theorem joinWith_singleton (separator text : String) :
    joinWith separator [text] = text := rfl

@[simp] theorem indentRest_append (margin cs ds : List Char) :
    indentRest margin (cs ++ ds) = indentRest margin cs ++ indentRest margin ds := by
  induction cs with
  | nil => rfl
  | cons c cs appended =>
    by_cases lineFeed : c = '\n' <;> simp [indentRest, lineFeed, appended]

/-- No carriage return is left. -/
theorem carriageReturn_not_mem_unify (cs : List Char) : '\r' ∉ unify cs := by
  fun_induction unify cs with
  | case1 => simp
  | case2 cs unified => simpa using unified
  | case3 c cs _ unified =>
    by_cases h : c = '\r'
    · simp [h, unified]
    · simp [h, unified, Ne.symm h]

theorem source_ne_nil (cs : List Char) : source cs ≠ [] := by
  fun_cases source cs <;> simp_all

theorem joinWith_cons_cons (separator text next : String) (texts : List String) :
    joinWith separator (text :: next :: texts) =
      text ++ separator ++ joinWith separator (next :: texts) := rfl

theorem joinWith_append
    (separator : String)
    {first second : List String}
    (notEmpty : first ≠ [])
    (notEmptySecond : second ≠ []) :
    joinWith separator (first ++ second) =
      joinWith separator first ++ separator ++ joinWith separator second := by
  induction first with
  | nil => exact absurd rfl notEmpty
  | cons text texts appended =>
    cases texts with
    | nil =>
      obtain ⟨next, rest, rfl⟩ := List.exists_cons_of_ne_nil notEmptySecond
      rfl
    | cons next texts =>
      rw [joinWith_cons_cons, List.cons_append, List.cons_append, joinWith_cons_cons,
        ← List.cons_append, appended (List.cons_ne_nil next texts)]
      simp only [String.append_assoc]

/-- Groups of texts can be put together one by one. -/
theorem joinWith_flatten
    (separator : String)
    {groups : List (List String)}
    (notEmpty : ∀ group ∈ groups, group ≠ []) :
    joinWith separator groups.flatten =
      joinWith separator (groups.map (joinWith separator)) := by
  induction groups with
  | nil => rfl
  | cons group groups flattened =>
    rw [List.forall_mem_cons] at notEmpty
    cases groups with
    | nil => simp
    | cons next groups =>
      have notEmptyRest : (next :: groups).flatten ≠ [] := by
        simp [notEmpty.2 next List.mem_cons_self]
      rw [List.flatten_cons, joinWith_append separator notEmpty.1 notEmptyRest,
        flattened notEmpty.2, List.map_cons, List.map_cons, List.map_cons, joinWith_cons_cons]

end Lines
end Text
end GraphQL
