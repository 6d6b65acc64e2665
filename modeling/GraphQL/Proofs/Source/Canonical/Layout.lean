import GraphQL.Proofs.Source.Canonical.Code

/-!
# Canonical texts as characters

The layout of canonical text leaves out what is empty.  Where the texts that are put
together are not empty, it amounts to pieces behind fixed marks and to lists with a
separator between neighbours.
-/

namespace GraphQL
namespace Source
namespace Canonical

open Text Layout

variable {α : Type}

/-- The characters of what is printed. -/
def chars (print : α → String) (value : α) : List Char :=
  (print value).toList

theorem isEmpty_eq (text : String) : text.isEmpty = text.toList.isEmpty := by
  rw [Bool.eq_iff_iff, String.isEmpty_iff, List.isEmpty_iff, String.toList_eq_nil_iff]

/-! ## Wrapping -/

theorem toList_wrap (before text after : String) :
    (wrap before text after).toList =
      if text.toList.isEmpty then [] else before.toList ++ (text.toList ++ after.toList) := by
  rw [wrap, isEmpty_eq]
  split
  case isTrue => rfl
  case isFalse => rw [String.toList_append, String.toList_append, List.append_assoc]

/-- A wrapped text behind something more. -/
theorem toList_wrap_wrap (before between text : String) :
    (wrap before (wrap between text "") "").toList =
      (wrap (before ++ between) text "").toList := by
  rw [toList_wrap, toList_wrap, toList_wrap]
  cases text.toList with
  | nil => rfl
  | cons c cs => simp

/-- What is printed if there is something, behind a mark. -/
theorem toList_wrap_getD
    {print : α → String}
    {value? : Option α}
    (notEmpty : ∀ value ∈ value?, chars print value ≠ [])
    (before : String) :
    (wrap before ((value?.map print).getD "") "").toList =
      piece before.toList (chars print) value? := by
  cases value? with
  | none => rfl
  | some value =>
    have printed : (print value).toList ≠ [] := notEmpty value rfl
    simp [toList_wrap, piece, chars, printed]

theorem isEmpty_indentRest (margin cs : List Char) :
    (Lines.indentRest margin cs).isEmpty = cs.isEmpty := by
  cases cs with
  | nil => rfl
  | cons c cs =>
    rw [Lines.indentRest]
    split <;> rfl

theorem toList_indent (text : String) :
    (indent text).toList =
      if text.toList.isEmpty then []
      else ' ' :: ' ' :: Lines.indentRest [' ', ' '] text.toList := by
  rw [indent, toList_wrap, String.toList_ofList, isEmpty_indentRest]
  simp

/-! ## Joining -/

theorem toList_joinWith_cons (separator text : String) (texts : List String) :
    (Lines.joinWith separator (text :: texts)).toList =
      text.toList ++ texts.flatMap fun text => separator.toList ++ text.toList := by
  induction texts generalizing text with
  | nil => simp
  | cons next texts inductionHypothesis =>
    rw [Lines.joinWith_cons_cons, String.toList_append, String.toList_append,
      inductionHypothesis, List.flatMap_cons]
    simp

/-- Behind a text that is not empty, every other one stands behind the separator, unless it
is empty. -/
theorem toList_join_cons
    {text : String}
    (notEmpty : text.toList ≠ [])
    (separator : String)
    (texts : List String) :
    (join separator (text :: texts)).toList =
      text.toList ++ texts.flatMap fun text => (wrap separator text "").toList := by
  have keeps : text.toList.isEmpty = false := by simpa using notEmpty
  simp only [join, isEmpty_eq, List.filter_cons, keeps, Bool.not_false, if_true,
    toList_joinWith_cons]
  congr 1
  induction texts with
  | nil => rfl
  | cons next texts inductionHypothesis =>
    rw [List.flatMap_cons, toList_wrap, List.filter_cons]
    cases next.toList.isEmpty with
    | true => simpa using inductionHypothesis
    | false => simp [inductionHypothesis]

section Printed

variable
  {print : α → String}
  {values : List α}
  (notEmpty : ∀ value ∈ values, chars print value ≠ [])

include notEmpty

/-- Printed values with a separator between neighbours. -/
theorem toList_join_map (separator : String) :
    (join separator (values.map print)).toList =
      listed separator.toList (chars print) values := by
  have keeps : (values.map print).filter (fun text => !text.isEmpty) = values.map print := by
    rw [List.filter_eq_self]
    intro text present
    obtain ⟨value, among, rfl⟩ := List.mem_map.mp present
    have printed : (print value).toList ≠ [] := notEmpty value among
    simpa [isEmpty_eq] using printed
  rw [join, keeps]
  cases values with
  | nil => rfl
  | cons value values =>
    rw [List.map_cons, toList_joinWith_cons, listed, pieces, List.flatMap_map]
    rfl

/-- Printed values are missing only if there are none. -/
theorem isEmpty_join_map (separator : String) :
    (join separator (values.map print)).toList.isEmpty = values.isEmpty := by
  rw [toList_join_map notEmpty]
  cases values with
  | nil => rfl
  | cons value values =>
    have printed := notEmpty value List.mem_cons_self
    simpa [listed] using fun isEmpty => absurd isEmpty printed

/-- Printed values between two texts, unless there are none. -/
theorem toList_wrap_join (before separator after : String) :
    (wrap before (join separator (values.map print)) after).toList =
      opened before.toList
        (fun values => listed separator.toList (chars print) values ++ after.toList) values := by
  rw [toList_wrap, isEmpty_join_map notEmpty, toList_join_map notEmpty]
  cases values with
  | nil => rfl
  | cons value values => rfl

/-- Printed values in parentheses on one line. -/
theorem toList_inParens :
    (inParens (values.map print)).toList =
      opened ['('] (fun values => listed [',', ' '] (chars print) values ++ [')']) values := by
  rw [inParens, toList_wrap_join notEmpty]
  rfl

/-- Printed values on lines of their own, moved to the right, between two texts. -/
theorem toList_wrap_indent (before after : String) :
    (wrap before (indent (join "\n" (values.map print))) after).toList =
      opened before.toList
        (fun values => ' ' :: ' ' ::
          (Lines.indentRest [' ', ' '] (listed ['\n'] (chars print) values) ++ after.toList))
        values := by
  rw [toList_wrap, toList_indent, isEmpty_join_map notEmpty, toList_join_map notEmpty]
  cases values with
  | nil => rfl
  | cons value values => rfl

/-- Printed values in parentheses, each on lines of its own. -/
theorem toList_inParensByLine :
    (inParensByLine (values.map print)).toList =
      opened ['(', '\n', ' ', ' '] (indentedTo ')' (listed ['\n'] (chars print))) values := by
  rw [inParensByLine, toList_wrap_indent notEmpty]
  cases values with
  | nil => rfl
  | cons value values => simp [opened, indentedTo]

/-- Printed values in braces, each on lines of its own. -/
theorem toList_block :
    (block (values.map print)).toList =
      opened ['\x7b', '\n', ' ', ' '] (indentedTo '\x7d' (listed ['\n'] (chars print)))
        values := by
  rw [block, toList_wrap_indent notEmpty]
  cases values with
  | nil => rfl
  | cons value values => simp [opened, indentedTo]

/-- A block behind a space, unless there is none. -/
theorem toList_wrap_block :
    (wrap " " (block (values.map print)) "").toList =
      opened [' ', '\x7b', '\n', ' ', ' ']
        (indentedTo '\x7d' (listed ['\n'] (chars print))) values := by
  rw [toList_wrap, toList_block notEmpty]
  cases values with
  | nil => rfl
  | cons value values => simp [opened]

end Printed

end Canonical
end Source
end GraphQL
