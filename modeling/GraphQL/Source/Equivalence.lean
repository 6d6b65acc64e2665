import GraphQL.Diff.Unified
import GraphQL.Source.Parser
import GraphQL.Source.Printer

/-!
# Equivalence of texts

Two texts are equivalent when they have the same canonical text: blanks, commas
and comments do not matter, the order of everything does.  Where they are not,
the difference of their canonical texts is shown.
-/

namespace GraphQL
namespace Source

/-- The canonical text of what a text stands for. -/
def normalize (text : String) : Except SyntaxError String :=
  return (← Document.parse text).print

/-- A text that cannot be compared, and why. -/
structure Unreadable where
  /-- The text. -/
  text : String
  /-- Why it is no source text. -/
  error : SyntaxError
  deriving DecidableEq, Repr

/-- The canonical texts of two texts.  The first is read first. -/
def normalizeBoth (expected actual : String) : Except Unreadable (String × String) := do
  let expectedText ← (normalize expected).mapError (⟨expected, ·⟩)
  let actualText ← (normalize actual).mapError (⟨actual, ·⟩)
  return (expectedText, actualText)

/-- Two texts have the same canonical text. -/
def equivalent (expected actual : String) : Except Unreadable Bool :=
  (normalizeBoth expected actual).map fun texts => texts.1 = texts.2

/-- Two canonical texts that differ. -/
structure Difference where
  /-- The canonical text that was expected. -/
  expected : String
  /-- The canonical text that is there instead. -/
  actual : String
  deriving DecidableEq, Repr

namespace Difference

/-- What is said about a difference. -/
def message (difference : Difference) : String :=
  "GraphQL requests are not equivalent:\n" ++
    Diff.unified "expected" "actual" difference.expected difference.actual

end Difference

/-- The difference of two texts, if they are not equivalent. -/
def difference? (expected actual : String) : Except Unreadable (Option Difference) := do
  let (expectedText, actualText) ← normalizeBoth expected actual
  return if expectedText = actualText then none else some ⟨expectedText, actualText⟩

end Source
end GraphQL
