import GraphQL.Diff.Script

/-!
# Close words

Two words are close if the runs they share make up three fifths of their letters.
-/

namespace GraphQL
namespace Diff

/-- Twice the number of letters that two words share, and the number of their
letters. -/
def likeness (candidate word : String) : Nat × Nat :=
  (2 * kept (script candidate.toList word.toList), candidate.length + word.length)

/-- The likeness of two words is at least three fifths. -/
def isClose (candidate word : String) : Bool :=
  let (shared, total) := likeness candidate word
  total = 0 || 3 * total ≤ 5 * shared

/-- One likeness is greater than another. -/
def moreAlike (a b : Nat × Nat) : Bool :=
  b.1 * a.2 < a.1 * b.2

/-- The candidates that are close to a word, at most three of them, the closest
first. -/
def closeWords (word : String) (candidates : List String) : List String :=
  let close := candidates.filter fun candidate => isClose candidate word
  let before (a b : String) : Bool :=
    let x := likeness a word
    let y := likeness b word
    moreAlike x y || (!moreAlike y x && b ≤ a)
  (close.mergeSort before).take 3

end Diff
end GraphQL
