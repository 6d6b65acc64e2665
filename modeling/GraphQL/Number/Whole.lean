import GraphQL.Number.Decimal

/-!
# Reading whole numbers

A whole number in a base up to thirty-six: a sign, digits of which letters are the
high ones, and single underscores between digits.  Bases two, eight and sixteen
may be marked in front, and base zero stands for whichever is.  Blanks around the
number and digits of other scripts are read as elsewhere.

Turning a number into decimal digits or back takes more than twice as long for twice as
many digits.  So there is a limit to how many are written, and to how many are read unless
the base is a power of two.
-/

namespace GraphQL
namespace Number
namespace Whole

/-- The value of a digit. -/
def digit? (c : Char) : Option Nat :=
  if c.isDigit then some (c.toNat - 48)
  else if c.isLower then some (c.toNat - 87)
  else if c.isUpper then some (c.toNat - 55)
  else none

/-- An underscore does not stand between two digits. -/
def isMisplaced (cs : List Char) : Bool :=
  cs.head? = some '_' || cs.getLast? = some '_' ||
    (cs.zip cs.tail).any fun pair => pair.1 = '_' && pair.2 = '_'

/-- The character is a digit in a base. -/
def isDigitIn (base : Nat) (c : Char) : Bool :=
  (digit? c).any (· < base)

/-- The number that digits stand for, where single underscores may separate
them. -/
def digits? (base : Nat) (cs : List Char) : Option Nat :=
  let ds := cs.filter (· ≠ '_')
  if isMisplaced cs || ds.isEmpty || !ds.all (isDigitIn base) then none
  else some (ds.foldl (fun n c => n * base + (digit? c).getD 0) 0)

/-- The letters that mark a base. -/
def isMark (base : Nat) (c : Char) : Bool :=
  (base = 2 && (c = 'b' || c = 'B')) || (base = 8 && (c = 'o' || c = 'O')) ||
    (base = 16 && (c = 'x' || c = 'X'))

/-- The text after the mark of a base, if there is one.  An underscore may follow
it. -/
def afterMark (base : Nat) (cs : List Char) : List Char :=
  match cs with
  | '0' :: c :: rest =>
    if isMark base c then
      match rest with
      | '_' :: rest => rest
      | rest => rest
    else cs
  | cs => cs

/-- The base that a text marks, which is ten without a mark. -/
def markedBase : List Char → Nat
  | '0' :: c :: _ => ([2, 8, 16].find? fun base => isMark base c).getD 10
  | _ => 10

/-- The digits start with a zero although they stand for another number. -/
def isPadded (cs : List Char) : Bool :=
  cs.head? = some '0' && cs.any fun c => c ≠ '0' && c ≠ '_'

/-- The number that is written without a sign.  In base zero the text says what its
base is, and decimal digits do not start with a zero. -/
def magnitude? (base : Nat) (cs : List Char) : Option Nat :=
  if base ≠ 0 then digits? base (afterMark base cs)
  else
    let base := markedBase cs
    if base = 10 && isPadded cs then none else digits? base (afterMark base cs)

/-! ## The limit on digits -/

/-- The most digits that are written or read. -/
def mostDigits : Nat :=
  4300

/-- The number has more decimal digits than are written. -/
def isLong (n : Int) : Bool :=
  mostDigits < (Decimal.digits n.natAbs).length

/-- Numbers in the base are read digit by digit into bits, however many there are. -/
def isBinary (base : Nat) : Bool :=
  [2, 4, 8, 16, 32].contains base

/-! ## Reading -/

/-- The character is one of the four controls that separate records.  They count as
blanks, but not around a whole number. -/
def isSeparator (c : Char) : Bool :=
  '\x1c' ≤ c && c ≤ '\x1f'

/-- The whole number that a text stands for. -/
def read? (base : Nat) (cs : List Char) : Option Int :=
  let (negative, ds) := Decimal.splitSign (Digit.plain cs)
  if cs.any isSeparator then none
  else (magnitude? base ds).map fun n => if negative then -(n : Int) else n

/-- How many digits a text opens with, if these are more than are read.  They are counted
before it is looked at what comes after them. -/
def excess? (base : Nat) (cs : List Char) : Option Nat :=
  let front := cs.dropWhile fun c => Digit.isBlank c && !isSeparator c
  let (_, ds) := Decimal.splitSign (front.map Digit.toAscii)
  let base := if base = 0 then markedBase ds else base
  let run := ds.takeWhile fun c => c = '_' || isDigitIn base c
  let count := (run.filter (· ≠ '_')).length
  if isBinary base || isMisplaced run || count ≤ mostDigits then none else some count

end Whole
end Number
end GraphQL
