/-!
# Shortest decimals

A binary number stands for all reals that round to it.  Among the decimals in
that interval `shortest` takes one on the coarsest decimal grid, and of two such
neighbours the nearer one, or the even one if they are equally near.

Everything is exact: the number, the ends of its interval and the grid are
compared as natural numbers over a common denominator.
-/

namespace GraphQL
namespace Number
namespace Shortest

/-- The reals that round to a positive number, scaled by a common denominator. -/
structure Interval where
  /-- The lower end. -/
  low : Nat
  /-- The number itself. -/
  middle : Nat
  /-- The upper end. -/
  high : Nat
  /-- The denominator of all three. -/
  denominator : Nat
  /-- The ends belong to the interval. -/
  closed : Bool
  deriving DecidableEq, Repr

namespace Interval

/-- The interval of `significand * 2 ^ exponent`.  The gap below a power of two
is half as wide when `narrowBelow` says so; the ends round to the even
significand. -/
def ofBinary (significand : Nat) (exponent : Int) (narrowBelow : Bool) : Interval :=
  let scale := Nat.pow 2 (exponent - 2).toNat
  { low := (4 * significand - if narrowBelow then 1 else 2) * scale
    middle := 4 * significand * scale
    high := (4 * significand + 2) * scale
    denominator := Nat.pow 2 (2 - exponent).toNat
    closed := significand % 2 = 0 }

/-- The interval divided by a power of ten. -/
def divide (interval : Interval) (power : Int) : Interval :=
  let up := Nat.pow 10 (-power).toNat
  { low := interval.low * up
    middle := interval.middle * up
    high := interval.high * up
    denominator := interval.denominator * Nat.pow 10 power.toNat
    closed := interval.closed }

/-- A whole number lies in the interval. -/
def contains (interval : Interval) (n : Nat) : Bool :=
  let scaled := n * interval.denominator
  if interval.closed then interval.low ≤ scaled && scaled ≤ interval.high
  else interval.low < scaled && scaled < interval.high

/-- The whole number in the interval that is nearest to its middle, if one of
the two neighbours of the middle lies in the interval. -/
def nearest? (interval : Interval) : Option Nat :=
  let below := interval.middle / interval.denominator
  let above := below + 1
  let distanceBelow := interval.middle - below * interval.denominator
  let distanceAbove := above * interval.denominator - interval.middle
  match interval.contains below, interval.contains above with
  | true, true =>
    if distanceBelow < distanceAbove then some below
    else if distanceAbove < distanceBelow then some above
    else if below % 2 = 0 then some below
    else some above
  | true, false => some below
  | false, true => some above
  | false, false => none

end Interval

/-- The first grid of at most `count` ones, from `power` downwards, with a point
in the interval, and that point. -/
def search (interval : Interval) (power : Int) : Nat → Option (Nat × Int)
  | 0 => none
  | count + 1 =>
    match (interval.divide power).nearest? with
    | some n => some (n, power)
    | none => search interval (power - 1) count

/-- An exponent that the leading digit of `significand * 2 ^ exponent` does not
exceed; `30103 / 100000` is just above the decimal logarithm of two. -/
def topPower (significand : Nat) (exponent : Int) : Int :=
  (exponent + (significand.log2 : Int) + 1) * 30103 / 100000 + 1

/-- The number of grids that are looked at.  Seventeen digits always suffice. -/
def grids : Nat := 24

/-- The coefficient and the power of ten of the shortest decimal that rounds to
`significand * 2 ^ exponent`. -/
def shortest (significand : Nat) (exponent : Int) (narrowBelow : Bool) : Nat × Int :=
  (search (Interval.ofBinary significand exponent narrowBelow)
    (topPower significand exponent) grids).getD (0, 0)

end Shortest
end Number
end GraphQL
