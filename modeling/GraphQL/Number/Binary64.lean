import GraphQL.Number.Decimal
import GraphQL.Number.Shortest

/-!
# Binary floating-point numbers

A number is its sixty-four bits.  `view` says what they stand for, `text` writes
the shortest decimal that reads back, with a point or an exponent in it.
-/

namespace GraphQL
namespace Number

/-- A binary number of sixty-four bits. -/
structure Binary64 where
  /-- Sign, exponent and fraction, from the highest bit down. -/
  bits : UInt64
  deriving DecidableEq, Repr

namespace Binary64

/-- What bits stand for: `significand * 2 ^ exponent`, or a special value. -/
inductive View
  | finite (significand : Nat) (exponent : Int) (narrowBelow : Bool)
  | infinity
  | nan
  deriving DecidableEq, Repr

/-- The number has its sign bit set. -/
def negative (x : Binary64) : Bool :=
  x.bits.toNat / Nat.pow 2 63 = 1

/-- The magnitude of a number. -/
def view (x : Binary64) : View :=
  let exponent : Nat := x.bits.toNat / Nat.pow 2 52 % 2048
  let fraction : Nat := x.bits.toNat % Nat.pow 2 52
  if exponent = 2047 then if fraction = 0 then .infinity else .nan
  else if exponent = 0 then .finite fraction (-1074) false
  else .finite (Nat.pow 2 52 + fraction) ((exponent : Int) - 1075) (fraction = 0 && 1 < exponent)

/-- The number is neither infinite nor undefined. -/
def isFinite (x : Binary64) : Bool :=
  match x.view with
  | .finite .. => true
  | _ => false

/-- The number is undefined. -/
def isNan (x : Binary64) : Bool :=
  x.view = .nan

/-- An undefined number, told apart from others by a serial number. -/
def undefined (serial : Nat) : Binary64 :=
  ⟨UInt64.ofNat (0x7ff8 * Nat.pow 2 48 + serial % Nat.pow 2 48)⟩

/-- The number is zero, of either sign. -/
def isZero (x : Binary64) : Bool :=
  x.view = .finite 0 (-1074) false

/-- The exact decimal of a number. -/
def toDecimal (x : Binary64) : Decimal :=
  match x.view with
  | .finite significand exponent _ =>
    if 0 ≤ exponent then .finite x.negative (significand * Nat.pow 2 exponent.toNat) 0
    else .finite x.negative (significand * Nat.pow 5 exponent.natAbs) exponent
  | .infinity => .infinity x.negative
  | .nan => .nan x.negative false 0 0

/-- The exponents of the leading digit that are written without an exponent. -/
def isPlain (lead : Int) : Bool :=
  -4 ≤ lead && lead < 16

/-- A decimal exponent with its sign and at least two digits. -/
def exponentText (lead : Int) : List Char :=
  let ds := Decimal.digits lead.natAbs
  'e' :: (if lead < 0 then '-' else '+') :: (if ds.length = 1 then '0' :: ds else ds)

/-- The text of `coefficient * 10 ^ power`, with a point or an exponent. -/
def layout (coefficient : Nat) (power : Int) : List Char :=
  let ds := Decimal.digits coefficient
  let lead := Decimal.adjusted coefficient power
  if isPlain lead then
    if 0 ≤ power then ds ++ List.replicate power.toNat '0' ++ ['.', '0']
    else Decimal.pointAfter (ds.length + power) ds
  else (if ds.length = 1 then ds else Decimal.pointAfter 1 ds) ++ exponentText lead

/-- The text of a number. -/
def text (x : Binary64) : String :=
  match x.view with
  | .finite significand exponent narrowBelow =>
    let (coefficient, power) :=
      if significand = 0 then (0, 0) else Shortest.shortest significand exponent narrowBelow
    String.ofList (Decimal.signText x.negative ++ layout coefficient power)
  | .infinity => if x.negative then "-inf" else "inf"
  | .nan => "nan"

/-- The text of a number, without a fraction of zero. -/
def shortText (x : Binary64) : String :=
  if x.text.endsWith ".0" then String.ofList (x.text.toList.dropLast.dropLast) else x.text

/-- The text of a number without an exponent. -/
def positional (x : Binary64) : String :=
  match x.view with
  | .finite 0 _ _ => String.ofList (Decimal.signText x.negative ++ ['0'])
  | .finite significand exponent narrowBelow =>
    let (coefficient, power) := Shortest.shortest significand exponent narrowBelow
    let ds := Decimal.digits coefficient
    String.ofList (Decimal.signText x.negative ++
      if 0 ≤ power then ds ++ List.replicate power.toNat '0'
      else Decimal.pointAfter (ds.length + power) ds)
  | _ => x.text

/-! ## Whole numbers -/

/-- `n / 2 ^ places` rounded to the nearest whole number, and to the even one of two
that are equally near. -/
def roundShift (places n : Nat) : Nat :=
  let quotient := n / Nat.pow 2 places
  let twice := 2 * (n % Nat.pow 2 places)
  if Nat.pow 2 places < twice || (twice = Nat.pow 2 places && quotient % 2 = 1) then quotient + 1
  else quotient

/-- The bits of the binary number nearest to a whole number.  A significand that is
rounded up to a power of two raises the exponent by itself. -/
def nearestBits (n : Nat) : Nat :=
  let places := n.log2
  let significand :=
    if places ≤ 52 then n * Nat.pow 2 (52 - places) else roundShift (places - 52) n
  if n = 0 then 0 else (places + 1023) * Nat.pow 2 52 + (significand - Nat.pow 2 52)

/-- The binary number nearest to a whole number, if that is not too large. -/
def ofInt? (n : Int) : Option Binary64 :=
  let bits := nearestBits n.natAbs
  if bits < 2047 * Nat.pow 2 52 then
    some ⟨UInt64.ofNat ((if n < 0 then Nat.pow 2 63 else 0) + bits)⟩
  else none

end Binary64
end Number
end GraphQL
