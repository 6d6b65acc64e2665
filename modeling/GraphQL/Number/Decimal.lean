import GraphQL.Number.Digit

/-!
# Decimal numbers

A decimal number is a sign, a coefficient and a power of ten, or one of the
special values.  Numbers that differ only in how many zeros they end with are
different texts for the same value.  Undefined numbers are equal to nothing, so
that they are told apart by a serial number.  `text` writes a number so that coefficient
and exponent can be read off again: without an exponent when that needs no more
than five zeros after the point, and otherwise in scientific notation.
-/

namespace GraphQL
namespace Number

/-- Decimal numbers with their written precision, and the special values. -/
inductive Decimal
  | finite (negative : Bool) (coefficient : Nat) (exponent : Int)
  | infinity (negative : Bool)
  | nan (negative signaling : Bool) (payload serial : Nat)
  deriving DecidableEq, Repr

namespace Decimal

/-- The number is not one of the special values. -/
def isFinite : Decimal → Bool
  | finite .. => true
  | _ => false

/-- The number is undefined and must not be compared. -/
def isSignaling : Decimal → Bool
  | nan _ signaling _ _ => signaling
  | _ => false

/-- The number is undefined. -/
def isNan : Decimal → Bool
  | nan .. => true
  | _ => false

/-- The number, told apart from other undefined numbers by a serial number. -/
def withSerial (serial : Nat) : Decimal → Decimal
  | nan negative signaling payload _ => nan negative signaling payload serial
  | value => value

/-- The digits of a coefficient. -/
def digits (coefficient : Nat) : List Char :=
  Nat.toDigits 10 coefficient

/-- The exponent of the leading digit. -/
def adjusted (coefficient : Nat) (exponent : Int) : Int :=
  exponent + ((digits coefficient).length - 1 : Nat)

/-- The smallest exponent of a leading digit that is written without an exponent. -/
def lowestPlain : Int := -6

/-- The sign of a number. -/
def signText (negative : Bool) : List Char :=
  if negative then ['-'] else []

/-- A whole number with its sign always written. -/
def signedText (n : Int) : List Char :=
  (if n < 0 then '-' else '+') :: digits n.natAbs

/-- Digits with a point after the first `whole` of them, and zeros in front as
far as they are needed. -/
def pointAfter (whole : Int) (ds : List Char) : List Char :=
  if whole ≤ 0 then '0' :: '.' :: (List.replicate whole.natAbs '0' ++ ds)
  else ds.take whole.toNat ++ '.' :: ds.drop whole.toNat

/-- The text of the magnitude of a finite number. -/
def magnitudeText (coefficient : Nat) (exponent : Int) : List Char :=
  let ds := digits coefficient
  let lead := adjusted coefficient exponent
  if exponent ≤ 0 && lowestPlain ≤ lead then
    if exponent = 0 then ds else pointAfter (ds.length + exponent) ds
  else
    (if ds.length = 1 then ds else pointAfter 1 ds) ++ 'E' :: signedText lead

/-- The text of a number. -/
def text : Decimal → String
  | finite negative coefficient exponent =>
    String.ofList (signText negative ++ magnitudeText coefficient exponent)
  | infinity negative => String.ofList (signText negative) ++ "Infinity"
  | nan negative signaling payload _ =>
    String.ofList (signText negative) ++ (if signaling then "sNaN" else "NaN") ++
      (if payload = 0 then "" else String.ofList (digits payload))

/-! ## Reading -/

/-- The number that digits stand for. -/
def ofDigits (ds : List Char) : Nat :=
  ds.foldl (fun n c => n * 10 + (c.toNat - 48)) 0

/-- A sign, if there is one, and the text after it. -/
def splitSign : List Char → Bool × List Char
  | '-' :: cs => (true, cs)
  | '+' :: cs => (false, cs)
  | cs => (false, cs)

/-- The exponent that a text stands for; no text stands for none. -/
def readExponent : List Char → Option Int
  | [] => some 0
  | c :: cs =>
    if c = 'e' || c = 'E' then
      let (negative, ds) := splitSign cs
      if ds.isEmpty || !ds.all Char.isDigit then none
      else some (if negative then -(ofDigits ds : Int) else ofDigits ds)
    else none

/-- The finite number that an unsigned text stands for. -/
def readFinite (negative : Bool) (cs : List Char) : Option Decimal :=
  let (whole, afterWhole) := cs.span Char.isDigit
  let (fraction, rest) :=
    match afterWhole with
    | '.' :: more => more.span Char.isDigit
    | more => ([], more)
  if whole.isEmpty && fraction.isEmpty then none
  else
    match readExponent rest with
    | some exponent =>
      some (finite negative (ofDigits (whole ++ fraction)) (exponent - fraction.length))
    | none => none

/-- The digits after `word` at the front of a text, if the text is the word and
digits. -/
def payloadAfter? (word cs : List Char) : Option Nat :=
  if word.isPrefixOf cs && (cs.drop word.length).all Char.isDigit then
    some (ofDigits (cs.drop word.length))
  else none

/-- The number that a text stands for.  Underscores are passed over. -/
def parse? (text : String) : Option Decimal :=
  let (negative, cs) := splitSign ((Digit.plain text.toList).filter (· ≠ '_'))
  let lower := cs.map Char.toLower
  if lower = ['i', 'n', 'f'] || lower = ['i', 'n', 'f', 'i', 'n', 'i', 't', 'y'] then
    some (infinity negative)
  else
    match payloadAfter? ['n', 'a', 'n'] lower with
    | some payload => some (nan negative false payload 0)
    | none =>
      match payloadAfter? ['s', 'n', 'a', 'n'] lower with
      | some payload => some (nan negative true payload 0)
      | none => readFinite negative cs

/-- The largest exponent of a leading digit. -/
def highestLead : Int := 999999999999999999

/-- The smallest exponent of a last digit. -/
def lowestExponent : Int := -1999999999999999997

/-- The number is not too large and not too finely divided to be kept. -/
def isKept : Decimal → Bool
  | finite _ coefficient exponent =>
    adjusted coefficient exponent ≤ highestLead && lowestExponent ≤ exponent
  | _ => true

/-! ## Value -/

/-- The number has the value zero. -/
def isZero : Decimal → Bool
  | finite _ coefficient _ => coefficient = 0
  | _ => false

/-- Two numbers have the same value.  Numbers with a value have the same leading
exponent if they are equal, so only few zeros have to be added to compare them. -/
def sameValue : Decimal → Decimal → Bool
  | finite negative coefficient exponent, finite negative' coefficient' exponent' =>
    if coefficient = 0 || coefficient' = 0 then coefficient = 0 && coefficient' = 0
    else
      negative = negative' && adjusted coefficient exponent = adjusted coefficient' exponent' &&
        coefficient * Nat.pow 10 (exponent - exponent').toNat =
          coefficient' * Nat.pow 10 (exponent' - exponent).toNat
  | infinity negative, infinity negative' => negative = negative'
  | _, _ => false

/-- A whole number as a decimal. -/
def ofInt (n : Int) : Decimal :=
  finite (n < 0) n.natAbs 0

/-- The whole part of a finite number. -/
def truncate? : Decimal → Option Int
  | finite negative coefficient exponent =>
    let magnitude : Nat :=
      if 0 ≤ exponent then coefficient * Nat.pow 10 exponent.toNat
      else if (digits coefficient).length ≤ exponent.natAbs then 0
      else coefficient / Nat.pow 10 exponent.natAbs
    some (if negative then -(magnitude : Int) else magnitude)
  | _ => none

end Decimal
end Number
end GraphQL
