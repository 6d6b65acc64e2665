import GraphQL.Number.Whole
import GraphQL.Request.Fault

/-!
# Numerals

How numbers are written in a request.  A number with a fraction is written as
short as reads back and always shows a point or an exponent; there is no numeral
for an infinite or undefined one.  A whole number is written in decimal digits,
after anything that has a whole part has been cut down to it, unless it has more digits
than are written.
-/

namespace GraphQL
namespace Numeral

open Number

/-- The text shows a point or an exponent. -/
def showsFraction (text : String) : Bool :=
  text.toList.any fun c => c = '.' || c = 'e' || c = 'E'

/-- The text, with a fraction of zero where no fraction shows. -/
def withFraction (text : String) : String :=
  if showsFraction text then text else text ++ ".0"

/-- The least magnitude of a whole number that no binary number is near to. -/
def overflow : Nat :=
  Nat.pow 2 1024 - Nat.pow 2 970

/-- The numeral of a number with a fraction. -/
def fractional (given : Datum) : Except Fault String :=
  match given with
  | .decimal value =>
    if value.isFinite then .ok (withFraction value.text) else .error (.noLiteral value.text)
  | .float value =>
    if value.isFinite then .ok (withFraction value.text) else .error (.noLiteral value.text)
  | given =>
    match given.asInt? with
    | some n =>
      if n.natAbs < overflow then .ok (withFraction given.display) else .error .tooLargeForFloat
    | none => .error (.realWanted given.fullName)

/-- The character that a byte is in the text of a number, where nothing but ASCII
counts. -/
def ofByte (byte : UInt8) : Char :=
  if byte < 128 then Char.ofNat byte.toNat else '\ufffd'

/-- The whole number that a text given as some data stands for. -/
def readFrom (base : Nat) (given : Datum) (cs : List Char) : Except Fault Int :=
  match Whole.excess? base cs, Whole.read? base cs with
  | some digits, _ => .error (.tooLongToRead digits)
  | none, some n => .ok n
  | none, none => .error (.wholeUnreadable base given)

/-- The whole number that bytes stand for. -/
def readBytes (base : Nat) (bytes : List UInt8) : Except Fault Int :=
  readFrom base (.scalar (.bytes (bytes.take 200))) (bytes.map ofByte)

/-- The whole number that data stands for. -/
def toInt (given : Datum) : Except Fault Int :=
  match given with
  | .float value =>
    match value.toDecimal with
    | .infinity _ => .error (.noWholePart "float infinity" true)
    | decimal =>
      match decimal.truncate? with
      | some n => .ok n
      | none => .error (.noWholePart "float NaN" false)
  | .decimal (.infinity _) => .error (.noWholePart "Infinity" true)
  | .decimal value =>
    match value.truncate? with
    | some n => .ok n
    | none => .error (.noWholePart "NaN" false)
  | .scalar (.uuid value) => .ok value.number
  | .scalar (.bytes value) => readBytes 10 value
  | given =>
    match given.asInt?, given.asText? with
    | some n, _ => .ok n
    | none, some text => readFrom 10 given text.toList
    | none, none => .error (.wholeWanted given.fullName)

/-- A whole number in decimal digits. -/
def decimal (n : Int) : Except Fault String :=
  if Whole.isLong n then .error .tooLongToWrite else .ok (toString n)

/-- The numeral of a whole number. -/
def whole (given : Datum) : Except Fault String := do
  decimal (← toInt given)

end Numeral
end GraphQL
