import GraphQL.Number.Hex
import GraphQL.Number.Whole
import GraphQL.Text.Display

/-!
# Universal identifiers

An identifier is a number of a hundred and twenty-eight bits.  It is read with
or without hyphens, braces and the prefixes of its resource name, and written
with hyphens in lower case.
-/

namespace GraphQL
namespace Number

/-- A universal identifier. -/
structure Uuid where
  /-- The identifier as a number. -/
  number : Nat
  deriving DecidableEq, Repr

/-- Why a text stands for no identifier. -/
inductive UuidFault
  /-- The text does not have as many digits as an identifier. -/
  | malformed
  /-- The digits stand for no number. -/
  | unreadable (digits : String)
  deriving DecidableEq, Repr

namespace UuidFault

/-- What is said about a text that stands for no identifier. -/
def message : UuidFault → String
  | malformed => "badly formed hexadecimal UUID string"
  | unreadable digits =>
    "invalid literal for int() with base 16: " ++ Text.Display.text digits

end UuidFault

namespace Uuid

/-- The text without every occurrence of `word`. -/
def without (word text : String) : String :=
  text.replace word ""

/-- Braces, which may surround an identifier. -/
def isBrace (c : Char) : Bool :=
  c = '\x7b' || c = '\x7d'

/-- The identifier that a text stands for. -/
def parse (text : String) : Except UuidFault Uuid :=
  let bare := (without "uuid:" (without "urn:" text)).toList.dropWhile isBrace
  let digits := (bare.reverse.dropWhile isBrace).reverse.filter (· ≠ '-')
  if digits.length ≠ 32 then .error .malformed
  else
    match Whole.read? 16 digits with
    | some n => .ok ⟨n.toNat⟩
    | none => .error (.unreadable (String.ofList digits))

/-- The fields of an identifier: the parts of its time, its clock and its node. -/
def fields (uuid : Uuid) : List Nat :=
  let n := uuid.number
  [n / Nat.pow 2 96, n / Nat.pow 2 80 % Nat.pow 2 16, n / Nat.pow 2 64 % Nat.pow 2 16,
    n / Nat.pow 2 56 % Nat.pow 2 8, n / Nat.pow 2 48 % Nat.pow 2 8, n % Nat.pow 2 48]

/-- The text of an identifier. -/
def text (uuid : Uuid) : String :=
  let ds := Hex.padded 32 uuid.number
  let part (start count : Nat) : String := String.ofList ((ds.drop start).take count)
  part 0 8 ++ "-" ++ part 8 4 ++ "-" ++ part 12 4 ++ "-" ++ part 16 4 ++ "-" ++ part 20 12

/-- An identifier as shown in messages. -/
def display (uuid : Uuid) : String :=
  "UUID('" ++ uuid.text ++ "')"

end Uuid
end Number
end GraphQL
