/-!
# Hexadecimal digits

Reading digits takes both cases.  Writing fills up with zeros, in lower case.
-/

namespace GraphQL
namespace Number
namespace Hex

/-- The value of a digit. -/
def value? (c : Char) : Option Nat :=
  if '0' ≤ c && c ≤ '9' then some (c.toNat - 48)
  else if 'a' ≤ c && c ≤ 'f' then some (c.toNat - 87)
  else if 'A' ≤ c && c ≤ 'F' then some (c.toNat - 55)
  else none

/-- The number that digits stand for, the first of them the highest. -/
def ofDigits? (cs : List Char) : Option Nat :=
  cs.foldl (fun n? c => n?.bind fun n => (value? c).map (n * 16 + ·)) (some 0)

/-- The digits of a number, filled up with zeros to a width. -/
def padded (width n : Nat) : List Char :=
  let ds := Nat.toDigits 16 n
  List.replicate (width - ds.length) '0' ++ ds

end Hex
end Number
end GraphQL
