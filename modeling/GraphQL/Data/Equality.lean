import GraphQL.Data.Datum

/-!
# Equality of data

Numbers are equal by value, whatever they are written as.  Collections are equal
if their elements are, with order ignored in sets and dictionaries, and a list is
no tuple.  Nodes are equal if they are of one kind and their parts are equal.
Members of enums that count as texts or numbers equal those texts or numbers;
other members, and records, are equal only to themselves.

An undefined number equals nothing, but it is the same as itself: `same` is what
collections and nodes compare their contents by, `equals` compares data that does
not stand in anything.  A signaling number is not to be compared with a number at
all, and `meetsSignal` says whether a comparison comes to that.
-/

namespace GraphQL

open Number

namespace Scalar

/-- The number that a scalar is, if it is a real number. -/
def real? : Scalar → Option Decimal
  | bool value => some (.ofInt (if value then 1 else 0))
  | int value => some (.ofInt value)
  | float value => some value.toDecimal
  | decimal value => some value
  | complex re im => if im.isZero then some re.toDecimal else none
  | _ => none

/-- Equality of data without parts.  An undefined number is the same as itself
alone. -/
def same : Scalar → Scalar → Bool
  | time a, time b => a.same b
  | moment a, moment b => a.same b
  | a, b =>
    a = b ||
      match a.real?, b.real? with
      | some x, some y => x.sameValue y
      | _, _ => false

/-- The scalar is an undefined number. -/
def isNan : Scalar → Bool
  | float value => value.isNan
  | decimal value => value.isNan
  | _ => false

end Scalar

namespace Datum

/-- The scalar that an enum member counts as, if it counts as one. -/
def mixedIn? (family : Family) : Datum → Option Scalar
  | scalar value => if family.mixin = .plain then none else some value
  | _ => none

/-- Equality of an enum member, counted as a scalar, and other data. -/
def sameMixed (value : Option Scalar) : Datum → Bool
  | scalar other => value.any (·.same other)
  | member family _ other _ =>
    match value, mixedIn? family other with
    | some a, some b => a.same b
    | _, _ => false
  | _ => false

/-- Two optional names have one text, or are both absent. -/
def sameText (a b : Option Label) : Bool :=
  a.map Label.text = b.map Label.text

mutual

/-- Sameness of data: equality, or being one and the same undefined number. -/
def same : Datum → Datum → Bool
  | null, null | unset, unset | nullValue, nullValue => true
  | scalar a, scalar b => a.same b
  | scalar a, member family _ value _ => (mixedIn? family value).any a.same
  | bare a m, bare b n => a = b && m = n
  | member family name value _, other =>
    (match other with
      | member family' name' _ _ => family = family' && name = name'
      | _ => false) || sameMixed (mixedIn? family value) other
  | list a, list b | tuple a, tuple b => sameItems a b
  | set a, set b => a.length = b.length && sameSubset a b
  | dict a, dict b => a.length = b.length && sameEntries a b
  | model m _, model n _ => m = n
  | namedType a, namedType b | enumValue a, enumValue b => a.text = b.text
  | listType a, listType b | nonNullType a, nonNullType b
  | booleanValue a, booleanValue b | intValue a, intValue b | floatValue a, floatValue b
  | stringValue a, stringValue b | listValue a, listValue b | objectValue a, objectValue b
  | document a, document b => same a b
  | objectField m a, objectField n b | argument m a, argument n b
  | directive m a, directive n b | fragmentSpread m a, fragmentSpread n b =>
    m.text = n.text && same a b
  | .variable m a d, .variable n b e => m.text = n.text && same a b && same d e
  | field m l a d s, field n k b e t =>
    m.text = n.text && sameText l k && same a b && same d e && same s t
  | inlineFragment m d s, inlineFragment n e t => sameText m n && same d e && same s t
  | operation k m v d s, operation l n w e t =>
    same k l && sameText m n && same v w && same d e && same s t
  | fragmentDefinition m c d s, fragmentDefinition n b e t =>
    m.text = n.text && c.text = b.text && same d e && same s t
  | printOptions a c, printOptions b d => same a b && same c d
  | _, _ => false

/-- Equality of data one by one. -/
def sameItems : List Datum → List Datum → Bool
  | [], [] => true
  | a :: as, b :: bs => same a b && sameItems as bs
  | _, _ => false

/-- All of some data is among other data. -/
def sameSubset : List Datum → List Datum → Bool
  | [], _ => true
  | a :: as, bs => bs.any (same a) && sameSubset as bs

/-- All entries of a dictionary are among those of another. -/
def sameEntries : List (Datum × Datum) → List (Datum × Datum) → Bool
  | [], _ => true
  | (k, v) :: as, bs => bs.any (fun b => same k b.1 && same v b.2) && sameEntries as bs

end

/-! ## Undefined numbers -/

/-- The data is an undefined number. -/
def isNan : Datum → Bool
  | scalar value => value.isNan
  | _ => false

/-- Equality of data that does not stand in anything. -/
def equals (a b : Datum) : Bool :=
  !a.isNan && same a b

end Datum

namespace Scalar

/-- The scalar is a signaling number. -/
def isSignaling : Scalar → Bool
  | decimal value => value.isSignaling
  | _ => false

/-- Comparing two scalars comes to a signaling number: one of them is, and the other
is a real number. -/
def meetsSignal (a b : Scalar) : Bool :=
  (a.isSignaling && b.real?.isSome) || (b.isSignaling && a.real?.isSome)

end Scalar

namespace Datum

/-- The scalar that data counts as, if it counts as one. -/
def scalar? : Datum → Option Scalar
  | scalar value => some value
  | member family _ value _ => mixedIn? family value
  | _ => none

mutual

/-- Comparing what stands at one place in two collections or nodes comes to a
signaling number before a difference is found. -/
def partMeetsSignal : Datum → Datum → Bool
  | list a, list b => a.length = b.length && itemsMeetSignal a b
  | tuple a, tuple b => itemsMeetSignal a b
  | dict a, dict b => a.length = b.length && entriesMeetSignal a b
  | listType a, listType b | nonNullType a, nonNullType b
  | booleanValue a, booleanValue b | intValue a, intValue b | floatValue a, floatValue b
  | stringValue a, stringValue b | listValue a, listValue b | objectValue a, objectValue b
  | document a, document b => partMeetsSignal a b
  | objectField m a, objectField n b | argument m a, argument n b
  | directive m a, directive n b | fragmentSpread m a, fragmentSpread n b =>
    m.text = n.text && partMeetsSignal a b
  | .variable m a d, .variable n b e =>
    m.text = n.text && (partMeetsSignal a b || (same a b && partMeetsSignal d e))
  | field m l a d s, field n k b e t =>
    m.text = n.text && sameText l k &&
      (partMeetsSignal a b ||
        (same a b && (partMeetsSignal d e || (same d e && partMeetsSignal s t))))
  | inlineFragment m d s, inlineFragment n e t =>
    sameText m n && (partMeetsSignal d e || (same d e && partMeetsSignal s t))
  | operation k m v d s, operation l n w e t =>
    partMeetsSignal k l ||
      (same k l && sameText m n &&
        (partMeetsSignal v w ||
          (same v w && (partMeetsSignal d e || (same d e && partMeetsSignal s t)))))
  | fragmentDefinition m c d s, fragmentDefinition n b e t =>
    m.text = n.text && c.text = b.text &&
      (partMeetsSignal d e || (same d e && partMeetsSignal s t))
  | printOptions a c, printOptions b d =>
    partMeetsSignal a b || (same a b && partMeetsSignal c d)
  | a, b =>
    match a.scalar?, b.scalar? with
    | some x, some y => x ≠ y && x.meetsSignal y
    | _, _ => false

/-- Comparing items one by one comes to a signaling number. -/
def itemsMeetSignal : List Datum → List Datum → Bool
  | a :: as, b :: bs => partMeetsSignal a b || (same a b && itemsMeetSignal as bs)
  | _, _ => false

/-- Comparing the values under the keys of a dictionary comes to a signaling
number. -/
def entriesMeetSignal : List (Datum × Datum) → List (Datum × Datum) → Bool
  | [], _ => false
  | (k, v) :: as, bs =>
    bs.any (fun b => same k b.1 && partMeetsSignal v b.2) ||
      (bs.any (fun b => same k b.1 && same v b.2) && entriesMeetSignal as bs)

end

/-- Comparing data that does not stand in anything comes to a signaling number. -/
def meetsSignal (a b : Datum) : Bool :=
  match a.scalar?, b.scalar? with
  | some x, some y => x.meetsSignal y
  | _, _ => partMeetsSignal a b

end Datum
end GraphQL
