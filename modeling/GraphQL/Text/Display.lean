import GraphQL.Number.Hex
import GraphQL.Text.Printable

/-!
# Texts as shown in messages

A text is shown between quotes, single ones unless the text holds a single quote
and no double one.  Characters that are not printable are spelled out by number.
-/

namespace GraphQL
namespace Text
namespace Display

/-- The quote that surrounds a text. -/
def quoteFor (hasSingle hasDouble : Bool) : Char :=
  if hasSingle && !hasDouble then '"' else '\x27'

/-- The escape that texts and bytes have in common. -/
def commonEscape? (quote c : Char) : Option (List Char) :=
  if c = quote || c = '\\' then some ['\\', c]
  else if c = '\n' then some ['\\', 'n']
  else if c = '\r' then some ['\\', 'r']
  else if c = '\t' then some ['\\', 't']
  else none

/-- A character by its number. -/
def numeric (n : Nat) : List Char :=
  if n < 0x100 then '\\' :: 'x' :: Number.Hex.padded 2 n
  else if n < 0x10000 then '\\' :: 'u' :: Number.Hex.padded 4 n
  else '\\' :: 'U' :: Number.Hex.padded 8 n

/-- One character of a shown text. -/
def showChar (quote c : Char) : List Char :=
  match commonEscape? quote c with
  | some escape => escape
  | none => if Printable.isPrintable c then [c] else numeric c.toNat

/-- A text as shown in messages. -/
def text (s : String) : String :=
  let cs := s.toList
  let quote := quoteFor (cs.contains '\x27') (cs.contains '"')
  String.ofList (quote :: (cs.flatMap (showChar quote) ++ [quote]))

/-- One byte of shown bytes. -/
def showByte (quote : Char) (byte : UInt8) : List Char :=
  let n := byte.toNat
  if 0x7f ≤ n then numeric n
  else
    match commonEscape? quote (Char.ofNat n) with
    | some escape => escape
    | none => if n < 0x20 then numeric n else [Char.ofNat n]

/-- Bytes as shown in messages. -/
def bytes (bs : List UInt8) : String :=
  let quote := quoteFor (bs.contains 0x27) (bs.contains 0x22)
  String.ofList ('b' :: quote :: (bs.flatMap (showByte quote) ++ [quote]))

end Display
end Text
end GraphQL
