/-!
# Quoted strings

A quoted string stands on one line between double quotes.  `encode` writes a
text as a request does, leaving every character outside the ASCII controls as it
is; `encodeCanonical` writes it as canonical text does, which also spells out
the controls from U+0080 to U+009F.
-/

namespace GraphQL
namespace Text
namespace Quoted

/-- A hexadecimal digit, with capital letters. -/
def hexDigit (n : Nat) : Char :=
  if n < 10 then Char.ofNat (48 + n) else Char.ofNat (55 + n)

/-- The four-digit escape of a character of the basic plane. -/
def unicodeEscape (c : Char) : List Char :=
  let n := c.toNat
  ['\\', 'u', hexDigit (n / 4096 % 16), hexDigit (n / 256 % 16), hexDigit (n / 16 % 16),
    hexDigit (n % 16)]

/-- The letter of a character's two-character escape. -/
def shortEscape? (c : Char) : Option Char :=
  if c = '"' then some '"'
  else if c = '\\' then some '\\'
  else if c = '\x08' then some 'b'
  else if c = '\x0c' then some 'f'
  else if c = '\n' then some 'n'
  else if c = '\r' then some 'r'
  else if c = '\t' then some 't'
  else none

/-- The ASCII control characters. -/
def isControl (c : Char) : Bool :=
  c.toNat < 0x20 || c.toNat = 0x7f

/-- The control characters of both ranges. -/
def isAnyControl (c : Char) : Bool :=
  c.toNat < 0x20 || (0x7f ≤ c.toNat && c.toNat ≤ 0x9f)

/-- One character of a quoted string, where `spelled` says which characters
without a short escape are spelled out. -/
def encodeChar (spelled : Char → Bool) (c : Char) : List Char :=
  match shortEscape? c with
  | some letter => ['\\', letter]
  | none => if spelled c then unicodeEscape c else [c]

/-- A text between double quotes. -/
def quote (spelled : Char → Bool) (cs : List Char) : List Char :=
  '"' :: (cs.flatMap (encodeChar spelled) ++ ['"'])

/-- A text as the quoted string of a request. -/
def encode (text : String) : String :=
  String.ofList (quote isControl text.toList)

/-- A text as the quoted string of canonical source text. -/
def encodeCanonical (text : String) : String :=
  String.ofList (quote isAnyControl text.toList)

theorem toList_encode (text : String) :
    (encode text).toList = quote isControl text.toList := by
  simp [encode]

end Quoted
end Text
end GraphQL
