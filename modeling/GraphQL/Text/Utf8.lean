import GraphQL.Number.Hex

/-!
# UTF-8

Bytes are read one at a time.  Between characters a byte stands for itself or
announces how many more follow; after an announcement the next byte has to lie
in the range that the first one allows.  What is refused is the longest run of
bytes that could still have opened a character.
-/

namespace GraphQL
namespace Text
namespace Utf8

/-- The reasons for which bytes are not text. -/
inductive Reason
  | invalidStart
  | invalidContinuation
  | unexpectedEnd
  deriving DecidableEq, Repr

namespace Reason

/-- What is said about a reason. -/
def text : Reason → String
  | invalidStart => "invalid start byte"
  | invalidContinuation => "invalid continuation byte"
  | unexpectedEnd => "unexpected end of data"

end Reason

/-- Bytes that are not text. -/
structure DecodeError where
  /-- Why they are not. -/
  reason : Reason
  /-- The first of the refused bytes. -/
  byte : UInt8
  /-- The number of bytes before it. -/
  position : Nat
  /-- The number of refused bytes. -/
  count : Nat
  deriving DecidableEq, Repr

namespace DecodeError

/-- One refused byte, with the reason given. -/
def describeByte (byte : UInt8) (position : Nat) (reason : String) : String :=
  "'utf-8' codec can't decode byte 0x" ++
    String.ofList (Number.Hex.padded 2 byte.toNat) ++ " in position " ++ toString position ++
    ": " ++ reason

/-- What is said about refused bytes. -/
def message (error : DecodeError) : String :=
  if error.count = 1 then describeByte error.byte error.position error.reason.text
  else
    "'utf-8' codec can't decode bytes in position " ++ toString error.position ++ "-" ++
      toString (error.position + error.count - 1) ++ ": " ++ error.reason.text

end DecodeError

/-- A character of which some bytes are still to come. -/
structure Pending where
  /-- The first byte. -/
  first : UInt8
  /-- The number of bytes that have been read. -/
  seen : Nat
  /-- The number of bytes after the next one. -/
  owed : Nat
  /-- The least value of the next byte. -/
  low : Nat
  /-- The greatest value of the next byte. -/
  high : Nat
  /-- The bits that have been read. -/
  code : Nat
  deriving DecidableEq, Repr

/-- What a byte above the ASCII range announces. -/
def announce? (byte : UInt8) : Option Pending :=
  let n := byte.toNat
  if 0xc2 ≤ n && n ≤ 0xdf then some ⟨byte, 1, 0, 0x80, 0xbf, n % 32⟩
  else if n = 0xe0 then some ⟨byte, 1, 1, 0xa0, 0xbf, n % 16⟩
  else if n = 0xed then some ⟨byte, 1, 1, 0x80, 0x9f, n % 16⟩
  else if 0xe1 ≤ n && n ≤ 0xef then some ⟨byte, 1, 1, 0x80, 0xbf, n % 16⟩
  else if n = 0xf0 then some ⟨byte, 1, 2, 0x90, 0xbf, n % 8⟩
  else if 0xf1 ≤ n && n ≤ 0xf3 then some ⟨byte, 1, 2, 0x80, 0xbf, n % 8⟩
  else if n = 0xf4 then some ⟨byte, 1, 2, 0x80, 0x8f, n % 8⟩
  else none

/-- The text of bytes that follow `position` others, where `pending?` is a
character that has been begun. -/
def decodeFrom (position : Nat) (pending? : Option Pending) :
    List UInt8 → Except DecodeError (List Char)
  | [] =>
    match pending? with
    | none => .ok []
    | some pending =>
      .error ⟨.unexpectedEnd, pending.first, position - pending.seen, pending.seen⟩
  | byte :: bytes =>
    match pending? with
    | none =>
      if byte.toNat < 0x80 then
        (decodeFrom (position + 1) none bytes).map (Char.ofNat byte.toNat :: ·)
      else
        match announce? byte with
        | none => .error ⟨.invalidStart, byte, position, 1⟩
        | some pending => decodeFrom (position + 1) (some pending) bytes
    | some pending =>
      let code := pending.code * 64 + byte.toNat % 64
      if byte.toNat < pending.low || pending.high < byte.toNat then
        .error ⟨.invalidContinuation, pending.first, position - pending.seen, pending.seen⟩
      else
        match pending.owed with
        | 0 => (decodeFrom (position + 1) none bytes).map (Char.ofNat code :: ·)
        | owed + 1 =>
          decodeFrom (position + 1)
            (some ⟨pending.first, pending.seen + 1, owed, 0x80, 0xbf, code⟩) bytes

/-- The text that bytes stand for. -/
def decode (bytes : List UInt8) : Except DecodeError String :=
  (decodeFrom 0 none bytes).map String.ofList

end Utf8
end Text
end GraphQL
