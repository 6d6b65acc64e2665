import GraphQL.Number.Hex
import GraphQL.Source.Token
import GraphQL.Text.Lines

/-!
# Syntax errors

Why source text is refused and where.  A location counts reading lines from
one, and columns within the line from one; a position just after the end of a
line still belongs to that line when nothing follows it.
-/

namespace GraphQL
namespace Source

/-- What the parser wanted to read where it found something else. -/
inductive Wanted
  | punctuator (mark : Punctuator)
  | name
  | keyword (word : String)
  | endOfText
  deriving DecidableEq, Repr

namespace Wanted

/-- How something wanted is named in messages. -/
def describe : Wanted → String
  | punctuator mark => "'" ++ mark.text ++ "'"
  | name => "Name"
  | keyword word => "'" ++ word ++ "'"
  | endOfText => "<EOF>"

end Wanted

/-- The reasons for which source text is refused. -/
inductive Cause
  | unexpectedCharacter (found : Char)
  | singleQuote
  | digitAfterZero (found : Option Char)
  | digitWanted (found : Option Char)
  | unterminatedString
  | characterEscape (written : String)
  | unicodeEscape (written : String)
  | expected (wanted : Wanted) (found : Lexeme)
  | unexpected (found : Lexeme)
  | variableInConstant (name : String)
  | descriptionMisplaced
  | enumValueReserved (found : Lexeme)
  deriving DecidableEq, Repr

namespace Cause

/-- The hexadecimal digits of a number, at least four of them. -/
def hexText (n : Nat) : String :=
  String.ofList ((Number.Hex.padded 4 n).map Char.toUpper)

/-- How a character is named in messages. -/
def describeChar : Option Char → String
  | none => "<EOF>"
  | some c =>
    if 0x20 ≤ c.toNat && c.toNat ≤ 0x7e then
      if c = '"' then "'\"'" else "'" ++ String.ofList [c] ++ "'"
    else "U+" ++ hexText c.toNat

/-- What is said about a cause. -/
def message : Cause → String
  | unexpectedCharacter found => "Unexpected character: " ++ describeChar (some found) ++ "."
  | singleQuote =>
    "Unexpected single quote character ('), did you mean to use a double quote (\")?"
  | digitAfterZero found =>
    "Invalid number, unexpected digit after 0: " ++ describeChar found ++ "."
  | digitWanted found => "Invalid number, expected digit but got: " ++ describeChar found ++ "."
  | unterminatedString => "Unterminated string."
  | characterEscape written => "Invalid character escape sequence: '" ++ written ++ "'."
  | unicodeEscape written => "Invalid Unicode escape sequence: '" ++ written ++ "'."
  | expected wanted found => "Expected " ++ wanted.describe ++ ", found " ++ found.describe ++ "."
  | unexpected found => "Unexpected " ++ found.describe ++ "."
  | variableInConstant name => "Unexpected variable '$" ++ name ++ "' in constant value."
  | descriptionMisplaced =>
    "Unexpected description, descriptions are supported only on type definitions."
  | enumValueReserved found =>
    found.describe ++ " is reserved and cannot be used for an enum value."

end Cause

/-- A cause and the position that it is reported at. -/
structure SyntaxError where
  /-- Why the text is refused. -/
  cause : Cause
  /-- The number of characters before the place of the error. -/
  position : Nat
  deriving DecidableEq, Repr

namespace SyntaxError

/-- The message of a syntax error. -/
def message (error : SyntaxError) : String :=
  "Syntax Error: " ++ error.cause.message

end SyntaxError

/-- A line and a column, both counted from one. -/
structure Location where
  /-- The line. -/
  line : Nat
  /-- The column within the line. -/
  column : Nat
  deriving DecidableEq, Repr

namespace Location

/-- The location of a position of a text. -/
def ofPosition (text : String) (position : Nat) : Location :=
  let lines := Text.Lines.reading (text.toList.take position)
  match lines.getLast? with
  | none => ⟨1, 1⟩
  | some line => ⟨lines.length, line.length + 1⟩

end Location
end Source
end GraphQL
