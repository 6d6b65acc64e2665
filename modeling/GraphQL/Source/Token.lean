/-!
# Tokens

Source text is read as a sequence of tokens.  A lexeme is what a token stands
for, with the decoded value for strings; a token also knows where it starts, as
a count of characters from the beginning of the text.
-/

namespace GraphQL
namespace Source

/-- The punctuators of the grammar. -/
inductive Punctuator
  | bang
  | dollar
  | amp
  | parenL
  | parenR
  | spread
  | colon
  | equals
  | atSign
  | bracketL
  | bracketR
  | braceL
  | pipe
  | braceR
  deriving DecidableEq, Repr

namespace Punctuator

/-- How a punctuator is written. -/
def text : Punctuator → String
  | bang => "!"
  | dollar => "$"
  | amp => "&"
  | parenL => "("
  | parenR => ")"
  | spread => "..."
  | colon => ":"
  | equals => "="
  | atSign => "@"
  | bracketL => "["
  | bracketR => "]"
  | braceL => "\x7b"
  | pipe => "|"
  | braceR => "\x7d"

/-- The punctuator that a single character is. -/
def ofChar? (c : Char) : Option Punctuator :=
  if c = '!' then some bang
  else if c = '$' then some dollar
  else if c = '&' then some amp
  else if c = '(' then some parenL
  else if c = ')' then some parenR
  else if c = ':' then some colon
  else if c = '=' then some equals
  else if c = '@' then some atSign
  else if c = '[' then some bracketL
  else if c = ']' then some bracketR
  else if c = '\x7b' then some braceL
  else if c = '|' then some pipe
  else if c = '\x7d' then some braceR
  else none

end Punctuator

/-- What a token stands for. -/
inductive Lexeme
  | punctuator (mark : Punctuator)
  | name (text : String)
  | int (text : String)
  | float (text : String)
  | string (value : String)
  | blockString (value : String)
  | endOfText
  deriving DecidableEq, Repr

namespace Lexeme

/-- The text that a token carries, if it is of a kind that carries one. -/
def value? : Lexeme → Option String
  | name text | int text | float text => some text
  | string value | blockString value => some value
  | punctuator _ | endOfText => none

/-- How a token is named in messages. -/
def describe : Lexeme → String
  | punctuator mark => "'" ++ mark.text ++ "'"
  | name text => "Name '" ++ text ++ "'"
  | int text => "Int '" ++ text ++ "'"
  | float text => "Float '" ++ text ++ "'"
  | string value => "String '" ++ value ++ "'"
  | blockString value => "BlockString '" ++ value ++ "'"
  | endOfText => "<EOF>"

end Lexeme

/-- A lexeme and where it starts. -/
structure Token where
  /-- What the token stands for. -/
  lexeme : Lexeme
  /-- The number of characters before the token. -/
  start : Nat
  deriving DecidableEq, Repr

end Source
end GraphQL
