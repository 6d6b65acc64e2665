import GraphQL.Source.Error
import GraphQL.Text.Block
import GraphQL.Text.Name

/-!
# Reading tokens

`tokenize` turns source text into its tokens.  It never fails as a whole: a text
that cannot be read to its end gives the tokens before the first error, and the
error is met by whoever reads that far.

Each reader takes the text that is left and returns what it read together with
the text after it.  A reader that is stuck says why and which text was left at
the place of the error.
-/

namespace GraphQL
namespace Source

open Number Text

/-- Why a reader is stuck, and the text that was left there. -/
structure Stuck where
  /-- The reason. -/
  cause : Cause
  /-- The text from the place of the error on. -/
  left : List Char
  deriving DecidableEq, Repr

namespace Lexer

/-- The characters between tokens: blanks, commas, line ends and the mark that
may open a file. -/
def isIgnored (c : Char) : Bool :=
  c = ' ' || c = '\t' || c = ',' || c = '\ufeff' || c = '\n' || c = '\r'

/-- The characters that end a line of source text. -/
def isLineEnd (c : Char) : Bool :=
  c = '\n' || c = '\r'

/-- The text from the next token on.  Inside a comment everything up to the end
of its line is passed over. -/
def skipIgnored (inComment : Bool) : List Char → List Char
  | [] => []
  | c :: cs =>
    if inComment then skipIgnored (!isLineEnd c) cs
    else if isIgnored c then skipIgnored false cs
    else if c = '#' then skipIgnored true cs
    else c :: cs

/-! ## Numbers -/

/-- At least one digit. -/
def digits (cs : List Char) : Except Stuck (List Char × List Char) :=
  if cs.head?.any Char.isDigit then .ok (cs.span Char.isDigit)
  else .error ⟨.digitWanted cs.head?, cs⟩

/-- A zero that no digit follows, or digits that do not open with a zero. -/
def integerPart : List Char → Except Stuck (List Char × List Char)
  | '0' :: cs =>
    if cs.head?.any Char.isDigit then .error ⟨.digitAfterZero cs.head?, cs⟩
    else .ok (['0'], cs)
  | cs => digits cs

/-- A point and digits, or nothing. -/
def fractionPart : List Char → Except Stuck (List Char × List Char)
  | '.' :: cs => do
    let (ds, rest) ← digits cs
    return ('.' :: ds, rest)
  | cs => .ok ([], cs)

/-- An exponent mark, perhaps a sign, and digits; or nothing. -/
def exponentPart : List Char → Except Stuck (List Char × List Char)
  | c :: cs =>
    if c = 'e' || c = 'E' then
      match cs with
      | s :: cs' =>
        if s = '+' || s = '-' then do
          let (ds, rest) ← digits cs'
          return (c :: s :: ds, rest)
        else do
          let (ds, rest) ← digits (s :: cs')
          return (c :: ds, rest)
      | [] => .error ⟨.digitWanted none, []⟩
    else .ok ([], c :: cs)
  | [] => .ok ([], [])

/-- The sign that may open a number. -/
def signPart : List Char → List Char × List Char
  | '-' :: cs => (['-'], cs)
  | cs => ([], cs)

/-- A number.  It may not run into a name or a further point. -/
def number (cs : List Char) : Except Stuck (Lexeme × List Char) := do
  let (sign, afterSign) := signPart cs
  let (whole, afterWhole) ← integerPart afterSign
  let (fraction, afterFraction) ← fractionPart afterWhole
  let (exponent, rest) ← exponentPart afterFraction
  if rest.head?.any fun c => c = '.' || Name.isStart c then
    .error ⟨.digitWanted rest.head?, rest⟩
  else
    let text := String.ofList (sign ++ whole ++ fraction ++ exponent)
    return (if fraction.isEmpty && exponent.isEmpty then .int text else .float text, rest)

/-! ## Strings -/

/-- The number written by four hexadecimal digits at the front of a text. -/
def hexFour? (cs : List Char) : Option Nat :=
  let ds := cs.take 4
  if ds.length = 4 then Hex.ofDigits? ds else none

/-- The character with a code point, unless the point is a surrogate or too large. -/
def scalar? (point : Nat) : Option Char :=
  if _ : point.isValidChar then some (Char.ofNat point) else none

/-- An escape: the character that it stands for and the number of characters
that it is written with. -/
abbrev Escape := Char × Nat

/-- The longest escape with braces that is looked at. -/
def longestBraced : Nat := 12

/-- Reads the digits of an escape with braces.  `size` characters have been read
and `point` is the number that the digits so far stand for; without an answer,
the number of characters read is what is left to report. -/
def bracedEscape (point size : Nat) : List Char → Except Nat Escape
  | [] => .error size
  | c :: cs =>
    if longestBraced ≤ size then .error size
    else if c = '\x7d' then
      if size + 1 < 5 then .error (size + 1)
      else
        match scalar? point with
        | some value => .ok (value, size + 1)
        | none => .error (size + 1)
    else
      match Hex.value? c with
      | none => .error (size + 1)
      | some d => bracedEscape (point * 16 + d) (size + 1) cs

/-- The character beyond the basic plane that a pair of surrogates stands for. -/
def surrogatePair (high low : Nat) : Char :=
  Char.ofNat (0x10000 + (high - 0xd800) * 0x400 + (low - 0xdc00))

/-- Reads an escape of four digits, or two such escapes that form a surrogate
pair, from the text after the first `\u`. -/
def fixedEscape? (cs : List Char) : Option Escape := do
  let code ← hexFour? cs
  match scalar? code with
  | some value => return (value, 6)
  | none =>
    if 0xd800 ≤ code && code ≤ 0xdbff then
      match cs.drop 4 with
      | '\\' :: 'u' :: more =>
        let trailing ← hexFour? more
        if 0xdc00 ≤ trailing && trailing ≤ 0xdfff then
          return (surrogatePair code trailing, 12)
        else none
      | _ => none
    else none

/-- The character that a letter stands for after a backslash. -/
def shortEscape? (letter : Char) : Option Char :=
  if letter = '"' then some '"'
  else if letter = '\\' then some '\\'
  else if letter = '/' then some '/'
  else if letter = 'b' then some '\x08'
  else if letter = 'f' then some '\x0c'
  else if letter = 'n' then some '\n'
  else if letter = 'r' then some '\r'
  else if letter = 't' then some '\t'
  else none

/-- Reads the escape at the front of a text that begins with a backslash. -/
def escape (cs : List Char) : Except Stuck Escape :=
  let stuck (size : Nat) : Stuck := ⟨.unicodeEscape (String.ofList (cs.take size)), cs⟩
  match cs.tail with
  | 'u' :: '\x7b' :: more =>
    match bracedEscape 0 3 more with
    | .ok answer => .ok answer
    | .error size => .error (stuck size)
  | 'u' :: more =>
    match fixedEscape? more with
    | some answer => .ok answer
    | none => .error (stuck 6)
  | letter :: _ =>
    match shortEscape? letter with
    | some value => .ok (value, 2)
    | none => .error ⟨.characterEscape (String.ofList (cs.take 2)), cs⟩
  | [] => .error ⟨.characterEscape (String.ofList (cs.take 2)), cs⟩

/-- The value of a quoted string, from the text after its opening quote.  The
first `skip` characters belong to an escape that has been read. -/
def stringBody : Nat → List Char → Except Stuck (List Char × List Char)
  | _, [] => .error ⟨.unterminatedString, []⟩
  | skip + 1, _ :: cs => stringBody skip cs
  | 0, c :: cs =>
    if c = '"' then .ok ([], cs)
    else if c = '\\' then do
      let (value, size) ← escape (c :: cs)
      let (values, rest) ← stringBody (size - 1) cs
      return (value :: values, rest)
    else if isLineEnd c then .error ⟨.unterminatedString, c :: cs⟩
    else do
      let (values, rest) ← stringBody 0 cs
      return (c :: values, rest)

/-- The raw text of a block string, from the text after its opening quotes, with
escaped triple quotes as quotes. -/
def blockBody : List Char → Except Stuck (List Char × List Char)
  | '"' :: '"' :: '"' :: cs => .ok ([], cs)
  | '\\' :: '"' :: '"' :: '"' :: cs => do
    let (raw, rest) ← blockBody cs
    return ('"' :: '"' :: '"' :: raw, rest)
  | c :: cs => do
    let (raw, rest) ← blockBody cs
    return (c :: raw, rest)
  | [] => .error ⟨.unterminatedString, []⟩

/-! ## Tokens -/

/-- The lexeme at the front of a text that opens with one. -/
def lexeme : List Char → Except Stuck (Lexeme × List Char)
  | [] => .ok (.endOfText, [])
  | '"' :: '"' :: '"' :: cs => do
    let (raw, rest) ← blockBody cs
    return (.blockString (String.ofList (Block.value raw)), rest)
  | '"' :: cs => do
    let (value, rest) ← stringBody 0 cs
    return (.string (String.ofList value), rest)
  | '.' :: '.' :: '.' :: cs => .ok (.punctuator .spread, cs)
  | c :: cs =>
    match Punctuator.ofChar? c with
    | some mark => .ok (.punctuator mark, cs)
    | none =>
      if c.isDigit || c = '-' then number (c :: cs)
      else if Name.isStart c then
        let (text, rest) := cs.span Name.isContinue
        .ok (.name (String.ofList (c :: text)), rest)
      else if c = '\x27' then .error ⟨.singleQuote, c :: cs⟩
      else .error ⟨.unexpectedCharacter c, c :: cs⟩

end Lexer

/-- The tokens that can be read from a text: those before its end, and then
either the end or an error. -/
structure Tokens where
  /-- The tokens before the end of the text or the error. -/
  read : List Token
  /-- The position of the end of the text, or the first error. -/
  ending : Except SyntaxError Nat
  deriving Repr

namespace Tokens

/-- One more token in front. -/
def cons (token : Token) (tokens : Tokens) : Tokens :=
  ⟨token :: tokens.read, tokens.ending⟩

/-- Reads at most `bound` tokens from the rest of a text of `total` characters. -/
def ofChars (total : Nat) : Nat → List Char → Tokens
  | 0, _ => ⟨[], .ok total⟩
  | bound + 1, cs =>
    let start := Lexer.skipIgnored false cs
    match Lexer.lexeme start with
    | .error stuck => ⟨[], .error ⟨stuck.cause, total - stuck.left.length⟩⟩
    | .ok (.endOfText, _) => ⟨[], .ok total⟩
    | .ok (lexeme, rest) => cons ⟨lexeme, total - start.length⟩ (ofChars total bound rest)

end Tokens

/-- The tokens of a text.  Every token takes a character, so a text has no more
tokens than characters. -/
def tokenize (text : String) : Tokens :=
  let cs := text.toList
  Tokens.ofChars cs.length (cs.length + 1) cs

end Source
end GraphQL
