import GraphQL.Text.Lines

/-!
# Block strings

A block string is written between triple quotes.  Its value is what remains
once the indentation that all lines after the first share is removed and blank
lines at either end are dropped.  `value` reads the raw text between the quotes;
`literal` writes a value, choosing where line breaks go so that it reads well
and reads back.
-/

namespace GraphQL
namespace Text
namespace Block

/-- The characters that count as indentation. -/
def isBlankChar (c : Char) : Bool :=
  c = ' ' || c = '\t'

/-- A line is blank when indentation is all it holds. -/
def isBlankLine (line : List Char) : Bool :=
  line.all isBlankChar

/-- The number of indentation characters that open a line. -/
def indentation (line : List Char) : Nat :=
  (line.takeWhile isBlankChar).length

/-- The indentation that the lines with content share, if there is such a line. -/
def commonIndentation : List (List Char) → Option Nat
  | [] => none
  | line :: lines =>
    if isBlankLine line then commonIndentation lines
    else
      match commonIndentation lines with
      | none => some (indentation line)
      | some width => some (min (indentation line) width)

/-- The lines after the first, without the indentation that they share. -/
def unindent (lines : List (List Char)) : List (List Char) :=
  match commonIndentation lines with
  | none => lines
  | some width => lines.map (List.drop width)

/-- The lines without blank ones at either end. -/
def trimBlank (lines : List (List Char)) : List (List Char) :=
  ((lines.dropWhile isBlankLine).reverse.dropWhile isBlankLine).reverse

/-- The lines of a block string's value, from its raw lines. -/
def valueLines : List (List Char) → List (List Char)
  | [] => []
  | first :: rest => trimBlank (first :: unindent rest)

/-- The lines with a line feed between neighbours. -/
def joinLines : List (List Char) → List Char
  | [] => []
  | [line] => line
  | line :: lines => line ++ '\n' :: joinLines lines

/-- The value of a block string, from its raw text with quotes unescaped. -/
def value (raw : List Char) : List Char :=
  joinLines (valueLines (Lines.source raw))

/-- The text with a backslash before each group of three quotes, the groups
taken from the left. -/
def escape : List Char → List Char
  | '"' :: '"' :: '"' :: cs => '\\' :: '"' :: '"' :: '"' :: escape cs
  | c :: cs => c :: escape cs
  | [] => []

/-- The text as it is put between triple quotes on one line: a quote at its end
is kept apart from the closing quotes by a space. -/
def inline (text : String) : String :=
  let escaped := escape text.toList
  String.ofList (if escaped.getLast? = some '"' then escaped ++ [' '] else escaped)

/-- What the layout of a block string is chosen from. -/
structure Shape where
  /-- The value fits on one reading line. -/
  singleLine : Bool
  /-- Some indentation would be taken for common if the first line stayed up. -/
  forceLeading : Bool
  /-- The escaped text ends with an escaped triple quote. -/
  trailingTriple : Bool
  /-- The last character would run into the closing quotes. -/
  forceTrailing : Bool
  /-- The value has more than seventy characters. -/
  long : Bool
  /-- The value opens with indentation. -/
  opensBlank : Bool

namespace Shape

/-- The shape of a value. -/
def of (text : List Char) : Shape :=
  let escaped := escape text
  let lines := Lines.reading escaped
  let trailingTriple := ['"', '"', '"', '\\'].isPrefixOf escaped.reverse
  { singleLine := lines.length ≤ 1
    forceLeading := 1 < lines.length &&
      lines.tail.all fun line => line.head?.all isBlankChar
    trailingTriple
    forceTrailing :=
      (text.getLast? = some '"' && !trailingTriple) || text.getLast? = some '\\'
    long := 70 < text.length
    opensBlank := text.head?.any isBlankChar }

/-- The value is spread over several lines. -/
def multipleLines (shape : Shape) : Bool :=
  !shape.singleLine || shape.long || shape.forceTrailing || shape.forceLeading ||
    shape.trailingTriple

/-- A line break follows the opening quotes. -/
def breakBefore (shape : Shape) : Bool :=
  (shape.multipleLines && !(shape.singleLine && shape.opensBlank)) || shape.forceLeading

/-- A line break precedes the closing quotes. -/
def breakAfter (shape : Shape) : Bool :=
  shape.multipleLines || shape.forceTrailing

end Shape

/-- A block string with the given value. -/
def literal (text : List Char) : List Char :=
  let shape := Shape.of text
  ['"', '"', '"'] ++ (if shape.breakBefore then ['\n'] else []) ++ escape text ++
    (if shape.breakAfter then ['\n'] else []) ++ ['"', '"', '"']

end Block
end Text
end GraphQL
