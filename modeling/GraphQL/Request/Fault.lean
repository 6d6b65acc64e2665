import GraphQL.Data.Display
import GraphQL.Text.Utf8

/-!
# Faults

Why a request cannot be built or written.  A fault keeps what it is about;
`message` puts it into words.  Where the words would show a whole number that has more
digits than are written, that is the fault that is `raised`.
-/

namespace GraphQL

/-- What is wanted at a place of a request where something else was found. -/
inductive Role
  | value
  | selection
  | definition
  deriving DecidableEq, Repr

namespace Role

/-- The name of a role in messages. -/
def text : Role → String
  | value => "value"
  | selection => "selection"
  | definition => "definition"

end Role

/-- The reasons for which a request cannot be built or written. -/
inductive Fault
  /-- Something else than a name where a name is wanted. -/
  | invalidName (kind : String) (given : Datum)
  /-- A name that is declared twice by one owner. -/
  | duplicateName (kind : String) (name : Datum) (shown owner : String)
  /-- Data that no literal stands for. -/
  | unsupportedValue (given : Datum)
  /-- An enum symbol that would read as a constant. -/
  | reservedSymbol (symbol : Label)
  /-- A default value that mentions a variable. -/
  | variableInDefault (name : Label)
  /-- A number without a literal. -/
  | noLiteral (number : String)
  /-- Something that cannot be written in the place where it stands. -/
  | misplaced (role : Role) (found : String)
  /-- Something else than a reference to a type. -/
  | typeWanted (found : String)
  /-- Something else than a variable among variables. -/
  | variableWanted (found : String)
  /-- An item of a kind that its owner does not accept. -/
  | unexpectedItem (found : String) (accepted : List String)
  /-- Something else than a definition in a document. -/
  | unexpectedDefinition (found : String)
  /-- An operation that is named twice. -/
  | nameGivenTwice
  /-- A word that names no kind of operation. -/
  | unknownOperationKind (given : Datum)
  /-- An operation that the document does not have. -/
  | unknownOperation (shown : String)
  /-- Indentation that is more than spaces and tabs. -/
  | indentNotBlank
  /-- A reference to a type that stands for no type. -/
  | noTypeText
  /-- A part that data does not have. -/
  | noPart (owner name : String)
  /-- A part that stands where something to be done is wanted. -/
  | notCallable (found : String)
  /-- Data without a length. -/
  | noLength (found : String)
  /-- Data that cannot be gone through. -/
  | notIterable (found : String)
  /-- Data that cannot be a key. -/
  | unhashable (found : String)
  /-- A signaling number as a key. -/
  | signalingKey
  /-- A signaling number that is compared with a number. -/
  | signalingCompared
  /-- Data that is no real number. -/
  | realWanted (found : String)
  /-- A whole number that no binary number is near to. -/
  | tooLargeForFloat
  /-- Data that no whole number can be made of. -/
  | wholeWanted (found : String)
  /-- A text that no whole number can be read from. -/
  | wholeUnreadable (base : Nat) (given : Datum)
  /-- A whole number of more digits than are written. -/
  | tooLongToWrite
  /-- A text that opens with more digits than are read. -/
  | tooLongToRead (digits : Nat)
  /-- A number without a whole part. -/
  | noWholePart (number : String) (infinite : Bool)
  /-- Text that is not made of single characters. -/
  | characterWanted (found : String)
  /-- A text of other than one character where one is wanted. -/
  | oneCharacterWanted (length : Nat)
  /-- A byte among the characters of a text. -/
  | byteInText (position : Nat)
  /-- Data that no text can be added to. -/
  | notExtendable (found : String)
  /-- Bytes where a text is wanted. -/
  | bytesLikeWanted
  /-- A part that a kind of node does not have. -/
  | unexpectedPart (owner part : String)
  /-- Parts that a kind of node cannot do without. -/
  | missingParts (owner : String) (parts : List String)
  /-- A kind of node that has no parts. -/
  | takesNoParts (owner : String)
  /-- A member of an enum that is defined twice, at first with a value. -/
  | memberDefinedTwice (name : String) (first : Datum)
  /-- A name that no member of an enum can have. -/
  | badMemberName (name : String)
  /-- A name that enums keep for themselves. -/
  | reservedMemberName (name : String)
  /-- A member that an enum does not have. -/
  | unknownMember (name : String)
  /-- A base in which something else than a text is to be read. -/
  | textWanted
  /-- A base that is no whole number. -/
  | baseWanted (found : String)
  /-- A base in which no number is written. -/
  | badBase
  /-- A text that is to be made of a text and the name of an encoding. -/
  | textDecoded
  /-- Something else than bytes of which a text is to be made by an encoding. -/
  | bytesWanted (found : String)
  /-- Something else than a text that says how bytes are to be read. -/
  | choiceWanted (choice : String) (given : Datum)
  /-- More than a text or number is made of. -/
  | tooManyIngredients (made : String) (most given : Nat)
  /-- Bytes that are no text. -/
  | undecodable (error : Text.Utf8.DecodeError)

namespace Fault

/-- Quoted names as an enumeration. -/
def enumerate : List String → String
  | [] => ""
  | [name] => "'" ++ name ++ "'"
  | [first, second] => "'" ++ first ++ "' and '" ++ second ++ "'"
  | names =>
    Text.Lines.joinWith ", " (names.dropLast.map fun name => "'" ++ name ++ "'") ++ ", and '" ++
      names.getLast?.getD "" ++ "'"

/-- The message about data that no text can be added to. -/
def extensionMessage (found : String) : String :=
  if found = "tuple" then "can only concatenate tuple (not \"str\") to tuple"
  else if found = "bytes" then "can't concat str to bytes"
  else "unsupported operand type(s) for +=: '" ++ found ++ "' and 'str'"

/-- The message about a whole number of more digits than are written or read. -/
def limitMessage (found : String) : String :=
  "Exceeds the limit (" ++ toString Number.Whole.mostDigits ++
    " digits) for integer string conversion" ++ found ++
    "; use sys.set_int_max_str_digits() to increase the limit"

/-- The data that is shown in the words for a fault and can hold a whole number. -/
def subject? : Fault → Option Datum
  | invalidName _ given | unsupportedValue given | memberDefinedTwice _ given => some given
  | _ => none

/-- What goes wrong when a fault is put into words. -/
def raised (fault : Fault) : Fault :=
  if fault.subject?.any Datum.showsLong then tooLongToWrite else fault

/-- A fault is raised as what it is, or as what goes wrong with its words. -/
theorem raised_eq_or (fault : Fault) :
    fault.raised = fault ∨ fault.raised = tooLongToWrite := by
  unfold raised
  split
  case isTrue => exact .inr rfl
  case isFalse => exact .inl rfl

/-- What is said about a fault. -/
def message : Fault → String
  | invalidName kind given => "Invalid GraphQL " ++ kind ++ ": " ++ given.display
  | duplicateName kind _ shown owner =>
    "Duplicate " ++ kind ++ " name '" ++ shown ++ "' in " ++ owner
  | unsupportedValue given =>
    "Cannot convert " ++ given.className ++ " to a GraphQL value: " ++ given.display
  | reservedSymbol symbol => "'" ++ symbol.shown ++ "' cannot be used as an enum value"
  | variableInDefault name => "Default value of variable '" ++ name.shown ++ "' must be a constant"
  | noLiteral number => number ++ " has no GraphQL literal form"
  | misplaced role found => "Unknown " ++ role.text ++ ": " ++ found
  | typeWanted found => "Expected a type reference, got " ++ found
  | variableWanted found => "Expected Variable, got " ++ found
  | unexpectedItem found accepted =>
    "Unexpected " ++ found ++ " (expected one of: " ++ Text.Lines.joinWith ", " accepted ++ ")"
  | unexpectedDefinition found => "Unexpected " ++ found ++ " in document"
  | nameGivenTwice => "Operation name given both positionally and as a keyword"
  | unknownOperationKind given => given.display ++ " is not a valid OperationType"
  | unknownOperation shown => "Unknown operation: " ++ shown
  | indentNotBlank => "indent may only contain spaces and tabs"
  | noTypeText => ""
  | noPart owner name => "'" ++ owner ++ "' object has no attribute '" ++ name ++ "'"
  | notCallable found => "'" ++ found ++ "' object is not callable"
  | noLength found => "object of type '" ++ found ++ "' has no len()"
  | notIterable found => "'" ++ found ++ "' object is not iterable"
  | unhashable found => "unhashable type: '" ++ found ++ "'"
  | signalingKey => "Cannot hash a signaling NaN value"
  | signalingCompared => "[<class 'decimal.InvalidOperation'>]"
  | realWanted found => "must be real number, not " ++ found
  | tooLargeForFloat => "int too large to convert to float"
  | wholeWanted found =>
    "int() argument must be a string, a bytes-like object or a real number, not '" ++ found ++ "'"
  | wholeUnreadable base given =>
    "invalid literal for int() with base " ++ toString base ++ ": " ++
      String.ofList (given.display.toList.take 200)
  | tooLongToWrite => limitMessage ""
  | tooLongToRead digits => limitMessage (": value has " ++ toString digits ++ " digits")
  | noWholePart number _ => "cannot convert " ++ number ++ " to integer"
  | characterWanted found => "ord() expected string of length 1, but " ++ found ++ " found"
  | oneCharacterWanted length =>
    "ord() expected a character, but string of length " ++ toString length ++ " found"
  | byteInText position =>
    "sequence item " ++ toString position ++ ": expected str instance, bytes found"
  | notExtendable found => extensionMessage found
  | bytesLikeWanted => "a bytes-like object is required, not 'str'"
  | unexpectedPart owner part =>
    owner ++ ".__init__() got an unexpected keyword argument '" ++ part ++ "'"
  | missingParts owner parts =>
    owner ++ ".__init__() missing " ++ toString parts.length ++ " required positional argument" ++
      (if parts.length = 1 then "" else "s") ++ ": " ++ enumerate parts
  | takesNoParts owner => owner ++ "() takes no arguments"
  | memberDefinedTwice name first => "'" ++ name ++ "' already defined as " ++ first.display
  | badMemberName name => "invalid enum member name(s) " ++ Text.Display.text name
  | reservedMemberName name =>
    "_sunder_ names, such as " ++ Text.Display.text name ++ ", are reserved for future Enum use"
  | unknownMember name => Text.Display.text name
  | textWanted => "int() can't convert non-string with explicit base"
  | baseWanted found => "'" ++ found ++ "' object cannot be interpreted as an integer"
  | badBase => "int() base must be >= 2 and <= 36, or 0"
  | textDecoded => "decoding str is not supported"
  | bytesWanted found => "decoding to str: need a bytes-like object, " ++ found ++ " found"
  | choiceWanted choice given =>
    "str() argument '" ++ choice ++ "' must be str, not " ++
      (if given.isNull then "None" else given.fullName)
  | tooManyIngredients made most given =>
    made ++ "() takes at most " ++ toString most ++ " arguments (" ++ toString given ++ " given)"
  | undecodable error => error.message

end Fault
end GraphQL
