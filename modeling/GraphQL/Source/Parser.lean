import GraphQL.Source.Document
import GraphQL.Source.Lexer

/-!
# Reading documents

The parser looks at one token at a time, and at the one after it only to see
what a description describes.  An error in the text of a token is met when the
parser moves onto that token.

Two bounds keep the parser total without limiting what it reads.  A sequence has
no more items than there are tokens left, since every item takes a token, and
nothing is nested deeper than there are tokens left, since every bracket takes a
token; one attempt more than that meets the end of the text.
-/

namespace GraphQL
namespace Source

/-- A place between tokens: the token to be read next and what comes after it. -/
structure Cursor where
  /-- The token to be read next. -/
  current : Token
  /-- The tokens after it. -/
  ahead : List Token
  /-- What follows the last of them. -/
  ending : Except SyntaxError Nat

namespace Cursor

/-- The place after the current token. -/
def advance (cursor : Cursor) : Except SyntaxError Cursor :=
  match cursor.ahead with
  | token :: ahead => .ok ⟨token, ahead, cursor.ending⟩
  | [] =>
    match cursor.ending with
    | .error error => .error error
    | .ok position => .ok ⟨⟨.endOfText, position⟩, [], cursor.ending⟩

/-- The place before the first token. -/
def start (tokens : Tokens) : Except SyntaxError Cursor :=
  advance ⟨⟨.endOfText, 0⟩, tokens.read, tokens.ending⟩

end Cursor

/-- A reader of tokens. -/
abbrev Parser := StateT Cursor (Except SyntaxError)

namespace Parser

variable {α : Type}

/-! ## Single tokens -/

/-- The current token. -/
def peek : Parser Token := do
  return (← get).current

/-- Moves past the current token. -/
def next : Parser Unit := do
  set (← (← get).advance)

/-- The token after the current one. -/
def lookahead : Parser Token := do
  return (← (← get).advance).current

/-- Refuses a token. -/
def unexpected (token : Token) : Parser α :=
  throw ⟨.unexpected token.lexeme, token.start⟩

/-- Refuses a token in place of something wanted. -/
def wrong (wanted : Wanted) (token : Token) : Parser α :=
  throw ⟨.expected wanted token.lexeme, token.start⟩

/-- The current token is a punctuator. -/
def isAt (mark : Punctuator) : Parser Bool := do
  return (← peek).lexeme = .punctuator mark

/-- Reads a punctuator. -/
def expect (mark : Punctuator) : Parser Unit := do
  let token ← peek
  if token.lexeme = .punctuator mark then next else wrong (.punctuator mark) token

/-- Reads a punctuator if it is there, and says whether it was. -/
def optional (mark : Punctuator) : Parser Bool := do
  if ← isAt mark then
    next
    return true
  else
    return false

/-- Reads a keyword. -/
def keyword (word : String) : Parser Unit := do
  let token ← peek
  if token.lexeme = .name word then next else wrong (.keyword word) token

/-- Reads a keyword if it is there, and says whether it was. -/
def optionalKeyword (word : String) : Parser Bool := do
  if (← peek).lexeme = .name word then
    next
    return true
  else
    return false

/-- Reads a name. -/
def name : Parser String := do
  let token ← peek
  match token.lexeme with
  | .name text =>
    next
    return text
  | _ => wrong .name token

/-- Reads the end of the text. -/
def finish : Parser Unit := do
  let token ← peek
  if token.lexeme = .endOfText then return else wrong .endOfText token

/-! ## Sequences -/

/-- A number that the items of a sequence and the depth of nesting stay below.  The
current token and those after it can each be one item or bracket, and then one more
attempt meets the end of the text. -/
def bound : Parser Nat := do
  return (← get).ahead.length + 2

/-- At most as many items as the bound allows, up to a closing punctuator. -/
def itemsUntil (close : Punctuator) (item : Parser α) : Nat → Parser (List α)
  | 0 => do unexpected (← peek)
  | count + 1 => do
    if ← optional close then
      return []
    else
      let first ← item
      return first :: (← itemsUntil close item count)

/-- Items up to a closing punctuator. -/
def items (close : Punctuator) (item : Parser α) : Parser (List α) := do
  itemsUntil close item (← bound)

/-- At least one item up to a closing punctuator. -/
def someItems (close : Punctuator) (item : Parser α) : Parser (List α) := do
  let first ← item
  return first :: (← items close item)

/-- At least one item between punctuators. -/
def enclosed (opening close : Punctuator) (item : Parser α) : Parser (List α) := do
  expect opening
  someItems close item

/-- At least one item between punctuators, or nothing. -/
def optionalEnclosed (opening close : Punctuator) (item : Parser α) :
    Parser (List α) := do
  if ← optional opening then someItems close item else return []

/-- At most as many items as the bound allows, each after a delimiter. -/
def itemsAfter (delimiter : Punctuator) (item : Parser α) : Nat → Parser (List α)
  | 0 => return []
  | count + 1 => do
    if ← optional delimiter then
      let first ← item
      return first :: (← itemsAfter delimiter item count)
    else
      return []

/-- At least one item with a delimiter between neighbours, and perhaps one in
front. -/
def delimited (delimiter : Punctuator) (item : Parser α) : Parser (List α) := do
  let _ ← optional delimiter
  let first ← item
  return first :: (← itemsAfter delimiter item (← bound))

/-! ## Values and types -/

/-- Reads a value that is nested less deep than a bound.  A constant holds no
variable. -/
def valueWithin (constant : Bool) : Nat → Parser Value
  | 0 => do unexpected (← peek)
  | depth + 1 => do
    let token ← peek
    match token.lexeme with
    | .punctuator .bracketL =>
      next
      return .list (← items .bracketR (valueWithin constant depth))
    | .punctuator .braceL =>
      next
      return .object (← items .braceR do
        let field ← name
        expect .colon
        return (field, ← valueWithin constant depth))
    | .int text =>
      next
      return .int text
    | .float text =>
      next
      return .float text
    | .string text =>
      next
      return .string text false
    | .blockString text =>
      next
      return .string text true
    | .name word =>
      next
      return if word = "true" then .boolean true
        else if word = "false" then .boolean false
        else if word = "null" then .null
        else .enum word
    | .punctuator .dollar =>
      next
      if constant then
        match (← peek).lexeme with
        | .name word => throw ⟨.variableInConstant word, token.start⟩
        | _ => unexpected token
      else
        return .variable (← name)
    | _ => unexpected token

/-- Reads a value. -/
def value (constant : Bool) : Parser Value := do
  valueWithin constant (← bound)

/-- Reads a reference to a type that is nested less deep than a bound. -/
def typeRefWithin : Nat → Parser TypeRef
  | 0 => do unexpected (← peek)
  | depth + 1 => do
    let inner ←
      if ← optional .bracketL then
        let item ← typeRefWithin depth
        expect .bracketR
        pure (.list item)
      else
        pure (.named (← name))
    if ← optional .bang then return .nonNull inner else return inner

/-- Reads a reference to a type. -/
def typeRef : Parser TypeRef := do
  typeRefWithin (← bound)

/-- Reads the value given after an equals sign, if there is one. -/
def defaultValue : Parser (Option Value) := do
  if ← optional .equals then return some (← value true) else return none

/-! ## Arguments and directives -/

/-- Reads an argument. -/
def argument (constant : Bool) : Parser Argument := do
  let argumentName ← name
  expect .colon
  return ⟨argumentName, ← value constant⟩

/-- Reads the arguments in parentheses, if there are any. -/
def arguments (constant : Bool) : Parser (List Argument) :=
  optionalEnclosed .parenL .parenR (argument constant)

/-- Reads the rest of a directive after its sign. -/
def directiveBody (constant : Bool) : Parser Directive := do
  let directiveName ← name
  return ⟨directiveName, ← arguments constant⟩

/-- Reads directives as long as there are some. -/
def directives (constant : Bool) : Parser (List Directive) := do
  itemsAfter .atSign (directiveBody constant) (← bound)

/-! ## Operations and fragments -/

/-- Reads the name of a fragment, which cannot be `on`. -/
def fragmentName : Parser String := do
  let token ← peek
  if token.lexeme.value? = some "on" then unexpected token else name

/-- Reads a selection whose sets are nested less deep than a bound. -/
def selectionWithin : Nat → Parser Selection
  | 0 => do unexpected (← peek)
  | depth + 1 => do
    let selectionSet := enclosed .braceL .braceR (selectionWithin depth)
    if ← optional .spread then
      if ← optionalKeyword "on" then
        let condition ← name
        let applied ← directives false
        return .inlineFragment (some condition) applied (← selectionSet)
      else
        match (← peek).lexeme with
        | .name _ =>
          let fragment ← fragmentName
          return .spread fragment (← directives false)
        | _ =>
          let applied ← directives false
          return .inlineFragment none applied (← selectionSet)
    else
      let first ← name
      let (alias?, field) ←
        if ← optional .colon then pure (some first, ← name) else pure (none, first)
      let given ← arguments false
      let applied ← directives false
      let selections ← if ← isAt .braceL then selectionSet else pure []
      return .field alias? field given applied selections

/-- Reads a selection set. -/
def selectionSet : Parser (List Selection) := do
  enclosed .braceL .braceR (selectionWithin (← bound))

/-- Reads a kind of operation. -/
def operationKind : Parser OperationKind := do
  let token ← peek
  match token.lexeme with
  | .name word =>
    next
    match OperationKind.ofText? word with
    | some kind => return kind
    | none => unexpected token
  | _ => wrong .name token

/-- Reads the definition of a variable. -/
def variableDefinition : Parser VariableDefinition := do
  expect .dollar
  let variableName ← name
  expect .colon
  let type ← typeRef
  let default? ← defaultValue
  return ⟨variableName, type, default?, ← directives true⟩

/-- Reads an operation with its keyword. -/
def operation : Parser Definition := do
  let kind ← operationKind
  let name? ←
    match (← peek).lexeme with
    | .name _ => pure (some (← name))
    | _ => pure none
  let declared ← optionalEnclosed .parenL .parenR variableDefinition
  let applied ← directives false
  return .operation kind name? declared applied (← selectionSet)

/-- Reads a fragment. -/
def fragment : Parser Definition := do
  keyword "fragment"
  let fragment ← fragmentName
  keyword "on"
  let condition ← name
  let applied ← directives false
  return .fragment fragment condition applied (← selectionSet)

/-! ## Type systems -/

/-- The lexeme can be a description. -/
def isDescription : Lexeme → Bool
  | .string _ | .blockString _ => true
  | _ => false

/-- Reads a description if there is one. -/
def description : Parser (Option Description) := do
  match (← peek).lexeme with
  | .string text =>
    next
    return some ⟨text, false⟩
  | .blockString text =>
    next
    return some ⟨text, true⟩
  | _ => return none

/-- Reads a parameter or a field of an input type. -/
def inputValue : Parser InputValue := do
  let description? ← description
  let inputName ← name
  expect .colon
  let type ← typeRef
  let default? ← defaultValue
  return ⟨description?, inputName, type, default?, ← directives true⟩

/-- Reads parameters in parentheses, if there are any. -/
def parameters : Parser (List InputValue) :=
  optionalEnclosed .parenL .parenR inputValue

/-- Reads a field of an object or interface type. -/
def fieldDefinition : Parser FieldDefinition := do
  let description? ← description
  let fieldName ← name
  let given ← parameters
  expect .colon
  let type ← typeRef
  return ⟨description?, fieldName, given, type, ← directives true⟩

/-- Reads the fields of an object or interface type, if there are any. -/
def fieldDefinitions : Parser (List FieldDefinition) :=
  optionalEnclosed .braceL .braceR fieldDefinition

/-- Reads the interfaces of a type, if there are any. -/
def interfaces : Parser (List String) := do
  if ← optionalKeyword "implements" then delimited .amp name else return []

/-- Reads a value of an enum type, which cannot be a word for a constant. -/
def enumValueDefinition : Parser EnumValueDefinition := do
  let description? ← description
  let token ← peek
  if token.lexeme.value?.any Text.Name.isReserved then
    throw ⟨.enumValueReserved token.lexeme, token.start⟩
  let symbol ← name
  return ⟨description?, symbol, ← directives true⟩

/-- Reads the root type of a kind of operation. -/
def rootType : Parser RootType := do
  let kind ← operationKind
  expect .colon
  return ⟨kind, ← name⟩

/-- The keywords that introduce a named type. -/
def isTypeKeyword (word : String) : Bool :=
  word = "scalar" || word = "type" || word = "interface" || word = "union" ||
    word = "enum" || word = "input"

/-- Reads the rest of a named type after its keyword. -/
def typeDefinition (introduction : String) : Parser TypeDefinition := do
  let typeName ← name
  if introduction = "type" || introduction = "interface" then
    let implemented ← interfaces
    let applied ← directives true
    let fields ← fieldDefinitions
    if introduction = "type" then
      return ⟨typeName, applied, .object implemented fields⟩
    else
      return ⟨typeName, applied, .interface implemented fields⟩
  else
    let applied ← directives true
    if introduction = "union" then
      let members ← if ← optional .equals then delimited .pipe name else pure []
      return ⟨typeName, applied, .union members⟩
    else if introduction = "enum" then
      let values ← optionalEnclosed .braceL .braceR enumValueDefinition
      return ⟨typeName, applied, .enum values⟩
    else if introduction = "input" then
      return ⟨typeName, applied, .input (← optionalEnclosed .braceL .braceR inputValue)⟩
    else
      return ⟨typeName, applied, .scalar⟩

/-- The places where a directive may be applied. -/
def isDirectiveLocation (word : String) : Bool :=
  ["QUERY", "MUTATION", "SUBSCRIPTION", "FIELD", "FRAGMENT_DEFINITION", "FRAGMENT_SPREAD",
    "INLINE_FRAGMENT", "VARIABLE_DEFINITION", "SCHEMA", "SCALAR", "OBJECT",
    "FIELD_DEFINITION", "ARGUMENT_DEFINITION", "INTERFACE", "UNION", "ENUM", "ENUM_VALUE",
    "INPUT_OBJECT", "INPUT_FIELD_DEFINITION"].contains word

/-- Reads a place where a directive may be applied. -/
def directiveLocation : Parser String := do
  let token ← peek
  let word ← name
  if isDirectiveLocation word then return word else unexpected token

/-- Reads the rest of a directive's definition after its keyword. -/
def directiveDefinition : Parser DirectiveDefinition := do
  expect .atSign
  let directiveName ← name
  let given ← parameters
  let repeatable ← optionalKeyword "repeatable"
  keyword "on"
  return ⟨directiveName, given, repeatable, ← delimited .pipe directiveLocation⟩

/-- The keywords that introduce a definition of a type system. -/
def isTypeSystemKeyword (word : String) : Bool :=
  word = "schema" || word = "directive" || isTypeKeyword word

/-- Reads a definition of a type system whose keyword has been seen. -/
def typeSystemDefinition (introduction : String) : Parser Definition := do
  let description? ← description
  keyword introduction
  if introduction = "schema" then
    let applied ← directives true
    return .schema description? applied (← enclosed .braceL .braceR rootType)
  else if introduction = "directive" then
    return .directive description? (← directiveDefinition)
  else
    return .type description? (← typeDefinition introduction)

/-- Reads an extension, which has to hold something. -/
def extension : Parser Definition := do
  let token ← lookahead
  match token.lexeme with
  | .name word =>
    if word = "schema" then
      next
      next
      let applied ← directives true
      let roots ← optionalEnclosed .braceL .braceR rootType
      if applied.isEmpty && roots.isEmpty then unexpected (← peek)
      else return .schemaExtension applied roots
    else if isTypeKeyword word then
      next
      next
      let extended ← typeDefinition word
      if extended.directives.isEmpty && extended.body.isEmpty then unexpected (← peek)
      else return .typeExtension extended
    else unexpected token
  | _ => unexpected token

/-! ## Documents -/

/-- Reads a definition. -/
def definition : Parser Definition := do
  let token ← peek
  if token.lexeme = .punctuator .braceL then
    return .operation .query none [] [] (← selectionSet)
  else
    let described := isDescription token.lexeme
    let introduction ← if described then lookahead else pure token
    match introduction.lexeme with
    | .name word =>
      if isTypeSystemKeyword word then typeSystemDefinition word
      else if described then throw ⟨.descriptionMisplaced, token.start⟩
      else if (OperationKind.ofText? word).isSome then operation
      else if word = "fragment" then fragment
      else if word = "extend" then extension
      else unexpected introduction
    | _ => unexpected introduction

/-- Reads definitions up to the end of the text, at most as many as the bound
allows. -/
def definitionsWithin : Nat → Parser (List Definition)
  | 0 => do unexpected (← peek)
  | count + 1 => do
    if (← peek).lexeme = .endOfText then
      return []
    else
      let first ← definition
      return first :: (← definitionsWithin count)

/-- Reads a document, which has at least one definition. -/
def document : Parser Document := do
  let first ← definition
  return ⟨first :: (← definitionsWithin (← bound))⟩

/-- What a reader makes of a text, from its first token on. -/
def run (parser : Parser α) (text : String) : Except SyntaxError α := do
  let cursor ← Cursor.start (tokenize text)
  return (← StateT.run parser cursor).1

end Parser

namespace Document

/-- The document that a text stands for. -/
def parse (text : String) : Except SyntaxError Document :=
  Parser.run Parser.document text

end Document

namespace Value

/-- The value that a text stands for. -/
def parse (constant : Bool) (text : String) : Except SyntaxError Value :=
  Parser.run (do
    let value ← Parser.value constant
    Parser.finish
    return value) text

end Value

namespace TypeRef

/-- The reference to a type that a text stands for. -/
def parse (text : String) : Except SyntaxError TypeRef :=
  Parser.run (do
    let type ← Parser.typeRef
    Parser.finish
    return type) text

end TypeRef
end Source
end GraphQL
