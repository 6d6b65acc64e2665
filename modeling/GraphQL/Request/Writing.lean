import GraphQL.Request.Key
import GraphQL.Request.Layout
import GraphQL.Request.Numeral
import GraphQL.Request.Part

/-!
# Writing nodes

Before a node is laid out as text, it is turned into what is written for it.  All
that can go wrong in writing goes wrong here, in the order in which the text would
be written; laying out the result cannot fail and does not depend on what went
wrong.

A node holds its children in any collection, and whatever has the parts of a child
is written as one: an argument is anything with a name and a value.  A name counts
as its text where it stands alone and is put into running text elsewhere, and
putting data into running text may again mean writing a document.
-/

namespace GraphQL
namespace Written

open Text (Lines.joinWith)

/-- Something else than a collection of nodes where one is wanted: it may be gone
through, but must not yield anything.  `refuse` says why an item is refused. -/
def noItems {α : Type} (refuse : Datum → Fault) (given : Datum) : Except Fault (List α) := do
  match ← given.elements with
  | [] => return []
  | item :: _ => throw (refuse item)

/-- An item has no name. -/
def nameless (item : Datum) : Fault :=
  .noPart item.fullName "name"

/-- What is written for the arguments that data without any stands for: nothing is, if
it counts as false. -/
def noArguments (given : Datum) : Except Fault (Option (List (String × Value))) :=
  if given.truthy then (noItems nameless given).map some else .ok none

/-! ## Types -/

/-- The reference to a type that a node writes inside other text. -/
def typeRef : Datum → Except Fault Source.TypeRef
  | .namedType name => .ok (.named name.shown)
  | .listType of => (typeRef of).map .list
  | .nonNullType of => (typeRef of).map .nonNull
  | .bare .typeRef _ => .error .noTypeText
  | other => .error (other.cannot "render")

/-- The text of a reference to a type that stands alone. -/
def typeText : Datum → Except Fault String
  | .namedType name => .ok name.text
  | other => (typeRef other).map Source.TypeRef.print

/-! ## Strings -/

/-- A piece of a string literal. -/
inductive Piece
  | character (c : Char)
  | byte (value : UInt8)

namespace Piece

/-- The character that a piece stands for. -/
def char : Piece → Char
  | character c => c
  | byte value => Char.ofNat value.toNat

/-- The piece is spelled out or is a character. -/
def isText : Piece → Bool
  | character _ => true
  | byte value => Text.Quoted.isControl (Char.ofNat value.toNat)

/-- The piece in a literal.  A byte is spelled out by its number. -/
def literal : Piece → List Char
  | character c => Text.Quoted.encodeChar Text.Quoted.isControl c
  | byte value => Text.Quoted.unicodeEscape (Char.ofNat value.toNat)

end Piece

/-- The piece that an item of a string stands for: it has to be a single character
or a single byte. -/
def piece (item : Datum) : Except Fault Piece := do
  Key.check item
  match item.asText?.map String.toList, item with
  | some [c], _ => return .character c
  | some cs, _ => throw (.oneCharacterWanted cs.length)
  | none, .scalar (.bytes [value]) => return .byte value
  | none, .scalar (.bytes values) => throw (.oneCharacterWanted values.length)
  | none, item => throw (.characterWanted item.fullName)

/-- The string literal that is made of pieces.  A byte that is not spelled out
cannot be put among characters. -/
def ofPieces (pieces : List Piece) : Except Fault Value :=
  match pieces.findIdx? fun piece => !piece.isText with
  | some position => .error (.byteInText position)
  | none =>
    if pieces.all fun piece => piece matches .character _ then
      .ok (.string (String.ofList (pieces.map Piece.char)))
    else .ok (.spelled (String.ofList ('"' :: (pieces.flatMap Piece.literal ++ ['"']))))

/-- The string literal of some data. -/
def stringLiteral (given : Datum) : Except Fault Value :=
  match given.asText? with
  | some text => .ok (.string text)
  | none => do ofPieces (← (← given.elements).mapM piece)

/-! ## Operations -/

/-- What an operation opens with: the value of its kind, which more is added to. -/
inductive Head
  | word (text : String)
  | list (items : List Datum)
  | fixed (found : String)

namespace Head

/-- What an operation of a kind opens with. -/
def of (kind : Datum) : Except Fault Head := do
  let value ← kind.part "value"
  match value.asText?, value with
  | some text, _ => return .word text
  | none, .list items => return .list items
  | none, value => return .fixed value.fullName

/-- Refuses to add to what cannot be added to. -/
def check : Head → Except Fault Unit
  | fixed found => .error (.notExtendable found)
  | _ => .ok ()

/-- Refuses a list that cannot be shown. -/
def checkShown : Head → Except Fault Unit
  | list items => if Datum.itemsShowLong items then .error .tooLongToWrite else .ok ()
  | _ => .ok ()

/-- A list with the characters of a text at its end, as it is shown. -/
def listText (items : List Datum) (added : String) : String :=
  Datum.display (.list (items ++ added.toList.map fun c => .text (String.singleton c)))

/-- The operation with everything that follows its head. -/
def operation (head : Head) (name? : Option String)
    (declared? : Option (List VariableDefinition)) (directives : List Directive)
    (selections? : Option (List Selection)) : Except Fault Definition :=
  match head with
  | word text => .ok (.operation text name? declared? directives selections?)
  | list items =>
    .ok (.listed (listText items (Layout.operationName name? ++
      Layout.variableDefinitions declared? ++ Layout.directives directives)) selections?)
  | fixed found => .error (.notExtendable found)

end Head

/-! ## Nodes -/

/-- The text that shows some data, unless a number in it is too long to be shown. -/
def legible (given : Datum) (text : String) : Except Fault String :=
  if given.showsLong then .error .tooLongToWrite else .ok text

/-- A value that is put into running text: the symbol of an enum is then shown. -/
def embed (given : Datum) (written : Value) : Value :=
  match given with
  | .enumValue symbol => .enum symbol.shown
  | _ => written

mutual

/-- Data as put into running text. -/
def shown : Datum → Except Fault String
  | .scalar value => legible (.scalar value) value.shown
  | .member family name _ _ => .ok (family.name ++ "." ++ name)
  | .model serial fields =>
    legible (.model serial fields) (Lines.joinWith " " (Datum.displayFields fields))
  | .namedType name => .ok name.text
  | .listType of => (typeRef of).map fun type => (Source.TypeRef.list type).print
  | .nonNullType of => (typeRef of).map fun type => (Source.TypeRef.nonNull type).print
  | .bare .typeRef _ => .error .noTypeText
  | .document definitions => (definitionsOf definitions).map Layout.standard.document
  | other => legible other other.display

/-- The field of a record as put into running text. -/
def shownField (name : String) : List (FieldName × Datum) → Except Fault String
  | [] => .error (.noPart "M" name)
  | (label, given) :: fields =>
    if label.name = name then shown given else shownField name fields

/-- The name of an item as put into running text. -/
def nameOf : Datum → Except Fault String
  | .namedType name | .objectField name _ | .argument name _ | .variable name _ _
  | .directive name _ | .field name _ _ _ _ | .fragmentSpread name _
  | .fragmentDefinition name _ _ _ => .ok name.shown
  | .operation _ name? _ _ _ => .ok ((name?.map Label.shown).getD "None")
  | .member _ name _ _ => .ok name
  | .model _ fields => shownField "name" fields
  | other => .error (nameless other)

/-- What is written for a value. -/
def value : Datum → Except Fault Value
  | .variable name _ _ => .ok (.variable name.shown)
  | .nullValue => .ok .null
  | .booleanValue given => .ok (.boolean given.truthy)
  | .intValue given => (Numeral.whole given).map .int
  | .floatValue given => (Numeral.fractional given).map .float
  | .stringValue given => stringLiteral given
  | .enumValue symbol => .ok (.enum symbol.text)
  | .listValue given => (valuesOf given).map .list
  | .objectValue given => (argumentsOf given).map fun fields => .object (fields.getD [])
  | other => .error (.misplaced .value other.className)

/-- What is written for the values of a collection. -/
def valuesOf : Datum → Except Fault (List Value)
  | .list items | .tuple items | .set items => values items
  | .dict entries => keyValues entries
  | other => noItems (fun item => .misplaced .value item.className) other

/-- What is written for values. -/
def values : List Datum → Except Fault (List Value)
  | [] => .ok []
  | item :: items => do
    let first ← value item
    return first :: (← values items)

/-- What is written for the values that are keys. -/
def keyValues : List (Datum × Datum) → Except Fault (List Value)
  | [] => .ok []
  | (item, _) :: entries => do
    let first ← value item
    return first :: (← keyValues entries)

/-- The field of a record as a value. -/
def valueField (name : String) : List (FieldName × Datum) → Except Fault Value
  | [] => .error (.noPart "M" name)
  | (label, given) :: fields =>
    if label.name = name then (value given).map (embed given) else valueField name fields

/-- What is written for the value of an item. -/
def valueOf : Datum → Except Fault Value
  | .objectField _ given | .argument _ given | .member _ _ given _ =>
    (value given).map (embed given)
  | .model _ fields => valueField "value" fields
  | other => .error (.noPart other.fullName "value")

/-- What is written for the arguments of a collection, which are left out if it
counts as false. -/
def argumentsOf : Datum → Except Fault (Option (List (String × Value)))
  | .list [] | .tuple [] | .set [] | .dict [] => .ok none
  | .list items | .tuple items | .set items => (arguments items).map some
  | .dict entries => (keyArguments entries).map some
  | other => noArguments other

/-- What is written for arguments. -/
def arguments : List Datum → Except Fault (List (String × Value))
  | [] => .ok []
  | item :: items => do
    let name ← nameOf item
    let given ← valueOf item
    return (name, given) :: (← arguments items)

/-- What is written for the arguments that are keys. -/
def keyArguments : List (Datum × Datum) → Except Fault (List (String × Value))
  | [] => .ok []
  | (item, _) :: entries => do
    let name ← nameOf item
    let given ← valueOf item
    return (name, given) :: (← keyArguments entries)

/-- The field of a record as arguments. -/
def argumentsField (name : String) :
    List (FieldName × Datum) → Except Fault (Option (List (String × Value)))
  | [] => .error (.noPart "M" name)
  | (label, given) :: fields =>
    if label.name = name then argumentsOf given else argumentsField name fields

/-- What is written for the arguments of a directive. -/
def directiveArguments : Datum → Except Fault (Option (List (String × Value)))
  | .directive _ given | .field _ _ given _ _ => argumentsOf given
  | .model _ fields => argumentsField "arguments" fields
  | other => do noArguments (← other.part "arguments")

/-- What is written for the directives of a collection. -/
def directivesOf : Datum → Except Fault (List Directive)
  | .list items | .tuple items | .set items => directives items
  | .dict entries => keyDirectives entries
  | other => noItems nameless other

/-- What is written for directives. -/
def directives : List Datum → Except Fault (List Directive)
  | [] => .ok []
  | item :: items => do
    let name ← nameOf item
    let arguments? ← directiveArguments item
    return ⟨name, arguments?⟩ :: (← directives items)

/-- What is written for the directives that are keys. -/
def keyDirectives : List (Datum × Datum) → Except Fault (List Directive)
  | [] => .ok []
  | (item, _) :: entries => do
    let name ← nameOf item
    let arguments? ← directiveArguments item
    return ⟨name, arguments?⟩ :: (← keyDirectives entries)

/-- What is written for a selection. -/
def selection : Datum → Except Fault Selection
  | .field name none given applied selected => do
    let arguments? ← argumentsOf given
    let directives ← directivesOf applied
    return .field none name.text arguments? directives (← selectionsOf selected)
  | .field name (some label) given applied selected => do
    let arguments? ← argumentsOf given
    let directives ← directivesOf applied
    return .field (some label.shown) name.shown arguments? directives (← selectionsOf selected)
  | .fragmentSpread name applied => (directivesOf applied).map (.spread name.shown)
  | .inlineFragment condition? applied selected => do
    let directives ← directivesOf applied
    return .inlineFragment (condition?.map Label.shown) directives (← selectionsOf selected)
  | other => .error (.misplaced .selection other.className)

/-- What is written for the selections of a collection, which are left out if it
counts as false. -/
def selectionsOf : Datum → Except Fault (Option (List Selection))
  | .list [] | .tuple [] | .set [] | .dict [] => .ok none
  | .list items | .tuple items | .set items => (selections items).map some
  | .dict entries => (keySelections entries).map some
  | other =>
    if other.truthy then
      (noItems (fun item => .misplaced .selection item.className) other).map some
    else .ok none

/-- What is written for selections. -/
def selections : List Datum → Except Fault (List Selection)
  | [] => .ok []
  | item :: items => do
    let first ← selection item
    return first :: (← selections items)

/-- What is written for the selections that are keys. -/
def keySelections : List (Datum × Datum) → Except Fault (List Selection)
  | [] => .ok []
  | (item, _) :: entries => do
    let first ← selection item
    return first :: (← keySelections entries)

/-- What is written for the default value of a variable. -/
def defaultOf : Datum → Except Fault (Option Value)
  | .variable _ _ .null => .ok none
  | .variable _ _ given => (value given).map fun written => some (embed given written)
  | .model serial fields => do
    let declared ← (Datum.model serial fields).part "has_default"
    if declared.truthy then return some (← valueField "default" fields) else return none
  | other => do
    let declared ← other.part "has_default"
    if declared.truthy then throw (.misplaced .value (← other.part "default").className)
    else return none

/-- What is written for the variables of a collection, which are left out if it
counts as false. -/
def variablesOf : Datum → Except Fault (Option (List VariableDefinition))
  | .list [] | .tuple [] | .set [] | .dict [] => .ok none
  | .list items | .tuple items | .set items => (declarations items).map some
  | .dict entries => (keyDeclarations entries).map some
  | other => if other.truthy then (noItems nameless other).map some else .ok none

/-- What is written for the declarations of variables. -/
def declarations : List Datum → Except Fault (List VariableDefinition)
  | [] => .ok []
  | item :: items => do
    let name ← nameOf item
    let type ← typeRef (← item.part "type")
    let default? ← defaultOf item
    return ⟨name, type, default?⟩ :: (← declarations items)

/-- What is written for the declarations of variables that are keys. -/
def keyDeclarations : List (Datum × Datum) → Except Fault (List VariableDefinition)
  | [] => .ok []
  | (item, _) :: entries => do
    let name ← nameOf item
    let type ← typeRef (← item.part "type")
    let default? ← defaultOf item
    return ⟨name, type, default?⟩ :: (← keyDeclarations entries)

/-- What is written for a definition.  A kind that cannot be added to is refused as
soon as something has to be added, and one that cannot be shown before its selections. -/
def definition : Datum → Except Fault Definition
  | .operation kind name? declared applied selected => do
    let head ← Head.of kind
    if name?.isSome then head.check
    let declared? ← variablesOf declared
    if declared?.isSome then head.check
    let directives ← directivesOf applied
    head.check
    head.checkShown
    let selections? ← selectionsOf selected
    head.operation (name?.map Label.shown) declared? directives selections?
  | .fragmentDefinition name condition applied selected => do
    let directives ← directivesOf applied
    return .fragment name.shown condition.shown directives (← selectionsOf selected)
  | other => .error (.misplaced .definition other.className)

/-- What is written for the definitions of a collection, which has to have a
length. -/
def definitionsOf : Datum → Except Fault (List Definition)
  | .list items | .tuple items | .set items => definitions items
  | .dict entries => keyDefinitions entries
  | .model _ [] => .error (.noLength "M")
  | other => noItems (fun item => .misplaced .definition item.className) other

/-- What is written for definitions. -/
def definitions : List Datum → Except Fault (List Definition)
  | [] => .ok []
  | item :: items => do
    let first ← definition item
    return first :: (← definitions items)

/-- What is written for the definitions that are keys. -/
def keyDefinitions : List (Datum × Datum) → Except Fault (List Definition)
  | [] => .ok []
  | (item, _) :: entries => do
    let first ← definition item
    return first :: (← keyDefinitions entries)

end

/-- What is written for the declaration of one variable. -/
def variableDefinition (given : Datum) : Except Fault VariableDefinition := do
  let name ← nameOf given
  let type ← typeRef (← given.part "type")
  return ⟨name, type, ← defaultOf given⟩

/-- What is written for a document.  Only a document can be built. -/
def document : Datum → Except Fault (List Definition)
  | .document given => definitionsOf given
  | other => .error (other.cannot "build")

end Written

namespace Datum

/-- Data as put into running text. -/
def shown (given : Datum) : Except Fault String :=
  Written.shown given

/-- The text of a request document. -/
def build (document : Datum) (layout : Layout) : Except Fault String :=
  (Written.document document).map layout.document

/-- The text of a value inside a request. -/
def valueText (given : Datum) : Except Fault String :=
  (Written.value given).map Layout.value

/-- The text of a reference to a type. -/
def typeText (given : Datum) : Except Fault String :=
  Written.typeText given

/-- The text of the declaration of a variable. -/
def declarationText (given : Datum) : Except Fault String :=
  (Written.variableDefinition given).map Layout.variableDefinition

/-- The text of a definition. -/
def definitionText (given : Datum) (layout : Layout) : Except Fault String :=
  (Written.definition given).map layout.definition

end Datum
end GraphQL
