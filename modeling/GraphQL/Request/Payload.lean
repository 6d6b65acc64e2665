import GraphQL.Data.Equality
import GraphQL.Request.Json

/-!
# Payloads

What is sent to a service: the text of a request, values for its variables, and
the name of the operation to run.  Records that are values of variables, or items
of lists that are, lose their null fields when they are taken in; everything else
is turned into JSON when the payload is made.  A null that is the value of a
variable is sent, an empty set of values is not.
-/

namespace GraphQL

/-- What is wrong with a part of a request. -/
inductive IssueKind
  | missing
  | noText
  | badText
  | badValue
  deriving DecidableEq, Repr

namespace IssueKind

/-- The name of what is wrong. -/
def text : IssueKind → String
  | missing => "missing"
  | noText => "string_type"
  | badText => "string_unicode"
  | badValue => "value_error"

end IssueKind

/-- What is wrong with a part of a request, and with which part. -/
structure Issue where
  /-- The path to the part. -/
  path : List String
  /-- What is wrong. -/
  kind : IssueKind
  deriving DecidableEq, Repr

namespace Issue

/-- What is said about an issue. -/
def message (issue : Issue) : String :=
  Text.Lines.joinWith "." issue.path ++ ": " ++ issue.kind.text

end Issue

/-- Why no payload can be made. -/
inductive PayloadFault
  | request (fault : Fault)
  | send (fault : SendFault)
  | issues (issues : List Issue)

/-- A request that is ready to be sent. -/
structure Request where
  /-- The text of the request. -/
  query : String
  /-- The values of variables, if there are any. -/
  variables? : Option (List (String × Datum))
  /-- The name of the operation to run, if one is chosen. -/
  operationName? : Option String

/-- What is sent to a service. -/
structure Payload where
  /-- The text of the request. -/
  query : String
  /-- The values of variables, if there are any. -/
  variables? : Option (List (String × JsonValue))
  /-- The name of the operation to run, if one is chosen. -/
  operationName? : Option String

namespace Payload

/-- A payload as a JSON object, whose members are there only as far as they say
something. -/
def toJson (payload : Payload) : JsonValue :=
  .object (("query", .text payload.query) ::
    ((payload.variables?.map fun members => ("variables", JsonValue.object members)).toList ++
      (payload.operationName?.map fun name => ("operationName", JsonValue.text name)).toList))

end Payload

namespace Request

/-! ## Values of variables -/

/-- A record without its null fields, as it will be sent; other data as it is. -/
def takeRecord : Datum → Except SendFault Datum
  | .model serial fields => ((Datum.model serial fields).toJson true).map JsonValue.toDatum
  | datum => .ok datum

/-- The value of a variable as it is taken in. -/
def takeValue : Datum → Except SendFault Datum
  | .list items => (items.mapM takeRecord).map .list
  | datum => takeRecord datum

/-- The values of variables as they are taken in, by name. -/
def takeVariables (entries : List (Datum × Datum)) : Except SendFault (List (Datum × Datum)) :=
  entries.mapM fun entry => do
    return (entry.1, ← takeValue entry.2)

/-- The dictionary of values of variables, as it is taken in. -/
def serializeVariables (given : Datum) : Except PayloadFault Datum :=
  match given with
  | .dict entries => ((takeVariables entries).map .dict).mapError .send
  | other => .error (.request (other.cannot "items"))

/-! ## Taking in a request -/

/-- The text that data is taken for, or what is wrong with it. -/
def takeText (given : Datum) : Except Fault (Except IssueKind String) :=
  match given.asText?, given with
  | some text, _ => .ok (.ok text)
  | none, .scalar (.bytes value) => .ok ((Text.Utf8.decode value).mapError fun _ => .badText)
  | none, .member _ _ value _ => value.shown.map .ok
  | none, _ => .ok (.error .noText)

/-- A part of a request with the issues that it raises. -/
abbrev Checked (α : Type) := List Issue × Option α

/-- A text as a part of a request. -/
def checkText (path : List String) (given : Datum) : Except Fault (Checked String) := do
  match ← takeText given with
  | .ok text => return ([], some text)
  | .error kind => return ([⟨path, kind⟩], none)

/-- A key as a step of a path, where a truth value counts as a number.  A key that cannot
be shown is told by its class. -/
def keyStep (key : Datum) : String :=
  match key.asText?, key with
  | some text, _ => text
  | none, .bool value => if value then "1" else "0"
  | none, key =>
    if key.showsLong then "<unprintable " ++ key.className ++ " object>" else key.display

/-- The name of a variable as a part of a request. -/
def checkKey (key : Datum) : Except Fault (Checked String) :=
  checkText ["variables", keyStep key, "[key]"] key

/-- Entries by name: a name that is there keeps its place. -/
def insertNamed (name : String) (value : Datum) : List (String × Datum) → List (String × Datum)
  | [] => [(name, value)]
  | entry :: entries =>
    if entry.1 = name then (entry.1, value) :: entries
    else entry :: insertNamed name value entries

/-- The values of variables as a part of a request. -/
def checkEntries (entries : List (Datum × Datum)) :
    Except Fault (Checked (List (String × Datum))) := do
  let keys ← entries.mapM fun entry => do return (← checkKey entry.1, entry.2)
  return (keys.flatMap (·.1.1), some (keys.foldl (fun named entry =>
    match entry.1.2 with
    | some name => insertNamed name entry.2 named
    | none => named) []))

/-- The optional values of variables as a part of a request. -/
def checkVariables (given : Datum) :
    Except PayloadFault (Checked (Option (List (String × Datum)))) :=
  match given with
  | .null => .ok ([], some none)
  | .dict entries =>
    match takeVariables entries with
    | .ok taken => do
      let (issues, named?) ← (checkEntries taken).mapError .request
      return (issues, named?.map some)
    | .error (.notText _) | .error (.unknownThing _) => .ok ([⟨["variables"], .badValue⟩], none)
    | .error fault => .error (.send fault)
  | other => .error (.request (other.cannot "items"))

/-- An optional name as a part of a request. -/
def checkName (given : Datum) : Except Fault (Checked (Option String)) :=
  match given with
  | .null => .ok ([], some none)
  | given => do
    let (issues, name?) ← checkText ["operationName"] given
    return (issues, name?.map some)

/-- A request from its parts; a part that is not given is `none`.  All issues are
reported together, in the order of the parts. -/
def take (query? : Option Datum) (values operationName : Datum) :
    Except PayloadFault Request := do
  let (queryIssues, query) ←
    match query? with
    | some given => (checkText ["query"] given).mapError .request
    | none => pure ([⟨["query"], .missing⟩], none)
  let (variableIssues, values) ← checkVariables values
  let (nameIssues, name) ← (checkName operationName).mapError .request
  match queryIssues ++ variableIssues ++ nameIssues, query, values, name with
  | [], some query, some variables?, some name? => return ⟨query, variables?, name?⟩
  | issues, _, _, _ => throw (.issues issues)

/-- A request from named parts, of which the name of the operation may go by
either of two names. -/
def ofParts (parts : List (String × Datum)) : Except PayloadFault Request :=
  let find (name : String) : Option Datum := (parts.find? fun part => part.1 = name).map (·.2)
  let name := (find "operationName").getD ((find "operation_name").getD .null)
  take (find "query") ((find "variables").getD .null) name

/-! ## Sending a request -/

/-- The values of variables as they are sent. -/
def sentVariables (values : List (String × Datum)) :
    Except SendFault (List (String × JsonValue)) :=
  values.mapM fun entry => do
    return (entry.1, ← entry.2.toJson false)

/-- The payload of a request. -/
def toPayload (request : Request) : Except PayloadFault Payload := do
  let sent ← (sentVariables (request.variables?.getD [])).mapError .send
  return ⟨request.query, if sent.isEmpty then none else some sent, request.operationName?⟩

/-- The names of the operations of a document. -/
def operationNames (document : Datum) : Except Fault (List Datum) :=
  match document with
  | .document definitions => do
    let all ← definitions.elements
    return (all.filter Datum.isOperation).filterMap fun operation => operation.part? "name"
  | other => .error (other.cannot "to_request")

/-- Refuses the name of an operation that the document does not have. -/
def checkOperation (document name : Datum) : Except Fault Unit := do
  let names ← operationNames document
  if name.isNull then return ()
  else
    Key.check name
    if names.any name.same then return () else throw (.unknownOperation (← name.shown))

/-- The request for a document, with values for its variables and, if it is not
null, the name of the operation to run. -/
def ofDocument (document values name : Datum) (layout : Layout) :
    Except PayloadFault Request := do
  (checkOperation document name).mapError .request
  let query ← (document.build layout).mapError .request
  take (some (.text query)) values name

end Request
end GraphQL
