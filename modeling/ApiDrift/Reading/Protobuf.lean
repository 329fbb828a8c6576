import ApiDrift.Spec
import ApiDrift.Text.Scan

/-!
# Service definitions

A text of services and messages. Every remote call of a service is an operation with one parameter,
its request; every message is a schema, whose fields are required when they say so. Streams, nested
messages and map fields are not understood.
-/

namespace ApiDrift.Protobuf

open ApiDrift.Text

/-- A service or message: its name and what stands in its braces. -/
structure Block where
  name : List Char
  body : List Char
deriving DecidableEq, Repr

structure Call where
  name : List Char
  request : List Char
  response : List Char
deriving DecidableEq, Repr

structure Field where
  modifier : Option String
  type : List Char
  name : List Char
deriving DecidableEq, Repr

/-- A block that begins with a keyword. -/
def block? (keyword : String) : Recogniser Block := fun cs => do
  let rest ← literal? keyword cs
  let (name, rest) ← blankWord? rest
  let (body, rest) ← braced? (skipBlanks rest)
  return (⟨name, body⟩, rest)

/-- A word in parentheses. -/
def inParentheses? : Recogniser (List Char) := fun cs => do
  let rest ← char? '(' cs
  let (w, rest) ← word? rest
  let rest ← char? ')' rest
  return (w, rest)

/-- A remote call with its request and response. -/
def call? : Recogniser Call := fun cs => do
  let rest ← literal? "rpc" cs
  let (name, rest) ← blankWord? rest
  let (request, rest) ← inParentheses? (skipBlanks rest)
  let rest ← literal? "returns" (skipBlanks rest)
  let (response, rest) ← inParentheses? (skipBlanks rest)
  return (⟨name, request, response⟩, rest)

/-- Type, name and number of a field. -/
def numbered? (modifier : Option String) : Recogniser Field := fun cs => do
  let (type, rest) ← word? cs
  let (name, rest) ← blankWord? rest
  let rest ← char? '=' (skipBlanks rest)
  let rest := skipBlanks rest
  let number := rest.takeWhile isDigit
  if number.isEmpty then none else some (⟨modifier, type, name⟩, rest.dropWhile isDigit)

def modifiers : List String := ["optional", "required", "repeated"]

/-- A field that begins with a modifier. -/
def modified? (modifier : String) : Recogniser Field := fun cs => do
  let rest ← literal? modifier cs
  let rest ← blanks? rest
  numbered? (some modifier) rest

/-- A field, with its modifier where one stands in front of type and name. -/
def field? : Recogniser Field := fun cs =>
  (modifiers.findSome? fun m => modified? m cs).or (numbered? none cs)

def Call.endpoint (service : String) (c : Call) : Endpoint :=
  let name := String.ofList c.name
  { id := service ++ "-" ++ name
    path := "/" ++ service ++ "/" ++ name
    method := "RPC"
    operationId := some name
    parameters :=
      [{ name := "request", location := "body", type := String.ofList c.request, required := true }]
    responses := [{ statusCode := "200", description := String.ofList c.response }]
    tags := [service] }

def Field.property (f : Field) : Property :=
  { name := String.ofList f.name
    type := String.ofList f.type
    required := f.modifier == some "required" }

/-- The operations of a service. -/
def Block.endpoints (b : Block) : List Endpoint :=
  (findAll call? b.body).map (Call.endpoint (String.ofList b.name))

/-- The schema of a message. -/
def Block.schema (b : Block) : Schema :=
  let properties := (findAll field? b.body).map Field.property
  { name := String.ofList b.name
    type := "message"
    properties
    required := (properties.filter (·.required)).map (·.name) }

/-- The specification of a text of services and messages. -/
def readSpec (cs : List Char) : Spec :=
  { name := "Protocol Buffer Service"
    version := "1.0.0"
    format := .grpc
    endpoints := (findAll (block? "service") cs).flatMap Block.endpoints
    schemas := (findAll (block? "message") cs).map Block.schema }

end ApiDrift.Protobuf
