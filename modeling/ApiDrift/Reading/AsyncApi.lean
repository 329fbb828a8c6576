import ApiDrift.Reading.Schemas

/-!
# Descriptions of message channels

Each channel has up to two endpoints, one to subscribe and one to publish. Messages, channel
parameters and servers are not read.
-/

namespace ApiDrift.Reading.AsyncApi

open Checking

/-- The operations of a channel: key, mark in the id, and method. -/
def operationKinds : List (String × String × String) :=
  [("subscribe", "SUB", "SUBSCRIBE"), ("publish", "PUB", "PUBLISH")]

/-- The names of tags: of mappings the name, where they have one, and other values as they are. -/
def tagNames (tags : List Document) : Shaped (List String) :=
  each shown (tags.filterMap fun tag => match tag with
    | .map es => Document.get? es "name"
    | .cycle .mapping => none
    | v => some v)

def endpoint (key : Document) (mark method : String) (es : Document.Entries) : Shaped Endpoint := do
  let channel ← shown key
  let members ← membersOrNone (Document.get es "tags")
  let tags ← tagNames members
  assemble "Endpoint"
    ((fun operationId summary description =>
        { id := mark ++ "-" ++ channel, path := channel, method, operationId, summary, description
          deprecated := (Document.get es "deprecated").isTruthy, tags }) <$>
      textField "operation_id" (Document.get es "operationId") <*>
      textField "summary" (Document.get es "summary") <*>
      textField "description" (Document.get es "description"))

/-- The operations of a document that count as something: channel, mark, method and entries. -/
def operations (channels : Document.Entries) :
    List (Document × String × String × Document.Entries) :=
  channels.flatMap fun c =>
    operationKinds.filterMap fun kind =>
      let v := Document.get c.2.entries kind.1
      if v.isTruthy then some (c.1, kind.2.1, kind.2.2, v.entries) else none

/-- The specification of the entries of a document. -/
def ofEntries (doc : Document.Entries) : Shaped Spec := do
  let info := sub doc "info"
  let endpoints ← each (fun o => endpoint o.1 o.2.1 o.2.2.1 o.2.2.2)
    (operations (sub doc "channels"))
  let schemas ← schemas (sub (sub doc "components") "schemas")
  let name ← shownOr "Untitled AsyncAPI" (Document.get info "title")
  let version ← shownOr "1.0.0" (Document.get info "version")
  return { name, version, format := .asyncapi, endpoints, schemas }

/-- The specification of a document, which must be a mapping. -/
def ofDocument (doc : Document) : Shaped Spec :=
  match doc with
  | .map es => ofEntries es
  | v => .error (.notMapping v.typeName)

end ApiDrift.Reading.AsyncApi
