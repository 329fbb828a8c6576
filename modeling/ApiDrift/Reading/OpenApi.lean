import ApiDrift.Reading.Schemas

/-!
# Descriptions of web services

Paths with their methods become endpoints. Both layouts are read: definitions under the components,
or at the top; type and default of a parameter in its schema, or on the parameter itself.
-/

namespace ApiDrift.Reading.OpenApi

open Checking

/-- The methods that are operations, with their names. -/
def methods : List (String × String) :=
  [("get", "GET"), ("post", "POST"), ("put", "PUT"), ("delete", "DELETE"), ("patch", "PATCH"),
   ("options", "OPTIONS"), ("head", "HEAD")]

/-- The method that a key of a path names. -/
def method? (key : Document) : Option String :=
  match key with
  | .text s => methods.lookup s
  | _ => none

/-- The first of two values that is not nothing. -/
def orElse (a b : Document) : Document := if a.isNull then b else a

/-- The first of two values that counts as something. -/
def truthyOr (a b : Document) : Document := if a.isTruthy then a else b

def parameterOf (es : Document.Entries) : Shaped Parameter := do
  let schema := sub es "schema"
  let default := orElse (Document.get schema "default") (Document.get es "default")
  let name ← shownOr "" (Document.get es "name")
  let location ← shownOr "query" (Document.get es "in")
  let type ← shownOr "string" (truthyOr (Document.get schema "type") (Document.get es "type"))
  assemble "Parameter"
    ((fun description reference =>
        { name, location, type
          required := (Document.get es "required").isTruthy
          description, default, schema := reference }) <$>
      textField "description" (Document.get es "description") <*>
      textField "schema_ref" (Document.get schema "$ref"))

/-- The parameters among the members of a list; what is no mapping is passed over. -/
def parameters (v : Document) : Shaped (List Parameter) := do
  let items ← membersOrNone v
  each parameterOf (items.filterMap fun p => match p with
    | .map es => some es
    | _ => none)

/-- The first schema reference among content types. -/
def reference? (content : Document.Entries) : Shaped (Option String) :=
  let references := content.map fun e => Document.get (sub e.2.entries "schema") "$ref"
  match references.find? Document.isTruthy with
  | some v => some <$> shown v
  | none => .ok none

def requestBody (es : Document.Entries) : Shaped (Option RequestBody) :=
  match Document.get? es "requestBody" with
  | none => .ok none
  | some v => do
    let body := v.entries
    let content := sub body "content"
    let contentTypes ← each shown (content.map (·.1))
    let schema ← reference? content
    assemble "RequestBody"
      ((fun description =>
          some { contentTypes, required := (Document.get body "required").isTruthy, schema
                 description }) <$>
        textField "description" (Document.get body "description"))

/-- The key of the first entry as text. -/
def firstKey? (es : Document.Entries) : Shaped (Option String) :=
  match es with
  | e :: _ => some <$> shown e.1
  | [] => .ok none

def responseOf (entry : Document × Document) : Shaped Response := do
  let es := entry.2.entries
  let content := sub es "content"
  let statusCode ← shown entry.1
  let description ← shownOr "" (Document.get es "description")
  let contentType ← firstKey? content
  let schema ← reference? content
  return { statusCode, description, contentType, schema }

def endpoint (key : Document) (method : String) (es : Document.Entries) : Shaped Endpoint := do
  let path ← shown key
  let parameters ← parameters (Document.get es "parameters")
  let requestBody ← requestBody es
  let responses ← each responseOf (sub es "responses")
  let members ← membersOrNone (Document.get es "tags")
  let tags ← each shown members
  assemble "Endpoint"
    ((fun operationId summary description =>
        { id := method ++ "-" ++ path, path, method, operationId, summary, description, parameters
          requestBody, responses, deprecated := (Document.get es "deprecated").isTruthy, tags }) <$>
      textField "operation_id" (Document.get es "operationId") <*>
      textField "summary" (Document.get es "summary") <*>
      textField "description" (Document.get es "description"))

/-- The operations of a document: path, method and entries of each. -/
def operations (paths : Document.Entries) : List (Document × String × Document.Entries) :=
  paths.flatMap fun p =>
    p.2.entries.filterMap fun e => (method? e.1).map fun m => (p.1, m, e.2.entries)

def securityScheme (entry : Document × Document) : Shaped SecurityScheme := do
  let es := entry.2.entries
  let name ← shown entry.1
  let type ← shownOr "unknown" (Document.get es "type")
  assemble "SecurityDefinition"
    ((fun description => { name, type, description }) <$>
      textField "description" (Document.get es "description"))

/-- The specification of the entries of a document. -/
def ofEntries (doc : Document.Entries) : Shaped Spec := do
  let info := sub doc "info"
  let components := sub doc "components"
  let endpoints ← each (fun o => endpoint o.1 o.2.1 o.2.2) (operations (sub doc "paths"))
  let schemas ← schemas (firstOf (sub components "schemas") (sub doc "definitions"))
  let security ← each securityScheme
    (firstOf (sub components "securitySchemes") (sub doc "securityDefinitions"))
  let name ← shownOr "Untitled API" (Document.get info "title")
  let version ← shownOr "1.0.0" (Document.get info "version")
  return { name, version, format := .openapi, endpoints, schemas, security }

/-- The specification of a document, which must be a mapping. -/
def ofDocument (doc : Document) : Shaped Spec :=
  match doc with
  | .map es => ofEntries es
  | v => .error (.notMapping v.typeName)

end ApiDrift.Reading.OpenApi
