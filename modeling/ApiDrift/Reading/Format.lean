import ApiDrift.Failure
import ApiDrift.Json.Reader
import ApiDrift.Yaml.Value

/-!
# Recognising formats

Schema language and service definitions are known by the extension of the file alone; every other
known extension holds a document, which is known by its marker key. What cannot be decoded has the
unknown format.
-/

namespace ApiDrift.Reading

/-- The text after the last full stop of a name, in lower case; nothing where there is no stop. -/
def extension (filename : String) : String :=
  let cs := filename.toList
  if cs.contains '.' then
    Text.lower (String.ofList (cs.reverse.takeWhile (· != '.')).reverse)
  else ""

/-- How the content of a file is read. -/
inductive Reader where
  | schemaLanguage
  | serviceDefinitions
  | json
  | yaml
deriving DecidableEq, Repr

/-- The reader for an extension. -/
def readerFor? (ext : String) : Option Reader :=
  if ext = "graphql" || ext = "gql" then some .schemaLanguage
  else if ext = "proto" then some .serviceDefinitions
  else if ext = "json" then some .json
  else if ext = "yaml" || ext = "yml" then some .yaml
  else none

/-- The document that a text writes; data notation has an extension of its own. -/
def loadDocument (content ext : String) : Except DocumentFault Document :=
  if ext = "json" then (Json.read content).mapError .json else (Yaml.read content).mapError .yaml

/-- The format of a document by its marker keys. -/
def classify (doc : Document) : Format :=
  match doc with
  | .map es =>
    if (Document.get? es "openapi").isSome || (Document.get? es "swagger").isSome then .openapi
    else if (Document.get? es "asyncapi").isSome then .asyncapi
    else .unknown
  | _ => .unknown

/-- The format of the content of a file. -/
def detectFormat (content filename : String) : Except Failure Format :=
  let ext := extension filename
  match readerFor? ext with
  | none => .error (.spec (.unsupported filename ext))
  | some .schemaLanguage => .ok .graphql
  | some .serviceDefinitions => .ok .grpc
  | some _ =>
    match loadDocument content ext with
    | .ok doc => .ok (classify doc)
    | .error f => if f.family.isForgiven then .ok .unknown else .error (.foreign (.document f))

end ApiDrift.Reading
