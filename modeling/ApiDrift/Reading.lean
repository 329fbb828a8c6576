import ApiDrift.Reading.AsyncApi
import ApiDrift.Reading.Format
import ApiDrift.Reading.GraphQL
import ApiDrift.Reading.OpenApi
import ApiDrift.Reading.Protobuf

/-!
# Reading specifications

The content of a file becomes a specification, or fails with the name of the file.
-/

namespace ApiDrift.Reading

/-- The specification of a document of a known format. -/
def ofDocument (filename : String) (doc : Document) : Except Failure Spec :=
  let refused (f : ShapeFault) : Failure := .ofCause filename (.shape f)
  match classify doc with
  | .openapi => (OpenApi.ofDocument doc).mapError refused
  | .asyncapi => (AsyncApi.ofDocument doc).mapError refused
  | _ => .error (.spec (.unknownShape filename))

/-- The specification that a text writes as a document. -/
def readDocument (content filename : String) : Except Failure Spec := do
  let refused (f : DocumentFault) : Failure := .ofCause filename (.document f)
  let doc ← (loadDocument content (extension filename)).mapError refused
  ofDocument filename doc

/-- The specification that the content of a file writes. Documents are decoded a second time, also
where no format was recognised. -/
def readSpec (content filename : String) : Except Failure Spec := do
  match ← detectFormat content filename with
  | .graphql => return GraphQL.readSpec content.toList
  | .grpc => return Protobuf.readSpec content.toList
  | _ => readDocument content filename

end ApiDrift.Reading
