import ApiDrift.Exchange.Names
import ApiDrift.Reading

/-!
# Lint reports

A text that is no specification is invalid for one reason. A specification is valid, with warnings
about what it leaves out; under the strict regime there are more of them, and each is an error.
-/

namespace ApiDrift

structure LintReport where
  file : String
  valid : Bool := true
  format : Format := .unknown
  errors : List String := []
  warnings : List String := []
deriving DecidableEq, Repr

namespace LintReport

/-- The warning, if the condition holds. -/
def warnIf (condition : Bool) (warning : String) : List String :=
  if condition then [warning] else []

/-- The names that are given where none is. -/
def defaultNames : List String := ["Untitled API", "Untitled AsyncAPI"]

/-- The version that is given where none is. -/
def defaultVersion : String := "1.0.0"

/-- What a specification as a whole leaves out. -/
def warningsOf (s : Spec) : List String :=
  warnIf (s.name.isEmpty || defaultNames.contains s.name) "API name not specified" ++
  warnIf (s.version.isEmpty || s.version == defaultVersion)
    "API version not specified or using default" ++
  warnIf s.endpoints.isEmpty "No endpoints defined"

/-- Whether a text is absent or empty. -/
def isBlank (v : Option String) : Bool := (v.getD "").isEmpty

/-- What an endpoint leaves out. -/
def endpointWarnings (e : Endpoint) : List String :=
  warnIf (isBlank e.description && isBlank e.summary)
    ("Endpoint " ++ e.label ++ " has no description") ++
  warnIf e.responses.isEmpty ("Endpoint " ++ e.label ++ " has no response definitions") ++
  warnIf e.deprecated ("Endpoint " ++ e.label ++ " is deprecated")

/-- What a schema leaves out. -/
def schemaWarnings (s : Schema) : List String :=
  warnIf (s.properties.isEmpty && s.type == "object")
    ("Schema " ++ s.name ++ " has no properties defined")

/-- What the parts of a specification leave out. -/
def strictWarningsOf (s : Spec) : List String :=
  s.endpoints.flatMap endpointWarnings ++ s.schemas.flatMap schemaWarnings

/-- A report of one error. -/
def invalid (file : String) (format : Format) (error : String) : LintReport :=
  { file, valid := false, format, errors := [error] }

/-- The report on a specification that has been read. -/
def ofSpec (file : String) (format : Format) (strict : Bool) (s : Spec) : LintReport :=
  let warnings := warningsOf s
  if strict then
    let errors := warnings ++ strictWarningsOf s
    { file, valid := errors.isEmpty, format, errors }
  else { file, format, warnings }

/-- The report on a text of a known format. -/
def ofKnown (content filename : String) (format : Format) (strict : Bool) :
    Except Failure LintReport :=
  match Reading.readSpec content filename with
  | .ok s => .ok (ofSpec filename format strict s)
  | .error (.spec f) => .ok (invalid filename format ("Parse error: " ++ f.message))
  | .error f => .error f

/-- The report on the content of a file. -/
def ofText (content filename : String) (strict : Bool) : Except Failure LintReport :=
  match Reading.detectFormat content filename with
  | .error (.spec f) => .ok (invalid filename .unknown f.message)
  | .error f => .error f
  | .ok .unknown => .ok (invalid filename .unknown "Unable to detect specification type")
  | .ok format => ofKnown content filename format strict

/-- The tree of a report. -/
def toDocument (r : LintReport) : Document :=
  .map
    [(.text "file", .text r.file), (.text "valid", .bool r.valid),
     (.text "type", .text r.format.name), (.text "errors", Exchange.texts r.errors),
     (.text "warnings", Exchange.texts r.warnings)]

end LintReport
end ApiDrift
