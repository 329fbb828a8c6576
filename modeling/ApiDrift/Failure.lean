import ApiDrift.Checking
import ApiDrift.Document.Plain
import ApiDrift.Spec
import ApiDrift.Yaml.Fault

/-!
# Failures

Why a text gives no specification and a pair of texts no comparison. Whether a cause is reported
with the name of the file depends on its family; the few causes that are not are foreign: they end
whatever was going on.
-/

namespace ApiDrift

/-- The families of faults. What becomes of a fault depends on its family alone. -/
inductive FaultFamily where
  /-- A text breaks the rules of its notation. -/
  | notation_
  /-- A value that does not exist or does not fit. -/
  | value
  /-- A value of a type that is not meant. -/
  | type
  /-- Something that a value of its type does not have. -/
  | attribute
  /-- A word that is not listed. -/
  | key
  /-- A place beyond the end. -/
  | index
  /-- A number beyond the range of its type. -/
  | range
deriving DecidableEq, Repr

namespace FaultFamily

/-- Whether a text with such a fault merely has no known format. -/
def isForgiven : FaultFamily → Bool
  | notation_ | value => true
  | _ => false

/-- Whether such a fault is reported with the name of the file. -/
def isReported : FaultFamily → Bool
  | notation_ | value | type => true
  | _ => false

end FaultFamily

def Yaml.ScalarFault.family : Yaml.ScalarFault → FaultFamily
  | integer .. | integerTooLong _ | real _ | calendar _ | codePoint => .value
  | emptyNumber => .index
  | unknownFlag _ => .key
  | noDate => .attribute
  | noDateText => .type
  | placeSize | codePointSize => .range

/-- Why a text is no document. -/
inductive DocumentFault where
  | json (f : Json.Fault)
  | yaml (f : Yaml.Fault)
deriving DecidableEq, Repr

namespace DocumentFault

def message : DocumentFault → String
  | json f => f.message
  | yaml f => f.message

def family : DocumentFault → FaultFamily
  | json _ => .value
  | yaml (.scalar f) => f.family
  | yaml _ => .notation_

end DocumentFault

/-- Why a document is no specification: its values do not fit the model, a value that is gone
through is no collection, the document or a schema itself is no mapping, or a whole number has too
many digits for a text. -/
inductive ShapeFault where
  | misfit (report : Checking.Report)
  | notIterable (type : String)
  | notMapping (type : String)
  | numberTooLong

namespace ShapeFault

def message : ShapeFault → String
  | misfit r => r.message
  | notIterable t => "'" ++ t ++ "' object is not iterable"
  | notMapping t => "'" ++ t ++ "' object has no attribute 'get'"
  | numberTooLong => Number.tooLongToShow

def family : ShapeFault → FaultFamily
  | misfit _ | numberTooLong => .value
  | notIterable _ => .type
  | notMapping _ => .attribute

end ShapeFault

/-- What is wrong with the content of a file. -/
inductive ParseCause where
  | document (f : DocumentFault)
  | shape (f : ShapeFault)

namespace ParseCause

def message : ParseCause → String
  | document f => f.message
  | shape f => f.message

def family : ParseCause → FaultFamily
  | document f => f.family
  | shape f => f.family

end ParseCause

/-- Failures that are reported to the user with a status of their own. -/
inductive SpecFault where
  | unsupported (file extension : String)
  | unknownShape (file : String)
  | malformed (file : String) (cause : ParseCause)
  | mismatch (oldFile : String) (oldFormat : Format) (newFile : String) (newFormat : Format)

namespace SpecFault

def message : SpecFault → String
  | unsupported file ext =>
    "Unsupported spec format for '" ++ file ++ "': extension " ++
      (if ext.isEmpty then "(none)" else "." ++ ext)
  | unknownShape file =>
    "Failed to parse spec file '" ++ file ++
      "': Unknown YAML/JSON spec format (no 'openapi', 'swagger' or 'asyncapi' key)"
  | malformed file cause => "Failed to parse spec file '" ++ file ++ "': " ++ cause.message
  | mismatch oldFile oldFormat newFile newFormat =>
    "Cannot compare '" ++ oldFile ++ "' (" ++ oldFormat.name ++ ") with '" ++ newFile ++ "' (" ++
      newFormat.name ++ "): formats differ"

/-- The status with which the command line ends. -/
def exitCode : SpecFault → Nat
  | unsupported .. => 2
  | mismatch .. => 2
  | unknownShape _ => 3
  | malformed .. => 3

end SpecFault

/-- Everything that can keep an operation from its answer. -/
inductive Failure where
  | spec (f : SpecFault)
  /-- A cause whose family is not reported. -/
  | foreign (cause : ParseCause)
  | plain (f : PlainFault)
  /-- A batch with files but nobody to work on them. -/
  | noWorkers
  /-- Options that do not fit their model. -/
  | options (report : Checking.Report)

/-- A failure by the content of a file. -/
def Failure.ofCause (filename : String) (cause : ParseCause) : Failure :=
  if cause.family.isReported then .spec (.malformed filename cause) else .foreign cause

def Failure.message : Failure → String
  | spec f => f.message
  | foreign cause => cause.message
  | plain f => f.message
  | noWorkers => "max_workers must be greater than 0"
  | options r => r.message

end ApiDrift
