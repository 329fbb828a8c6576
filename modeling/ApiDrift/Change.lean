import ApiDrift.Spec

/-!
# Changes

What a comparison reports: single changes with their kind, category and severity, the breaking ones
among them with advice and impact, the counts of a summary, and the verdict on two versions.
-/

namespace ApiDrift

inductive ChangeType where
  | added
  | modified
  | removed
  | deprecated
deriving DecidableEq, Repr

inductive Category where
  | endpoint
  | parameter
  | requestBody
  | response
  | schema
  | schemaProperty
  | security
deriving DecidableEq, Repr

inductive Severity where
  | breaking
  | dangerous
  | warning
  | info
deriving DecidableEq, Repr

inductive RiskLevel where
  | low
  | medium
  | high
  | critical
deriving DecidableEq, Repr

inductive Bump where
  | major
  | minor
  | patch
deriving DecidableEq, Repr

namespace ChangeType

def name : ChangeType → String
  | added => "ADDED"
  | modified => "MODIFIED"
  | removed => "REMOVED"
  | deprecated => "DEPRECATED"

def all : List ChangeType := [added, modified, removed, deprecated]

end ChangeType

namespace Category

def name : Category → String
  | endpoint => "ENDPOINT"
  | parameter => "PARAMETER"
  | requestBody => "REQUEST_BODY"
  | response => "RESPONSE"
  | schema => "SCHEMA"
  | schemaProperty => "SCHEMA_PROPERTY"
  | security => "SECURITY"

def all : List Category :=
  [endpoint, parameter, requestBody, response, schema, schemaProperty, security]

end Category

namespace Severity

def name : Severity → String
  | breaking => "BREAKING"
  | dangerous => "DANGEROUS"
  | warning => "WARNING"
  | info => "INFO"

def all : List Severity := [breaking, dangerous, warning, info]

/-- Severities from the mildest up. -/
def rank : Severity → Nat
  | info => 0
  | warning => 1
  | dangerous => 2
  | breaking => 3

def ofName? (s : String) : Option Severity := all.find? (·.name == s)

end Severity

namespace RiskLevel

def name : RiskLevel → String
  | low => "LOW"
  | medium => "MEDIUM"
  | high => "HIGH"
  | critical => "CRITICAL"

def all : List RiskLevel := [low, medium, high, critical]

end RiskLevel

namespace Bump

def name : Bump → String
  | major => "MAJOR"
  | minor => "MINOR"
  | patch => "PATCH"

def all : List Bump := [major, minor, patch]

/-- Version bumps from the smallest up. -/
def rank : Bump → Nat
  | patch => 0
  | minor => 1
  | major => 2

end Bump

/-- One difference between two versions. `path` says where it is; `owner` is the endpoint label or
schema name that a change of detail belongs to. -/
structure Change where
  type : ChangeType
  category : Category
  severity : Severity
  path : String
  description : String
  oldValue : Option String := none
  newValue : Option String := none
  owner : Option String := none
deriving DecidableEq, Repr

/-- A change that breaks clients, with what to do about it and how much it weighs. -/
structure BreakingChange extends Change where
  suggestion : String
  impact : Nat
deriving DecidableEq, Repr

/-- How many entities of each kind were added, removed, modified or deprecated. -/
structure Summary where
  endpointsAdded : Int := 0
  endpointsRemoved : Int := 0
  endpointsModified : Int := 0
  endpointsDeprecated : Int := 0
  schemasAdded : Int := 0
  schemasRemoved : Int := 0
  schemasModified : Int := 0
  parametersAdded : Int := 0
  parametersRemoved : Int := 0
  parametersModified : Int := 0
  securityAdded : Int := 0
  securityRemoved : Int := 0
deriving DecidableEq, Repr

/-- The score, its level, and the version bump that is due. -/
structure Risk where
  score : Nat
  level : RiskLevel
  bump : Bump
deriving DecidableEq, Repr

/-- Everything known about the difference between two versions. The breaking changes are complete
also where the changes have been narrowed. -/
structure Comparison where
  apiName : String
  fromVersion : String
  toVersion : String
  changes : List Change := []
  breaking : List BreakingChange := []
  totalChanges : Int := 0
  risk : Risk := ⟨0, .low, .patch⟩
  summary : Summary := {}
deriving DecidableEq, Repr

end ApiDrift
