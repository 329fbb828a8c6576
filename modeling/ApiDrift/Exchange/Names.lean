import ApiDrift.Checking

/-!
# Field names

Every field has a name in exchanged data and a plain name; both are understood, and either can be
written.
-/

namespace ApiDrift.Exchange

open ApiDrift.Checking

/-- Which of its two names a field is written under. -/
inductive Naming where
  | camel
  | plain
deriving DecidableEq, Repr

/-- A field name under a naming. -/
def Naming.pick (n : Naming) (f : FieldName) : String :=
  match n with
  | camel => f.camel
  | plain => f.plain

/-- A field and its value as an entry. -/
def Naming.entry (n : Naming) (f : FieldName) (v : Document) : Document × Document :=
  (.text (n.pick f), v)

/-- A value that may be absent. -/
def orNull (v : Option String) : Document :=
  match v with
  | some s => .text s
  | none => .null

/-- A sequence of texts. -/
def texts (ss : List String) : Document := .seq (ss.map .text)

end ApiDrift.Exchange

namespace ApiDrift.Checking.FieldName

/-- A field whose two names agree. -/
def word (s : String) : FieldName := ⟨s, s⟩

def name : FieldName := word "name"
def type : FieldName := word "type"
def required : FieldName := word "required"
def description : FieldName := word "description"
def location : FieldName := word "location"
def path : FieldName := word "path"
def id : FieldName := word "id"
def method : FieldName := word "method"
def summary : FieldName := word "summary"
def parameters : FieldName := word "parameters"
def responses : FieldName := word "responses"
def deprecated : FieldName := word "deprecated"
def tags : FieldName := word "tags"
def format : FieldName := word "format"
def properties : FieldName := word "properties"
def version : FieldName := word "version"
def endpoints : FieldName := word "endpoints"
def schemas : FieldName := word "schemas"
def security : FieldName := word "security"
def category : FieldName := word "category"
def severity : FieldName := word "severity"
def owner : FieldName := word "owner"
def changes : FieldName := word "changes"
def default : FieldName := ⟨"defaultValue", "default_value"⟩
def schema : FieldName := ⟨"schema", "schema_ref"⟩
def contentTypes : FieldName := ⟨"contentTypes", "content_types"⟩
def statusCode : FieldName := ⟨"statusCode", "status_code"⟩
def contentType : FieldName := ⟨"contentType", "content_type"⟩
def operationId : FieldName := ⟨"operationId", "operation_id"⟩
def requestBody : FieldName := ⟨"requestBody", "request_body"⟩
def enum : FieldName := ⟨"enum", "enum_values"⟩
def oldValue : FieldName := ⟨"oldValue", "old_value"⟩
def newValue : FieldName := ⟨"newValue", "new_value"⟩
def suggestion : FieldName := ⟨"migrationSuggestion", "migration_suggestion"⟩
def impact : FieldName := ⟨"impactScore", "impact_score"⟩
def riskScore : FieldName := ⟨"riskScore", "risk_score"⟩
def riskLevel : FieldName := ⟨"riskLevel", "risk_level"⟩
def bump : FieldName := ⟨"semverRecommendation", "semver_recommendation"⟩
def apiName : FieldName := ⟨"apiName", "api_name"⟩
def fromVersion : FieldName := ⟨"fromVersion", "from_version"⟩
def toVersion : FieldName := ⟨"toVersion", "to_version"⟩
def breaking : FieldName := ⟨"breakingChanges", "breaking_changes"⟩
def total : FieldName := ⟨"totalChanges", "total_changes"⟩
def endpointsAdded : FieldName := ⟨"endpointsAdded", "endpoints_added"⟩
def endpointsRemoved : FieldName := ⟨"endpointsRemoved", "endpoints_removed"⟩
def endpointsModified : FieldName := ⟨"endpointsModified", "endpoints_modified"⟩
def endpointsDeprecated : FieldName := ⟨"endpointsDeprecated", "endpoints_deprecated"⟩
def schemasAdded : FieldName := ⟨"schemasAdded", "schemas_added"⟩
def schemasRemoved : FieldName := ⟨"schemasRemoved", "schemas_removed"⟩
def schemasModified : FieldName := ⟨"schemasModified", "schemas_modified"⟩
def parametersAdded : FieldName := ⟨"parametersAdded", "parameters_added"⟩
def parametersRemoved : FieldName := ⟨"parametersRemoved", "parameters_removed"⟩
def parametersModified : FieldName := ⟨"parametersModified", "parameters_modified"⟩
def securityAdded : FieldName := ⟨"securityAdded", "security_added"⟩
def securityRemoved : FieldName := ⟨"securityRemoved", "security_removed"⟩
def threshold : FieldName := word "severity_threshold"
def deprecations : FieldName := word "include_deprecations"

end ApiDrift.Checking.FieldName
