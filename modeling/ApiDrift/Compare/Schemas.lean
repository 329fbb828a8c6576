import ApiDrift.Change
import ApiDrift.Compare.Keyed

/-!
# Differences of schemas and security schemes

Schemas, their properties and security schemes are compared by name. A schema or property that goes
is dangerous; a property that changes its type or becomes required is breaking, and so is a security
scheme that goes.
-/

namespace ApiDrift.Compare

def schemaPath (name : String) : String := "#/components/schemas/" ++ name

def securityPath (name : String) : String := "#/components/securitySchemes/" ++ name

/-- What changed in a property that both versions of a schema have. -/
def propertyDetails (old new : Schema) (before after : Property) : List Change :=
  let name := after.name
  let path := schemaPath new.name ++ "/" ++ name
  (if before.type ≠ after.type then
    [{ type := .modified, category := .schemaProperty, severity := .breaking, path
       owner := some new.name
       description := "Property type changed: " ++ before.type ++ " -> " ++ after.type
       oldValue := some before.type, newValue := some after.type }]
  else []) ++
  (if !old.required.contains name && new.required.contains name then
    [{ type := .modified, category := .schemaProperty, severity := .breaking, path
       owner := some new.name, description := "Property is now required: " ++ name
       oldValue := some "optional", newValue := some "required" }]
  else [])

/-- What changed in a schema that both versions have. -/
def schemaDetails (old new : Schema) : List Change :=
  let base := schemaPath new.name
  let s := split Property.name old.properties new.properties
  (s.removed.map fun e =>
    { type := .removed, category := .schemaProperty, severity := .dangerous
      path := base ++ "/" ++ e.1, owner := some new.name
      description := "Property removed from schema: " ++ e.1, oldValue := some e.1 }) ++
  (s.added.map fun e =>
    let required := new.required.contains e.1
    { type := .added, category := .schemaProperty
      severity := if required then .warning else .info
      path := base ++ "/" ++ e.1, owner := some new.name
      description := "New property in schema: " ++ e.1 ++ (if required then " (required)" else "")
      newValue := some e.1 }) ++
  s.common.flatMap fun pair => propertyDetails old new pair.1 pair.2

def schemas (old new : List Schema) : List Change :=
  let s := split Schema.name old new
  (s.removed.map fun e =>
    { type := .removed, category := .schema, severity := .dangerous, path := schemaPath e.1
      description := "Schema removed: " ++ e.1, oldValue := some e.1 }) ++
  (s.added.map fun e =>
    { type := .added, category := .schema, severity := .info, path := schemaPath e.1
      description := "New schema: " ++ e.1, newValue := some e.1 }) ++
  s.common.flatMap fun pair => schemaDetails pair.1 pair.2

def security (old new : List SecurityScheme) : List Change :=
  let s := split SecurityScheme.name old new
  (s.removed.map fun e =>
    { type := .removed, category := .security, severity := .breaking, path := securityPath e.1
      description := "Security scheme removed: " ++ e.1, oldValue := some e.1 }) ++
  s.added.map fun e =>
    { type := .added, category := .security, severity := .info, path := securityPath e.1
      description := "New security scheme: " ++ e.1, newValue := some e.1 }

end ApiDrift.Compare
