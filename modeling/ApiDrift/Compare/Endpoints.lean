import ApiDrift.Change
import ApiDrift.Compare.Keyed
import ApiDrift.Compare.ParameterText

/-!
# Differences of endpoints

Endpoints are compared by their id, parameters by location and name, responses by status code. What
a client must react to is breaking: an endpoint or required parameter that goes, a requirement that
is new, a type that is another, a content type that is no longer accepted.
-/

namespace ApiDrift.Compare

/-- The place of a detail of an endpoint. -/
def within (base detail : String) : String := base ++ " -> " ++ detail

def parameterRemoved (base key : String) (p : Parameter) : Except PlainFault Change := do
  return {
    type := .removed, category := .parameter
    severity := if p.required then .breaking else .warning
    path := within base key, owner := some base
    description := "Parameter removed: " ++ p.name ++ " (" ++ p.location ++ ")"
    oldValue := some (← p.line) }

def parameterAdded (base key : String) (p : Parameter) : Except PlainFault Change := do
  return {
    type := .added, category := .parameter
    severity := if p.required then .breaking else .info
    path := within base key, owner := some base
    description := "New " ++ (if p.required then "required " else "") ++ "parameter: " ++ p.name ++
      " (" ++ p.location ++ ")"
    newValue := some (← p.line) }

/-- What changed in a parameter that both versions have. -/
def parameterDetails (base : String) (old new : Parameter) : List Change :=
  let path := within base new.key
  (if !old.required && new.required then
    [{ type := .modified, category := .parameter, severity := .breaking, path, owner := some base
       description := "Parameter is now required: " ++ new.name
       oldValue := some "optional", newValue := some "required" }]
  else []) ++
  (if old.type ≠ new.type then
    [{ type := .modified, category := .parameter, severity := .breaking, path, owner := some base
       description := "Parameter type changed: " ++ old.type ++ " -> " ++ new.type
       oldValue := some old.type, newValue := some new.type }]
  else [])

def parameters (base : String) (old new : List Parameter) : Except PlainFault (List Change) := do
  let s := split Parameter.key old new
  let removed ← s.removed.mapM fun e => parameterRemoved base e.1 e.2
  let added ← s.added.mapM fun e => parameterAdded base e.1 e.2
  return removed ++ added ++ s.common.flatMap fun pair => parameterDetails base pair.1 pair.2

/-- What changed in a body that both versions have. -/
def bodyDetails (base : String) (old new : RequestBody) : List Change :=
  let path := within base "requestBody"
  (if !old.required && new.required then
    [{ type := .modified, category := .requestBody, severity := .breaking, path, owner := some base
       description := "Request body is now required"
       oldValue := some "optional", newValue := some "required" }]
  else []) ++
  (old.contentTypes.filter fun t => !new.contentTypes.contains t).map fun t =>
    { type := .removed, category := .requestBody, severity := .breaking, path, owner := some base
      description := "Content type removed: " ++ t, oldValue := some t }

def requestBody (base : String) (old new : Option RequestBody) : List Change :=
  let path := within base "requestBody"
  match old, new with
  | none, none => []
  | none, some n =>
    [{ type := .added, category := .requestBody
       severity := if n.required then .breaking else .info, path, owner := some base
       description := if n.required then "Request body required" else "Request body added" }]
  | some _, none =>
    [{ type := .removed, category := .requestBody, severity := .info, path, owner := some base
       description := "Request body removed" }]
  | some o, some n => bodyDetails base o n

def responses (base : String) (old new : List Response) : List Change :=
  let s := split Response.statusCode old new
  (s.removed.map fun e =>
    { type := .removed, category := .response, severity := .warning
      path := within base ("response:" ++ e.1), owner := some base
      description := "Response removed: " ++ e.1, oldValue := some e.1 }) ++
  s.added.map fun e =>
    { type := .added, category := .response, severity := .info
      path := within base ("response:" ++ e.1), owner := some base
      description := "New response: " ++ e.1 ++ " - " ++ e.2.description, newValue := some e.1 }

/-- What changed in an endpoint that both versions have. -/
def endpointDetails (old new : Endpoint) : Except PlainFault (List Change) := do
  let base := new.label
  let deprecation : List Change :=
    if !old.deprecated && new.deprecated then
      [{ type := .deprecated, category := .endpoint, severity := .warning, path := base
         owner := some base, description := "Endpoint deprecated: " ++ base }]
    else []
  let params ← parameters base old.parameters new.parameters
  return deprecation ++ params ++ requestBody base old.requestBody new.requestBody ++
    responses base old.responses new.responses

def endpointRemoved (key : String) (e : Endpoint) : Change :=
  { type := .removed, category := .endpoint, severity := .breaking, path := e.label
    description := "Endpoint removed: " ++ e.label, oldValue := some key }

def endpointAdded (key : String) (e : Endpoint) : Change :=
  { type := .added, category := .endpoint, severity := .info, path := e.label
    description := "New endpoint: " ++ e.label, newValue := some key }

def endpoints (old new : List Endpoint) : Except PlainFault (List Change) := do
  let s := split Endpoint.id old new
  let details ← flatMapChecked (fun pair => endpointDetails pair.1 pair.2) s.common
  return s.removed.map (fun e => endpointRemoved e.1 e.2) ++
    s.added.map (fun e => endpointAdded e.1 e.2) ++ details

end ApiDrift.Compare
