import ApiDrift.Change

/-!
# Advice and impact

What to do about a breaking change, by its category and type, and how much it weighs: fifty, thirty
more for an endpoint, twenty for a removal, twenty-five for security, a hundred at most.
-/

namespace ApiDrift

/-- The advice where no other applies. -/
def generalAdvice : String := "Review and update client code accordingly"

/-- What a client has to do about a change. -/
def Change.advice (c : Change) : String :=
  match c.category, c.type with
  | .endpoint, .removed => "Remove all references to this endpoint from client code"
  | .parameter, .removed => "Remove this parameter from API calls"
  | .parameter, .added => "Add this required parameter to all API calls"
  | .parameter, .modified => "Update API calls to handle the new parameter type/requirement"
  | .requestBody, .added => "Send a request body with every call to this endpoint"
  | .requestBody, .removed => "Switch requests to one of the remaining content types"
  | .requestBody, .modified => "Always send a request body to this endpoint"
  | .schema, .removed => "Remove references to this schema/property in client code"
  | .schemaProperty, .removed => "Remove references to this schema/property in client code"
  | .schema, .modified => "Update client code to handle the new type/requirement"
  | .schemaProperty, .modified => "Update client code to handle the new type/requirement"
  | .security, .removed => "Update authentication configuration"
  | .security, .added => "Update authentication configuration"
  | _, _ => generalAdvice

/-- The weight of a change, from fifty to a hundred. -/
def Change.impact (c : Change) : Nat :=
  let endpoint := if c.category = .endpoint then 30 else 0
  let removal := if c.type = .removed then 20 else 0
  let security := if c.category = .security then 25 else 0
  min 100 (50 + endpoint + removal + security)

/-- A change with its advice and impact. -/
def Change.toBreaking (c : Change) : BreakingChange :=
  { toChange := c, suggestion := c.advice, impact := c.impact }

end ApiDrift
