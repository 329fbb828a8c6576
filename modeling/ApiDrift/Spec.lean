import ApiDrift.Document

/-!
# Specifications

One model for all formats: endpoints with their parameters, body and responses; schemas with their
properties; security schemes. A parameter is known by its location and name, an endpoint is shown by
its method and path.
-/

namespace ApiDrift

/-- The formats a specification can be written in. -/
inductive Format where
  | openapi
  | asyncapi
  | graphql
  | grpc
  | unknown
deriving DecidableEq, Repr

structure Parameter where
  name : String
  location : String
  type : String := "string"
  required : Bool := false
  description : Option String := none
  default : Document := .null
  schema : Option String := none

structure RequestBody where
  contentTypes : List String := []
  required : Bool := false
  schema : Option String := none
  description : Option String := none
deriving DecidableEq, Repr

structure Response where
  statusCode : String
  description : String := ""
  contentType : Option String := none
  schema : Option String := none
deriving DecidableEq, Repr

structure Endpoint where
  id : String
  path : String
  method : String
  operationId : Option String := none
  summary : Option String := none
  description : Option String := none
  parameters : List Parameter := []
  requestBody : Option RequestBody := none
  responses : List Response := []
  deprecated : Bool := false
  tags : List String := []

structure Property where
  name : String
  type : String
  required : Bool := false
  description : Option String := none
  format : Option String := none
  values : Option (List Document) := none

structure Schema where
  name : String
  type : String := "object"
  properties : List Property := []
  required : List String := []
  description : Option String := none

structure SecurityScheme where
  name : String
  type : String
  description : Option String := none
deriving DecidableEq, Repr

structure Spec where
  name : String
  version : String
  format : Format
  endpoints : List Endpoint := []
  schemas : List Schema := []
  security : List SecurityScheme := []

/-- What a parameter is known by. -/
def Parameter.key (p : Parameter) : String := p.location ++ ":" ++ p.name

/-- What an endpoint is shown by. -/
def Endpoint.label (e : Endpoint) : String := e.method ++ " " ++ e.path

def Format.name : Format → String
  | openapi => "openapi"
  | asyncapi => "asyncapi"
  | graphql => "graphql"
  | grpc => "grpc"
  | unknown => "unknown"

/-- The formats in the order in which they are listed to the user. -/
def Format.all : List Format := [openapi, asyncapi, graphql, grpc, unknown]

end ApiDrift
