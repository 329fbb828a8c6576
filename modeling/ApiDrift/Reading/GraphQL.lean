import ApiDrift.Spec
import ApiDrift.Text.Scan

/-!
# Schema language

A text of type declarations. The fields of the three root types are operations; every other
declaration is a schema, whose fields are required when their type ends with an exclamation mark.
Comments, nested braces and argument lists with braces are not understood.
-/

namespace ApiDrift.GraphQL

open ApiDrift.Text

/-- A declaration: its name and what stands in its braces. -/
structure Declaration where
  name : List Char
  body : List Char
deriving DecidableEq, Repr

/-- A field: its name and the text of its type. -/
structure Field where
  name : List Char
  type : List Char
deriving DecidableEq, Repr

/-- The rest after the name of an interface and the word in front of it. -/
def interface? (cs : List Char) : Option (List Char) := do
  let rest ← literal? "implements" cs
  let (_, rest) ← blankWord? rest
  return rest

/-- A body after blanks, with the name that was read before it. -/
def bodyOf? (name cs : List Char) : Option (Declaration × List Char) := do
  let (body, rest) ← braced? (skipBlanks cs)
  return (⟨name, body⟩, rest)

/-- A body after an interface. -/
def withInterface? (name cs : List Char) : Option (Declaration × List Char) := do
  let rest ← interface? cs
  bodyOf? name rest

/-- The part of a name before a trailing `implements`. -/
def beforeInterface? (name : List Char) : Option (List Char) :=
  let n := name.length - "implements".toList.length
  if 0 < n && name.drop n = "implements".toList then some (name.take n) else none

/-- A declaration with an interface whose keyword is run together with the name. -/
def runTogether? (name cs : List Char) : Option (Declaration × List Char) := do
  let short ← beforeInterface? name
  withInterface? short ("implements".toList ++ cs)

/-- A type declaration. -/
def declaration? : Recogniser Declaration := fun cs => do
  let rest ← literal? "type" cs
  let (name, rest) ← blankWord? rest
  (withInterface? name (skipBlanks rest)).or ((bodyOf? name rest).or (runTogether? name rest))

/-- The rest after a character, or all where it does not stand in front. -/
def optionalChar (c : Char) (cs : List Char) : List Char × List Char :=
  match char? c cs with
  | some rest => ([c], rest)
  | none => ([], cs)

/-- The text of a type: a word, perhaps in brackets, perhaps with exclamation marks. -/
def typeText? : Recogniser (List Char) := fun cs => do
  let (opening, rest) := optionalChar '[' cs
  let (w, rest) ← word? rest
  let (inner, rest) := optionalChar '!' rest
  let (closing, rest) := optionalChar ']' rest
  let (outer, rest) := optionalChar '!' rest
  return (opening ++ w ++ inner ++ closing ++ outer, rest)

/-- The type after a name: a colon among blanks, and the text of the type. -/
def fieldType? (name cs : List Char) : Option (Field × List Char) := do
  let rest ← char? ':' (skipBlanks cs)
  let (type, rest) ← typeText? (skipBlanks rest)
  return (⟨name, type⟩, rest)

/-- A field of a schema. -/
def field? : Recogniser Field := fun cs => do
  let (name, rest) ← word? cs
  fieldType? name rest

/-- The rest after arguments in parentheses. -/
def skipArguments (cs : List Char) : List Char :=
  match cs with
  | '(' :: rest =>
    match rest.dropWhile (· != ')') with
    | _ :: after => after
    | [] => cs
  | _ => cs

/-- A field of a root type, perhaps with arguments. -/
def operation? : Recogniser Field := fun cs => do
  let (name, rest) ← word? cs
  fieldType? name (skipArguments rest)

/-- The root types with the methods of their operations. -/
def rootMethods : List (String × String) :=
  [("Query", "QUERY"), ("Mutation", "MUTATION"), ("Subscription", "SUBSCRIPTION")]

def Field.endpoint (type method : String) (f : Field) : Endpoint :=
  let name := String.ofList f.name
  { id := type ++ "-" ++ name
    path := name
    method
    operationId := some name
    responses := [{ statusCode := "200", description := String.ofList f.type }]
    tags := [type] }

def Field.property (f : Field) : Property :=
  { name := String.ofList f.name
    type := String.ofList f.type
    required := f.type.getLast? == some '!' }

namespace Declaration

def typeName (d : Declaration) : String := String.ofList d.name

/-- The method of the operations of a root type. -/
def method? (d : Declaration) : Option String := rootMethods.lookup d.typeName

/-- The operations that a declaration declares. -/
def endpoints (d : Declaration) : List Endpoint :=
  match d.method? with
  | some m => (findAll operation? d.body).map (Field.endpoint d.typeName m)
  | none => []

/-- The schema that a declaration declares. -/
def schemas (d : Declaration) : List Schema :=
  match d.method? with
  | some _ => []
  | none =>
    let properties := (findAll field? d.body).map Field.property
    [{ name := d.typeName
       properties
       required := (properties.filter (·.required)).map (·.name) }]

end Declaration

/-- The specification of a text of declarations. -/
def readSpec (cs : List Char) : Spec :=
  let declarations := findAll declaration? cs
  { name := "GraphQL Schema"
    version := "1.0.0"
    format := .graphql
    endpoints := declarations.flatMap Declaration.endpoints
    schemas := declarations.flatMap Declaration.schemas }

end ApiDrift.GraphQL
