import ApiDrift.Reading.Document

/-!
# Schemas of documents

A named schema with its properties. A property is required when its name is among the texts of the
schema's list of required names.
-/

namespace ApiDrift.Reading

open Checking

/-- The texts among the members of the list of required names. -/
def requiredNames (es : Document.Entries) : Shaped (List String) := do
  let names ← membersOrNone (Document.get es "required")
  return names.filterMap fun v => match v with
    | .text s => some s
    | _ => none

/-- A property by its key and definition. -/
def property (required : List String) (entry : Document × Document) : Shaped Property := do
  let es := entry.2.entries
  let name ← shown entry.1
  let type ← shownOr "any" (Document.get es "type")
  assemble "SchemaProperty"
    ((fun description format values =>
        { name, type, required := required.contains name, description, format, values }) <$>
      textField "description" (Document.get es "description") <*>
      textField "format" (Document.get es "format") <*>
      inside "enum_values" (nullable (list anything) (Document.get es "enum")))

/-- A schema by its name and the entries of its definition. -/
def schemaOf (name : String) (es : Document.Entries) : Shaped Schema := do
  let required ← requiredNames es
  let properties ← each (property required) (sub es "properties")
  let type ← shownOr "object" (Document.get es "type")
  assemble "Schema"
    ((fun description => { name, type, properties, required, description }) <$>
      textField "description" (Document.get es "description"))

/-- A schema by its name and definition, which must be a mapping. -/
def schema (name : String) (definition : Document) : Shaped Schema :=
  match definition with
  | .map es => schemaOf name es
  | v => .error (.notMapping v.typeName)

/-- All schemas of a mapping of definitions. -/
def schemas (es : Document.Entries) : Shaped (List Schema) :=
  each (fun e => do schemaOf (← shown e.1) e.2.entries) es

end ApiDrift.Reading
