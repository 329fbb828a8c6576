import ApiDrift.Change

/-!
# Summary of changes

Additions, removals and deprecations are counted one by one; a modified endpoint, schema or
parameter counts once, however many changes of detail it has. Changes of detail belong to their
owner, or to their own place where they have none.
-/

namespace ApiDrift

namespace Change

/-- The entity that a change of detail belongs to. -/
def entity (c : Change) : String :=
  match c.owner with
  | some o => if o.isEmpty then c.path else o
  | none => c.path

/-- The endpoint that a change modifies. -/
def modifiedEndpoint? (c : Change) : Option String :=
  match c.category with
  | .endpoint => if c.type = .deprecated then some c.entity else none
  | .parameter | .requestBody | .response => some c.entity
  | _ => none

/-- The schema that a change modifies. -/
def modifiedSchema? (c : Change) : Option String :=
  if c.category = .schemaProperty then some c.entity else none

/-- The parameter that a change modifies. -/
def modifiedParameter? (c : Change) : Option String :=
  if c.category = .parameter && c.type ≠ .added && c.type ≠ .removed then some c.path else none

end Change

/-- The number of different texts in a list. -/
def countDistinct (names : List String) : Nat := names.eraseDups.length

namespace Summary

/-- The number of changes of a category and type. -/
def countOf (changes : List Change) (category : Category) (type : ChangeType) : Int :=
  (changes.countP fun c => c.category = category && c.type = type : Nat)

/-- The counts of a list of changes. -/
def ofChanges (changes : List Change) : Summary :=
  { endpointsAdded := countOf changes .endpoint .added
    endpointsRemoved := countOf changes .endpoint .removed
    endpointsModified := (countDistinct (changes.filterMap Change.modifiedEndpoint?) : Nat)
    endpointsDeprecated := countOf changes .endpoint .deprecated
    schemasAdded := countOf changes .schema .added
    schemasRemoved := countOf changes .schema .removed
    schemasModified := (countDistinct (changes.filterMap Change.modifiedSchema?) : Nat)
    parametersAdded := countOf changes .parameter .added
    parametersRemoved := countOf changes .parameter .removed
    parametersModified := (countDistinct (changes.filterMap Change.modifiedParameter?) : Nat)
    securityAdded := countOf changes .security .added
    securityRemoved := countOf changes .security .removed }

end Summary
end ApiDrift
