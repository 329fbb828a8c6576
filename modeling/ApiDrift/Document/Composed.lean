import ApiDrift.Document

/-!
# Values that are put together

A decoder makes values without parts, and collections of values that it made before. What holds of
the former and is kept by the latter holds of every value that is decoded.
-/

namespace ApiDrift.Document

/-- Whether a value is no collection of others. -/
def isLeaf : Document → Bool
  | seq _ | tuple _ | set _ | map _ => false
  | _ => true

/-- A property of values without parts that collections take over from what they are made of. -/
structure Composed (P : Document → Prop) : Prop where
  leaf : ∀ v, v.isLeaf = true → P v
  seq : ∀ items, (∀ v ∈ items, P v) → P (.seq items)
  tuple : ∀ items, (∀ v ∈ items, P v) → P (.tuple items)
  set : ∀ pairs, (∀ e ∈ pairs, P e.1 ∧ P e.2) → P (.set ((ofPairs pairs).map (·.1)))
  map : ∀ pairs, (∀ e ∈ pairs, P e.1 ∧ P e.2) → P (.map (ofPairs pairs))

end ApiDrift.Document
