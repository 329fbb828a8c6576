import ApiDrift.Failure

/-!
# Walking through documents

How the readers of document formats look at values: as mappings, which other values count as empty
ones; as texts with a default; as collections that can be gone through; and as optional texts of a
model that is checked as a whole.
-/

namespace ApiDrift.Reading

open Checking

/-- A step that can meet a value of the wrong shape. -/
abbrev Shaped (α : Type) := Except ShapeFault α

/-- The name of the type of a value that cannot be gone through. -/
def iterationName (v : Document) : String :=
  match v with
  | .date _ => "datetime.date"
  | .moment _ => "datetime.datetime"
  | _ => v.typeName

/-- A value as plain text, where it has one. -/
def shown (v : Document) : Shaped String :=
  if v.isShowable then .ok v.toText else .error .numberTooLong

/-- A value as plain text, or the default where it counts as nothing. -/
def shownOr (default : String) (v : Document) : Shaped String :=
  if v.isTruthy then shown v else .ok default

/-- The members of a value: items, keys, characters or bytes. -/
def members (v : Document) : Shaped (List Document) :=
  match v with
  | .seq items | .tuple items | .set items => .ok items
  | .map es => .ok (es.map (·.1))
  | .text s => .ok (s.toList.map fun c => .text (String.singleton c))
  | .bytes bs => .ok (bs.map fun b => .int b.toNat)
  | .cycle _ => .ok []
  | _ => .error (.notIterable (iterationName v))

/-- The members of a value; none where it counts as nothing. -/
def membersOrNone (v : Document) : Shaped (List Document) :=
  if v.isTruthy then members v else .ok []

/-- The entries of the value of a key. -/
def sub (es : Document.Entries) (key : String) : Document.Entries := (Document.get es key).entries

/-- The first of two groups of entries that has any. -/
def firstOf (a b : Document.Entries) : Document.Entries := if a.isEmpty then b else a

/-- An optional text field of a model that is put together. -/
def textField (name : String) (v : Document) : Checked (Option String) :=
  inside name (nullable text v)

/-- A model that is put together, or the report on its fields. -/
def assemble {α : Type} (model : String) (c : Checked α) : Shaped α :=
  (report model c).mapError .misfit

/-- The results of a step for every member, or the first fault. -/
def each {α β : Type} (f : α → Shaped β) : List α → Shaped (List β)
  | [] => .ok []
  | x :: xs => do
    let y ← f x
    let ys ← each f xs
    return y :: ys

end ApiDrift.Reading
