/-!
# Keyed differences

Items known by a key are looked up by it: where a key occurs more than once the last item stands for
it, at the place of the first. Two versions of a list of items then fall into the keys that were
removed, in the order of the old version, and the keys that were added and the keys that are common,
both in the order of the new version.
-/

namespace ApiDrift.Compare

/-- Items with their keys, each key once. -/
abbrev Keyed (α : Type) := List (String × α)

namespace Keyed

variable {α β ε : Type}

/-- Gives a key an item: in its place if it is there, at the end if it is new. -/
def put (m : Keyed α) (key : String) (item : α) : Keyed α :=
  match m with
  | [] => [(key, item)]
  | (k, x) :: rest => if k = key then (k, item) :: rest else (k, x) :: put rest key item

/-- The items of a list by their keys. -/
def ofList (key : α → String) (items : List α) : Keyed α :=
  items.foldl (fun m x => m.put (key x) x) []

/-- The item of a key. -/
def get? (m : Keyed α) (key : String) : Option α := List.lookup key m

/-- The entries whose key the other side lacks. -/
def without (m other : Keyed α) : Keyed α := m.filter fun e => (other.get? e.1).isNone

/-- Old and new item of each key that is on both sides, in the order of the new side. -/
def common (old new : Keyed α) : List (α × α) :=
  new.filterMap fun e => (old.get? e.1).map fun x => (x, e.2)

end Keyed

/-- What becomes of the keys of two versions. -/
structure Split (α : Type) where
  removed : Keyed α
  added : Keyed α
  common : List (α × α)

/-- Splits two versions of a list by the keys of their items. -/
def split {α : Type} (key : α → String) (old new : List α) : Split α :=
  let o := Keyed.ofList key old
  let n := Keyed.ofList key new
  ⟨o.without n, n.without o, Keyed.common o n⟩

/-- The results of a check that can fail, for every member in order. -/
def flatMapChecked {α β ε : Type} (f : α → Except ε (List β)) : List α → Except ε (List β)
  | [] => .ok []
  | x :: xs => do
    let ys ← f x
    let zs ← flatMapChecked f xs
    return ys ++ zs

end ApiDrift.Compare
