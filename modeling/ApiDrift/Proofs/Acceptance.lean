import ApiDrift.Exchange.Names
import ApiDrift.Proofs.Entries

/-!
# What a check accepts

The flaws of a value are left aside here. A model is accepted where all of its fields are, and of a
field only its value counts: what is found under its name in exchanged data, or else under its plain
name. A value that was written for a field is accepted as it was.
-/
namespace ApiDrift
namespace Checking
open Document Exchange

variable {α β : Type}

/-- The value that a check accepts. -/
def Checked.accepted? (c : Checked α) : Option α :=
  match c with
  | .ok a => some a
  | .error _ => none

theorem Checked.accepted?_eq_some_iff {c : Checked α} {a : α} :
    c.accepted? = some a ↔ c = .ok a := by
  cases c with
  | ok b =>
    exact ⟨fun h => congrArg Except.ok (Option.some.inj h), fun h =>
      congrArg some (Except.ok.inj h)⟩
  | error es => exact ⟨nofun, nofun⟩

/-- The value of a function at an argument, where both are there. -/
def applied (f : Option (α → β)) (a : Option α) : Option β := f.bind fun f => a.map f

@[simp]
theorem applied_some (f : α → β) (a : α) : applied (some f) (some a) = some (f a) := rfl

section
variable (f : α → β) (g : Checked (α → β)) (c : Checked α)

@[simp]
theorem accepted?_seq : (g <*> c).accepted? = applied g.accepted? c.accepted? := by
  cases g <;> cases c <;> rfl

@[simp]
theorem accepted?_map : (f <$> c).accepted? = c.accepted?.map f := by
  cases c <;> rfl

@[simp]
theorem accepted?_inside (field : String) : (inside field c).accepted? = c.accepted? := by
  cases c <;> rfl

end

@[simp]
theorem accepted?_model (name : String) (fields : Entries → Checked α) (es : Entries) :
    (model name fields (.map es)).accepted? = (fields es).accepted? := rfl

/-! ### Fields -/

/-- The value of a field, under either of its names. -/
def value? (es : Entries) (f : FieldName) : Option Document :=
  (get? es f.camel).or (get? es f.plain)

theorem find?_map_snd (es : Entries) (f : FieldName) :
    (find? es f).map Prod.snd = value? es f := by
  unfold find? value?
  cases get? es f.camel with
  | none => simp [Function.comp_def]
  | some v => rfl

@[simp]
theorem accepted?_must (es : Entries) (f : FieldName) (check : Document → Checked α) :
    (must es f check).accepted? = (value? es f).bind fun v => (check v).accepted? := by
  rw [← find?_map_snd, must]
  cases find? es f with
  | none => rfl
  | some found => exact accepted?_inside _ _

@[simp]
theorem accepted?_may (es : Entries) (f : FieldName) (default : α)
    (check : Document → Checked α) : (may es f default check).accepted? =
      ((value? es f).map fun v => (check v).accepted?).getD (some default) := by
  rw [← find?_map_snd, may]
  cases find? es f with
  | none => rfl
  | some found => exact accepted?_inside _ _

@[simp]
theorem get?_entry_cons (n : Naming) (f : FieldName) (v : Document) (es : Entries) (k : String) :
    get? (n.entry f v :: es) k = if n.pick f = k then some v else get? es k :=
  get?_text_cons _ v es k

/-! ### Values as they are written -/

@[simp]
theorem accepted?_text (s : String) : (text (.text s)).accepted? = some s := rfl

@[simp]
theorem accepted?_flag (b : Bool) : (flag (.bool b)).accepted? = some b := rfl

@[simp]
theorem accepted?_integer (n : Int) : (integer (.int n)).accepted? = some n := rfl

@[simp]
theorem accepted?_anything (v : Document) : (anything v).accepted? = some v := rfl

/-- A value that has a name of its own among all is accepted by its name. -/
theorem accepted?_choice {name : α → String} {all : List α} {a : α}
    (h : all.find? (fun b => name b == name a) = some a) :
    (choice name all (.text (name a))).accepted? = some a := by
  simp only [choice, h]
  rfl

theorem accepted?_itemsFrom (check : Document → Checked α) (vs : List Document) (i : Nat) :
    (itemsFrom check i vs).accepted? = vs.mapM fun v => (check v).accepted? := by
  induction vs generalizing i with
  | nil => rfl
  | cons v vs ih =>
    simp only [itemsFrom, accepted?_seq, accepted?_map, accepted?_inside, ih, List.mapM_cons]
    cases (check v).accepted? with
    | none => rfl
    | some a => cases vs.mapM fun v => (check v).accepted? <;> rfl

theorem nullable_of_ne_null (check : Document → Checked α) {v : Document} (h : v ≠ .null) :
    nullable check v = some <$> check v := by
  cases v with
  | null => exact absurd rfl h
  | _ => rfl

theorem accepted?_list_map {check : Document → Checked β} {write : α → Document} {f : α → β}
    {as : List α} (h : ∀ a ∈ as, (check (write a)).accepted? = some (f a)) :
    (list check (.seq (as.map write))).accepted? = some (as.map f) := by
  rw [list, accepted?_itemsFrom]
  induction as with
  | nil => rfl
  | cons a as ih =>
    obtain ⟨ha, has⟩ := List.forall_mem_cons.mp h
    simp [ha, ih has]

section
variable {check : Document → Checked α} {write : α → Document}
  (h : ∀ a, (check (write a)).accepted? = some a)
include h

theorem accepted?_list (as : List α) :
    (list check (.seq (as.map write))).accepted? = some as := by
  rw [accepted?_list_map (f := id) fun a _ => h a, List.map_id]

theorem accepted?_nullable (hnull : ∀ a, write a ≠ .null) (o : Option α) :
    (nullable check ((o.map write).getD .null)).accepted? = some o := by
  cases o with
  | none => rfl
  | some a =>
    rw [Option.map_some, Option.getD_some, nullable_of_ne_null check (hnull a), accepted?_map, h,
      Option.map_some]

end

@[simp]
theorem accepted?_texts (ss : List String) : (list text (texts ss)).accepted? = some ss :=
  accepted?_list accepted?_text ss

@[simp]
theorem accepted?_orNull (o : Option String) : (nullable text (orNull o)).accepted? = some o := by
  cases o <;> rfl

end Checking
end ApiDrift
