import ApiDrift.Compare
import ApiDrift.Proofs.Keyed
import ApiDrift.Proofs.Outcomes

/-!
# The order of a keyed difference

Where keys repeat, the first item with a key gives it its place, and the last one is what is told of
it. All comparisons of lists go the same way: they tell first what goes, then what comes, and last
what changed in what stays. The keys that go are in the order of the old list, all others in that of
the new one.

The lists of entries by which the comparisons are carried out do not show here.
-/
namespace ApiDrift.Compare

/-- The keys of a list, each once, as they are met first. -/
def firstKeys {α : Type} (key : α → String) (items : List α) : List String :=
  (items.map key).eraseDups

/-- The item that a list has last for a key. -/
def StandsFor {α : Type} (key : α → String) (items : List α) (k : String) (x : α) : Prop :=
  Stands key items x ∧ key x = k

/-- The old and the new item that stand for a key. -/
def PairedFor {α : Type} (key : α → String) (old new : List α) (k : String) (pair : α × α) : Prop :=
  Paired key old new pair.1 pair.2 ∧ key pair.2 = k

/-- What stands for the keys that only the old list has, for those that only the new one has, and
for those of both. -/
structure Arranged {α : Type} (key : α → String) (old new gone come : List α)
    (kept : List (α × α)) : Prop where
  gone : List.Forall₂ (StandsFor key old)
    ((firstKeys key old).filter fun k => k ∉ new.map key) gone
  come : List.Forall₂ (StandsFor key new)
    ((firstKeys key new).filter fun k => k ∉ old.map key) come
  kept : List.Forall₂ (PairedFor key old new)
    ((firstKeys key new).filter fun k => k ∈ old.map key) kept

/-- What is told of an item that goes or comes, and of two that share a key. -/
structure Reporter (α : Type) where
  gone : α → Except PlainFault Change
  come : α → Except PlainFault Change
  kept : α → α → Except PlainFault (List Change)

/-- All that is told, in order. -/
def Reporter.report {α : Type} (r : Reporter α) (gone come : List α) (kept : List (α × α)) :
    Except PlainFault (List Change) := do
  let removed ← gone.mapM r.gone
  let added ← come.mapM r.come
  let details ← kept.mapM fun pair => r.kept pair.1 pair.2
  return removed ++ added ++ details.flatten

/-- A comparison of two lists goes through their keys in order. -/
def ReportsInOrder {α : Type} (key : α → String) (r : Reporter α)
    (compare : List α → List α → Except PlainFault (List Change)) : Prop :=
  ∀ old new, ∃ gone come kept, Arranged key old new gone come kept ∧
    compare old new = r.report gone come kept

section
variable {α : Type} {key : α → String} {old new items other : List α} {k : String}

theorem isNone_get?_ofList :
    ((Keyed.ofList key items).get? k).isNone = decide (k ∉ items.map key) := by
  rw [Bool.eq_iff_iff, Option.isNone_iff_eq_none, Keyed.get?_ofList_eq_none, decide_eq_true_iff]

theorem keys_without :
    ((Keyed.ofList key items).without (Keyed.ofList key other)).map Prod.fst =
      (firstKeys key items).filter fun k => k ∉ other.map key := by
  rw [firstKeys, ← Keyed.keys_ofList, List.filter_map, Keyed.without]
  congr 1
  exact List.filter_congr fun e _ => isNone_get?_ofList

theorem keys_common :
    (split key old new).common.map (fun pair => key pair.2) =
      (firstKeys key new).filter fun k => k ∈ old.map key := by
  rw [firstKeys, ← Keyed.keys_ofList, List.filter_map, split, Keyed.common, List.map_filterMap,
    ← List.filterMap_eq_filter, List.map_filterMap]
  apply List.filterMap_congr
  intro e he
  obtain ⟨-, hkey⟩ := Keyed.mem_ofList.mp he
  by_cases hold : e.1 ∈ old.map key
  · obtain ⟨x, hx⟩ := exists_stands hold
    simp [Keyed.get?_ofList.mpr hx, Option.guard, -List.mem_map, hold, hkey]
  · simp [Keyed.get?_ofList_eq_none.mpr hold, Option.guard, -List.mem_map, hold]

theorem nodup_keys_without (key : α → String) (items other : List α) :
    (((Keyed.ofList key items).without (Keyed.ofList key other)).map Prod.fst).Nodup :=
  (Keyed.nodup_ofList items).sublist (List.filter_sublist.map Prod.fst)

theorem nodup_keys_common (key : α → String) (old new : List α) :
    ((split key old new).common.map fun pair => key pair.2).Nodup := by
  rw [keys_common, firstKeys, ← Keyed.keys_ofList]
  exact (Keyed.nodup_ofList new).filter _

theorem arranged_without (key : α → String) (items other : List α) :
    List.Forall₂ (StandsFor key items)
      ((firstKeys key items).filter fun k => k ∉ other.map key)
      (((Keyed.ofList key items).without (Keyed.ofList key other)).map Prod.snd) := by
  rw [← keys_without, List.forall₂_map_left_iff, List.forall₂_map_right_iff, List.forall₂_same]
  intro e he
  exact (mem_without.mp he).imp_left And.left

theorem arranged_common (key : α → String) (old new : List α) :
    List.Forall₂ (PairedFor key old new)
      ((firstKeys key new).filter fun k => k ∈ old.map key) (split key old new).common := by
  rw [← keys_common, List.forall₂_map_left_iff, List.forall₂_same]
  intro pair hpair
  exact ⟨mem_common.mp hpair, rfl⟩

/-- The key of an entry is that of its item. -/
theorem mapM_entries {f : String → α → Except PlainFault Change} {entries : Keyed α}
    (h : ∀ e ∈ entries, key e.2 = e.1) :
    entries.mapM (fun e => f e.1 e.2) = (entries.map Prod.snd).mapM fun x => f (key x) x := by
  induction entries with
  | nil => rfl
  | cons e entries ih =>
    rw [List.forall_mem_cons] at h
    rw [List.mapM_cons, List.map_cons, List.mapM_cons, ih h.2, h.1]

/-- A comparison by the entries of a keyed difference goes through the keys in order. -/
theorem ReportsInOrder.of_split {f g : String → α → Except PlainFault Change}
    {details : α → α → Except PlainFault (List Change)}
    {compare : List α → List α → Except PlainFault (List Change)}
    (h : ∀ old new, compare old new = do
      let removed ← (split key old new).removed.mapM fun e => f e.1 e.2
      let added ← (split key old new).added.mapM fun e => g e.1 e.2
      let ds ← flatMapChecked (fun pair => details pair.1 pair.2) (split key old new).common
      return removed ++ added ++ ds) :
    ReportsInOrder key ⟨fun x => f (key x) x, fun x => g (key x) x, details⟩ compare := by
  intro old new
  refine ⟨_, _, _, ⟨arranged_without key old new, arranged_without key new old,
    arranged_common key old new⟩, ?_⟩
  have hremoved : ∀ e ∈ (split key old new).removed, key e.2 = e.1 :=
    fun e he => (mem_removed.mp he).2
  have hadded : ∀ e ∈ (split key old new).added, key e.2 = e.1 := fun e he => (mem_added.mp he).2
  rw [h, mapM_entries hremoved, mapM_entries hadded, flatMapChecked_eq]
  simp only [Reporter.report, bind_assoc, pure_bind]
  rfl

/-- The same where no item that goes or comes can fail to be shown. -/
theorem ReportsInOrder.of_moves {f g : String → α → Change}
    {details : α → α → Except PlainFault (List Change)}
    {compare : List α → List α → Except PlainFault (List Change)}
    (h : ∀ old new, compare old new = do
      let ds ← flatMapChecked (fun pair => details pair.1 pair.2) (split key old new).common
      return (split key old new).removed.map (fun e => f e.1 e.2) ++
        (split key old new).added.map (fun e => g e.1 e.2) ++ ds) :
    ReportsInOrder key ⟨fun x => .ok (f (key x) x), fun x => .ok (g (key x) x), details⟩
      compare := by
  refine .of_split (f := fun k x => .ok (f k x)) (g := fun k x => .ok (g k x)) ?_
  intro old new
  rw [h, mapM_ok, mapM_ok]
  rfl

end

/-! ### The comparisons -/

def endpointReporter : Reporter Endpoint where
  gone e := .ok (endpointRemoved e.id e)
  come e := .ok (endpointAdded e.id e)
  kept := endpointDetails

theorem endpoints_in_order : ReportsInOrder Endpoint.id endpointReporter endpoints :=
  .of_moves (f := endpointRemoved) (g := endpointAdded) fun _ _ => rfl

def parameterReporter (base : String) : Reporter Parameter where
  gone p := parameterRemoved base p.key p
  come p := parameterAdded base p.key p
  kept p q := .ok (parameterDetails base p q)

theorem parameters_in_order (base : String) :
    ReportsInOrder Parameter.key (parameterReporter base) (parameters base) := by
  refine .of_split fun old new => ?_
  rw [flatMapChecked_ok]
  rfl

def schemaRemoved (name : String) : Change :=
  { type := .removed, category := .schema, severity := .dangerous, path := schemaPath name
    description := "Schema removed: " ++ name, oldValue := some name }

def schemaAdded (name : String) : Change :=
  { type := .added, category := .schema, severity := .info, path := schemaPath name
    description := "New schema: " ++ name, newValue := some name }

def schemaReporter : Reporter Schema where
  gone s := .ok (schemaRemoved s.name)
  come s := .ok (schemaAdded s.name)
  kept s t := .ok (schemaDetails s t)

theorem schemas_in_order :
    ReportsInOrder Schema.name schemaReporter fun old new => .ok (schemas old new) := by
  refine .of_moves (f := fun k _ => schemaRemoved k) (g := fun k _ => schemaAdded k) ?_
  intro old new
  rw [flatMapChecked_ok]
  rfl

def responseRemoved (base code : String) : Change :=
  { type := .removed, category := .response, severity := .warning
    path := within base ("response:" ++ code), owner := some base
    description := "Response removed: " ++ code, oldValue := some code }

def responseAdded (base code : String) (r : Response) : Change :=
  { type := .added, category := .response, severity := .info
    path := within base ("response:" ++ code), owner := some base
    description := "New response: " ++ code ++ " - " ++ r.description, newValue := some code }

def responseReporter (base : String) : Reporter Response where
  gone r := .ok (responseRemoved base r.statusCode)
  come r := .ok (responseAdded base r.statusCode r)
  kept _ _ := .ok []

theorem responses_in_order (base : String) :
    ReportsInOrder Response.statusCode (responseReporter base)
      fun old new => .ok (responses base old new) := by
  refine .of_moves (f := fun k _ => responseRemoved base k) (g := responseAdded base) ?_
  intro old new
  rw [flatMapChecked_eq_nil fun _ _ => rfl]
  exact congrArg Except.ok (List.append_nil _).symm

def securityRemoved (name : String) : Change :=
  { type := .removed, category := .security, severity := .breaking, path := securityPath name
    description := "Security scheme removed: " ++ name, oldValue := some name }

def securityAdded (name : String) : Change :=
  { type := .added, category := .security, severity := .info, path := securityPath name
    description := "New security scheme: " ++ name, newValue := some name }

def securityReporter : Reporter SecurityScheme where
  gone d := .ok (securityRemoved d.name)
  come d := .ok (securityAdded d.name)
  kept _ _ := .ok []

theorem security_in_order :
    ReportsInOrder SecurityScheme.name securityReporter
      fun old new => .ok (security old new) := by
  refine .of_moves (f := fun k _ => securityRemoved k) (g := fun k _ => securityAdded k) ?_
  intro old new
  rw [flatMapChecked_eq_nil fun _ _ => rfl]
  exact congrArg Except.ok (List.append_nil _).symm

end ApiDrift.Compare
