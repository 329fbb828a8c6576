import ApiDrift.Proofs.Keyed
import ApiDrift.Proofs.Outcomes
import Mathlib.Data.List.Nodup

/-!
# Keyed differences without repeated keys

Where no key is repeated, every item stands for its key. The keyed difference of two lists of which
one is an edit of the other is then known in full, with its order: what was deleted or inserted is
alone, what was replaced is paired with what replaced it, and all other items are paired with
themselves.
-/
namespace ApiDrift.Compare

variable {α β : Type} {key : α → String} {old new items before after : List α} {x y : α}
variable {k : String}

/-- The new list lacks one item of the old one and is the same otherwise. -/
def Deleted (x : α) (old new : List α) : Prop :=
  ∃ before after, old = before ++ x :: after ∧ new = before ++ after

/-- The new list has another item in the place of one of the old list and is the same otherwise. -/
def Replaced (x y : α) (old new : List α) : Prop :=
  ∃ before after, old = before ++ x :: after ∧ new = before ++ y :: after

theorem Deleted.mem (h : Deleted x old new) (hy : y ∈ new) : y ∈ old := by
  obtain ⟨before, after, rfl, rfl⟩ := h
  simp only [List.mem_append, List.mem_cons] at hy ⊢
  tauto

theorem Deleted.self_mem (h : Deleted x old new) : x ∈ old := by
  obtain ⟨before, after, rfl, -⟩ := h
  simp

theorem Replaced.old_mem (h : Replaced x y old new) : x ∈ old := by
  obtain ⟨before, after, rfl, -⟩ := h
  simp

theorem Replaced.new_mem (h : Replaced x y old new) : y ∈ new := by
  obtain ⟨before, after, -, rfl⟩ := h
  simp

theorem Deleted.key_notMem (h : Deleted x old new) (hold : (old.map key).Nodup) :
    key x ∉ new.map key := by
  obtain ⟨before, after, rfl, rfl⟩ := h
  rw [List.map_append, List.map_cons, List.nodup_middle, ← List.map_append] at hold
  exact (List.nodup_cons.mp hold).1

/-- An item with its key. -/
def entry (key : α → String) (x : α) : String × α := (key x, x)

namespace Keyed

theorem put_of_notMem {m : Keyed α} (h : k ∉ m.map Prod.fst) : m.put k x = m ++ [(k, x)] := by
  induction m with
  | nil => rfl
  | cons e m ih =>
    obtain ⟨k', y⟩ := e
    rw [List.map_cons, List.mem_cons, not_or] at h
    rw [put, if_neg (Ne.symm h.1), ih h.2, List.cons_append]

theorem ofList_of_nodup (h : (items.map key).Nodup) : ofList key items = items.map (entry key) := by
  induction items using List.reverseRecOn with
  | nil => rfl
  | append_singleton items z ih =>
    rw [List.map_append, List.nodup_append] at h
    have hz : key z ∉ (items.map (entry key)).map Prod.fst := by
      rw [List.map_map]
      intro hmem
      exact h.2.2 (key z) hmem (key z) (List.mem_singleton_self _) rfl
    rw [ofList_concat, ih h.1, put_of_notMem hz, List.map_append]
    rfl

end Keyed

theorem stands_of_nodup (h : (items.map key).Nodup) (hx : x ∈ items) : Stands key items x := by
  obtain ⟨before, after, rfl⟩ := List.append_of_mem hx
  refine ⟨before, after, rfl, fun y hy heq => ?_⟩
  rw [List.map_append, List.map_cons] at h
  have hcons := List.nodup_cons.mp (List.nodup_append.mp h).2.1
  exact hcons.1 (heq ▸ List.mem_map_of_mem hy)

theorem get?_of_nodup (h : (items.map key).Nodup) (hx : x ∈ items) :
    (Keyed.ofList key items).get? (key x) = some x :=
  Keyed.get?_ofList.mpr ⟨stands_of_nodup h hx, rfl⟩

theorem without_of_nodup {other : List α} (h : (items.map key).Nodup) :
    (Keyed.ofList key items).without (Keyed.ofList key other) =
      (items.filter fun x => key x ∉ other.map key).map (entry key) := by
  rw [Keyed.ofList_of_nodup h, Keyed.without, List.filter_map]
  congr 1
  refine List.filter_congr fun x _ => ?_
  rw [Bool.eq_iff_iff, decide_eq_true_iff, Function.comp_apply, Option.isNone_iff_eq_none,
    Keyed.get?_ofList_eq_none]
  rfl

theorem filter_keys_eq_nil {other : List α} (h : ∀ x ∈ items, key x ∈ other.map key) :
    items.filter (fun x => key x ∉ other.map key) = [] := by
  refine List.filter_eq_nil_iff.mpr fun x hx => ?_
  simpa only [decide_eq_true_iff, not_not] using h x hx

theorem without_eq_nil {other : List α} (h : (items.map key).Nodup)
    (hother : ∀ x ∈ items, key x ∈ other.map key) :
    (Keyed.ofList key items).without (Keyed.ofList key other) = [] := by
  rw [without_of_nodup h, filter_keys_eq_nil hother, List.map_nil]

/-- The item that a list has more than the other is alone there. -/
theorem filter_deleted (h : (old.map key).Nodup) (hx : Deleted x old new) :
    old.filter (fun y => key y ∉ new.map key) = [x] := by
  have halone := hx.key_notMem h
  obtain ⟨before, after, rfl, rfl⟩ := hx
  have hbefore := filter_keys_eq_nil fun y (hy : y ∈ before) =>
    List.mem_map_of_mem (f := key) (List.mem_append_left after hy)
  have hafter := filter_keys_eq_nil fun y (hy : y ∈ after) =>
    List.mem_map_of_mem (f := key) (List.mem_append_right before hy)
  rw [List.filter_append, List.filter_cons_of_pos (by simpa only [decide_eq_true_iff] using halone),
    hbefore, hafter, List.nil_append]

theorem without_deleted (h : (old.map key).Nodup) (hx : Deleted x old new) :
    (Keyed.ofList key old).without (Keyed.ofList key new) = [entry key x] := by
  rw [without_of_nodup h, filter_deleted h hx, List.map_singleton]

/-- Each item with itself. -/
def diagonal (items : List α) : List (α × α) := items.map fun x => (x, x)

/-- An item of the new list with the old item of its key. -/
def paired? (key : α → String) (old : List α) (y : α) : Option (α × α) :=
  ((Keyed.ofList key old).get? (key y)).map fun x => (x, y)

theorem common_of_nodup (old : List α) (h : (new.map key).Nodup) :
    Keyed.common (Keyed.ofList key old) (Keyed.ofList key new) =
      new.filterMap (paired? key old) := by
  rw [Keyed.ofList_of_nodup h, Keyed.common, List.filterMap_map]
  rfl

section
variable (hold : (old.map key).Nodup)
include hold

theorem paired?_of_mem (hx : x ∈ old) (hkey : key x = key y) : paired? key old y = some (x, y) := by
  rw [paired?, ← hkey, get?_of_nodup hold hx, Option.map_some]

theorem filterMap_paired (h : ∀ y ∈ items, y ∈ old) :
    items.filterMap (paired? key old) = diagonal items := by
  induction items with
  | nil => rfl
  | cons y items ih =>
    have hy := paired?_of_mem hold (h y List.mem_cons_self) rfl
    rw [List.filterMap_cons_some hy, ih fun z hz => h z (List.mem_cons_of_mem y hz)]
    rfl

theorem split_self : split key old old = ⟨[], [], diagonal old⟩ := by
  have hkeys := without_eq_nil hold fun x hx => List.mem_map_of_mem (f := key) hx
  have hcommon := (common_of_nodup old hold).trans (filterMap_paired hold fun _ => id)
  simp only [split, hkeys, hcommon]

theorem split_deleted (hnew : (new.map key).Nodup) (hx : Deleted x old new) :
    split key old new = ⟨[entry key x], [], diagonal new⟩ := by
  have hmem : ∀ y ∈ new, y ∈ old := fun _ => hx.mem
  have hadded := without_eq_nil hnew fun y hy => List.mem_map_of_mem (f := key) (hmem y hy)
  have hcommon := (common_of_nodup old hnew).trans (filterMap_paired hold hmem)
  simp only [split, without_deleted hold hx, hadded, hcommon]

theorem split_inserted (hnew : (new.map key).Nodup) (hx : Deleted x new old) :
    split key old new = ⟨[], [entry key x], diagonal old⟩ := by
  have hremoved := without_eq_nil hold fun y hy => List.mem_map_of_mem (f := key) (hx.mem hy)
  have hadded := without_deleted hnew hx
  have hnone : paired? key old x = none := by
    rw [paired?, Keyed.get?_ofList_eq_none.mpr (hx.key_notMem hnew), Option.map_none]
  have hcommon := common_of_nodup old hnew
  obtain ⟨before, after, rfl, rfl⟩ := hx
  have hbefore := filterMap_paired hold fun y (hy : y ∈ before) => List.mem_append_left after hy
  have hafter := filterMap_paired hold fun y (hy : y ∈ after) => List.mem_append_right before hy
  rw [List.filterMap_append, List.filterMap_cons_none hnone, hbefore, hafter, diagonal, diagonal,
    ← List.map_append] at hcommon
  simp only [split, hremoved, hadded, hcommon, diagonal]

theorem split_replaced (hnew : (new.map key).Nodup) (hkey : key x = key y)
    (hxy : Replaced x y old new) :
    ∃ before after, split key old new = ⟨[], [], diagonal before ++ (x, y) :: diagonal after⟩ ∧
      ∀ z ∈ before ++ after, z ∈ old ∧ key z ≠ key x := by
  have hcommon := common_of_nodup old hnew
  obtain ⟨before, after, rfl, rfl⟩ := hxy
  have hkeys : (before ++ x :: after).map key = (before ++ y :: after).map key := by
    simp only [List.map_append, List.map_cons, hkey]
  have hremoved : (Keyed.ofList key (before ++ x :: after)).without
      (Keyed.ofList key (before ++ y :: after)) = [] :=
    without_eq_nil hold fun z hz => hkeys ▸ List.mem_map_of_mem hz
  have hadded : (Keyed.ofList key (before ++ y :: after)).without
      (Keyed.ofList key (before ++ x :: after)) = [] :=
    without_eq_nil hnew fun z hz => hkeys ▸ List.mem_map_of_mem hz
  have hbefore := filterMap_paired hold fun z (hz : z ∈ before) =>
    List.mem_append_left (x :: after) hz
  have hafter := filterMap_paired hold fun z (hz : z ∈ after) =>
    List.mem_append_right before (List.mem_cons_of_mem x hz)
  have hsome : paired? key (before ++ x :: after) y = some (x, y) :=
    paired?_of_mem hold (by simp) hkey
  rw [List.filterMap_append, List.filterMap_cons_some hsome, hbefore, hafter] at hcommon
  refine ⟨before, after, ?_, fun z hz => ?_⟩
  · simp only [split, hremoved, hadded, hcommon]
  · have hx : Deleted x (before ++ x :: after) (before ++ after) := ⟨before, after, rfl, rfl⟩
    exact ⟨hx.mem hz, fun heq => hx.key_notMem hold (heq ▸ List.mem_map_of_mem hz)⟩

end

theorem flatMap_diagonal {f : α × α → List β} (h : ∀ x ∈ items, f (x, x) = []) :
    (diagonal items).flatMap f = [] := by
  rw [diagonal, List.flatMap_map]
  exact List.flatMap_eq_nil_iff.mpr h

theorem flatMap_replaced {f : α × α → List β} (h : ∀ z ∈ before ++ after, f (z, z) = []) :
    (diagonal before ++ (x, y) :: diagonal after).flatMap f = f (x, y) := by
  have hbefore := flatMap_diagonal fun z (hz : z ∈ before) => h z (List.mem_append_left after hz)
  have hafter := flatMap_diagonal fun z (hz : z ∈ after) => h z (List.mem_append_right before hz)
  rw [List.flatMap_append, List.flatMap_cons, hbefore, hafter, List.nil_append, List.append_nil]

section
variable {ε : Type} {f : α × α → Except ε (List β)}

theorem flatMapChecked_diagonal (h : ∀ x ∈ items, f (x, x) = .ok []) :
    flatMapChecked f (diagonal items) = .ok [] := by
  refine flatMapChecked_eq_nil fun pair hpair => ?_
  obtain ⟨x, hx, rfl⟩ := List.mem_map.mp hpair
  exact h x hx

theorem flatMapChecked_replaced (h : ∀ z ∈ before ++ after, f (z, z) = .ok []) {ys : List β}
    (hxy : f (x, y) = .ok ys) :
    flatMapChecked f (diagonal before ++ (x, y) :: diagonal after) = .ok ys := by
  have hbefore := flatMapChecked_diagonal fun z (hz : z ∈ before) =>
    h z (List.mem_append_left after hz)
  have hafter := flatMapChecked_diagonal fun z (hz : z ∈ after) =>
    h z (List.mem_append_right before hz)
  have hrest : flatMapChecked f ((x, y) :: diagonal after) = .ok ys := by
    rw [flatMapChecked, hxy, hafter]
    exact congrArg Except.ok (List.append_nil ys)
  exact flatMapChecked_append hbefore hrest

end

end ApiDrift.Compare
