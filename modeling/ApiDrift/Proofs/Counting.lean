import ApiDrift.Proofs.Swap
import Mathlib.Algebra.BigOperators.Finprod
import Mathlib.Data.Set.Card

/-!
# Keys in number

The parts of a keyed difference are as long as there are keys of their kind: an item is listed where
it stands for its key, so that a key is listed once however often it is repeated. Numbers are said
here of sets of keys, which are known from the two lists without comparing them.
-/
namespace ApiDrift

theorem Number.total_eq_sum (ns : List Nat) : total ns = ns.sum := by
  induction ns with
  | nil => rfl
  | cons n ns ih => rw [total, List.sum_cons, ih]

theorem Number.total_indicator {α : Type} (p : α → Bool) (xs : List α) :
    total (xs.map fun x => if p x then 1 else 0) = xs.countP p := by
  induction xs with
  | nil => rfl
  | cons x xs ih => rw [List.map_cons, total, ih, List.countP_cons, Nat.add_comm]

theorem countDistinct_eq_ncard (names : List String) :
    countDistinct names = {name | name ∈ names}.ncard := by
  rw [countDistinct_eq_card, ← Set.ncard_coe_finset, List.coe_toFinset]

namespace Compare

/-- The keys of some items that no item of the others has. -/
def keysOnlyIn {α : Type} (key : α → String) (items others : List α) : Set String :=
  {k | k ∈ items.map key ∧ k ∉ others.map key}

/-- The keys of both lists whose old and new item are related. -/
def keysWhere {α : Type} (key : α → String) (old new : List α) (R : α → α → Prop) : Set String :=
  {k | ∃ x y, Paired key old new x y ∧ key y = k ∧ R x y}

/-- The old and new items that stand for the common keys. -/
def pairs {α : Type} (key : α → String) (old new : List α) : Set (α × α) :=
  {pair | Paired key old new pair.1 pair.2}

/-- A list without repetition is as long as the set of its members is large. -/
theorem length_eq_ncard {β : Type} {xs : List β} {S : Set β} (hnodup : xs.Nodup)
    (hmem : ∀ x, x ∈ xs ↔ x ∈ S) : xs.length = S.ncard := by
  classical
  have hS : S = xs.toFinset := by
    ext x
    simp [hmem]
  rw [hS, Set.ncard_coe_finset, List.toFinset_card_of_nodup hnodup]

section
variable {α : Type} {key : α → String} {old new : List α} {x x' y y' : α}

theorem Paired.eq_of_key (h : Paired key old new x y) (h' : Paired key old new x' y')
    (hkey : key y = key y') : x = x' ∧ y = y' := by
  have hold : key x = key x' := by rw [h.2.2, hkey, h'.2.2]
  exact ⟨h.1.unique h'.1 hold, h.2.1.unique h'.2.1 hkey⟩

theorem injOn_key : Set.InjOn (fun pair => key pair.2) (pairs key old new) := by
  intro pair hpair pair' hpair' hkey
  obtain ⟨hold, hnew⟩ := Paired.eq_of_key hpair hpair' hkey
  exact Prod.ext hold hnew

theorem mem_common_iff_mem_pairs (pair : α × α) :
    pair ∈ (split key old new).common ↔ pair ∈ pairs key old new :=
  mem_common

theorem length_removed :
    (split key old new).removed.length = (keysOnlyIn key old new).ncard := by
  -- The keys of the entries are counted, as the entries hold the items as well.
  have hnodup : ((split key old new).removed.map Prod.fst).Nodup :=
    (Keyed.nodup_ofList old).sublist (List.filter_sublist.map Prod.fst)
  have hmem : ∀ k, k ∈ (split key old new).removed.map Prod.fst ↔ k ∈ keysOnlyIn key old new := by
    intro k
    simp only [List.mem_map, Prod.exists, mem_removed]
    constructor
    · intro h
      obtain ⟨_, x, ⟨halone, rfl⟩, rfl⟩ := h
      exact ⟨List.mem_map_of_mem halone.1.mem, halone.2⟩
    · intro h
      obtain ⟨hk, hnew⟩ := h
      obtain ⟨x, hx, rfl⟩ := exists_stands hk
      exact ⟨key x, x, ⟨⟨hx, hnew⟩, rfl⟩, rfl⟩
  rw [← length_eq_ncard hnodup hmem, List.length_map]

theorem length_added : (split key old new).added.length = (keysOnlyIn key new old).ncard :=
  length_removed

/-- There are as many keys as pairs. -/
theorem ncard_keysWhere (R : α → α → Prop) :
    (keysWhere key old new R).ncard = {pair ∈ pairs key old new | R pair.1 pair.2}.ncard := by
  have hkeys : keysWhere key old new R =
      (fun pair => key pair.2) '' {pair ∈ pairs key old new | R pair.1 pair.2} := by
    ext k
    constructor
    · intro h
      obtain ⟨x, y, hpair, hk, hR⟩ := h
      exact ⟨(x, y), ⟨hpair, hR⟩, hk⟩
    · intro h
      obtain ⟨⟨x, y⟩, ⟨hpair, hR⟩, hk⟩ := h
      exact ⟨x, y, hpair, hk, hR⟩
  rw [hkeys, (injOn_key.mono (Set.sep_subset _ _)).ncard_image]

/-- There are as many keys as values that tell the pairs apart. -/
theorem ncard_image_pairs {β : Type} {R : α → α → Prop} {f : α × α → β}
    (hf : ∀ pair ∈ pairs key old new, ∀ pair' ∈ pairs key old new, f pair = f pair' →
      key pair.2 = key pair'.2) :
    (f '' {pair ∈ pairs key old new | R pair.1 pair.2}).ncard =
      (keysWhere key old new R).ncard := by
  have hinj : Set.InjOn f (pairs key old new) := by
    intro pair hpair pair' hpair' heq
    exact injOn_key hpair hpair' (hf pair hpair pair' hpair' heq)
  rw [ncard_keysWhere, (hinj.mono (Set.sep_subset _ _)).ncard_image]

/-- The common pairs that pass a test are as many as their keys. -/
theorem countP_common (p : α → α → Bool) :
    (split key old new).common.countP (fun pair => p pair.1 pair.2) =
      (keysWhere key old new fun x y => p x y = true).ncard := by
  rw [ncard_keysWhere, List.countP_eq_length_filter]
  apply length_eq_ncard ((nodup_common key old new).filter _)
  intro pair
  simp [mem_common_iff_mem_pairs]

/-- A total over the common entries is a sum over the common keys, in whatever order. -/
theorem total_common (n : α × α → Nat) :
    Number.total ((split key old new).common.map n) = ∑ᶠ pair ∈ pairs key old new, n pair := by
  classical
  have hpairs : pairs key old new = (split key old new).common.toFinset := by
    ext pair
    simp [mem_common_iff_mem_pairs]
  rw [hpairs, finsum_mem_coe_finset, List.sum_toFinset n (nodup_common key old new),
    Number.total_eq_sum]

end

end Compare
end ApiDrift
