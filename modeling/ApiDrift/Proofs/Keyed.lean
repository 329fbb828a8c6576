import ApiDrift.Compare.Keyed
import Mathlib.Data.List.Induction
import Mathlib.Data.List.Nodup
import Mathlib.Tactic.Push
import Mathlib.Tactic.Tauto

/-!
# What a keyed difference holds

Keys may repeat. Of the items of a list that share a key the last one stands for it, and a keyed
difference is about the items that stand for their keys only: those whose key the other side lacks
and the pairs that share one. The three parts of `split` are characterised by membership here; their
order is left out.
-/
namespace ApiDrift.Compare

variable {α : Type} {key : α → String} {old new items : List α} {x y : α} {k : String}

/-- An item stands for its key where no later item has that key. -/
def Stands (key : α → String) (items : List α) (x : α) : Prop :=
  ∃ before after, items = before ++ x :: after ∧ ∀ y ∈ after, key y ≠ key x

/-- An item that stands for a key which the other list lacks. -/
def Alone (key : α → String) (items other : List α) (x : α) : Prop :=
  Stands key items x ∧ key x ∉ other.map key

/-- The old and the new item that stand for a key of both lists. -/
def Paired (key : α → String) (old new : List α) (x y : α) : Prop :=
  Stands key old x ∧ Stands key new y ∧ key x = key y

/-- Two lists with the same keys, in whatever order and number. -/
def SameKeys (key : α → String) (old new : List α) : Prop :=
  ∀ k, k ∈ old.map key ↔ k ∈ new.map key

theorem Stands.mem (h : Stands key items x) : x ∈ items := by
  obtain ⟨before, after, rfl, -⟩ := h
  simp

/-- An item added at the end takes its key over from all items before it. -/
theorem stands_concat {z : α} :
    Stands key (items ++ [z]) x ↔ x = z ∨ Stands key items x ∧ key x ≠ key z := by
  constructor
  · intro hm
    obtain ⟨before, after, heq, hlast⟩ := hm
    rcases List.eq_nil_or_concat after with rfl | ⟨rest, w, rfl⟩
    · obtain ⟨-, hz⟩ := List.append_inj' heq rfl
      exact .inl (List.singleton_inj.mp hz).symm
    · rw [List.concat_eq_append] at heq hlast
      rw [← List.cons_append, ← List.append_assoc] at heq
      obtain ⟨hitems, hz⟩ := List.append_inj' heq rfl
      obtain rfl := List.singleton_inj.mp hz
      refine .inr ⟨⟨before, rest, hitems, fun y hy => hlast y (by simp [hy])⟩, ?_⟩
      exact (hlast z (by simp)).symm
  · intro hm
    rcases hm with rfl | ⟨⟨before, after, rfl, hlast⟩, hne⟩
    · exact ⟨items, [], by simp, by simp⟩
    · refine ⟨before, after ++ [z], by simp, fun y hy => ?_⟩
      rcases List.mem_append.mp hy with hy | hy
      · exact hlast y hy
      · exact List.mem_singleton.mp hy ▸ hne.symm

theorem stands_map_iff {β : Type} {f : β → α} {xs : List β} :
    Stands key (xs.map f) x ↔ ∃ y, Stands (fun z => key (f z)) xs y ∧ f y = x := by
  constructor
  · intro h
    obtain ⟨before, after, heq, hlast⟩ := h
    obtain ⟨us, vs, rfl, rfl, hvs⟩ := List.map_eq_append_iff.mp heq
    obtain ⟨y, ws, rfl, rfl, rfl⟩ := List.map_eq_cons_iff.mp hvs
    exact ⟨y, ⟨us, ws, rfl, fun z hz => hlast (f z) (List.mem_map_of_mem hz)⟩, rfl⟩
  · intro h
    obtain ⟨y, ⟨before, after, rfl, hlast⟩, rfl⟩ := h
    refine ⟨before.map f, after.map f, by simp, fun z hz => ?_⟩
    obtain ⟨w, hw, rfl⟩ := List.mem_map.mp hz
    exact hlast w hw

/-- Every key of a list has an item that stands for it. -/
theorem exists_stands (h : k ∈ items.map key) : ∃ x, Stands key items x ∧ key x = k := by
  -- From the end: the keyed map is built that way, and `stands_concat` is its step.
  induction items using List.reverseRecOn with
  | nil => simp at h
  | append_singleton items z ih =>
    by_cases hz : key z = k
    · exact ⟨z, stands_concat.mpr (.inl rfl), hz⟩
    · have hk : k ∈ items.map key := by
        rw [List.map_append, List.mem_append] at h
        exact h.resolve_right fun hk => hz (List.mem_singleton.mp hk).symm
      obtain ⟨x, hx, rfl⟩ := ih hk
      exact ⟨x, stands_concat.mpr (.inr ⟨hx, Ne.symm hz⟩), rfl⟩

/-- The item that stands for a key is determined by the key. -/
theorem Stands.unique (hx : Stands key items x) (hy : Stands key items y) (h : key x = key y) :
    x = y := by
  induction items using List.reverseRecOn with
  | nil => exact absurd hx.mem (by simp)
  | append_singleton items z ih =>
    rcases stands_concat.mp hx with rfl | ⟨hx, hxz⟩
    · rcases stands_concat.mp hy with rfl | ⟨-, hyz⟩
      · rfl
      · exact absurd h.symm hyz
    · rcases stands_concat.mp hy with rfl | ⟨hy, -⟩
      · exact absurd h hxz
      · exact ih hx hy

theorem Paired.eq_of_self (h : Paired key items items x y) : x = y := h.1.unique h.2.1 h.2.2

theorem Paired.symm (h : Paired key old new x y) : Paired key new old y x :=
  ⟨h.2.1, h.1, h.2.2.symm⟩

/-- An item that stands for its key stands alone, or the other list has the key too. -/
theorem Stands.alone_or_paired (h : Stands key items x) (other : List α) :
    Alone key items other x ∨ ∃ y, Paired key items other x y := by
  by_cases hother : key x ∈ other.map key
  · obtain ⟨y, hy, hkey⟩ := exists_stands hother
    exact .inr ⟨y, h, hy, hkey.symm⟩
  · exact .inl ⟨h, hother⟩

/-- A key that the new list lacks is lost before a list in between, or after it. -/
theorem Alone.via (h : Alone key old new x) (mid : List α) :
    Alone key old mid x ∨ ∃ y, Paired key old mid x y ∧ Alone key mid new y := by
  refine (h.1.alone_or_paired mid).imp_right fun hy => ?_
  obtain ⟨y, hxy⟩ := hy
  exact ⟨y, hxy, hxy.2.1, hxy.2.2 ▸ h.2⟩

/-- A key of both lists is one of a list in between too, or is lost there. -/
theorem Paired.via (h : Paired key old new x y) (mid : List α) :
    Alone key old mid x ∨ ∃ z, Paired key old mid x z ∧ Paired key mid new z y := by
  refine (h.1.alone_or_paired mid).imp_right fun hz => ?_
  obtain ⟨z, hxz⟩ := hz
  exact ⟨z, hxz, hxz.2.1, h.2.1, hxz.2.2.symm.trans h.2.2⟩

/-- A key is missing on one side exactly where an item stands alone on the other. -/
theorem exists_alone_iff {other : List α} :
    (∃ x, Alone key items other x) ↔ ∃ k ∈ items.map key, k ∉ other.map key := by
  constructor
  · intro hm
    obtain ⟨x, hx, hother⟩ := hm
    exact ⟨key x, List.mem_map_of_mem hx.mem, hother⟩
  · intro hm
    obtain ⟨k, hk, hother⟩ := hm
    obtain ⟨x, hx, rfl⟩ := exists_stands hk
    exact ⟨x, hx, hother⟩

theorem forall_not_alone_iff {other : List α} :
    (∀ x, ¬ Alone key items other x) ↔ ∀ k ∈ items.map key, k ∈ other.map key := by
  rw [← not_exists, exists_alone_iff]
  push Not
  rfl

theorem sameKeys_iff :
    SameKeys key old new ↔ (∀ x, ¬ Alone key old new x) ∧ ∀ x, ¬ Alone key new old x := by
  rw [forall_not_alone_iff, forall_not_alone_iff]
  constructor
  · intro h
    exact ⟨fun k => (h k).mp, fun k => (h k).mpr⟩
  · intro h k
    exact ⟨h.1 k, h.2 k⟩

theorem SameKeys.refl (items : List α) : SameKeys key items items := fun _ => Iff.rfl

namespace Keyed

theorem get?_cons (k' k : String) (x : α) (rest : Keyed α) :
    get? ((k', x) :: rest) k = if k = k' then some x else rest.get? k := by
  rw [get?, List.lookup_cons]
  by_cases hk : k = k'
  · rw [if_pos hk, beq_iff_eq.mpr hk]
  · rw [if_neg hk, beq_false_of_ne hk]
    rfl

theorem get?_put (m : Keyed α) (key k : String) (item : α) :
    (m.put key item).get? k = if k = key then some item else m.get? k := by
  induction m with
  | nil => exact get?_cons key k item []
  | cons e rest ih =>
    obtain ⟨k', x⟩ := e
    by_cases hk : k' = key
    · subst hk
      simp only [put, if_true, get?_cons]
      split_ifs <;> rfl
    · simp only [put, if_neg hk, get?_cons, ih]
      split_ifs with hk' hkey
      · exact absurd (hk'.symm.trans hkey) hk
      all_goals rfl

/-- A key that is there keeps its place, and a new one comes last. -/
theorem keys_put (m : Keyed α) (key : String) (item : α) :
    (m.put key item).map Prod.fst =
      if key ∈ m.map Prod.fst then m.map Prod.fst else m.map Prod.fst ++ [key] := by
  induction m with
  | nil => rfl
  | cons e rest ih =>
    obtain ⟨k', x⟩ := e
    by_cases hk : k' = key
    · simp [put, hk]
    · simp only [put, if_neg hk, List.map_cons, ih, List.mem_cons, Ne.symm hk, false_or]
      split_ifs <;> rfl

theorem mem_keys_put {m : Keyed α} {key k : String} {item : α} :
    k ∈ (m.put key item).map Prod.fst ↔ k = key ∨ k ∈ m.map Prod.fst := by
  rw [keys_put]
  split_ifs with hkey
  · exact (or_iff_right_of_imp fun hk => hk ▸ hkey).symm
  · rw [List.mem_append, List.mem_singleton, or_comm]

theorem nodup_put {m : Keyed α} (h : (m.map Prod.fst).Nodup) (key : String) (item : α) :
    ((m.put key item).map Prod.fst).Nodup := by
  rw [keys_put]
  split_ifs with hkey
  · exact h
  · exact h.append (List.nodup_singleton key) (List.disjoint_singleton.mpr hkey)

theorem ofList_concat (items : List α) (z : α) :
    ofList key (items ++ [z]) = (ofList key items).put (key z) z := by
  simp only [ofList, List.foldl_append, List.foldl_cons, List.foldl_nil]

/-- Each key occurs once among the entries. -/
theorem nodup_ofList (items : List α) : ((ofList key items).map Prod.fst).Nodup := by
  induction items using List.reverseRecOn with
  | nil => exact List.nodup_nil
  | append_singleton items z ih =>
    rw [ofList_concat]
    exact nodup_put ih _ _

/-- The keys are those of the items, each where it is met first. -/
theorem keys_ofList (key : α → String) (items : List α) :
    (ofList key items).map Prod.fst = (items.map key).eraseDups := by
  induction items using List.reverseRecOn with
  | nil => rfl
  | append_singleton items z ih =>
    rw [ofList_concat, keys_put, ih, List.map_append, List.map_singleton, List.eraseDups_append]
    by_cases hz : key z ∈ items.map key
    · simp [List.removeAll, -List.mem_map, hz]
    · simp [List.removeAll, -List.mem_map, hz, List.eraseDups_cons]

/-- Looking up a key gives the item that stands for it. -/
theorem get?_ofList : (ofList key items).get? k = some x ↔ Stands key items x ∧ key x = k := by
  induction items using List.reverseRecOn with
  | nil =>
    refine iff_of_false (by simp [ofList, get?]) fun h => ?_
    exact absurd h.1.mem (by simp)
  | append_singleton items z ih =>
    rw [ofList_concat, get?_put, stands_concat]
    by_cases hk : k = key z
    · subst hk
      simp only [if_true, Option.some.injEq]
      constructor
      · intro hm
        subst hm
        exact ⟨.inl rfl, rfl⟩
      · intro hm
        rcases hm with ⟨rfl | ⟨-, hne⟩, heq⟩
        · rfl
        · exact absurd heq hne
    · rw [if_neg hk, ih]
      constructor
      · intro hm
        obtain ⟨hx, rfl⟩ := hm
        exact ⟨.inr ⟨hx, hk⟩, rfl⟩
      · intro hm
        rcases hm with ⟨rfl | ⟨hx, -⟩, heq⟩
        · exact absurd heq.symm hk
        · exact ⟨hx, heq⟩

theorem get?_ofList_eq_none : (ofList key items).get? k = none ↔ k ∉ items.map key := by
  rw [Option.eq_none_iff_forall_ne_some]
  constructor
  · intro h hk
    obtain ⟨x, hx⟩ := exists_stands hk
    exact h x (get?_ofList.mpr hx)
  · intro h x hx
    obtain ⟨hstands, rfl⟩ := get?_ofList.mp hx
    exact h (List.mem_map_of_mem hstands.mem)

/-- Where keys do not repeat, the entries are what looking up finds. -/
theorem mem_iff_get? {m : Keyed α} (h : (m.map Prod.fst).Nodup) :
    (k, x) ∈ m ↔ m.get? k = some x := by
  induction m with
  | nil => simp [get?]
  | cons e rest ih =>
    obtain ⟨k', x'⟩ := e
    rw [List.map_cons, List.nodup_cons] at h
    rw [List.mem_cons, Prod.mk.injEq, get?_cons, ih h.2]
    by_cases hk : k = k'
    · subst hk
      have hrest : get? rest k ≠ some x := fun hx =>
        h.1 (List.mem_map.mpr ⟨(k, x), (ih h.2).mpr hx, rfl⟩)
      simp only [true_and, hrest, or_false, if_true, Option.some.injEq]
      exact eq_comm
    · simp only [hk, false_and, false_or, if_false]

theorem mem_ofList : (k, x) ∈ ofList key items ↔ Stands key items x ∧ key x = k :=
  (mem_iff_get? (nodup_ofList items)).trans get?_ofList

end Keyed

theorem mem_without {other : List α} :
    (k, x) ∈ (Keyed.ofList key items).without (Keyed.ofList key other) ↔
      Alone key items other x ∧ key x = k := by
  simp only [Keyed.without, List.mem_filter, Keyed.mem_ofList, Option.isNone_iff_eq_none,
    Keyed.get?_ofList_eq_none]
  constructor
  · intro hm
    obtain ⟨⟨hx, rfl⟩, hother⟩ := hm
    exact ⟨⟨hx, hother⟩, rfl⟩
  · intro hm
    obtain ⟨⟨hx, hother⟩, rfl⟩ := hm
    exact ⟨⟨hx, rfl⟩, hother⟩

theorem mem_removed : (k, x) ∈ (split key old new).removed ↔ Alone key old new x ∧ key x = k :=
  mem_without

theorem mem_added : (k, x) ∈ (split key old new).added ↔ Alone key new old x ∧ key x = k :=
  mem_without

theorem mem_common : (x, y) ∈ (split key old new).common ↔ Paired key old new x y := by
  simp only [split, Keyed.common, List.mem_filterMap, Option.map_eq_some_iff, Prod.mk.injEq]
  constructor
  · intro hm
    obtain ⟨⟨k, z⟩, hz, w, hw, rfl, rfl⟩ := hm
    obtain ⟨hnew, rfl⟩ := Keyed.mem_ofList.mp hz
    obtain ⟨hold, heq⟩ := Keyed.get?_ofList.mp hw
    exact ⟨hold, hnew, heq⟩
  · intro hm
    obtain ⟨hx, hy, heq⟩ := hm
    exact ⟨(key y, y), Keyed.mem_ofList.mpr ⟨hy, rfl⟩, x, Keyed.get?_ofList.mpr ⟨hx, heq⟩, rfl, rfl⟩

end ApiDrift.Compare
