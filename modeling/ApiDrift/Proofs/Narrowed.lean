import ApiDrift.Proofs.Reachable

/-!
# The algebra of narrowing

A threshold and the exclusion of deprecations keep the changes that pass a test, in their order, and
work out the number and the summary of what is left; everything else stays as it is. Narrowing twice
is therefore narrowing once by both tests, in whatever order, and many comparisons can be narrowed
one by one or in their union. Where number and summary fit the changes, as in every result of
comparing, narrowing and uniting, the lowest threshold changes nothing.
-/
namespace ApiDrift

/-- The higher of two severities. -/
def Severity.higher (s t : Severity) : Severity := if s.rank ≤ t.rank then t else s

theorem Severity.rank_higher (s t : Severity) : (s.higher t).rank = max s.rank t.rank := by
  unfold higher
  split_ifs with h
  · omega
  · omega

namespace Comparison

/-- Keeps the changes that pass a test. -/
def keep (p : Change → Bool) (c : Comparison) : Comparison := c.withChanges (c.changes.filter p)

/-- The test of a threshold. -/
def reaches (s : Severity) (x : Change) : Bool := s.rank ≤ x.severity.rank

/-- The test of what is no deprecation. -/
def remains (x : Change) : Bool := x.type ≠ .deprecated

theorem atLeast_eq_keep (c : Comparison) (s : Severity) : c.atLeast s = c.keep (reaches s) := rfl

theorem reaches_higher (s t : Severity) (x : Change) :
    reaches (s.higher t) x = (reaches s x && reaches t x) := by
  rw [Bool.eq_iff_iff]
  simp only [reaches, Severity.rank_higher, Bool.and_eq_true, decide_eq_true_eq]
  omega

section
variable (p q : Change → Bool) (c : Comparison)

theorem keep_keep : (c.keep p).keep q = c.keep fun x => p x && q x := by
  have hfilter : (c.changes.filter p).filter q = c.changes.filter fun x => p x && q x := by
    simp only [List.filter_filter, Bool.and_comm]
  simp only [keep, withChanges, hfilter]

theorem keep_comm : (c.keep p).keep q = (c.keep q).keep p := by
  simp only [keep_keep, Bool.and_comm]

theorem keep_idem : (c.keep p).keep p = c.keep p := by
  simp only [keep_keep, Bool.and_self]

theorem changes_keep : (c.keep p).changes.Sublist c.changes := List.filter_sublist

/-- A test that is passed less often leaves fewer changes. -/
theorem totalChanges_keep_le (h : ∀ x, p x = true → q x = true) :
    (c.keep p).totalChanges ≤ (c.keep q).totalChanges := by
  have hsublist : (c.changes.filter p).Sublist (c.changes.filter q) :=
    List.monotone_filter_right c.changes h
  exact Int.ofNat_le.mpr hsublist.length_le

/-- Many comparisons are narrowed one by one or in their union. -/
theorem aggregate_map_keep (cs : List Comparison) :
    aggregate (cs.map (keep p)) = (aggregate cs).keep p := by
  have hhead (f : Comparison → String) (hf : ∀ c, f (c.keep p) = f c) :
      (cs.map (keep p)).head?.map f = cs.head?.map f := by
    simp only [List.head?_map, Option.map_map, Function.comp_def, hf]
  have hchanges : (cs.map (keep p)).flatMap (·.changes) = (cs.flatMap (·.changes)).filter p := by
    rw [List.flatMap_map, List.filter_flatMap]
    rfl
  have hbreaking : (cs.map (keep p)).flatMap (·.breaking) = cs.flatMap (·.breaking) := by
    rw [List.flatMap_map]
    rfl
  have hscore : highestScore (cs.map (keep p)) = highestScore cs := List.foldl_map
  have hbump : highestBump (cs.map (keep p)) = highestBump cs := List.foldl_map
  simp only [aggregate, keep, withChanges, hchanges, hbreaking, hscore, hbump,
    hhead (·.apiName) fun _ => rfl, hhead (·.fromVersion) fun _ => rfl,
    hhead (·.toVersion) fun _ => rfl]

variable {p c}

/-- Nothing changes where every change passes and the figures fit. -/
theorem Coherent.keep_eq_self (hc : c.Coherent) (h : ∀ x ∈ c.changes, p x = true) :
    c.keep p = c := by
  have hchanges : c.changes.filter p = c.changes := List.filter_eq_self.mpr h
  rw [keep, Comparison.withChanges, hchanges, ← hc.total, ← hc.summary]

end

/-- The laws by which one comparison is narrowed. -/
structure NarrowsLawfully (c : Comparison) : Prop where
  thresholds : ∀ s t, (c.atLeast s).atLeast t = c.atLeast (s.higher t)
  deprecationsOnce : c.withoutDeprecations.withoutDeprecations = c.withoutDeprecations
  anyOrder : ∀ s, (c.atLeast s).withoutDeprecations = c.withoutDeprecations.atLeast s
  atLeastInOrder : ∀ s, (c.atLeast s).changes.Sublist c.changes
  othersInOrder : c.withoutDeprecations.changes.Sublist c.changes
  fewer : ∀ s t, s.rank ≤ t.rank → (c.atLeast t).totalChanges ≤ (c.atLeast s).totalChanges

theorem narrowsLawfully (c : Comparison) : c.NarrowsLawfully where
  thresholds s t := by
    simp only [atLeast_eq_keep, keep_keep, ← reaches_higher]
  deprecationsOnce := keep_idem remains c
  anyOrder s := keep_comm (reaches s) remains c
  atLeastInOrder s := changes_keep (reaches s) c
  othersInOrder := changes_keep remains c
  fewer s t hst := by
    apply totalChanges_keep_le
    intro x hx
    simp only [decide_eq_true_eq] at hx ⊢
    omega

/-- Narrowing is lawful: thresholds combine to the higher one, deprecations are left out once and in
any order, what is kept is a part in order, and a higher threshold keeps no more. The union of
narrowed comparisons is the narrowed union, also of none. The lowest threshold changes no result of
comparing, narrowing and uniting. -/
theorem narrowing_laws (c : Comparison) (cs : List Comparison) :
    c.NarrowsLawfully ∧
      (∀ s, aggregate (cs.map fun c => c.atLeast s) = (aggregate cs).atLeast s) ∧
      aggregate (cs.map withoutDeprecations) = (aggregate cs).withoutDeprecations ∧
      (c.Reachable → c.atLeast .info = c) := by
  refine ⟨narrowsLawfully c, ?_, ?_, ?_⟩
  · intro s
    exact aggregate_map_keep (reaches s) cs
  · exact aggregate_map_keep remains cs
  · intro hc
    apply hc.coherent.keep_eq_self
    intro x _
    exact decide_eq_true (Nat.zero_le x.severity.rank)

/-- The four changes of the shop, one of each severity, under rising thresholds. -/
theorem shop_narrowed :
    ∃ c, ofSpecs Sample.shop Sample.shopWithoutCancelling = .ok c ∧ c.Reachable ∧
      c.atLeast .info = c ∧ (c.atLeast .warning).totalChanges = 3 ∧
      (c.atLeast .warning).atLeast .dangerous = c.atLeast .dangerous ∧
      (c.atLeast .dangerous).totalChanges ≤ (c.atLeast .warning).totalChanges ∧
      aggregate [c.atLeast .breaking, c.withoutDeprecations.atLeast .breaking] =
        (aggregate [c, c.withoutDeprecations]).atLeast .breaking := by
  have hthree : ∃ c, ofSpecs Sample.shop Sample.shopWithoutCancelling = .ok c ∧
      (c.atLeast .warning).totalChanges = 3 := ⟨_, rfl, rfl⟩
  obtain ⟨c, hc, hthree⟩ := hthree
  obtain ⟨hlaws, hunion, -, hlowest⟩ := narrowing_laws c [c, c.withoutDeprecations]
  have hreachable : c.Reachable := .compared hc
  have hrank : Severity.rank .warning ≤ Severity.rank .dangerous := by decide
  exact ⟨c, hc, hreachable, hlowest hreachable, hthree, hlaws.thresholds .warning .dangerous,
    hlaws.fewer .warning .dangerous hrank, hunion .breaking⟩

end Comparison
end ApiDrift
