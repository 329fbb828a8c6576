import ApiDrift.Proofs.Bump
import ApiDrift.Verdict.Detection
import Mathlib.Data.List.Basic
import Mathlib.Tactic.TFAE

/-!
# What every comparison keeps

A comparison of two specifications may be narrowed and united with others, again and again. The
figures of each result fit its changes, whatever was left out: the changes are counted, the breaking
ones among them are complete and in order, and the score, its level and the bump tell the same
story. Both are invariants, shown of the comparison of two specifications and kept by each step.
-/
namespace ApiDrift
open Compare

/-- A narrowed comparison answers exactly where the comparison does. -/
theorem Spec.compare_eq_ok {n : Narrowing} {old new : Spec} {c : Comparison} :
    old.compare n new = .ok c ↔ ∃ b, Comparison.ofSpecs old new = .ok b ∧ b.narrow n = c := by
  unfold Spec.compare
  cases Comparison.ofSpecs old new with
  | error f => simp
  | ok b => simp

namespace Comparison

/-- The results that comparing, narrowing and uniting can give. -/
inductive Reachable : Comparison → Prop
  | compared {old new : Spec} {c : Comparison} : ofSpecs old new = .ok c → Reachable c
  | detected {n : Narrowing} {old new : Spec} {c : Comparison} :
      Spec.compare n old new = .ok c → Reachable c
  | atLeast {c : Comparison} (s : Severity) : Reachable c → Reachable (c.atLeast s)
  | withoutDeprecations {c : Comparison} : Reachable c → Reachable c.withoutDeprecations
  | aggregate {cs : List Comparison} : (∀ c ∈ cs, Reachable c) → Reachable (aggregate cs)

section
variable {P : Comparison → Prop}

theorem narrow_invariant (hatLeast : ∀ c s, P c → P (c.atLeast s))
    (hwithout : ∀ c, P c → P c.withoutDeprecations) {c : Comparison} (h : P c) (n : Narrowing) :
    P (c.narrow n) := by
  obtain ⟨threshold, deprecations⟩ := n
  cases threshold with
  | none =>
    cases deprecations with
    | false => exact hwithout c h
    | true => exact h
  | some s =>
    have hs := hatLeast c s h
    cases deprecations with
    | false => exact hwithout _ hs
    | true => exact hs

/-- What comparing gives and each step keeps holds of every result. -/
theorem Reachable.invariant (hcompared : ∀ old new c, ofSpecs old new = .ok c → P c)
    (hatLeast : ∀ c s, P c → P (c.atLeast s)) (hwithout : ∀ c, P c → P c.withoutDeprecations)
    (haggregate : ∀ cs, (∀ c ∈ cs, P c) → P (Comparison.aggregate cs)) {c : Comparison}
    (h : c.Reachable) : P c := by
  induction h with
  | compared h => exact hcompared _ _ _ h
  | @detected n old new c h =>
    obtain ⟨b, hb, rfl⟩ := Spec.compare_eq_ok.mp h
    exact narrow_invariant hatLeast hwithout (hcompared _ _ _ hb) n
  | atLeast s _ ih => exact hatLeast _ s ih
  | withoutDeprecations _ ih => exact hwithout _ ih
  | aggregate _ ih => exact haggregate _ ih

end

/-- The breaking changes of a list, in its order. -/
def breakingAmong (changes : List Change) : List Change :=
  changes.filter fun c => c.severity = .breaking

/-- The figures of a comparison fit its changes. No deprecation is breaking, so that leaving the
deprecations out keeps the rest. -/
structure Coherent (c : Comparison) : Prop where
  total : c.totalChanges = c.changes.length
  summary : c.summary = Summary.ofChanges c.changes
  level : c.risk.level = Risk.levelOf c.risk.score
  breaking : breakingAmong c.changes = c.breaking.map BreakingChange.toChange
  deprecations : ∀ x ∈ c.changes, x.severity = .breaking → x.type ≠ .deprecated

theorem breakingAmong_filter {changes : List Change} {p : Change → Bool}
    (hp : ∀ x ∈ changes, x.severity = .breaking → p x = true) :
    breakingAmong (changes.filter p) = breakingAmong changes := by
  rw [breakingAmong, List.filter_filter]
  refine List.filter_congr fun x hx => ?_
  by_cases hs : x.severity = .breaking
  · simp [hs, hp x hx hs]
  · simp [hs]

theorem breakingOf_toChange (changes : List Change) :
    (breakingOf changes).map BreakingChange.toChange = breakingAmong changes := by
  rw [breakingOf, List.map_map]
  exact List.map_id _

theorem Coherent.ofSpecs {old new : Spec} {c : Comparison}
    (h : Comparison.ofSpecs old new = .ok c) : c.Coherent := by
  obtain ⟨changes, hchanges, rfl⟩ := ofSpecs_eq_ok.mp h
  refine ⟨rfl, rfl, rfl, (breakingOf_toChange changes).symm, ?_⟩
  intro x hx hs ht
  obtain ⟨t, g, s, hrule, rfl, rfl⟩ := (Spec.exists_change_iff hchanges
    fun t _ s => t = .deprecated ∧ s = .breaking).mp ⟨x, hx, ht, hs⟩
  exact absurd hrule.eq_of_deprecated.2 (by decide)

/-- Leaving out changes that do not break keeps the figures of a comparison coherent. -/
theorem Coherent.withChanges {c : Comparison} (h : c.Coherent) {p : Change → Bool}
    (hp : ∀ x ∈ c.changes, x.severity = .breaking → p x = true) :
    (c.withChanges (c.changes.filter p)).Coherent where
  total := rfl
  summary := rfl
  level := h.level
  breaking := (breakingAmong_filter hp).trans h.breaking
  deprecations x hx := h.deprecations x (List.mem_filter.mp hx).1

theorem Coherent.atLeast {c : Comparison} (h : c.Coherent) (s : Severity) :
    (c.atLeast s).Coherent := by
  have hrank : s.rank ≤ Severity.breaking.rank := by
    cases s <;> decide
  exact h.withChanges fun _ _ hx => decide_eq_true (hx ▸ hrank)

theorem Coherent.withoutDeprecations {c : Comparison} (h : c.Coherent) :
    c.withoutDeprecations.Coherent :=
  h.withChanges fun x hx hs => decide_eq_true (h.deprecations x hx hs)

theorem Coherent.aggregate {cs : List Comparison} (h : ∀ c ∈ cs, c.Coherent) :
    (Comparison.aggregate cs).Coherent where
  total := rfl
  summary := rfl
  level := rfl
  breaking := by
    simp only [Comparison.aggregate, breakingAmong, List.filter_flatMap, List.map_flatMap]
    exact List.flatMap_congr fun c hc => (h c hc).breaking
  deprecations x hx := by
    obtain ⟨c, hc, hx⟩ := List.mem_flatMap.mp hx
    exact (h c hc).deprecations x hx

theorem Reachable.coherent {c : Comparison} (h : c.Reachable) : c.Coherent :=
  h.invariant (fun _ _ _ => Coherent.ofSpecs) (fun _ s hc => hc.atLeast s)
    (fun _ hc => hc.withoutDeprecations) (fun _ => Coherent.aggregate)

/-- The figures of every result fit its changes, and the breaking changes are complete, in order and
untouched by any narrowing. -/
theorem reachable_fits {c : Comparison} (h : c.Reachable) :
    c.totalChanges = c.changes.length ∧
      c.summary = Summary.ofChanges c.changes ∧
      c.risk.level = Risk.levelOf c.risk.score ∧
      breakingAmong c.changes = c.breaking.map BreakingChange.toChange ∧
      (∀ s, breakingAmong (c.atLeast s).changes = breakingAmong c.changes) ∧
      breakingAmong c.withoutDeprecations.changes = breakingAmong c.changes := by
  have hc := h.coherent
  refine ⟨hc.total, hc.summary, hc.level, hc.breaking, ?_, ?_⟩
  · intro s
    exact (hc.atLeast s).breaking.trans hc.breaking.symm
  · exact hc.withoutDeprecations.breaking.trans hc.breaking.symm

/-- A shop that takes orders and cancels them. -/
def Sample.shop : Spec :=
  { name := "shop", version := "1", format := .openapi
    endpoints :=
      [{ id := "GET-/orders", path := "/orders", method := "GET" },
       { id := "DELETE-/orders", path := "/orders", method := "DELETE" }]
    schemas := [{ name := "Order" }] }

/-- The shop with its list of orders deprecated, and without cancelling and the type of orders. -/
def Sample.shopWithoutCancelling : Spec :=
  { name := "shop", version := "2", format := .openapi
    endpoints :=
      [{ id := "GET-/orders", path := "/orders", method := "GET", deprecated := true },
       { id := "POST-/orders", path := "/orders", method := "POST" }] }

/-- A comparison narrowed in two ways, and the results united. -/
def Sample.unionOf (c : Comparison) : Comparison :=
  Comparison.aggregate [c.atLeast .dangerous, c.withoutDeprecations]

theorem Sample.reachable_unionOf {c : Comparison} (h : c.Reachable) :
    (Sample.unionOf c).Reachable := by
  refine .aggregate (List.forall_mem_cons.mpr ⟨.atLeast _ h, ?_⟩)
  exact List.forall_mem_singleton.mpr (.withoutDeprecations h)

theorem Sample.exists_comparison :
    ∃ c, ofSpecs Sample.shop Sample.shopWithoutCancelling = .ok c ∧ c.totalChanges = 4 ∧
      (Sample.unionOf c).totalChanges = 5 ∧ (Sample.unionOf c).breaking.length = 2 ∧
      (Sample.unionOf c).risk = ⟨100, .critical, .major⟩ :=
  ⟨_, rfl, rfl, rfl, rfl, rfl⟩

/-- The removed endpoint is in both parts of the union, the deprecation in neither. -/
theorem union_of_narrowed_fits :
    ∃ c, ofSpecs Sample.shop Sample.shopWithoutCancelling = .ok c ∧ c.totalChanges = 4 ∧
      (Sample.unionOf c).Reachable ∧ (Sample.unionOf c).totalChanges = 5 ∧
      (Sample.unionOf c).totalChanges = (Sample.unionOf c).changes.length ∧
      breakingAmong (Sample.unionOf c).changes =
        (Sample.unionOf c).breaking.map BreakingChange.toChange ∧
      (Sample.unionOf c).breaking.length = 2 := by
  obtain ⟨c, hc, hfour, hfive, htwo, -⟩ := Sample.exists_comparison
  have hu := Sample.reachable_unionOf (.compared hc)
  have hfits := reachable_fits hu
  exact ⟨c, hc, hfour, hu, hfive, hfits.1, hfits.2.2.2.1, htwo⟩

theorem foldl_max_le_iff {cs : List Comparison} {m n : Nat} :
    cs.foldl (fun m c => max m c.risk.score) m ≤ n ↔ m ≤ n ∧ ∀ c ∈ cs, c.risk.score ≤ n := by
  induction cs generalizing m with
  | nil => simp
  | cons c cs ih =>
    rw [List.foldl_cons, ih, Nat.max_le, List.forall_mem_cons, and_assoc]

theorem highestScore_le_iff {cs : List Comparison} {n : Nat} :
    highestScore cs ≤ n ↔ ∀ c ∈ cs, c.risk.score ≤ n := by
  rw [highestScore, foldl_max_le_iff]
  exact and_iff_right (Nat.zero_le n)

theorem greaterBump_eq_major_iff {a b : Bump} :
    greaterBump a b = .major ↔ a = .major ∨ b = .major := by
  cases a <;> cases b <;> decide

theorem foldl_greaterBump_eq_major_iff {cs : List Comparison} {b : Bump} :
    cs.foldl (fun b c => greaterBump b c.risk.bump) b = .major ↔
      b = .major ∨ ∃ c ∈ cs, c.risk.bump = .major := by
  induction cs generalizing b with
  | nil => simp
  | cons c cs ih =>
    rw [List.foldl_cons, ih, greaterBump_eq_major_iff, List.exists_mem_cons_iff, or_assoc]

theorem highestBump_eq_major_iff {cs : List Comparison} :
    highestBump cs = .major ↔ ∃ c ∈ cs, c.risk.bump = .major := by
  rw [highestBump, foldl_greaterBump_eq_major_iff]
  exact or_iff_right (by decide)

/-- Breaking changes, bump and score tell the same story: something breaks where the bump is major,
the score is then fifty at least, and twenty at most where nothing does. -/
structure Graded (c : Comparison) : Prop where
  bump : c.risk.bump = .major ↔ c.breaking ≠ []
  high : c.breaking ≠ [] → 50 ≤ c.risk.score
  low : c.breaking = [] → c.risk.score ≤ 20

theorem Graded.ofSpecs {old new : Spec} {c : Comparison}
    (h : Comparison.ofSpecs old new = .ok c) : c.Graded := by
  obtain ⟨changes, -, rfl⟩ := ofSpecs_eq_ok.mp h
  refine ⟨Risk.bumpOf_eq_major_iff, ?_, ?_⟩
  · intro hne
    have hchanges : changes ≠ [] := by
      intro hnil
      exact hne (hnil ▸ rfl)
    refine Risk.le_scoreOf (by decide) hchanges (Risk.le_meanImpact hne fun b hb => ?_)
    obtain ⟨x, -, rfl⟩ := List.mem_map.mp hb
    exact x.fifty_le_impact
  · intro hnil
    have hscore := Risk.scoreOf_nil_le changes
    rw [← hnil] at hscore
    exact hscore

theorem Graded.aggregate {cs : List Comparison} (h : ∀ c ∈ cs, c.Graded) :
    (Comparison.aggregate cs).Graded := by
  have hbreaking : cs.flatMap (·.breaking) ≠ [] ↔ ∃ c ∈ cs, c.breaking ≠ [] := by
    simp
  refine ⟨?_, ?_, ?_⟩
  · refine highestBump_eq_major_iff.trans (Iff.trans ?_ hbreaking.symm)
    exact exists_congr fun c => and_congr_right fun hc => (h c hc).bump
  · intro hne
    obtain ⟨c, hc, hcne⟩ := hbreaking.mp hne
    have hle := highestScore_le_iff.mp (le_refl (highestScore cs)) c hc
    exact ((h c hc).high hcne).trans hle
  · intro hnil
    refine highestScore_le_iff.mpr fun c hc => (h c hc).low ?_
    by_contra hcne
    exact hbreaking.mpr ⟨c, hc, hcne⟩ hnil

theorem Reachable.graded {c : Comparison} (h : c.Reachable) : c.Graded :=
  h.invariant (fun _ _ _ => Graded.ofSpecs) (fun _ _ hc => ⟨hc.bump, hc.high, hc.low⟩)
    (fun _ hc => ⟨hc.bump, hc.high, hc.low⟩) (fun _ => Graded.aggregate)

/-- Bump, breaking changes, score and level never contradict one another, and the middle level is
never given. -/
theorem reachable_consistent {c : Comparison} (h : c.Reachable) :
    [c.risk.bump = .major, c.breaking ≠ [], 50 ≤ c.risk.score,
        c.risk.level = .high ∨ c.risk.level = .critical].TFAE ∧
      (c.risk.bump ≠ .major → c.risk.score ≤ 20 ∧ c.risk.level = .low) ∧
      c.risk.level ≠ .medium := by
  have hgraded := h.graded
  have hlevel := h.coherent.level
  have hscore : c.breaking ≠ [] ↔ 50 ≤ c.risk.score := by
    refine ⟨hgraded.high, fun h50 hnil => ?_⟩
    have h20 := hgraded.low hnil
    omega
  have hlow : c.risk.bump ≠ .major → c.risk.score ≤ 20 := by
    intro hbump
    exact hgraded.low (by simpa using mt hgraded.bump.mpr hbump)
  refine ⟨?_, ?_, ?_⟩
  · tfae_have 1 ↔ 2 := hgraded.bump
    tfae_have 2 ↔ 3 := hscore
    tfae_have 3 ↔ 4 := by
      rw [hlevel, Risk.levelOf_eq_high_or_critical_iff]
    tfae_finish
  · intro hbump
    have h20 := hlow hbump
    refine ⟨h20, ?_⟩
    rw [hlevel, Risk.levelOf_eq_low_iff]
    omega
  · rw [hlevel, Ne, Risk.levelOf_eq_medium_iff]
    intro hmedium
    by_cases hbump : c.risk.bump = .major
    · have h50 := hscore.mp (hgraded.bump.mp hbump)
      omega
    · have h20 := hlow hbump
      omega

/-- A union with breaking changes, judged by its score alone. -/
theorem union_of_narrowed_consistent :
    ∃ u : Comparison, u.Reachable ∧ u.risk.score = 100 ∧ u.risk.bump = .major ∧ u.breaking ≠ [] ∧
      (u.risk.level = .high ∨ u.risk.level = .critical) ∧ u.risk.level ≠ .medium := by
  obtain ⟨c, hc, -, -, -, hrisk⟩ := Sample.exists_comparison
  have hu := Sample.reachable_unionOf (.compared hc)
  have hconsistent := reachable_consistent hu
  have hhundred : (Sample.unionOf c).risk.score = 100 := by rw [hrisk]
  have hscore : 50 ≤ (Sample.unionOf c).risk.score := by omega
  refine ⟨_, hu, hhundred, ?_, ?_, ?_, hconsistent.2.2⟩
  · exact (hconsistent.1.out 0 2).mpr hscore
  · exact (hconsistent.1.out 1 2).mpr hscore
  · exact (hconsistent.1.out 2 3).mp hscore

end Comparison
end ApiDrift
