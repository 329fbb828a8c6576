import ApiDrift.Proofs.Edits
import Mathlib.Data.Finset.Card

/-!
# What a verdict depends on

Summary and risk are worked out from a list of changes, but neither reads the wording of a change,
and neither depends on the order of the list. Two lists with the same findings, in whatever order,
are therefore judged alike.
-/
namespace ApiDrift

/-- A finding as a change without wording and values. -/
def Finding.bare (f : Finding) : Change :=
  { type := f.type, category := f.category, severity := f.severity, path := f.path
    description := "", owner := f.owner }

/-- The changes of a list with all wording and values left out. -/
def bareChanges (changes : List Change) : List Change :=
  (changes.map Change.finding).map Finding.bare

theorem bareChanges_perm {cs ds : List Change}
    (h : (cs.map Change.finding).Perm (ds.map Change.finding)) :
    (bareChanges cs).Perm (bareChanges ds) :=
  h.map _

theorem bareChanges_eq_map (changes : List Change) :
    bareChanges changes = changes.map fun c => c.finding.bare :=
  List.map_map

/-! ### Texts that are counted once -/

theorem nodup_eraseDups {α : Type} [BEq α] [LawfulBEq α] (names : List α) :
    names.eraseDups.Nodup := by
  cases names with
  | nil => exact List.nodup_nil
  | cons name rest =>
    rw [List.eraseDups_cons, List.nodup_cons]
    exact ⟨by simp, nodup_eraseDups _⟩
termination_by names.length
decreasing_by exact Nat.lt_succ_of_le (List.length_filter_le _ rest)

theorem countDistinct_eq_card (names : List String) :
    countDistinct names = names.toFinset.card := by
  have hmem : names.eraseDups.toFinset = names.toFinset := by
    ext name
    simp only [List.mem_toFinset, List.mem_eraseDups]
  rw [countDistinct, ← List.toFinset_card_of_nodup (nodup_eraseDups names), hmem]

theorem countDistinct_perm {xs ys : List String} (h : xs.Perm ys) :
    countDistinct xs = countDistinct ys := by
  rw [countDistinct_eq_card, countDistinct_eq_card, List.toFinset_eq_of_perm xs ys h]

/-! ### The summary -/

namespace Summary

variable {cs ds : List Change}

theorem countOf_perm (h : cs.Perm ds) (g : Category) (t : ChangeType) :
    countOf cs g t = countOf ds g t := by
  rw [countOf, countOf, h.countP_eq]

theorem ofChanges_perm (h : cs.Perm ds) : ofChanges cs = ofChanges ds := by
  have hdistinct : ∀ f : Change → Option String,
      countDistinct (cs.filterMap f) = countDistinct (ds.filterMap f) :=
    fun f => countDistinct_perm (h.filterMap f)
  simp only [ofChanges, countOf_perm h, hdistinct]

theorem ofChanges_bare (changes : List Change) :
    ofChanges (bareChanges changes) = ofChanges changes := by
  rw [bareChanges_eq_map]
  simp only [ofChanges, countOf, List.countP_map, List.filterMap_map]
  rfl

end Summary

/-! ### The risk -/

theorem Number.total_perm {xs ys : List Nat} (h : xs.Perm ys) : total xs = total ys := by
  induction h with
  | nil => rfl
  | cons x _ ih => rw [total, total, ih]
  | swap x y xs => simp only [total, Nat.add_left_comm]
  | trans _ _ ih₁ ih₂ => exact ih₁.trans ih₂

theorem breakingOf_perm {cs ds : List Change} (h : cs.Perm ds) :
    (breakingOf cs).Perm (breakingOf ds) :=
  (h.filter _).map _

namespace Risk

variable {breaking breaking' : List BreakingChange} {changes changes' : List Change}

theorem meanImpact_congr (h : (breaking.map (·.impact)).Perm (breaking'.map (·.impact))) :
    meanImpact breaking = meanImpact breaking' := by
  have hlength := h.length_eq
  rw [List.length_map, List.length_map] at hlength
  rw [meanImpact, meanImpact, Number.total_perm h, hlength]

theorem bonus_perm (h : changes.Perm changes') : bonus changes = bonus changes' := by
  simp only [bonus, severityCount, h.countP_eq]

theorem bonus_bare (changes : List Change) : bonus (bareChanges changes) = bonus changes := by
  rw [bareChanges_eq_map]
  simp only [bonus, severityCount, List.countP_map]
  rfl

/-- The order of the changes and of the breaking ones does not matter to the risk. -/
theorem assess_perm (hbreaking : breaking.Perm breaking') (hchanges : changes.Perm changes') :
    assess breaking changes = assess breaking' changes' := by
  have hscore : scoreOf breaking changes = scoreOf breaking' changes' := by
    rw [scoreOf, scoreOf, hchanges.isEmpty_eq, meanImpact_congr (hbreaking.map _),
      bonus_perm hchanges]
  have hbump : bumpOf breaking changes = bumpOf breaking' changes' := by
    rw [bumpOf, bumpOf, hbreaking.isEmpty_eq, hchanges.any_eq]
  rw [assess, assess, hscore, hbump]

theorem assess_bare (changes : List Change) :
    assess (breakingOf (bareChanges changes)) (bareChanges changes) =
      assess (breakingOf changes) changes := by
  have hbreaking : breakingOf (bareChanges changes) =
      (changes.filter fun c => c.severity = .breaking).map fun c => c.finding.bare.toBreaking := by
    rw [breakingOf, bareChanges_eq_map, List.filter_map, List.map_map]
    rfl
  have himpact : meanImpact (breakingOf (bareChanges changes)) =
      meanImpact (breakingOf changes) := by
    refine meanImpact_congr (List.Perm.of_eq ?_)
    rw [hbreaking, breakingOf, List.map_map, List.map_map]
    rfl
  have hscore : scoreOf (breakingOf (bareChanges changes)) (bareChanges changes) =
      scoreOf (breakingOf changes) changes := by
    rw [scoreOf, scoreOf, himpact, bonus_bare, bareChanges_eq_map, List.isEmpty_map]
  have hbump : bumpOf (breakingOf (bareChanges changes)) (bareChanges changes) =
      bumpOf (breakingOf changes) changes := by
    rw [bumpOf, bumpOf, hbreaking, breakingOf, List.isEmpty_map, List.isEmpty_map,
      bareChanges_eq_map, List.any_map]
    rfl
  rw [assess, assess, hscore, hbump]

end Risk

/-- Lists with the same findings have the same summary. -/
theorem Summary.ofChanges_eq_of_findings {cs ds : List Change}
    (h : (cs.map Change.finding).Perm (ds.map Change.finding)) : ofChanges cs = ofChanges ds := by
  rw [← ofChanges_bare cs, ← ofChanges_bare ds, ofChanges_perm (bareChanges_perm h)]

/-- Lists with the same findings carry the same risk. -/
theorem Risk.assess_eq_of_findings {cs ds : List Change}
    (h : (cs.map Change.finding).Perm (ds.map Change.finding)) :
    assess (breakingOf cs) cs = assess (breakingOf ds) ds := by
  have hbare := bareChanges_perm h
  rw [← assess_bare cs, ← assess_bare ds, assess_perm (breakingOf_perm hbare) hbare]

end ApiDrift
