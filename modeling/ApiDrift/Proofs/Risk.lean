import ApiDrift.Verdict.Migration
import ApiDrift.Verdict.Risk
import Mathlib.Data.Nat.Basic
import Mathlib.Tactic.Ring
import Mathlib.Tactic.SplitIfs

/-!
# The arithmetic of risk

Bounds of the score by its parts, the thresholds of the levels, and the conditions under which each
bump is due. A breaking change weighs fifty at least, so the mean of any number of them does, and
what does not break adds no more than the limit of the bonus.
-/
namespace ApiDrift

theorem Number.mul_length_le_total {n : Nat} {xs : List Nat} (h : ∀ x ∈ xs, n ≤ x) :
    n * xs.length ≤ total xs := by
  induction xs with
  | nil => simp [total]
  | cons x xs ih =>
    have hx := h x List.mem_cons_self
    have hxs := ih fun y hy => h y (List.mem_cons_of_mem x hy)
    rw [total, List.length_cons, Nat.mul_add_one]
    omega

theorem Change.fifty_le_impact (c : Change) : 50 ≤ c.impact := by
  unfold Change.impact
  dsimp only
  omega

namespace Risk

variable {breaking : List BreakingChange} {changes : List Change}

/-- A whole number is at most the rounded mean exactly where it is less than half above the mean. -/
theorem le_meanImpact_iff {n : Nat} (hne : breaking ≠ []) :
    n ≤ meanImpact breaking ↔
      2 * (n * breaking.length) ≤
        2 * Number.total (breaking.map (·.impact)) + breaking.length := by
  have hlength : 0 < breaking.length := List.length_pos_iff.mpr hne
  have hscale : n * (2 * (breaking.length * 100)) = 200 * (n * breaking.length) := by ring
  unfold meanImpact
  rw [Nat.max_eq_left (by omega), Nat.le_div_iff_mul_le (by omega), hscale]
  omega

/-- A bound below all impacts is one below their mean. -/
theorem le_meanImpact {n : Nat} (hne : breaking ≠ []) (h : ∀ b ∈ breaking, n ≤ b.impact) :
    n ≤ meanImpact breaking := by
  have htotal : n * (breaking.map (·.impact)).length ≤ Number.total (breaking.map (·.impact)) :=
    Number.mul_length_le_total (by simpa using h)
  rw [List.length_map] at htotal
  rw [le_meanImpact_iff hne]
  omega

theorem meanImpact_nil : meanImpact [] = 0 := rfl

theorem bonus_le (changes : List Change) : bonus changes ≤ bonusLimit := Nat.min_le_left _ _

/-- The score is at least the mean impact, where that is no more than a hundred. -/
theorem le_scoreOf {n : Nat} (hn : n ≤ 100) (hne : changes ≠ []) (h : n ≤ meanImpact breaking) :
    n ≤ scoreOf breaking changes := by
  have hempty : changes.isEmpty = false := by simpa using hne
  simp only [scoreOf, hempty, Bool.false_eq_true, if_false]
  omega

/-- Where nothing breaks the score is the bonus at most. -/
theorem scoreOf_nil_le (changes : List Change) : scoreOf [] changes ≤ bonusLimit := by
  have hbonus := bonus_le changes
  unfold scoreOf
  split_ifs
  · exact Nat.zero_le _
  · rw [meanImpact_nil]
    omega

theorem levelOf_eq_high_or_critical_iff {n : Nat} :
    levelOf n = .high ∨ levelOf n = .critical ↔ 50 ≤ n := by
  unfold levelOf
  split_ifs <;> simp <;> omega

theorem levelOf_eq_low_iff {n : Nat} : levelOf n = .low ↔ n < 25 := by
  unfold levelOf
  split_ifs <;> simp <;> omega

theorem levelOf_eq_medium_iff {n : Nat} : levelOf n = .medium ↔ 25 ≤ n ∧ n < 50 := by
  unfold levelOf
  split_ifs <;> simp <;> omega

theorem bumpOf_eq_major_iff : bumpOf breaking changes = .major ↔ breaking ≠ [] := by
  cases breaking with
  | nil =>
    rw [bumpOf, List.isEmpty_nil, Bool.not_true, if_neg Bool.false_ne_true]
    split_ifs <;> simp
  | cons b bs => simp [bumpOf]

theorem bumpOf_eq_minor_iff :
    bumpOf breaking changes = .minor ↔ breaking = [] ∧ ∃ c ∈ changes, c.type = .added := by
  cases breaking with
  | nil => simp [bumpOf]
  | cons b bs => simp [bumpOf]

theorem bumpOf_eq_patch_iff :
    bumpOf breaking changes = .patch ↔ breaking = [] ∧ ¬ ∃ c ∈ changes, c.type = .added := by
  cases breaking with
  | nil => simp [bumpOf]
  | cons b bs => simp [bumpOf]

end Risk
end ApiDrift
