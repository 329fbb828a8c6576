import ApiDrift.Exchange.ChangeData
import ApiDrift.Proofs.Accumulation
import ApiDrift.Proofs.Entries
import ApiDrift.Proofs.Findings
import ApiDrift.Proofs.Tally
import Mathlib.Algebra.Order.Floor.Semiring
import Mathlib.Data.Rat.Floor

/-!
# Bounds and monotonicity of the score

The score is a mean with something added and a limit put on it. The mean is one of rational numbers,
rounded with halves going up, and is said here without the whole numbers by which it is worked out.
Nothing is asked of the two lists together: the breaking changes need not be among the changes.
-/
namespace ApiDrift

/-- The mean of some whole numbers, with halves going up; of none it is zero. -/
def Number.roundedMean (ns : List Nat) : Nat := ⌊(ns.sum : ℚ) / ns.length + 1 / 2⌋₊

/-- Levels from the lowest up. -/
def RiskLevel.rank : RiskLevel → Nat
  | low => 0
  | medium => 1
  | high => 2
  | critical => 3

namespace Number

theorem roundedMean_nil : roundedMean [] = 0 := by
  rw [roundedMean, List.length_nil, Nat.cast_zero, div_zero, zero_add, Nat.floor_eq_zero]
  norm_num

/-- A whole number is at most the rounded mean exactly where it is at most half above the mean. -/
theorem le_roundedMean_iff {n : Nat} {ns : List Nat} (hne : ns ≠ []) :
    n ≤ roundedMean ns ↔ 2 * (n * ns.length) ≤ 2 * ns.sum + ns.length := by
  have hlength : (0 : ℚ) < ns.length := by exact_mod_cast List.length_pos_iff.mpr hne
  have hmean : (0 : ℚ) ≤ ns.sum / ns.length + 1 / 2 := by positivity
  have hscale : (n : ℚ) ≤ ns.sum / ns.length + 1 / 2 ↔
      2 * (n * ns.length) ≤ 2 * (ns.sum : ℚ) + ns.length := by
    rw [div_add_div _ _ hlength.ne' two_ne_zero, le_div_iff₀ (by positivity)]
    ring_nf
  rw [roundedMean, Nat.le_floor_iff hmean, hscale]
  exact_mod_cast Iff.rfl

end Number

/-! ### The check of a risk -/

namespace Checking

theorem integer_int (n : Int) : integer (.int n) = .ok n := rfl

theorem percentage_int {n : Nat} (h : n ≤ 100) : percentage (.int n) = .ok n := by
  have hneg : ¬ (n : Int) < 0 := by omega
  have hbig : ¬ (100 : Int) < n := by omega
  unfold percentage
  rw [integer_int]
  exact (if_neg hneg).trans (if_neg hbig)

end Checking

namespace Risk
open Checking Exchange

/-- A risk whose score is at most a hundred passes the check of its fields, under either naming. -/
theorem check_toDocument {r : Risk} (h : r.score ≤ 100) (n : Naming) :
    check (r.toDocument n) = .ok r := by
  obtain ⟨score, level, bump⟩ := r
  have hscore := percentage_int h
  have hlevel : choice RiskLevel.name RiskLevel.all (.text level.name) = .ok level := by
    cases level <;> rfl
  have hbump : choice Bump.name Bump.all (.text bump.name) = .ok bump := by
    cases bump <;> rfl
  cases n with
  | camel =>
    simp [check, toDocument, model, ofEntries, toEntries, must, find?, Naming.entry, Naming.pick,
      FieldName.riskScore, FieldName.riskLevel, FieldName.bump, hscore, hlevel, hbump, inside]
    rfl
  | plain =>
    simp [check, toDocument, model, ofEntries, toEntries, must, find?, Naming.entry, Naming.pick,
      FieldName.riskScore, FieldName.riskLevel, FieldName.bump, hscore, hlevel, hbump, inside]
    rfl

/-! ### The parts of the score -/

variable {breaking : List BreakingChange} {changes : List Change}

theorem meanImpact_eq (breaking : List BreakingChange) :
    meanImpact breaking = Number.roundedMean (breaking.map (·.impact)) := by
  by_cases hne : breaking = []
  · rw [hne, meanImpact_nil, List.map_nil, Number.roundedMean_nil]
  · have himpacts : breaking.map (·.impact) ≠ [] := by simpa using hne
    apply eq_of_forall_le_iff
    intro n
    rw [le_meanImpact_iff hne, Number.le_roundedMean_iff himpacts, Number.total_eq_sum,
      List.length_map]

theorem scoreOf_of_ne_nil (breaking : List BreakingChange) (h : changes ≠ []) :
    scoreOf breaking changes = min 100 (meanImpact breaking + bonus changes) := by
  have hempty : changes.isEmpty = false := by simpa using h
  simp only [scoreOf, hempty, Bool.false_eq_true, if_false]

theorem scoreOf_le_hundred (breaking : List BreakingChange) (changes : List Change) :
    scoreOf breaking changes ≤ 100 := by
  unfold scoreOf
  split_ifs
  · omega
  · omega

/-- No further change lowers the bonus. -/
theorem bonus_le_concat (changes : List Change) (c : Change) :
    bonus changes ≤ bonus (changes ++ [c]) := by
  have hcount : ∀ s, severityCount changes s ≤ severityCount (changes ++ [c]) s := by
    intro s
    rw [severityCount, severityCount, List.countP_append]
    omega
  have hdangerous := hcount .dangerous
  have hwarning := hcount .warning
  unfold bonus
  omega

theorem scoreOf_le_concat (breaking : List BreakingChange) (changes : List Change) (c : Change) :
    scoreOf breaking changes ≤ scoreOf breaking (changes ++ [c]) := by
  have hbonus := bonus_le_concat changes c
  by_cases hne : changes = []
  · subst hne
    exact Nat.zero_le _
  · rw [scoreOf_of_ne_nil breaking hne, scoreOf_of_ne_nil breaking (by simp)]
    omega

/-- A breaking change in the place of a milder one does not lower the mean. -/
theorem meanImpact_le_raised (front back : List BreakingChange) {b b' : BreakingChange}
    (h : b.impact ≤ b'.impact) :
    meanImpact (front ++ b :: back) ≤ meanImpact (front ++ b' :: back) := by
  have hmean := (le_meanImpact_iff (by simp)).mp (le_refl (meanImpact (front ++ b :: back)))
  rw [le_meanImpact_iff (by simp)]
  simp only [Number.total_eq_sum, List.map_append, List.map_cons, List.sum_append, List.sum_cons,
    List.length_append, List.length_cons] at hmean ⊢
  omega

theorem scoreOf_le_raised (front back : List BreakingChange) (changes : List Change)
    {b b' : BreakingChange} (h : b.impact ≤ b'.impact) :
    scoreOf (front ++ b :: back) changes ≤ scoreOf (front ++ b' :: back) changes := by
  have hmean := meanImpact_le_raised front back h
  unfold scoreOf
  split_ifs
  · omega
  · omega

theorem rank_levelOf_mono {m n : Nat} (h : m ≤ n) : (levelOf m).rank ≤ (levelOf n).rank := by
  unfold levelOf
  split_ifs <;> simp only [RiskLevel.rank] <;> omega

/-- The score is from zero to a hundred, so that an assessment passes the check of its fields. Where
there are changes it is at least the rounded mean of the impacts and at most twenty more. It does
not depend on the order of either list, and neither a further change, of whatever severity, nor a
higher impact lowers it or its level. -/
theorem score_bounded_and_monotone (breaking : List BreakingChange) (changes : List Change)
    (h : ∀ b ∈ breaking, b.impact ≤ 100) :
    scoreOf breaking changes ≤ 100 ∧
      (∀ n, check ((assess breaking changes).toDocument n) = .ok (assess breaking changes)) ∧
      (changes ≠ [] →
        Number.roundedMean (breaking.map (·.impact)) ≤ scoreOf breaking changes ∧
        scoreOf breaking changes ≤ min 100 (Number.roundedMean (breaking.map (·.impact)) + 20)) ∧
      Number.roundedMean [] = 0 ∧
      (∀ breaking' changes', breaking.Perm breaking' → changes.Perm changes' →
        scoreOf breaking' changes' = scoreOf breaking changes) ∧
      (∀ c, scoreOf breaking changes ≤ scoreOf breaking (changes ++ [c])) ∧
      (∀ front b back, breaking = front ++ b :: back → ∀ b' : BreakingChange,
        b.impact ≤ b'.impact →
          scoreOf breaking changes ≤ scoreOf (front ++ b' :: back) changes) ∧
      ∀ m n, m ≤ n → (levelOf m).rank ≤ (levelOf n).rank := by
  have hscore := scoreOf_le_hundred breaking changes
  refine ⟨hscore, check_toDocument hscore, ?_, Number.roundedMean_nil, ?_,
    scoreOf_le_concat breaking changes, ?_, fun m n => rank_levelOf_mono⟩
  · intro hne
    have hmean := meanImpact_le h
    have hbonus : bonus changes ≤ 20 := bonus_le changes
    rw [← meanImpact_eq, scoreOf_of_ne_nil breaking hne]
    omega
  · intro breaking' changes' hbreaking hchanges
    exact congrArg Risk.score (assess_perm hbreaking hchanges).symm
  · intro front b back hb b' hle
    subst hb
    exact scoreOf_le_raised front back changes hle

/-- The scheme by which clients sign in is gone. -/
def Sample.schemeRemoved : Change :=
  { type := .removed, category := .security, severity := .breaking
    path := "#/components/securitySchemes/key", description := "Security scheme removed: key" }

/-- A field of orders is gone. -/
def Sample.fieldRemoved : Change :=
  { type := .removed, category := .schemaProperty, severity := .dangerous
    path := "#/components/schemas/Order/note", description := "Property removed from schema: note" }

/-- The mean of fifty and ninety-five is seventy-two and a half. -/
theorem half_is_rounded_up :
    let breaking := [Sample.limitDemanded.toBreaking, Sample.schemeRemoved.toBreaking]
    let changes := [Sample.fieldRemoved]
    (∀ b ∈ breaking, b.impact ≤ 100) ∧ scoreOf breaking changes = 78 ∧
      Number.roundedMean [50, 95] = 73 ∧
      Number.roundedMean [50, 95] ≤ scoreOf breaking changes ∧
      scoreOf breaking changes ≤ min 100 (Number.roundedMean [50, 95] + 20) ∧
      scoreOf breaking.reverse changes = scoreOf breaking changes ∧
      scoreOf breaking changes ≤ scoreOf breaking (changes ++ [Sample.fieldRemoved]) ∧
      scoreOf breaking changes ≤
        scoreOf [Sample.usersRemoved.toBreaking, Sample.schemeRemoved.toBreaking] changes := by
  intro breaking changes
  have himpacts : ∀ b ∈ breaking, b.impact ≤ 100 := by decide
  obtain ⟨-, -, hbounds, -, horder, hfurther, hraised, -⟩ :=
    score_bounded_and_monotone breaking changes himpacts
  have hmap : breaking.map (·.impact) = [50, 95] := rfl
  have hmean : Number.roundedMean [50, 95] = 73 := by
    rw [← hmap, ← meanImpact_eq]
    decide
  obtain ⟨hlow, hhigh⟩ := hbounds (by simp [changes])
  refine ⟨himpacts, by decide, hmean, hlow, hhigh, ?_, hfurther _, ?_⟩
  · exact horder _ _ (List.reverse_perm breaking).symm (List.Perm.refl changes)
  · exact hraised [] _ _ rfl _ (by decide)

end Risk
end ApiDrift
