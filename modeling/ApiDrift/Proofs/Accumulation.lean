import ApiDrift.Proofs.Risk

/-!
# Risk as breaking changes accumulate

The score rests on the mean impact of the breaking changes. One more of them draws the mean towards
its own impact, so the score does not rise with every breaking change: a mild one after severe ones
can lower it. It never does where the new change weighs no less than the mean, and the score never
falls below the impact of the new change. When it falls is said exactly: the rounded mean must fall,
and the bonus for dangerous changes and warnings must not make up a hundred with what is left.
-/
namespace ApiDrift

theorem Number.total_concat (xs : List Nat) (x : Nat) : total (xs ++ [x]) = total xs + x := by
  induction xs with
  | nil => simp [total]
  | cons y xs ih =>
    simp only [List.cons_append, total, ih]
    omega

theorem Number.total_le_mul_length {n : Nat} {xs : List Nat} (h : ∀ x ∈ xs, x ≤ n) :
    total xs ≤ n * xs.length := by
  induction xs with
  | nil => simp [total]
  | cons x xs ih =>
    have hx := h x List.mem_cons_self
    have hxs := ih fun y hy => h y (List.mem_cons_of_mem x hy)
    rw [total, List.length_cons, Nat.mul_add_one]
    omega

namespace Risk

variable {breaking : List BreakingChange} {changes : List Change} {b : BreakingChange}

/-- A bound above all impacts is one above their mean. -/
theorem meanImpact_le {n : Nat} (h : ∀ b ∈ breaking, b.impact ≤ n) : meanImpact breaking ≤ n := by
  by_cases hne : breaking = []
  · simp [hne, meanImpact_nil]
  · have hlength : 0 < breaking.length := List.length_pos_iff.mpr hne
    have htotal : Number.total (breaking.map (·.impact)) ≤ n * (breaking.map (·.impact)).length :=
      Number.total_le_mul_length (by simpa using h)
    rw [List.length_map] at htotal
    by_contra hlt
    have habove : n + 1 ≤ meanImpact breaking := by omega
    have hmean := (le_meanImpact_iff hne).mp habove
    rw [Nat.add_one_mul n breaking.length] at hmean
    omega

/-- With one more breaking change the mean stays above the lesser of the old mean and its impact. -/
theorem min_le_meanImpact_concat (breaking : List BreakingChange) (b : BreakingChange) :
    min (meanImpact breaking) b.impact ≤ meanImpact (breaking ++ [b]) := by
  by_cases hne : breaking = []
  · simp [hne, meanImpact_nil]
  · have hmean := (le_meanImpact_iff hne).mp (Nat.min_le_left (meanImpact breaking) b.impact)
    have himpact := Nat.min_le_right (meanImpact breaking) b.impact
    rw [le_meanImpact_iff (by simp), List.map_append, List.map_singleton, Number.total_concat,
      List.length_append, List.length_singleton, Nat.mul_add_one]
    omega

/-- A breaking change adds nothing to the bonus. -/
theorem bonus_concat (changes : List Change) {c : Change} (hc : c.severity = .breaking) :
    bonus (changes ++ [c]) = bonus changes := by
  simp [bonus, severityCount, hc]

/-- Where the breaking changes are among the changes, an empty list needs no case of its own. -/
theorem scoreOf_eq (h : ∀ b ∈ breaking, b.toChange ∈ changes) :
    scoreOf breaking changes = min 100 (meanImpact breaking + bonus changes) := by
  cases changes with
  | nil =>
    have hnil : breaking = [] := List.eq_nil_iff_forall_not_mem.mpr fun b hb => by
      simpa using h b hb
    rw [hnil]
    rfl
  | cons c changes => simp [scoreOf]

theorem scoreOf_concat (h : ∀ b ∈ breaking, b.toChange ∈ changes) (hb : b.severity = .breaking) :
    scoreOf (breaking ++ [b]) (changes ++ [b.toChange]) =
      min 100 (meanImpact (breaking ++ [b]) + bonus changes) := by
  rw [scoreOf_eq, bonus_concat changes hb]
  intro c hc
  simp only [List.mem_append, List.mem_singleton] at hc ⊢
  rcases hc with hc | rfl
  · exact .inl (h c hc)
  · exact .inr rfl

/-- One more breaking change does not lower the score where it weighs at least the mean of those
before it, and so where it weighs as much as each of them. The score never falls below the lesser of
itself and the new impact. It falls exactly where the rounded mean does and is short of a hundred
with the bonus. -/
theorem score_of_another_breaking_change (breaking : List BreakingChange) (changes : List Change)
    (b : BreakingChange) (h : ∀ x ∈ breaking, x.toChange ∈ changes) (hb : b.severity = .breaking) :
    (meanImpact breaking ≤ b.impact →
        scoreOf breaking changes ≤ scoreOf (breaking ++ [b]) (changes ++ [b.toChange])) ∧
      ((∀ x ∈ breaking, x.impact ≤ b.impact) →
        scoreOf breaking changes ≤ scoreOf (breaking ++ [b]) (changes ++ [b.toChange])) ∧
      min (scoreOf breaking changes) b.impact ≤
        scoreOf (breaking ++ [b]) (changes ++ [b.toChange]) ∧
      (scoreOf (breaking ++ [b]) (changes ++ [b.toChange]) < scoreOf breaking changes ↔
        meanImpact (breaking ++ [b]) < meanImpact breaking ∧
          meanImpact (breaking ++ [b]) + bonus changes < 100) := by
  have hmean := min_le_meanImpact_concat breaking b
  have hrise : meanImpact breaking ≤ b.impact →
      scoreOf breaking changes ≤ scoreOf (breaking ++ [b]) (changes ++ [b.toChange]) := by
    intro hle
    rw [scoreOf_eq h, scoreOf_concat h hb]
    omega
  refine ⟨hrise, fun himpacts => hrise (meanImpact_le himpacts), ?_, ?_⟩
  · rw [scoreOf_eq h, scoreOf_concat h hb]
    omega
  · rw [scoreOf_eq h, scoreOf_concat h hb]
    omega

/-- The list of users is gone. -/
def Sample.usersRemoved : Change :=
  { type := .removed, category := .endpoint, severity := .breaking, path := "GET /users"
    description := "Endpoint removed: GET /users" }

/-- Orders are listed up to a limit only. -/
def Sample.limitDemanded : Change :=
  { type := .modified, category := .parameter, severity := .breaking
    path := "GET /orders -> query:limit", description := "Parameter is now required: limit" }

/-- After a mild change a severe one raises the score. -/
theorem removal_after_demand_raises_score :
    scoreOf [Sample.limitDemanded.toBreaking] [Sample.limitDemanded] = 50 ∧
      scoreOf ([Sample.limitDemanded.toBreaking] ++ [Sample.usersRemoved.toBreaking])
        ([Sample.limitDemanded] ++ [Sample.usersRemoved]) = 75 ∧
      scoreOf [Sample.limitDemanded.toBreaking] [Sample.limitDemanded] ≤
        scoreOf ([Sample.limitDemanded.toBreaking] ++ [Sample.usersRemoved.toBreaking])
          ([Sample.limitDemanded] ++ [Sample.usersRemoved]) := by
  have hscore := score_of_another_breaking_change [Sample.limitDemanded.toBreaking]
    [Sample.limitDemanded] Sample.usersRemoved.toBreaking (by decide) rfl
  exact ⟨by decide, by decide, hscore.1 (by decide)⟩

/-- After a severe change a mild one lowers the score, from a hundred to seventy-five. -/
theorem demand_after_removal_lowers_score :
    ¬ ∀ (breaking : List BreakingChange) (changes : List Change) (b : BreakingChange),
      (∀ x ∈ breaking, x = x.toChange.toBreaking ∧ x.severity = .breaking) →
      (∀ x ∈ breaking, x.toChange ∈ changes) →
      b = b.toChange.toBreaking → b.severity = .breaking →
      scoreOf breaking changes ≤ scoreOf (breaking ++ [b]) (changes ++ [b.toChange]) := by
  intro hrise
  have hle := hrise [Sample.usersRemoved.toBreaking] [Sample.usersRemoved]
    Sample.limitDemanded.toBreaking (by decide) (by decide) rfl rfl
  exact absurd hle (by decide)

end Risk
end ApiDrift
