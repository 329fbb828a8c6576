import ApiDrift.Change
import ApiDrift.Number.Natural

/-!
# Risk

The score is the mean impact of the breaking changes, rounded with halves going up, plus five for
each dangerous change and two for each warning, that addition at most twenty and the whole at most a
hundred; where nothing changed it is zero.
-/

namespace ApiDrift.Risk

/-- The largest addition for changes that do not break clients. -/
def bonusLimit : Nat := 20

def severityCount (changes : List Change) (s : Severity) : Nat :=
  changes.countP fun c => c.severity = s

/-- The mean impact, rounded; zero where nothing breaks. -/
def meanImpact (breaking : List BreakingChange) : Nat :=
  let total := Number.total (breaking.map (·.impact))
  let full := max (breaking.length * 100) 100
  (2 * total * 100 + full) / (2 * full)

def bonus (changes : List Change) : Nat :=
  min bonusLimit (severityCount changes .dangerous * 5 + severityCount changes .warning * 2)

/-- The score of a list of changes and the breaking ones among them. -/
def scoreOf (breaking : List BreakingChange) (changes : List Change) : Nat :=
  if changes.isEmpty then 0 else min 100 (meanImpact breaking + bonus changes)

def levelOf (score : Nat) : RiskLevel :=
  if 75 ≤ score then .critical
  else if 50 ≤ score then .high
  else if 25 ≤ score then .medium
  else .low

/-- The version bump that is due. -/
def bumpOf (breaking : List BreakingChange) (changes : List Change) : Bump :=
  if !breaking.isEmpty then .major
  else if changes.any fun c => c.type = .added then .minor
  else .patch

def assess (breaking : List BreakingChange) (changes : List Change) : Risk :=
  let score := scoreOf breaking changes
  ⟨score, levelOf score, bumpOf breaking changes⟩

/-- The level of any number as a score, which is told by the bounds that it reaches. -/
def levelOfNumber (atLeast : Int → Bool) : RiskLevel :=
  if atLeast 75 then .critical
  else if atLeast 50 then .high
  else if atLeast 25 then .medium
  else .low

/-- A number from zero up has the level that it has as a score. -/
theorem levelOfNumber_natCast (score : Nat) :
    levelOfNumber (fun bound => bound ≤ (score : Int)) = levelOf score := by
  have hcast (bound : Nat) : (bound : Int) ≤ score ↔ bound ≤ score := Int.ofNat_le
  simp only [levelOfNumber, levelOf, decide_eq_true_eq, ← hcast]
  rfl

end ApiDrift.Risk
