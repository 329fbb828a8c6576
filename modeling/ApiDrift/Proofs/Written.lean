import ApiDrift.CommandLine.Run
import Mathlib.Data.List.TakeWhile

/-!
# What is written

What a command comes to is decided before anything is written. Where each line of its output can be
encoded, the command ends as it was decided. At the first line that cannot, the output breaks off,
and the command ends with that fault, whatever else it came to.
-/
namespace ApiDrift.CommandLine

/-- A line can be encoded: it holds no half of a surrogate pair. -/
def Whole (line : String) : Prop := Text.hasHalf line.toList = false

instance (line : String) : Decidable (Whole line) :=
  inferInstanceAs (Decidable (Text.hasHalf line.toList = false))

/-- Every line that a command line comes to can be encoded. -/
def Writes (w : Surroundings) (args : List String) : Prop :=
  ∀ line ∈ (run w args).output, Whole line

instance (w : Surroundings) (args : List String) : Decidable (Writes w args) :=
  List.decidableBAll _ _

section
variable {line : String} {lines : List String}

theorem encodable_cons (h : Whole line) :
    encodable (line :: lines) = (line :: (encodable lines).1, (encodable lines).2) := by
  rw [encodable, Text.encodingFault?_eq_none_iff.mpr h]

theorem encodable_cons_of_not_whole (h : ¬ Whole line) (lines : List String) :
    ∃ f, encodable (line :: lines) = ([], some f) := by
  obtain ⟨f, hf⟩ := Option.ne_none_iff_exists'.mp (mt Text.encodingFault?_eq_none_iff.mp h)
  refine ⟨f, ?_⟩
  rw [encodable, hf]

/-- The lines that are written are those before the first that cannot be. -/
theorem encodable_fst (lines : List String) :
    (encodable lines).1 = lines.takeWhile fun line => Whole line := by
  induction lines with
  | nil => rfl
  | cons line lines ih =>
    by_cases hline : Whole line
    · rw [encodable_cons hline, List.takeWhile_cons_of_pos (by simpa using hline), ih]
    · obtain ⟨f, hf⟩ := encodable_cons_of_not_whole hline lines
      rw [hf, List.takeWhile_cons_of_neg (by simpa using hline)]

theorem encodable_snd_eq_none_iff : (encodable lines).2 = none ↔ ∀ line ∈ lines, Whole line := by
  induction lines with
  | nil => simp [encodable]
  | cons line lines ih =>
    by_cases hline : Whole line
    · simp [encodable_cons hline, ih, hline]
    · obtain ⟨f, hf⟩ := encodable_cons_of_not_whole hline lines
      simp [hf, hline]

end

section
variable {w : Surroundings} {args : List String} {code : Nat}

theorem execute_output (w : Surroundings) (args : List String) :
    (execute w args).output = (run w args).output.takeWhile fun line => Whole line := by
  rw [← encodable_fst, execute, Outcome.written]
  split
  · next h => rw [h]
  · next h => rw [h]

theorem Writes.output_eq (h : Writes w args) : (execute w args).output = (run w args).output := by
  rw [execute_output, List.takeWhile_eq_self_iff]
  intro line hline
  exact decide_eq_true (h line hline)

theorem Writes.ending_eq (h : Writes w args) : (execute w args).ending = (run w args).ending := by
  have hnone := encodable_snd_eq_none_iff.mpr h
  rw [execute, Outcome.written]
  split
  · rfl
  · next hfault =>
    rw [hfault] at hnone
    cases hnone

theorem ending_of_not_writes (h : ¬ Writes w args) :
    ∃ f, (execute w args).ending = .escaped (.unencodable f) := by
  rw [execute, Outcome.written]
  split
  · next hnone => exact absurd (encodable_snd_eq_none_iff.mp (congrArg Prod.snd hnone)) h
  · next f _ => exact ⟨f, rfl⟩

/-- A command ends with a status exactly where it comes to that status and all is written. -/
theorem execute_status_iff : (execute w args).ending = .status code ↔
    (run w args).ending = .status code ∧ Writes w args := by
  by_cases h : Writes w args
  · rw [h.ending_eq, and_iff_left h]
  · obtain ⟨f, hf⟩ := ending_of_not_writes h
    rw [hf]
    exact iff_of_false nofun fun hboth => h hboth.2

end

end ApiDrift.CommandLine
