import ApiDrift.CommandLine.Run
import ApiDrift.Proofs.Outcomes

/-!
# Command lines that are understood

A command line is understood where it names a command and gives it everything that it takes. What
the program then does is the task, and nothing else of the command line counts. Two command lines
can be the same but for some switches, wherever these stand; what the task takes from the operands,
the other switches and the environment is the same then.
-/
namespace ApiDrift.CommandLine

/-- The task of a command, from what follows its name. -/
def taskGiven (w : Surroundings) (c : Command) (g : Given) : Except Misuse Task :=
  match c with
  | .compare => compareTask w g
  | .analyze => analyzeTask w g
  | .validate => validateTask w g
  | .batch => batchTask w g

/-- The arguments name a command, what follows its name is read as given, and that is a task. -/
inductive Understood (w : Surroundings) (c : Command) (args : List String) (g : Given)
    (verbose : Bool) (task : Task) : Prop
  | intro {front : Given} {word : String} {rest : List String} :
      readArguments (switchesOf none) false args = .ok front → front.has .help = false →
      front.has .verbose = verbose → front.operands = word :: rest →
      Command.ofName? word = some c → readArguments (switchesOf (some c)) true rest = .ok g →
      g.has .help = false → taskGiven w c g = .ok task → Understood w c args g verbose task

section
variable {w : Surroundings} {c : Command} {args : List String} {g g' : Given} {verbose : Bool}
variable {task : Task}

theorem taskOf_eq {rest : List String} (hg : readArguments (switchesOf (some c)) true rest = .ok g)
    (hhelp : g.has .help = false) : taskOf w c rest = taskGiven w c g := by
  simp only [taskOf, hg, hhelp, taskGiven, bind, Except.bind]
  cases c <;> rfl

theorem Understood.run_eq (h : Understood w c args g verbose task) :
    run w args = runTask verbose task := by
  cases h with
  | @intro front word rest hfront hhelp hverbose hoperands hword hg hhelp' htask =>
    have hargs : args.isEmpty = false := by
      cases args with
      | nil =>
        cases hfront
        cases hoperands
      | cons => rfl
    have htaskOf : taskOf w c rest = .ok task := (taskOf_eq hg hhelp').trans htask
    simp only [run, hargs, hfront, hhelp, hverbose, hoperands, hword, htaskOf, Bool.false_eq_true,
      if_false]

theorem Understood.task_eq (h : Understood w c args g verbose task) :
    taskGiven w c g = .ok task := by
  cases h with
  | intro _ _ _ _ _ _ _ htask => exact htask

theorem compareTask_eq_ok_iff : compareTask w g = .ok task ↔
    checkSwitches g = .ok () ∧ ∃ old new threshold failOnBreaking,
      operandAt (fileAt w) "OLD_PATH" g 0 = .ok old ∧
      operandAt (fileAt w) "NEW_PATH" g 1 = .ok new ∧ thresholdOf w g = .ok threshold ∧
      failOnBreakingOf w g = .ok failOnBreaking ∧ noMoreThan 2 g = .ok () ∧
      task = .compare old new
        ⟨styleOf g, ⟨threshold, !g.has .excludeDeprecations⟩, failOnBreaking⟩ := by
  simp only [compareTask, bind_eq_ok, pure, Except.pure, Except.ok.injEq]
  constructor
  · intro h
    obtain ⟨_, hswitches, old, hold, new, hnew, threshold, hthreshold, fail, hfail, _, hextra,
      rfl⟩ := h
    exact ⟨hswitches, old, new, threshold, fail, hold, hnew, hthreshold, hfail, hextra, rfl⟩
  · intro h
    obtain ⟨hswitches, old, new, threshold, fail, hold, hnew, hthreshold, hfail, hextra, rfl⟩ := h
    exact ⟨_, hswitches, old, hold, new, hnew, threshold, hthreshold, fail, hfail, _, hextra, rfl⟩

theorem batchTask_eq_ok_iff : batchTask w g = .ok task ↔
    checkSwitches g = .ok () ∧ ∃ old new threshold failOnBreaking,
      operandAt (directoryAt w) "OLD_DIR" g 0 = .ok old ∧
      operandAt (directoryAt w) "NEW_DIR" g 1 = .ok new ∧ thresholdOf w g = .ok threshold ∧
      failOnBreakingOf w g = .ok failOnBreaking ∧ noMoreThan 2 g = .ok () ∧
      task = .batch old new ⟨styleOf g, threshold, failOnBreaking⟩ := by
  simp only [batchTask, bind_eq_ok, pure, Except.pure, Except.ok.injEq]
  constructor
  · intro h
    obtain ⟨_, hswitches, old, hold, new, hnew, threshold, hthreshold, fail, hfail, _, hextra,
      rfl⟩ := h
    exact ⟨hswitches, old, new, threshold, fail, hold, hnew, hthreshold, hfail, hextra, rfl⟩
  · intro h
    obtain ⟨hswitches, old, new, threshold, fail, hold, hnew, hthreshold, hfail, hextra, rfl⟩ := h
    exact ⟨_, hswitches, old, hold, new, hnew, threshold, hthreshold, fail, hfail, _, hextra, rfl⟩

end

/-- The bytes of a text without accents. -/
def Sample.ascii (s : String) : List UInt8 := s.toList.map fun c => c.toNat.toUInt8

/-- Two versions of some files. The schema loses its only operation, the notes are no specification,
the picture is no text, and the draft is new. -/
def Sample.versions : Surroundings where
  tree :=
    { files :=
        [(["old", "shop", "orders.graphql"], Sample.ascii "type Query \x7b orders: [Order] \x7d"),
         (["new", "shop", "orders.graphql"], Sample.ascii "type Order \x7b id: ID \x7d"),
         (["old", "notes.txt"], []), (["new", "notes.txt"], []),
         (["old", "logo.json"], [0xff]), (["new", "logo.json"], []),
         (["new", "draft.graphql"], [])]
      directories := [], here := [] }

end ApiDrift.CommandLine
