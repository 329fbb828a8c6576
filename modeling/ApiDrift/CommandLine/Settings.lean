import ApiDrift.CommandLine.Arguments
import ApiDrift.Files.Tree
import ApiDrift.Text.CharClass
import ApiDrift.Verdict.Comparison

/-!
# Settings of the commands

The settings of each command, from its arguments, the environment and the files that are there.
Switches that are given are examined first, in the order in which they are given, then operands,
then the environment. A switch goes before its variable; an empty variable counts as none.
-/

namespace ApiDrift.CommandLine

/-- Where a command runs. -/
structure Surroundings where
  tree : Tree
  environment : List (String × String) := []

/-- How a command answers. -/
inductive Style where
  | console
  | json
deriving DecidableEq, Repr

/-- A file with its name as it is shown. -/
structure SourceFile where
  name : String
  bytes : List UInt8
deriving DecidableEq, Repr

structure CompareSettings where
  style : Style := .console
  narrowing : Narrowing := {}
  failOnBreaking : Bool := false
deriving DecidableEq, Repr

structure BatchSettings where
  style : Style := .console
  threshold : Option Severity := none
  failOnBreaking : Bool := false
deriving DecidableEq, Repr

/-- A command that is ready to run. -/
inductive Task where
  | compare (old new : SourceFile) (s : CompareSettings)
  | analyze (file : SourceFile) (style : Style)
  | validate (files : List SourceFile) (strict : Bool) (style : Style)
  | batch (old new : Directory) (s : BatchSettings)
  | help (c : Option Command)

/-- The value of the variable of a switch, if it is set to something. -/
def Surroundings.inherited? (w : Surroundings) (s : Switch) : Option String := do
  let name ← s.environmentName?
  let value ← w.environment.lookup name
  if value.isEmpty then none else some value

/-- Whether a value is among the choices of a switch. -/
def checkChoice (s : Switch) (value : String) : Except Misuse Unit :=
  if s.choices.contains value then .ok () else .error (.badChoice s value)

/-- Examines the values of the switches that are given. -/
def checkSwitches (g : Given) : Except Misuse Unit :=
  g.distinct.forM fun s =>
    match g.value? s with
    | some value => checkChoice s value
    | none => .ok ()

/-- The truth value that a word stands for. -/
def flagOf? (word : String) : Option Bool :=
  let w := Text.lower (String.ofList (Text.trim word.toList))
  if ["1", "on", "t", "true", "y", "yes"].contains w then some true
  else if ["", "0", "f", "false", "n", "no", "off"].contains w then some false
  else none

/-- The style that is asked for. -/
def styleOf (g : Given) : Style := if g.value? .format = some "json" then .json else .console

/-- The severity that is asked for, by switch or variable. -/
def thresholdOf (w : Surroundings) (g : Given) : Except Misuse (Option Severity) :=
  match g.value? .severity with
  | some value => .ok (Severity.ofName? value)
  | none =>
    match w.inherited? .severity with
    | some value => do
      checkChoice .severity value
      return Severity.ofName? value
    | none => .ok none

/-- Whether breaking changes are to be a failure, by switch or variable. -/
def failOnBreakingOf (w : Surroundings) (g : Given) : Except Misuse Bool :=
  if g.has .failOnBreaking then .ok true
  else
    match w.inherited? .failOnBreaking with
    | none => .ok false
    | some value =>
      match flagOf? value with
      | some b => .ok b
      | none => .error (.badFlag .failOnBreaking value)

/-- The file that an operand names. -/
def fileAt (w : Surroundings) (operand path : String) : Except Misuse SourceFile :=
  match w.tree.find? path with
  | some (.file bytes) => .ok ⟨Path.display path, bytes⟩
  | some (.directory _) => .error (.wrongKind operand .file path)
  | none => .error (.notThere operand .file path)

/-- The directory that an operand names. -/
def directoryAt (w : Surroundings) (operand path : String) : Except Misuse Directory :=
  match w.tree.find? path with
  | some (.directory d) => .ok d
  | some (.file _) => .error (.wrongKind operand .directory path)
  | none => .error (.notThere operand .directory path)

/-- The operand at an index, found by name. -/
def operandAt {α : Type} (find : String → String → Except Misuse α) (name : String) (g : Given)
    (i : Nat) : Except Misuse α :=
  match g.operands[i]? with
  | some path => find name path
  | none => .error (.operandMissing name)

/-- Nothing may follow the operands. -/
def noMoreThan (n : Nat) (g : Given) : Except Misuse Unit :=
  match g.operands.drop n with
  | [] => .ok ()
  | extra => .error (.extra extra)

def compareTask (w : Surroundings) (g : Given) : Except Misuse Task := do
  checkSwitches g
  let old ← operandAt (fileAt w) "OLD_PATH" g 0
  let new ← operandAt (fileAt w) "NEW_PATH" g 1
  let threshold ← thresholdOf w g
  let failOnBreaking ← failOnBreakingOf w g
  noMoreThan 2 g
  let narrowing : Narrowing := ⟨threshold, !g.has .excludeDeprecations⟩
  return .compare old new ⟨styleOf g, narrowing, failOnBreaking⟩

def analyzeTask (w : Surroundings) (g : Given) : Except Misuse Task := do
  checkSwitches g
  let file ← operandAt (fileAt w) "SPEC_PATH" g 0
  noMoreThan 1 g
  return .analyze file (styleOf g)

def validateTask (w : Surroundings) (g : Given) : Except Misuse Task := do
  checkSwitches g
  if g.operands.isEmpty then throw (.operandMissing "SPEC_PATHS...")
  let files ← g.operands.mapM (fileAt w "SPEC_PATHS...")
  return .validate files (g.has .strict) (styleOf g)

def batchTask (w : Surroundings) (g : Given) : Except Misuse Task := do
  checkSwitches g
  let old ← operandAt (directoryAt w) "OLD_DIR" g 0
  let new ← operandAt (directoryAt w) "NEW_DIR" g 1
  let threshold ← thresholdOf w g
  let failOnBreaking ← failOnBreakingOf w g
  noMoreThan 2 g
  return .batch old new ⟨styleOf g, threshold, failOnBreaking⟩

/-- The task of a command with its arguments. -/
def taskOf (w : Surroundings) (c : Command) (args : List String) : Except Misuse Task := do
  let g ← readArguments (switchesOf (some c)) true args
  if g.has .help then return .help (some c)
  match c with
  | .compare => compareTask w g
  | .analyze => analyzeTask w g
  | .validate => validateTask w g
  | .batch => batchTask w g

end ApiDrift.CommandLine
