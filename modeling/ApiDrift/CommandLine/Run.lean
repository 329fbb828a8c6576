import ApiDrift.CommandLine.Console
import ApiDrift.CommandLine.Settings
import ApiDrift.Exchange.VerdictData
import ApiDrift.Json.Writer
import ApiDrift.Notice

/-!
# Running commands

A command writes lines to its output and to its log and ends with a status: 0, 1 where a file is
invalid, 2 or 3 where a specification is refused, 4 where changes that break clients are to be a
failure. A failure that no command reports escapes. What a command comes to is decided first, and
written then: at a line that cannot be encoded the output breaks off and the command ends.
-/

namespace ApiDrift.CommandLine

/-- Why a command cannot go on: a failure, a file that is no text, or a line that cannot be
encoded. -/
inductive Fault where
  | failure (f : Failure)
  | undecodable (f : Text.Utf8Fault)
  | unencodable (f : Text.EncodingFault)

def Fault.message : Fault → String
  | failure f => f.message
  | undecodable f => f.message
  | unencodable f => f.message

/-- How a command ends: with a status, or by a fault that it does not report. -/
inductive Ending where
  | status (code : Nat)
  | escaped (f : Fault)

/-- What a command comes to: the lines of its output, those of its log, the ones that are logged
after the output, and how it ends. -/
structure Outcome where
  output : List String := []
  log : List String := []
  closing : List String := []
  ending : Ending := .status 0

namespace Ending

/-- The status of a process that ends so. -/
def exitCode : Ending → Nat
  | status code => code
  | escaped _ => 1

end Ending

/-- Lines as text. -/
def joinLines (ls : List String) : String := String.join (ls.map (· ++ "\n"))

/-- The status where breaking changes are to be a failure. -/
def breakingStatus : Nat := 4

/-- The lines in which a document is written. -/
def jsonLines (l : Json.Layout) (d : Document) : List String := [Json.render l d]

/-- The outcome of a fault: a specification that is refused is reported, all else escapes. -/
def failed (log : List String) : Fault → Outcome
  | .failure (.spec f) => { log := log ++ ["Error: " ++ f.message], ending := .status f.exitCode }
  | f => { log, ending := .escaped f }

/-- The specification in a file. -/
def SourceFile.spec (f : SourceFile) : Except Fault Spec :=
  match Text.readText f.bytes with
  | .error e => .error (.undecodable e)
  | .ok content => (Reading.readSpec content f.name).mapError .failure

/-- What is done with the specification in a file, after the notice that it was read. -/
def withSpec (f : SourceFile) (notices : List Notice) (verbose : Bool)
    (next : List Notice → Spec → Outcome) : Outcome :=
  match f.spec with
  | .error e => failed (Notice.linesOf verbose notices) e
  | .ok s => next (notices ++ [.read f.name s]) s

/-- The comparison in the style that is asked for. -/
def comparisonLines (style : Style) (c : Comparison) : List String :=
  match style with
  | .json => jsonLines (.paged 2) (c.toDocument .camel)
  | .console => c.lines

/-- Compares two specifications of one format. -/
def compareSpecs (s : CompareSettings) (verbose : Bool) (notices : List Notice) (old new : Spec) :
    Outcome :=
  let log := Notice.linesOf verbose (notices ++ Notice.ofComparing s.narrowing old new)
  match old.compare s.narrowing new with
  | .error f => failed log (.failure f)
  | .ok c =>
    let output := comparisonLines s.style c
    if s.failOnBreaking && !c.breaking.isEmpty then
      { output, log, closing := [Nat.repr c.breaking.length ++ " breaking change(s) detected."]
        ending := .status breakingStatus }
    else { output, log }

/-- Compares two files. -/
def runCompare (s : CompareSettings) (verbose : Bool) (old new : SourceFile) : Outcome :=
  withSpec old [] verbose fun notices oldSpec =>
    withSpec new notices verbose fun notices newSpec =>
      if oldSpec.format = newSpec.format then compareSpecs s verbose notices oldSpec newSpec
      else
        failed (Notice.linesOf verbose notices)
          (.failure (.spec (.mismatch old.name oldSpec.format new.name newSpec.format)))

/-- Shows the statistics of a file. -/
def runAnalyze (style : Style) (verbose : Bool) (file : SourceFile) : Outcome :=
  withSpec file [] verbose fun notices s =>
    let stats := Statistics.ofSpec s
    let output := match style with
      | .json => jsonLines (.paged 2) stats.toDocument
      | .console => stats.lines
    { output, log := Notice.linesOf verbose notices }

/-- The reports on files and what was noted, or the failure that ends them. -/
def lintAll (strict : Bool) : List SourceFile → List Notice × Except Fault (List LintReport)
  | [] => ([], .ok [])
  | f :: fs =>
    match Text.readText f.bytes with
    | .error e => ([], .error (.undecodable e))
    | .ok content =>
      match LintReport.ofText content f.name strict with
      | .error e => ([], .error (.failure e))
      | .ok r =>
        let (notices, rest) := lintAll strict fs
        (Notice.ofReading content f.name ++ notices, rest.map (r :: ·))

/-- Reports on files. -/
def runValidate (strict : Bool) (style : Style) (verbose : Bool) (files : List SourceFile) :
    Outcome :=
  let (notices, result) := lintAll strict files
  let log := Notice.linesOf verbose notices
  match result with
  | .error e => { log, ending := .escaped e }
  | .ok reports =>
    let output := match style with
      | .json => jsonLines .pagedAscii (.seq (reports.map LintReport.toDocument))
      | .console => reports.flatMap LintReport.lines
    let invalid := reports.countP fun r => !r.valid
    if invalid = 0 then { output, log }
    else
      { output, log, closing := [Nat.repr invalid ++ " specification(s) failed validation"]
        ending := .status 1 }

/-- A path below a directory as it is shown. -/
def shownPath (p : Path) : String := String.intercalate "/" p

/-- The two texts of a file that is in both directories. -/
def revisionAt (old new : Directory) (p : Path) : Except Text.Utf8Fault Revision := do
  let oldText ← Text.readText ((old.bytes? p).getD [])
  let newText ← Text.readText ((new.bytes? p).getD [])
  return ⟨shownPath p, oldText, newText⟩

/-- The files of both directories whose texts can be read, in the order of their paths. -/
def revisions (old new : Directory) : List Revision :=
  (new.sharedPaths old).filterMap fun p =>
    match revisionAt old new p with
    | .ok r => some r
    | .error _ => none

/-- The files of both directories that cannot be read, with the reason. -/
def unreadable (old new : Directory) : List (String × String) :=
  (new.sharedPaths old).filterMap fun p =>
    match revisionAt old new p with
    | .ok _ => none
    | .error f => some (shownPath p, f.message)

/-- What becomes of the files of two directories; the ones that cannot be read are listed first. -/
def batchOf (old new : Directory) (n : Narrowing) : Except Failure Batch := do
  let refusals := (unreadable old new).map fun u => ⟨u.1, "Failed to read file: " ++ u.2⟩
  let b ← Batch.ofRevisions n (revisions old new)
  return { b with failures := refusals ++ b.failures }

/-- Compares the files of two directories. -/
def runBatch (s : BatchSettings) (verbose : Bool) (old new : Directory) : Outcome :=
  let n : Narrowing := { threshold := s.threshold }
  let notices := (unreadable old new).map (fun u => Notice.unreadable u.1 u.2) ++
    Notice.ofBatch n (revisions old new)
  let log := Notice.linesOf verbose notices
  match batchOf old new n with
  | .error f => { log, ending := .escaped (.failure f) }
  | .ok b =>
    let output := match s.style with
      | .json => jsonLines .pagedAscii b.toDocument
      | .console => b.lines
    let fails := s.failOnBreaking && !b.aggregate.breaking.isEmpty
    { output, log, ending := .status (if fails then breakingStatus else 0) }

/-- Runs a task. -/
def runTask (verbose : Bool) : Task → Outcome
  | .compare old new s => runCompare s verbose old new
  | .analyze file style => runAnalyze style verbose file
  | .validate files strict style => runValidate strict style verbose files
  | .batch old new s => runBatch s verbose old new
  | .help c => { output := helpLines c }

/-- The outcome of a misuse. -/
def misused (c : Option Command) (m : Misuse) : Outcome :=
  { log := misuseLines c m, ending := .status 2 }

/-- The misuse that a word for a command is: what looks like a switch is read as one. -/
def unknownWord (word : String) : Misuse :=
  match readArguments (switchesOf none) false [word] with
  | .error m => m
  | .ok _ => .unknownCommand word

/-- What the program comes to with arguments. -/
def run (w : Surroundings) (args : List String) : Outcome :=
  if args.isEmpty then { output := helpLines none }
  else
    match readArguments (switchesOf none) false args with
    | .error m => misused none m
    | .ok g =>
      if g.has .help then { output := helpLines none }
      else
        match g.operands with
        | [] => misused none .noCommand
        | word :: rest =>
          match Command.ofName? word with
          | none => misused none (unknownWord word)
          | some c =>
            match taskOf w c rest with
            | .error m => misused (some c) m
            | .ok task => runTask (g.has .verbose) task

/-- The lines before the first that cannot be encoded, and why it cannot. -/
def encodable : List String → List String × Option Text.EncodingFault
  | [] => ([], none)
  | line :: lines =>
    match Text.encodingFault? line with
    | some f => ([], some f)
    | none =>
      let (before, fault) := encodable lines
      (line :: before, fault)

/-- A line of the log, where halves of surrogate pairs are written as escapes. -/
def logLine (line : String) : String := String.ofList (Text.spell (fun c => [c]) line.toList)

/-- An outcome as it is written. -/
def Outcome.written (o : Outcome) : Outcome :=
  match encodable o.output with
  | (output, none) => { output, log := (o.log ++ o.closing).map logLine, ending := o.ending }
  | (output, some f) => { output, log := o.log.map logLine, ending := .escaped (.unencodable f) }

/-- Runs the program with arguments. -/
def execute (w : Surroundings) (args : List String) : Outcome := (run w args).written

end ApiDrift.CommandLine
