import ApiDrift.Change
import ApiDrift.Text.Quoted
import ApiDrift.Text.Similarity

/-!
# Commands and their usage

The four commands with their switches and operands, and everything that can be wrong with the
arguments. A misuse is reported below the usage of the command that it is about, with status 2.
-/

namespace ApiDrift.CommandLine

open ApiDrift.Text

inductive Command where
  | compare
  | analyze
  | validate
  | batch
deriving DecidableEq, Repr

namespace Command

def name : Command → String
  | compare => "compare"
  | analyze => "analyze"
  | validate => "validate"
  | batch => "batch"

def all : List Command := [analyze, batch, compare, validate]

def ofName? (s : String) : Option Command := all.find? fun c => c.name == s

/-- The operands as they are shown in the usage. -/
def operands : Command → String
  | compare => "OLD_PATH NEW_PATH"
  | analyze => "SPEC_PATH"
  | validate => "SPEC_PATHS..."
  | batch => "OLD_DIR NEW_DIR"

def purpose : Command → String
  | compare => "Compare two versions of an API specification."
  | analyze => "Show the structure of a single API specification."
  | validate => "Validate one or more API specification files."
  | batch => "Compare every spec present in both OLD_DIR and NEW_DIR."

end Command

inductive Switch where
  | verbose
  | format
  | severity
  | excludeDeprecations
  | failOnBreaking
  | strict
  | help
deriving DecidableEq, Repr

namespace Switch

def name : Switch → String
  | verbose => "--verbose"
  | format => "--format"
  | severity => "--severity"
  | excludeDeprecations => "--exclude-deprecations"
  | failOnBreaking => "--fail-on-breaking"
  | strict => "--strict"
  | help => "--help"

/-- The letter of a switch that has a short form. -/
def letter? : Switch → Option Char
  | verbose => some 'v'
  | _ => none

def takesValue : Switch → Bool
  | format => true
  | severity => true
  | _ => false

/-- The values that a switch can take. -/
def choices : Switch → List String
  | format => ["console", "json"]
  | severity => Severity.all.map Severity.name
  | _ => []

/-- The variable of the environment that stands in for a switch. -/
def environmentName? : Switch → Option String
  | severity => some "API_CHANGELOG_SEVERITY"
  | failOnBreaking => some "API_CHANGELOG_FAIL_ON_BREAKING"
  | _ => none

end Switch

/-- The switches before the command, and those of each command. -/
def switchesOf : Option Command → List Switch
  | none => [.verbose, .help]
  | some .compare => [.format, .severity, .excludeDeprecations, .failOnBreaking, .help]
  | some .analyze => [.format, .help]
  | some .validate => [.strict, .format, .help]
  | some .batch => [.format, .severity, .failOnBreaking, .help]

/-- What an operand has to be. -/
inductive OperandKind where
  | file
  | directory
deriving DecidableEq, Repr

def OperandKind.name : OperandKind → String
  | file => "File"
  | directory => "Directory"

/-- What a path is instead of what it has to be. -/
def OperandKind.other : OperandKind → String
  | file => "a directory"
  | directory => "a file"

/-- What can be wrong with the arguments. -/
inductive Misuse where
  | unknownSwitch (text : String) (known : List Switch)
  | unknownCommand (text : String)
  | noCommand
  | valueMissing (s : Switch)
  | valueUnexpected (s : Switch)
  | badChoice (s : Switch) (value : String)
  | badFlag (s : Switch) (value : String)
  | operandMissing (name : String)
  | notThere (operand : String) (kind : OperandKind) (path : String)
  | wrongKind (operand : String) (kind : OperandKind) (path : String)
  | extra (operands : List String)
deriving DecidableEq, Repr

namespace Misuse

/-- A message with the names that may have been meant. -/
def withSuggestions (message : String) (names : List String) : String :=
  match names with
  | [] => message
  | [name] => message ++ " Did you mean " ++ quote name ++ "?"
  | _ =>
    message ++ " (Did you mean one of: " ++
      String.intercalate ", " ((names.mergeSort (fun a b => a ≤ b)).map quote) ++ "?)"

/-- Names are suggested only for what looks like a long switch. -/
def switchSuggestions (text : String) (known : List Switch) : List String :=
  if "--".toList.isPrefixOf text.toList then similarNames text (known.map Switch.name) else []

/-- The words for truth values that are recognised, one of them empty. -/
def flagWords : List String :=
  ["", "0", "1", "f", "false", "n", "no", "off", "on", "t", "true", "y", "yes"]

private def invalid (subject reason : String) : String :=
  "Invalid value for '" ++ subject ++ "': " ++ reason

def message : Misuse → String
  | unknownSwitch text known =>
    withSuggestions ("No such option " ++ quote text ++ ".") (switchSuggestions text known)
  | unknownCommand text =>
    withSuggestions ("No such command " ++ quote text ++ ".")
      (similarNames text (Command.all.map Command.name))
  | noCommand => "Missing command."
  | valueMissing s => "Option " ++ quote s.name ++ " requires an argument."
  | valueUnexpected s => "Option " ++ quote s.name ++ " does not take a value."
  | badChoice s value =>
    invalid s.name
      (quote value ++ " is not one of " ++ String.intercalate ", " (s.choices.map quote) ++ ".")
  | badFlag s value =>
    invalid s.name
      (quote value ++ " is not a valid boolean. Recognized values: " ++
        String.intercalate ", " flagWords)
  | operandMissing name => "Missing argument '" ++ name ++ "'."
  | notThere operand kind path =>
    invalid operand (kind.name ++ " " ++ quote path ++ " does not exist.")
  | wrongKind operand kind path =>
    invalid operand (kind.name ++ " " ++ quote path ++ " is " ++ kind.other ++ ".")
  | extra [operand] => "Got unexpected extra argument (" ++ operand ++ ")"
  | extra operands =>
    "Got unexpected extra arguments (" ++ String.intercalate " " operands ++ ")"

end Misuse

/-- The program with a command, if one is named. -/
def programName (c : Option Command) : String :=
  match c with
  | none => "main"
  | some c => "main " ++ c.name

/-- What stands after the name in the usage. -/
def usageTail (c : Option Command) : String :=
  match c with
  | none => "[OPTIONS] COMMAND [ARGS]..."
  | some c => "[OPTIONS] " ++ c.operands

def usageLine (c : Option Command) : String := "Usage: " ++ programName c ++ " " ++ usageTail c

/-- The lines of the report on a misuse. -/
def misuseLines (c : Option Command) (m : Misuse) : List String :=
  [usageLine c, "Try '" ++ programName c ++ " --help' for help.", "", "Error: " ++ m.message]

/-- The lines of the help on the program or on a command. -/
def helpLines (c : Option Command) : List String :=
  let purpose := match c with
    | none => "API Changelog: detect breaking changes between two versions of an API spec."
    | some c => c.purpose
  [usageLine c, "", "  " ++ purpose, "", "Options:"] ++
    (switchesOf c).map fun s => "  " ++ s.name

end ApiDrift.CommandLine
