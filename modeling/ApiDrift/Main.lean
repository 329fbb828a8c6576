import ApiDrift.CommandLine.Run

/-!
# The program

The outer layer: the files that the arguments name are read into a tree, the command runs on it, and
its lines and status are passed on.
-/

namespace ApiDrift.CommandLine

/-- The components of a place in the file system. -/
def componentsOf (place : String) : Path :=
  (Path.components place).filter fun c => !Path.isIdle c

/-- The files and directories at and below a path. -/
def loadPath (text : String) : IO (Directory × List Path) := do
  let here ← IO.currentDir
  if !(← (here / text).pathExists) then return ([], [])
  let place ← IO.FS.realPath (here / text)
  let found ← if ← place.isDir then place.walkDir else pure #[place]
  let mut files : Directory := []
  let mut directories : List Path := []
  for entry in found do
    if ← entry.isDir then directories := componentsOf entry.toString :: directories
    else files := (componentsOf entry.toString, (← IO.FS.readBinFile entry).toList) :: files
  if ← place.isDir then directories := componentsOf place.toString :: directories
  return (files, directories)

/-- The names of the variables of the environment that are looked at. -/
def variableNames : List String := (switchesOf (some .compare)).filterMap Switch.environmentName?

/-- The tree of the files that the arguments name. -/
def loadSurroundings (args : List String) : IO Surroundings := do
  let here := componentsOf (← IO.currentDir).toString
  let mut files : Directory := []
  let mut directories := [here]
  for arg in args do
    let (fs, ds) ← loadPath arg
    files := fs ++ files
    directories := ds ++ directories
  let mut environment := []
  for name in variableNames do
    if let some value ← IO.getEnv name then environment := (name, value) :: environment
  return { tree := { files, directories, here }, environment }

end ApiDrift.CommandLine

open ApiDrift ApiDrift.CommandLine in
/-- Runs a command and ends with its status. -/
def main (args : List String) : IO UInt32 := do
  let w ← loadSurroundings args
  let outcome := execute w args
  IO.print (joinLines outcome.output)
  IO.eprint (joinLines outcome.log)
  match outcome.ending with
  | .escaped f => IO.eprintln f.message
  | .status _ => pure ()
  return outcome.ending.exitCode.toUInt32
