/-!
# Trees of files

A path is the list of its components. A tree knows the bytes of its files and the directories that
are there; a directory that holds something is there as well. The files below a directory form a
directory of their own, whose paths start there.
-/

namespace ApiDrift

/-- A path by its components. -/
abbrev Path := List String

/-- The order of paths, component by component. -/
def Path.le : Path → Path → Bool
  | [], _ => true
  | _ :: _, [] => false
  | a :: as, b :: bs => if a = b then Path.le as bs else a < b

/-- The files below a place by their paths from there; the first one at a path counts. -/
abbrev Directory := List (Path × List UInt8)

namespace Directory

/-- The bytes of a file. -/
def bytes? (d : Directory) (p : Path) : Option (List UInt8) := List.lookup p d

/-- The paths of the files, in order and each once. -/
def paths (d : Directory) : List Path := (d.map (·.1)).eraseDups.mergeSort Path.le

/-- The paths of the files that another directory has too, in order. -/
def sharedPaths (d other : Directory) : List Path :=
  d.paths.filter fun p => (other.bytes? p).isSome

end Directory

/-- What remains of a path after another one. -/
def Path.after? (base : Path) (p : Path) : Option Path :=
  match base, p with
  | [], p => some p
  | _ :: _, [] => none
  | b :: bs, c :: cs => if b = c then Path.after? bs cs else none

/-- The components of a path as it is written, empty ones included. -/
def Path.components (text : String) : List String :=
  let rec go (current : List Char) : List Char → List String
    | [] => [String.ofList current.reverse]
    | '/' :: rest => String.ofList current.reverse :: go [] rest
    | c :: rest => go (c :: current) rest
  go [] text.toList

/-- Whether a component says nothing. -/
def Path.isIdle (component : String) : Bool := component = "" || component = "."

/-- The marks at the front of a path that starts at the root. -/
def Path.rootMark (text : String) : String :=
  match text.toList with
  | '/' :: '/' :: '/' :: _ => "/"
  | '/' :: '/' :: _ => "//"
  | '/' :: _ => "/"
  | _ => ""

/-- A path as it is shown: without idle components and marks at its end. -/
def Path.display (text : String) : String :=
  let shown := Path.rootMark text ++
    String.intercalate "/" ((Path.components text).filter fun c => !Path.isIdle c)
  if shown.isEmpty then "." else shown

/-- A tree of files with a place in it from which paths are read. -/
structure Tree where
  files : Directory
  directories : List Path
  here : Path

/-- What a path leads to. -/
inductive Place where
  | file (bytes : List UInt8)
  | directory (d : Directory)

namespace Tree

/-- The files below a place. -/
def below (t : Tree) (p : Path) : Directory :=
  t.files.filterMap fun f =>
    match Path.after? p f.1 with
    | some (c :: cs) => some (c :: cs, f.2)
    | _ => none

/-- Whether there is a directory at a place. -/
def isDirectory (t : Tree) (p : Path) : Bool :=
  p.isEmpty || !(t.below p).isEmpty || t.directories.any fun d => (Path.after? p d).isSome

/-- The place that components lead to from another one, each but the last through a directory. -/
def walk (t : Tree) (p : Path) : List String → Option Path
  | [] => some p
  | c :: cs =>
    if !t.isDirectory p then none
    else if Path.isIdle c then t.walk p cs
    else if c = ".." then t.walk p.dropLast cs
    else t.walk (p ++ [c]) cs

/-- What is at a place. -/
def at? (t : Tree) (p : Path) : Option Place :=
  match t.files.bytes? p with
  | some bs => some (.file bs)
  | none => if t.isDirectory p then some (.directory (t.below p)) else none

/-- What a written path leads to. -/
def find? (t : Tree) (text : String) : Option Place :=
  if text.isEmpty then none
  else
    let start := if (Path.rootMark text).isEmpty then t.here else []
    (t.walk start (Path.components text)).bind t.at?

end Tree
end ApiDrift
