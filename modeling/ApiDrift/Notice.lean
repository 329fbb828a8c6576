import ApiDrift.Verdict.Batch

/-!
# Notices

What is noted in passing: every specification that is read, every comparison, and every file that is
passed over. Only the last are warnings; the others are shown on demand.
-/

namespace ApiDrift

inductive NoticeLevel where
  | debug
  | info
  | warning
deriving DecidableEq, Repr

def NoticeLevel.name : NoticeLevel → String
  | debug => "DEBUG"
  | info => "INFO"
  | warning => "WARNING"

inductive Notice where
  | read (filename : String) (spec : Spec)
  | compared (c : Comparison)
  | judged (c : Comparison)
  | refused (f : FileRefusal)
  | unreadable (filename reason : String)

namespace Notice

def level : Notice → NoticeLevel
  | read .. => .debug
  | compared _ => .debug
  | judged _ => .info
  | refused _ => .warning
  | unreadable .. => .warning

/-- The part of the program that gives a notice. -/
def source : Notice → String
  | read .. => "api_changelog.parser.loader"
  | compared _ => "api_changelog.diff.comparator"
  | judged _ => "api_changelog.detector"
  | refused _ => "api_changelog.detector"
  | unreadable .. => "api_changelog.cli"

/-- The versions that a comparison is about, and the number of changes. -/
def comparisonText (c : Comparison) : String :=
  c.apiName ++ " " ++ c.fromVersion ++ " -> " ++ c.toVersion ++ ": " ++ toString c.totalChanges ++
    " changes, " ++ Nat.repr c.breaking.length ++ " breaking"

def text : Notice → String
  | read filename s =>
    "Parsed " ++ filename ++ " as " ++ s.format.name ++ ": " ++ Nat.repr s.endpoints.length ++
      " endpoints, " ++ Nat.repr s.schemas.length ++ " schemas, " ++ Nat.repr s.security.length ++
      " security schemes"
  | compared c => "Compared " ++ comparisonText c
  | judged c =>
    comparisonText c ++ ", risk " ++ Nat.repr c.risk.score ++ " (" ++ c.risk.level.name ++
      "), recommend " ++ c.risk.bump.name
  | refused f => "Failed to analyze " ++ f.filename ++ ": " ++ f.reason
  | unreadable filename reason => "Failed to read " ++ filename ++ ": " ++ reason

/-- A notice as a line. -/
def line (n : Notice) : String := n.level.name ++ " " ++ n.source ++ ": " ++ n.text

/-- The lines of the notices that are shown. -/
def linesOf (verbose : Bool) (ns : List Notice) : List String :=
  (ns.filter fun n => verbose || n.level = .warning).map line

/-- What is noted when the content of a file is read. -/
def ofReading (content filename : String) : List Notice :=
  match Reading.readSpec content filename with
  | .ok s => [.read filename s]
  | .error _ => []

/-- What is noted when two specifications are compared. -/
def ofComparing (n : Narrowing) (old new : Spec) : List Notice :=
  match Comparison.ofSpecs old new with
  | .ok c => [.compared c, .judged (c.narrow n)]
  | .error _ => []

/-- What is noted of a file that is passed over. -/
def ofFailure (filename : String) : Failure → List Notice
  | .spec f => [.refused ⟨filename, f.message⟩]
  | _ => []

/-- What is noted for a file of a batch. -/
def ofRevision (n : Narrowing) (r : Revision) : List Notice :=
  match Reading.readSpec r.old r.filename with
  | .error f => ofFailure r.filename f
  | .ok old =>
    .read r.filename old ::
      match Reading.readSpec r.new r.filename with
      | .error f => ofFailure r.filename f
      | .ok new => .read r.filename new :: ofComparing n old new

/-- What is noted for a batch, up to the file that ends it. -/
def ofBatch (n : Narrowing) : List Revision → List Notice
  | [] => []
  | r :: rs =>
    ofRevision n r ++
      match Batch.ofRevision n r with
      | .ok _ => ofBatch n rs
      | .error _ => []

end Notice
end ApiDrift
