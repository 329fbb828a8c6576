import ApiDrift.Verdict.Detection

/-!
# Batches of files

Files are independent of one another: one that cannot be read is listed with its reason and does not
stop the others. Only a foreign failure ends a batch, and of several the one that comes first.
-/

namespace ApiDrift

/-- The comparison of a file of a batch. -/
structure FileVerdict where
  filename : String
  comparison : Comparison
deriving DecidableEq, Repr

/-- Why a file of a batch has no comparison. -/
structure FileRefusal where
  filename : String
  reason : String
deriving DecidableEq, Repr

/-- What became of the files of a batch, each list in the order of the files. -/
structure Batch where
  results : List FileVerdict := []
  failures : List FileRefusal := []
deriving DecidableEq, Repr

namespace Batch

/-- What becomes of one file. -/
def ofRevision (n : Narrowing) (r : Revision) : Except Failure Batch :=
  match r.compare n with
  | .ok c => .ok { results := [⟨r.filename, c⟩] }
  | .error (.spec f) => .ok { failures := [⟨r.filename, f.message⟩] }
  | .error f => .error f

/-- Two batches as one. -/
def append (a b : Batch) : Batch := ⟨a.results ++ b.results, a.failures ++ b.failures⟩

/-- What becomes of a list of files. -/
def ofRevisions (n : Narrowing) : List Revision → Except Failure Batch
  | [] => .ok {}
  | r :: rs => do
    let b ← ofRevision n r
    let rest ← ofRevisions n rs
    return b.append rest

/-- A batch for a number of workers, of which there must be at least one where there are files. -/
def run (workers : Option Int) (n : Narrowing) (rs : List Revision) : Except Failure Batch :=
  match workers with
  | some w => if w ≤ 0 && !rs.isEmpty then .error .noWorkers else ofRevisions n rs
  | none => ofRevisions n rs

/-- All comparisons of a batch as one. -/
def aggregate (b : Batch) : Comparison := Comparison.aggregate (b.results.map (·.comparison))

end Batch
end ApiDrift
