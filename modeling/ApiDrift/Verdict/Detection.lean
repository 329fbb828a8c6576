import ApiDrift.Reading
import ApiDrift.Verdict.Comparison

/-!
# Two versions of a file

Both texts of a revision are read under the same file name, so they are refused or read by the same
reader. The old text is read first: where both are malformed, its failure is the one reported.
-/

namespace ApiDrift

/-- The old and the new text of a file. -/
structure Revision where
  filename : String
  old : String
  new : String
deriving DecidableEq, Repr

/-- The comparison of two specifications, narrowed as asked. -/
def Spec.compare (n : Narrowing) (old new : Spec) : Except Failure Comparison :=
  match Comparison.ofSpecs old new with
  | .ok c => .ok (c.narrow n)
  | .error f => .error (.plain f)

namespace Revision

/-- The comparison of the two texts, narrowed as asked. -/
def compare (n : Narrowing) (r : Revision) : Except Failure Comparison := do
  let old ← Reading.readSpec r.old r.filename
  let new ← Reading.readSpec r.new r.filename
  old.compare n new

/-- Whether the new text breaks clients of the old one. -/
def breaks (r : Revision) : Except Failure Bool := do
  let c ← r.compare {}
  return !c.breaking.isEmpty

end Revision

/-- The breaking changes of a comparison in short. -/
structure BreakingDigest where
  count : Nat
  level : RiskLevel
  bump : Bump
  changes : List String
deriving DecidableEq, Repr

namespace BreakingDigest

def ofComparison (c : Comparison) : BreakingDigest :=
  ⟨c.breaking.length, c.risk.level, c.risk.bump, c.breaking.map (·.description)⟩

/-- The breaking changes between the two texts of a file in short. -/
def ofRevision (r : Revision) : Except Failure BreakingDigest := do
  let c ← r.compare {}
  return ofComparison c

end BreakingDigest
end ApiDrift
