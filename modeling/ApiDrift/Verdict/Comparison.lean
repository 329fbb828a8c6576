import ApiDrift.Compare
import ApiDrift.Verdict.Risk

/-!
# Comparisons

The verdict on two versions, its narrowing to severe changes or to changes other than deprecations,
and the union of many verdicts. Narrowing leaves the breaking changes and the risk as they are; the
union has the highest score and bump of its parts.
-/

namespace ApiDrift

/-- What to leave out of the changes of a comparison. -/
structure Narrowing where
  threshold : Option Severity := none
  includeDeprecations : Bool := true
deriving DecidableEq, Repr

namespace Comparison

/-- The comparison of two specifications, with nothing left out. -/
def ofSpecs (old new : Spec) : Except PlainFault Comparison := do
  let d ← old.difference new
  return {
    apiName := new.name
    fromVersion := old.version
    toVersion := new.version
    changes := d.changes
    breaking := d.breaking
    totalChanges := d.changes.length
    risk := Risk.assess d.breaking d.changes
    summary := d.summary }

/-- The same comparison with other changes. -/
def withChanges (c : Comparison) (changes : List Change) : Comparison :=
  { c with changes, totalChanges := changes.length, summary := Summary.ofChanges changes }

/-- Keeps the changes of at least a severity. -/
def atLeast (c : Comparison) (threshold : Severity) : Comparison :=
  c.withChanges (c.changes.filter fun x => threshold.rank ≤ x.severity.rank)

/-- Leaves out the deprecations. -/
def withoutDeprecations (c : Comparison) : Comparison :=
  c.withChanges (c.changes.filter fun x => x.type ≠ .deprecated)

/-- Narrows a comparison as asked. -/
def narrow (n : Narrowing) (c : Comparison) : Comparison :=
  let c := match n.threshold with
    | some s => c.atLeast s
    | none => c
  if n.includeDeprecations then c else c.withoutDeprecations

def highestScore (cs : List Comparison) : Nat := cs.foldl (fun n c => max n c.risk.score) 0

/-- The greater of two bumps. -/
def greaterBump (a b : Bump) : Bump := if a.rank < b.rank then b else a

def highestBump (cs : List Comparison) : Bump :=
  cs.foldl (fun b c => greaterBump b c.risk.bump) .patch

/-- The union of comparisons, named after the first. -/
def aggregate (cs : List Comparison) : Comparison :=
  let changes := cs.flatMap (·.changes)
  let score := highestScore cs
  { apiName := (cs.head?.map (·.apiName)).getD "Unknown"
    fromVersion := (cs.head?.map (·.fromVersion)).getD "0.0.0"
    toVersion := (cs.head?.map (·.toVersion)).getD "0.0.0"
    changes
    breaking := cs.flatMap (·.breaking)
    totalChanges := changes.length
    risk := ⟨score, Risk.levelOf score, highestBump cs⟩
    summary := Summary.ofChanges changes }

end Comparison
end ApiDrift
