import ApiDrift.Compare.Endpoints
import ApiDrift.Compare.Schemas
import ApiDrift.Verdict.Migration
import ApiDrift.Verdict.Summary

/-!
# The difference of two specifications

The changes of endpoints, then of schemas, then of security schemes, with the breaking ones among
them and the summary of all.
-/

namespace ApiDrift

/-- The outcome of a comparison before it is judged. -/
structure Difference where
  changes : List Change
  breaking : List BreakingChange
  summary : Summary
deriving DecidableEq, Repr

/-- All changes from one specification to another. -/
def Spec.changes (old new : Spec) : Except PlainFault (List Change) := do
  let endpoints ← Compare.endpoints old.endpoints new.endpoints
  return endpoints ++ Compare.schemas old.schemas new.schemas ++
    Compare.security old.security new.security

/-- The breaking changes of a list, with advice and impact. -/
def breakingOf (changes : List Change) : List BreakingChange :=
  (changes.filter fun c => c.severity = .breaking).map Change.toBreaking

def Spec.difference (old new : Spec) : Except PlainFault Difference := do
  let changes ← old.changes new
  return ⟨changes, breakingOf changes, Summary.ofChanges changes⟩

end ApiDrift
