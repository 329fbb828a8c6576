import ApiDrift.Exchange.ChangeData
import ApiDrift.Verdict.Batch

/-!
# Verdicts as data

The trees of a difference, of a digest and of the outcome of a batch, and the check of the options
of a comparison.
-/

namespace ApiDrift

open Checking Exchange

namespace BreakingDigest

def toDocument (d : BreakingDigest) : Document :=
  .map
    [(.text "count", .int d.count), (.text "risk_level", .text d.level.name),
     (.text "recommendation", .text d.bump.name), (.text "changes", texts d.changes)]

end BreakingDigest

namespace Difference

def toDocument (n : Naming) (d : Difference) : Document :=
  .map
    [n.entry .changes (.seq (d.changes.map (Change.toDocument n))),
     n.entry .breaking (.seq (d.breaking.map (BreakingChange.toDocument n))),
     n.entry .summary (d.summary.toDocument n)]

def ofEntries (es : Document.Entries) : Checked Difference :=
  Difference.mk <$> may es .changes [] (list Change.check)
    <*> may es .breaking [] (list BreakingChange.check) <*> may es .summary {} Summary.check

def check : Document → Checked Difference := model "SpecDiff" ofEntries

end Difference

namespace FileVerdict

def toDocument (v : FileVerdict) : Document :=
  .map [(.text "filename", .text v.filename), (.text "result", v.comparison.toDocument .camel)]

end FileVerdict

namespace FileRefusal

def toDocument (r : FileRefusal) : Document :=
  .map [(.text "filename", .text r.filename), (.text "error", .text r.reason)]

end FileRefusal

namespace Batch

/-- The outcome of a batch with all its comparisons as one. -/
def toDocument (b : Batch) : Document :=
  .map
    [(.text "results", .seq (b.results.map FileVerdict.toDocument)),
     (.text "failures", .seq (b.failures.map FileRefusal.toDocument)),
     (.text "aggregate", b.aggregate.toDocument .camel)]

end Batch

namespace Narrowing

def toDocument (n : Narrowing) : Document :=
  .map
    [(.text FieldName.threshold.plain, orNull (n.threshold.map Severity.name)),
     (.text FieldName.deprecations.plain, .bool n.includeDeprecations)]

def ofEntries (es : Document.Entries) : Checked Narrowing :=
  Narrowing.mk <$> may es .threshold none (nullable (choice Severity.name Severity.all))
    <*> may es .deprecations true flag

def check : Document → Checked Narrowing := model "DetectionOptions" ofEntries

/-- The options that a value gives. -/
def ofDocument (v : Document) : Except Failure Narrowing :=
  match report "DetectionOptions" (check v) with
  | .ok n => .ok n
  | .error r => .error (.options r)

end Narrowing
end ApiDrift
