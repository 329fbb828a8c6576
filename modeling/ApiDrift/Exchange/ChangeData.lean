import ApiDrift.Exchange.Names
import ApiDrift.Change

/-!
# Changes as data

The trees of changes, summaries, risks and comparisons, and the checks that read them back. The
owner of a change is never written, but it is read where it is given.
-/

namespace ApiDrift

open Checking Exchange

namespace Change

/-- The entries of a change, without its owner. -/
def toEntries (n : Naming) (c : Change) : Document.Entries :=
  [n.entry .type (.text c.type.name), n.entry .category (.text c.category.name),
   n.entry .severity (.text c.severity.name), n.entry .path (.text c.path),
   n.entry .description (.text c.description), n.entry .oldValue (orNull c.oldValue),
   n.entry .newValue (orNull c.newValue)]

def toDocument (n : Naming) (c : Change) : Document := .map (c.toEntries n)

def ofEntries (es : Document.Entries) : Checked Change :=
  Change.mk <$> must es .type (choice ChangeType.name ChangeType.all)
    <*> must es .category (choice Category.name Category.all)
    <*> must es .severity (choice Severity.name Severity.all)
    <*> must es .path text <*> must es .description text
    <*> may es .oldValue none (nullable text) <*> may es .newValue none (nullable text)
    <*> may es .owner none (nullable text)

def check : Document → Checked Change := model "Change" ofEntries

end Change

namespace BreakingChange

def toDocument (n : Naming) (b : BreakingChange) : Document :=
  .map (b.toChange.toEntries n ++
    [n.entry .suggestion (.text b.suggestion), n.entry .impact (.int b.impact)])

def ofEntries (es : Document.Entries) : Checked BreakingChange :=
  BreakingChange.mk <$> Change.ofEntries es <*> must es .suggestion text
    <*> must es .impact percentage

def check : Document → Checked BreakingChange := model "BreakingChange" ofEntries

end BreakingChange

namespace Summary

def toDocument (n : Naming) (s : Summary) : Document :=
  .map
    [n.entry .endpointsAdded (.int s.endpointsAdded),
     n.entry .endpointsRemoved (.int s.endpointsRemoved),
     n.entry .endpointsModified (.int s.endpointsModified),
     n.entry .endpointsDeprecated (.int s.endpointsDeprecated),
     n.entry .schemasAdded (.int s.schemasAdded), n.entry .schemasRemoved (.int s.schemasRemoved),
     n.entry .schemasModified (.int s.schemasModified),
     n.entry .parametersAdded (.int s.parametersAdded),
     n.entry .parametersRemoved (.int s.parametersRemoved),
     n.entry .parametersModified (.int s.parametersModified),
     n.entry .securityAdded (.int s.securityAdded),
     n.entry .securityRemoved (.int s.securityRemoved)]

def ofEntries (es : Document.Entries) : Checked Summary :=
  Summary.mk <$> may es .endpointsAdded 0 integer <*> may es .endpointsRemoved 0 integer
    <*> may es .endpointsModified 0 integer <*> may es .endpointsDeprecated 0 integer
    <*> may es .schemasAdded 0 integer <*> may es .schemasRemoved 0 integer
    <*> may es .schemasModified 0 integer <*> may es .parametersAdded 0 integer
    <*> may es .parametersRemoved 0 integer <*> may es .parametersModified 0 integer
    <*> may es .securityAdded 0 integer <*> may es .securityRemoved 0 integer

def check : Document → Checked Summary := model "ComparisonSummary" ofEntries

end Summary

namespace Risk

def toEntries (n : Naming) (r : Risk) : Document.Entries :=
  [n.entry .riskScore (.int r.score), n.entry .riskLevel (.text r.level.name),
   n.entry .bump (.text r.bump.name)]

def toDocument (n : Naming) (r : Risk) : Document := .map (r.toEntries n)

def ofEntries (es : Document.Entries) : Checked Risk :=
  Risk.mk <$> must es .riskScore percentage
    <*> must es .riskLevel (choice RiskLevel.name RiskLevel.all)
    <*> must es .bump (choice Bump.name Bump.all)

/-- A risk whose figures may be left out. -/
def ofEntriesOrNone (es : Document.Entries) : Checked Risk :=
  Risk.mk <$> may es .riskScore 0 percentage
    <*> may es .riskLevel .low (choice RiskLevel.name RiskLevel.all)
    <*> may es .bump .patch (choice Bump.name Bump.all)

def check : Document → Checked Risk := model "RiskAssessment" ofEntries

end Risk

namespace Comparison

def toDocument (n : Naming) (c : Comparison) : Document :=
  .map
    ([n.entry .apiName (.text c.apiName), n.entry .fromVersion (.text c.fromVersion),
      n.entry .toVersion (.text c.toVersion),
      n.entry .changes (.seq (c.changes.map (Change.toDocument n))),
      n.entry .breaking (.seq (c.breaking.map (BreakingChange.toDocument n))),
      n.entry .total (.int c.totalChanges)] ++
      c.risk.toEntries n ++ [n.entry .summary (c.summary.toDocument n)])

def ofEntries (es : Document.Entries) : Checked Comparison :=
  Comparison.mk <$> must es .apiName text <*> must es .fromVersion text
    <*> must es .toVersion text <*> may es .changes [] (list Change.check)
    <*> may es .breaking [] (list BreakingChange.check) <*> may es .total 0 integer
    <*> Risk.ofEntriesOrNone es <*> may es .summary {} Summary.check

def check : Document → Checked Comparison := model "ComparisonResult" ofEntries

end Comparison
end ApiDrift
