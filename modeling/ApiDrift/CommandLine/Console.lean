import ApiDrift.Inspection.Lint
import ApiDrift.Inspection.Statistics
import ApiDrift.Verdict.Batch

/-!
# Console reports

The lines in which comparisons, statistics, lint reports and batches are shown.
-/

namespace ApiDrift

def Risk.line (r : Risk) : String := Nat.repr r.score ++ "/100 (" ++ r.level.name ++ ")"

def Change.line (c : Change) : String :=
  "  [" ++ c.severity.name ++ "] " ++ c.type.name ++ " " ++ c.path ++ ": " ++ c.description

def BreakingChange.line (b : BreakingChange) : String :=
  "    - " ++ b.path ++ ": " ++ b.suggestion ++ " (impact " ++ Nat.repr b.impact ++ ")"

/-- A comparison: a heading, the changes, and what to do about the breaking ones. -/
def Comparison.lines (c : Comparison) : List String :=
  [c.apiName ++ ": " ++ c.fromVersion ++ " -> " ++ c.toVersion,
   "  Changes: " ++ toString c.totalChanges ++ "  Breaking: " ++ Nat.repr c.breaking.length,
   "  Risk: " ++ c.risk.line, "  Recommended bump: " ++ c.risk.bump.name] ++
  c.changes.map Change.line ++
  (if c.breaking.isEmpty then [] else "  Migration:" :: c.breaking.map BreakingChange.line)

/-- A text with blanks after it up to a width. -/
def padTo (width : Nat) (s : String) : String :=
  s ++ String.ofList (List.replicate (width - s.length) ' ')

/-- Statistics, with the methods in the order of their names. -/
def Statistics.lines (s : Statistics) : List String :=
  let methods := s.methods.mergeSort fun a b => a.1 ≤ b.1
  [s.name ++ " (version " ++ s.version ++ ", " ++ s.format.name ++ ")",
   "  Endpoints:        " ++ Nat.repr s.endpoints] ++
  methods.map (fun m => "    " ++ padTo 12 m.1 ++ " " ++ Nat.repr m.2) ++
  ["  Parameters:       " ++ Nat.repr s.parameters,
   "  Schemas:          " ++ Nat.repr s.schemas,
   "  Deprecated:       " ++ Nat.repr s.deprecated,
   "  Security Schemes: " ++ Nat.repr s.securitySchemes]

/-- The name of a format in capitals. -/
def Format.capitals : Format → String
  | openapi => "OPENAPI"
  | asyncapi => "ASYNCAPI"
  | graphql => "GRAPHQL"
  | grpc => "GRPC"
  | unknown => "UNKNOWN"

/-- A lint report: a heading, the errors, the warnings. -/
def LintReport.lines (r : LintReport) : List String :=
  (r.file ++ " [" ++ r.format.capitals ++ "] " ++ (if r.valid then "VALID" else "INVALID")) ::
    (r.errors.map ("    x " ++ ·) ++ r.warnings.map ("    ! " ++ ·))

/-- A batch: the comparisons, what was passed over, and the risk of all. -/
def Batch.lines (b : Batch) : List String :=
  let risk := b.aggregate.risk
  b.results.flatMap (fun v => ("== " ++ v.filename) :: v.comparison.lines) ++
  b.failures.map (fun f => "== " ++ f.filename ++ ": FAILED (" ++ f.reason ++ ")") ++
  ["Overall risk: " ++ risk.line ++ ", recommend " ++ risk.bump.name]

end ApiDrift
