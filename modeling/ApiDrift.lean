import ApiDrift.Exchange.SpecData
import ApiDrift.Exchange.VerdictData
import ApiDrift.Main
import ApiDrift.Proofs.Keyed
import ApiDrift.Proofs.Outcomes
import ApiDrift.Proofs.Rules
import ApiDrift.Proofs.Agreement
import ApiDrift.Proofs.Bump
import ApiDrift.Proofs.Reachable
import ApiDrift.Proofs.Cut
import ApiDrift.Proofs.Edits
import ApiDrift.Proofs.SchemaText
import ApiDrift.Proofs.ServiceText
import ApiDrift.Proofs.Chain
import ApiDrift.Proofs.Findings
import ApiDrift.Proofs.Related
import ApiDrift.Proofs.Order
import ApiDrift.Proofs.Wording
import ApiDrift.Proofs.Swap
import ApiDrift.Proofs.Mixed
import ApiDrift.Proofs.Unreported
import ApiDrift.Proofs.Answers
import ApiDrift.Proofs.Accumulation
import ApiDrift.Proofs.Modified
import ApiDrift.Proofs.RequiredNames
import ApiDrift.Proofs.Batches
import ApiDrift.Proofs.Entries
import ApiDrift.Proofs.Layouts
import ApiDrift.Proofs.Inversion
import ApiDrift.Proofs.Reports
import ApiDrift.Proofs.Mappings
import ApiDrift.Proofs.Identity
import ApiDrift.Proofs.Census
import ApiDrift.Proofs.Validation
import ApiDrift.Proofs.Gate
import ApiDrift.Proofs.Printing
import ApiDrift.Proofs.Inventory
import ApiDrift.Proofs.Narrowed
import ApiDrift.Proofs.United
import ApiDrift.Proofs.Kinds
import ApiDrift.Proofs.Unrepeated
import ApiDrift.Proofs.Totals
import ApiDrift.Proofs.Unread
import ApiDrift.Proofs.Scoring
import ApiDrift.Proofs.ParameterLines
import ApiDrift.Proofs.Surplus
import ApiDrift.Proofs.ReportText
