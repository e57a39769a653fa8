import SwapMonitor.Guarantees.SaleAuthorization
import SwapMonitor.Guarantees.RecordRefinement
import SwapMonitor.Guarantees.SingleEvaluation
import SwapMonitor.Guarantees.AppliedOnce
import SwapMonitor.Guarantees.SupersededByOthers
import SwapMonitor.StateMachine.Halt
import SwapMonitor.Migrations.LegacyClaims
import SwapMonitor.Rules.Permutations
import SwapMonitor.Sizing.Totality
import SwapMonitor.Sizing.Allocations
import SwapMonitor.Guarantees.TenantIsolation
import SwapMonitor.Domain.EvidenceStream
import SwapMonitor.Rules.StaticDivision
import SwapMonitor.Guarantees.CanonicalIdentities
import SwapMonitor.Guarantees.LockExclusion
import SwapMonitor.Guarantees.RequestLimits
import SwapMonitor.Guarantees.WriteOnce
import SwapMonitor.Rules.Budgets
import SwapMonitor.Sizing.Termination
import SwapMonitor.Sizing.Weights
import SwapMonitor.DataSources.SnapshotIdentity
import SwapMonitor.Guarantees.ContextIndependence
import SwapMonitor.Guarantees.Completions
import SwapMonitor.Guarantees.SharedTables
import SwapMonitor.Guarantees.Liveness
