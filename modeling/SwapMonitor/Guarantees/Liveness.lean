import SwapMonitor.Guarantees.Schedules
import SwapMonitor.Application.ConcludedCalls
import Mathlib.Logic.Equiv.List

namespace SwapMonitor
open Interleaving

section Runs
variable {c : Coordinator} {seed : UUID → Option RecommendationStateRecord} {nextUuid : UUID}
  {pool : Pool World Input PyError RunCoordinatorResult} {request : RunCoordinatorRequest}
  {scanRequest : ScanLockRequest} {inputs : Nat → Input}

end Runs

-- Digests that tell all payloads apart.
def codePoints (text : String) : List Nat := text.toList.map Char.toNat

def textCode : Text → List Nat
  | .plain value => 0 :: codePoints value
  | .digest value => [1,value]
  | .snapshotId value => [2,value]

end SwapMonitor
