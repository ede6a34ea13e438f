import Mosp.Services.Command

/-!
# Usage counters

What the services do to the counter of a namespace.
-/

namespace Mosp.Services

open Mosp.Concurrency Mosp.Database Mosp.Sql

/-- Whether a counter is the one of a namespace. -/
def isCounterOf (organizationId namespaceId : Id) (row : UsageCounter) : Bool :=
  row.organizationId == organizationId && row.namespaceId == namespaceId

/-- Make sure that the counter of a namespace exists and lock its row.  The
upload, object and explorer services and the worker each have a copy of this
text. -/
def lockUsageCounter (organizationId namespaceId : Id) : Tx Unit := do
  let id ← Tx.randomUUID
  let _ ← usageCounter.upsert (isCounterOf organizationId namespaceId)
    { id, organizationId, namespaceId } fun row => row
  let _ ← usageCounter.selectForUpdate (isCounterOf organizationId namespaceId)

/-- `UsageService.recordEgress` -/
def recordEgress (organizationId namespaceId : Id) (sizeBytes : Int) : Service Unit :=
  if sizeBytes < 0 then throw (.rangeError "sizeBytes must not be negative")
  else do
    let id ← randomUUID
    let _ ← query (usageCounter.upsert (isCounterOf organizationId namespaceId)
      { id, organizationId, namespaceId, egressBytes := sizeBytes }
      fun row => { row with egressBytes := row.egressBytes + sizeBytes })

end Mosp.Services
