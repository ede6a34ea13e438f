import Mosp.Services.Objects

/-!
# Upload reconciliation

`UploadReconciliationService`: one pass of the worker over expired sessions,
records left in deletion, retained locations and old sessions.
-/

namespace Mosp.Worker

open Mosp.Concurrency Mosp.Database Mosp.Sql Mosp.Services
open Mosp.Concurrency.Program (throwIf runIf)

structure UploadReconciliationResult where
  expired : Nat
  failed : Nat

namespace UploadReconciliationService

def terminalSessionTtlMs : Nat := 24 * 60 * 60 * 1000

/-- Count a failure of the program instead of passing it on. -/
def orFailed (body : Service UploadReconciliationResult) : Service UploadReconciliationResult :=
  tryCatch body fun _ => pure ⟨0, 1⟩

/-- Run a program for every element and add up the results. -/
def tally {α : Type} (items : List α) (body : α → Service UploadReconciliationResult) :
    Service UploadReconciliationResult :=
  match items with
  | [] => pure ⟨0, 0⟩
  | item :: rest => do
      let first ← body item
      let others ← tally rest body
      return ⟨first.expired + others.expired, first.failed + others.failed⟩

def safeBatchSize (value : Int) : Except Failure Nat :=
  if value < 1 ∨ 1000 < value then
    .error (.rangeError "batchSize must be an integer from 1 to 1000")
  else
    .ok value.toNat

/-! ## Expired sessions -/

/-- The expired sessions, in the order of `expiresAt` and then `createdAt`. -/
def findExpired (now : Time) (batchSize : Nat) : Tx (List FoundSession) := do
  let sessions ← uploadSession.findMany
    (fun row => row.state == .initiated && decide (row.expiresAt ≤ now))
    (fun first second => decide (first.expiresAt < second.expiresAt) ||
      (first.expiresAt == second.expiresAt && decide (first.createdAt ≤ second.createdAt)))
    (some batchSize)
  sessions.mapM' UploadService.includeBucketConnection

def deletePhysicalObject (adapter : S3ProviderAdapter) (bucketName : String)
    (session : UploadSession) : Service Unit := do
  match session.transferMode, session.providerUploadId, session.providerUploadFinalized with
  | .multipart, some providerUploadId, false =>
      if ← adapter.objectExists bucketName session.physicalKey then
        adapter.deleteObject bucketName session.physicalKey (some session.id)
      else
        adapter.abortMultipartUpload bucketName session.physicalKey providerUploadId
  | _, _, _ => adapter.deleteObject bucketName session.physicalKey (some session.id)

def markExpiredTransaction (session : UploadSession) : Tx Bool := do
  let changed ← uploadSession.updateMany
    (fun row => row.id == session.id && row.organizationId == session.organizationId &&
      row.namespaceId == session.namespaceId && row.state == .initiated)
    fun row => { row with state := .expired }
  if changed ≠ 1 then
    return false
  else
    UploadService.decrementReservation session.organizationId session.namespaceId
      session.reservedBytes
    return true

def markExpired (session : UploadSession) : Service Bool :=
  transaction (markExpiredTransaction session)

def reconcileSession (entry : FoundSession) : Service UploadReconciliationResult :=
  orFailed do
    let (session, bucket) := entry
    let adapter ← workerAdapterFor session.organizationId bucket.providerConnectionId
    deletePhysicalObject adapter bucket.bucketName session
    let reclaimed ← markExpired session
    return ⟨if reclaimed then 1 else 0, 0⟩

/-! ## Records in deletion -/

/-- The records in state `DELETING`, the longest unchanged first. -/
def findDeleting (batchSize : Nat) : Tx (List UploadService.RecordWithLocation) := do
  let records ← objectRecord.findMany (fun row => row.state == .deleting)
    (fun first second => decide (first.modifiedAt ≤ second.modifiedAt)) (some batchSize)
  records.mapM' UploadService.includeActiveLocation

/-- Close a record without an active location; the usage is not changed. -/
def closeRecord (record : ObjectRecord) : Tx Nat :=
  objectRecord.updateMany
    (fun row => row.id == record.id && row.organizationId == record.organizationId &&
      row.state == .deleting)
    fun row => { row with state := .deleted, activeObjectLocationId := none }

def finalizeTransaction (record : ObjectRecord) (locationId : Id) : Tx Unit := do
  let changed ← objectRecord.updateMany
    (fun row => row.id == record.id && row.organizationId == record.organizationId &&
      row.namespaceId == record.namespaceId && row.state == .deleting &&
      row.activeObjectLocationId == some locationId)
    fun row => { row with state := .deleted, activeObjectLocationId := none }
  if changed ≠ 1 then
    return
  else
    let _ ← objectLocation.updateMany
      (fun row => row.id == locationId && row.organizationId == record.organizationId &&
        row.state == .active)
      fun row => { row with state := .deleted }
    lockUsageCounter record.organizationId record.namespaceId
    let _ ← usageCounter.update (isCounterOf record.organizationId record.namespaceId) fun row =>
      { row with
        usedBytes := row.usedBytes - record.sizeBytes
        objectCount := row.objectCount - 1 }
    logActivity record.organizationId { actorId := none, requestId := "worker" }
      "objects.delete.reconciled" record.id

def finalizeDeletedObject (record : ObjectRecord) (locationId : Id) : Service Unit :=
  transaction (finalizeTransaction record locationId)

def reconcileDeletingObject (found : UploadService.RecordWithLocation) :
    Service UploadReconciliationResult :=
  match activeObject (some found) with
  | none => do
      let _ ← query (closeRecord found.record)
      return ⟨0, 0⟩
  | some (record, location, bucket) => orFailed do
      let adapter ← workerAdapterFor record.organizationId bucket.providerConnectionId
      adapter.deleteObject bucket.bucketName location.physicalKey
      finalizeDeletedObject record location.id
      return ⟨0, 0⟩

def reconcileDeletingObjects (batchSize : Nat) : Service UploadReconciliationResult := do
  let records ← query (findDeleting batchSize)
  tally records reconcileDeletingObject

/-! ## Retained locations -/

def findRetained (batchSize : Nat) : Tx (List (ObjectLocation × BucketConnection)) := do
  let locations ← objectLocation.findMany (fun row => row.state == .retained)
    (fun first second => decide (first.updatedAt ≤ second.updatedAt)) (some batchSize)
  locations.mapM' fun location => do
    let bucket ← bucketConnection.findFirstOrThrow fun row => row.id == location.bucketConnectionId
    return (location, bucket)

def reconcileRetainedLocation (entry : ObjectLocation × BucketConnection) :
    Service UploadReconciliationResult :=
  orFailed do
    let (location, bucket) := entry
    let adapter ← workerAdapterFor location.organizationId bucket.providerConnectionId
    adapter.deleteObject bucket.bucketName location.physicalKey
    let _ ← query (objectLocation.updateMany
      (fun row => row.id == location.id && row.organizationId == location.organizationId &&
        row.state == .retained)
      fun row => { row with state := .deleted })
    return ⟨0, 0⟩

def reconcileRetainedLocations (batchSize : Nat) : Service UploadReconciliationResult := do
  let locations ← query (findRetained batchSize)
  tally locations reconcileRetainedLocation

/-! ## Old sessions -/

def isTerminal (session : UploadSession) : Bool :=
  session.state == .aborted || session.state == .expired || session.state == .completed

def pruneTerminalSessions (now : Time) (batchSize : Nat) : Service Unit := do
  let terminal ← query (uploadSession.findMany
    (fun row => isTerminal row && decide (row.updatedAt + terminalSessionTtlMs < now))
    (fun first second => decide (first.updatedAt ≤ second.updatedAt)) (some batchSize))
  if terminal.length = 0 then
    return
  else
    let _ ← query (uploadSession.deleteMany fun row =>
      terminal.any fun session => session.id == row.id)

/-- One pass.  `now` is the time the caller gives, if any. -/
def reconcile (now : Option Time := none) (batchSize : Int := 100) :
    Service UploadReconciliationResult := do
  let now ← now.elim currentTime pure
  let batchSize ← Program.ofExcept (safeBatchSize batchSize)
  let sessions ← query (findExpired now batchSize)
  let sessionsResult ← tally sessions reconcileSession
  let deletingResult ← reconcileDeletingObjects batchSize
  let retainedResult ← reconcileRetainedLocations batchSize
  pruneTerminalSessions now batchSize
  return ⟨sessionsResult.expired,
    sessionsResult.failed + deletingResult.failed + retainedResult.failed⟩

end UploadReconciliationService

end Mosp.Worker
