import Mosp.Services.Migrations

/-!
# Migration reconciliation

`MigrationReconciliationService`: one pass of the worker over the items of the
running migrations.  An item is claimed, copied to the target bucket, and the
index is switched to the copy.
-/

namespace Mosp.Worker

open Mosp.Concurrency Mosp.Database Mosp.Sql Mosp.Services
open Mosp.Concurrency.Program (throwIf runIf)

structure MigrationReconciliationOptions where
  batchSize : Int := 20
  now : Option Time := none
  maxConcurrentPerProvider : Int := 2
  retryDelayMs : Int := 60000

/-- A claimed item with the state it was in and the providers it needs. -/
structure ClaimedItem where
  item : MigrationItem
  previousState : MigrationItemState
  providerKeys : List Id

namespace MigrationReconciliationService

def staleCopyingMs : Nat := 15 * 60 * 1000

def safeMigrationErrors : List String :=
  ["MIGRATION_BUCKET_NOT_FOUND", "MIGRATION_SIZE_MISMATCH", "MIGRATION_CHECKSUM_MISMATCH",
    "MIGRATION_SIZE_UNSUPPORTED", "CANCELLED", "RUN_NOT_RUNNING", "SOURCE_CHANGED"]

def migrationErrorCode (error : Failure) : String :=
  if safeMigrationErrors.contains error.message then error.message
  else match error with
    | .provider _ (some 404) => "PROVIDER_OBJECT_NOT_FOUND"
    | .provider _ (some 408) => "PROVIDER_RETRYABLE"
    | .provider _ (some 429) => "PROVIDER_RETRYABLE"
    | .provider _ (some status) =>
        if status ≥ 500 then "PROVIDER_UNAVAILABLE" else "MIGRATION_FAILED"
    | _ => "MIGRATION_FAILED"

/-! ## Fingerprints -/

/-- Whether two checksums cannot belong to the same object. -/
def checksumDiffers (checksum reported : Option String) : Bool :=
  match checksum, reported with
  | some checksum, some reported =>
      checksum != "" && reported != "" && checksum != reported && checksum != "sha256:" ++ reported
  | _, _ => false

/-- A value that was known before must be reported unchanged. -/
def stays {α : Type} [DecidableEq α] (before after : Option α) : Bool :=
  before.all fun value => after == some value

/-- An entity tag that is known and not empty. -/
def knownTag (etag : Option String) : Option String :=
  etag.filter (· != "")

def assertSourceFingerprint (item : MigrationItem) (metadata : ProviderObjectMetadata) :
    Except Failure Unit :=
  if metadata.sizeBytes ≠ item.sizeBytes then .error (.error "SOURCE_CHANGED")
  else if !stays (knownTag item.sourceEtag) metadata.etag then .error (.error "SOURCE_CHANGED")
  else if !stays item.sourceLastModified metadata.lastModified then
    .error (.error "SOURCE_CHANGED")
  else if checksumDiffers item.checksum metadata.checksumSha256 then
    .error (.error "SOURCE_CHANGED")
  else .ok ()

def assertSameSourceVersion (before after : ProviderObjectMetadata) : Except Failure Unit :=
  if before.sizeBytes ≠ after.sizeBytes then .error (.error "SOURCE_CHANGED")
  else if !stays (knownTag before.etag) after.etag then .error (.error "SOURCE_CHANGED")
  else if !stays before.lastModified after.lastModified then .error (.error "SOURCE_CHANGED")
  else match knownTag before.checksumSha256, knownTag after.checksumSha256 with
    | some first, some second =>
        if first ≠ second then .error (.error "SOURCE_CHANGED") else .ok ()
    | _, _ => .ok ()

def safeContentLength (sizeBytes : Int) : Except Failure Int :=
  if sizeBytes < 0 ∨ sizeBytes > UploadService.maxSafeInteger then
    .error (.error "MIGRATION_SIZE_UNSUPPORTED")
  else
    .ok sizeBytes

/-! ## Claiming -/

/-- The items of running migrations that can be worked on. -/
def isSelectable (now : Time) (db : Db) (item : MigrationItem) : Bool :=
  db.migrationRun.rows.any (fun run => run.id == item.migrationRunId &&
    run.organizationId == item.organizationId && run.state == .running) &&
    (item.state == .pending ||
      (item.state == .failed && item.nextAttemptAt.any (· ≤ now)) ||
      (item.state == .copying && decide (item.updatedAt + staleCopyingMs ≤ now)))

def findItems (now : Time) (batchSize : Nat) : Tx (List MigrationItem) :=
  Tx.read fun db =>
    (migrationItem.select (isSelectable now db)
      (fun first second => decide (first.updatedAt ≤ second.updatedAt)) db).take batchSize

/-- Take an item over that is still in the state it was read in. -/
def claimStatement (id organizationId : Id) (previousState : MigrationItemState) : Tx Nat :=
  Tx.statement fun now db =>
    let rows := db.migrationItem.filter fun row => row.id == id &&
      row.organizationId == organizationId && row.state == previousState &&
      db.migrationRun.rows.any fun run => run.id == row.migrationRunId &&
        run.organizationId == row.organizationId && run.state == .running
    .ok
      { value := rows.length
        writes := rows.map fun row => Write.migrationItem
          { row with
            state := .copying
            attempts := row.attempts + 1
            lastError := none
            updatedAt := now } }

/-- `held` are the items that the pass has claimed before. -/
def claim (held : List Id) (id organizationId : Id) (previousState : MigrationItemState) :
    Service Bool := do
  let changed ← (query (claimStatement id organizationId previousState)).noting fun outcome =>
    match outcome with
    | .ok changed => if changed = 1 then some (.holding (held ++ [id])) else none
    | .error _ => none
  return changed == 1

def providerKeysForItem (item : MigrationItem) : Service (List Id) := do
  let fallback := [item.sourceBucketConnectionId, item.targetBucketConnectionId]
  let buckets ← query (bucketConnection.findMany fun row =>
    row.organizationId == item.organizationId && fallback.contains row.id)
  return (fallback.map fun bucketId =>
    ((buckets.find? fun bucket => bucket.id == bucketId).map
      BucketConnection.providerConnectionId).getD bucketId).eraseDups

def itemIds (claimedItems : List ClaimedItem) : List Id :=
  claimedItems.map fun work => work.item.id

/-- Claim the items one after the other; one that has changed is left out. -/
def claimItems (claimedItems : List ClaimedItem) :
    List MigrationItem → Service (List ClaimedItem)
  | [] => pure claimedItems
  | item :: rest => do
      if ← claim (itemIds claimedItems) item.id item.organizationId item.state then
        let providerKeys ← providerKeysForItem item
        claimItems (claimedItems ++ [{ item, previousState := item.state, providerKeys }]) rest
      else
        claimItems claimedItems rest

/-! ## Choosing what runs together -/

/-- How many of the chosen items use a provider. -/
def activeByProvider (selected : List ClaimedItem) (key : Id) : Nat :=
  (selected.filter fun work => work.providerKeys.contains key).length

/-- Split the pending items into those that run now and those that wait. -/
def schedule (maxConcurrentPerProvider : Nat) :
    List ClaimedItem → List ClaimedItem → List ClaimedItem × List ClaimedItem
  | selected, [] => (selected, [])
  | selected, work :: rest =>
      if !(work.providerKeys.all fun key =>
          activeByProvider selected key < maxConcurrentPerProvider) && !selected.isEmpty then
        let (chosen, deferred) := schedule maxConcurrentPerProvider selected rest
        (chosen, work :: deferred)
      else
        schedule maxConcurrentPerProvider (selected ++ [work]) rest

/-- Work through the claimed items in rounds.  The pass hands the items of a round
to the programs that process them. -/
def runRounds (maxConcurrentPerProvider retryDelayMs : Nat) : Nat → List ClaimedItem → Service Unit
  | 0, _ => pure ()
  | rounds + 1, pending =>
      if pending.isEmpty then pure ()
      else do
        let (selected, deferred) := schedule maxConcurrentPerProvider [] pending
        Program.perform
          (.processItems (selected.map fun work => (work.item, work.previousState)) retryDelayMs)
          (fun _ => some (.holding (itemIds deferred))) .pure
        attempt .settled
        runRounds maxConcurrentPerProvider retryDelayMs rounds deferred

/-! ## One item -/

/-- Count an item as done. -/
def completeItem (migrationRunId : Id) (wasPreviouslyFailed : Bool) : Tx Unit := do
  let _ ← migrationRun.update (fun row => row.id == migrationRunId) fun row =>
    { row with
      completedItems := row.completedItems + 1
      failedItems := if wasPreviouslyFailed then row.failedItems - 1 else row.failedItems }

/-- Skip an item that is still being copied. -/
def skipItem (item : MigrationItem) (lastError : String) : Tx Unit := do
  let _ ← migrationItem.updateMany
    (fun row => row.id == item.id && row.organizationId == item.organizationId &&
      row.state == .copying)
    fun row => { row with state := .skipped, lastError := some lastError }

/-- Make the copy a location of the record. -/
def upsertTarget (item : MigrationItem) : Tx ObjectLocation := do
  let id ← Tx.randomUUID
  let now ← Tx.now
  objectLocation.upsert
    (fun row => row.objectRecordId == item.objectRecordId &&
      row.bucketConnectionId == item.targetBucketConnectionId &&
      row.physicalKey == item.targetPhysicalKey)
    { id
      organizationId := item.organizationId
      objectRecordId := item.objectRecordId
      bucketConnectionId := item.targetBucketConnectionId
      physicalKey := item.targetPhysicalKey
      state := .active
      verifiedAt := some now }
    fun row => { row with state := .active, verifiedAt := some now }

/-- Retain a location that is active. -/
def retainLocation (item : MigrationItem) (locationId : Id) : Tx Unit := do
  let _ ← objectLocation.updateMany
    (fun row => row.id == locationId && row.organizationId == item.organizationId &&
      row.state == .active)
    fun row => { row with state := .retained }

/-- Move the pointer of the record, as long as it is at the source. -/
def movePointer (item : MigrationItem) (targetId : Id) : Tx Nat :=
  objectRecord.updateMany
    (fun row => row.id == item.objectRecordId && row.organizationId == item.organizationId &&
      row.activeObjectLocationId == some item.sourceLocationId && row.state == .available)
    fun row => { row with activeObjectLocationId := some targetId }

/-- The transaction of `switchLocation`. -/
def switchTransaction (item : MigrationItem) (wasPreviouslyFailed : Bool) : Tx Bool := do
  let run ← migrationRun.findFirst fun row => row.id == item.migrationRunId &&
    row.organizationId == item.organizationId && row.state == .running
  if run.isNone then
    skipItem item "RUN_NOT_RUNNING"
    return false
  else
    let object ← objectRecord.findFirst fun row => row.id == item.objectRecordId &&
      row.organizationId == item.organizationId && row.state == .available &&
      row.activeObjectLocationId == some item.sourceLocationId
    if object.isNone then
      skipItem item "SOURCE_CHANGED"
      completeItem item.migrationRunId wasPreviouslyFailed
      return false
    else
      let target ← upsertTarget item
      retainLocation item item.sourceLocationId
      let pointerChanged ← movePointer item target.id
      if pointerChanged ≠ 1 then
        retainLocation item target.id
        skipItem item "SOURCE_CHANGED"
        completeItem item.migrationRunId wasPreviouslyFailed
        return false
      else
        let changed ← migrationItem.updateMany
          (fun row => row.id == item.id && row.organizationId == item.organizationId &&
            row.state == .copying)
          fun row => { row with state := .completed, lastError := none, nextAttemptAt := none }
        if changed ≠ 1 then
          return false
        else
          completeItem item.migrationRunId wasPreviouslyFailed
          let id ← Tx.randomUUID
          let _ ← activityLog.create
            { id
              organizationId := some item.organizationId
              action := "migrations.item_completed"
              entityType := "MigrationItem"
              entityId := some item.id
              requestId := "worker" }
          return true

def switchLocation (item : MigrationItem) (wasPreviouslyFailed : Bool) : Service Bool :=
  (transaction (switchTransaction item wasPreviouslyFailed)).noting fun outcome =>
    match outcome with
    | .ok true => some .idle
    | _ => none

def markFailedTransaction (id organizationId : Id) (previousState : MigrationItemState)
    (message : String) (nextAttemptAt : Time) : Tx Unit := do
  let changed ← migrationItem.updateMany
    (fun row => row.id == id && row.organizationId == organizationId && row.state == .copying)
    fun row =>
      { row with state := .failed, lastError := some message, nextAttemptAt := some nextAttemptAt }
  if changed ≠ 1 then
    return
  else
    let _ ← Tx.statement fun now db =>
      let rows := db.migrationRun.filter fun run =>
        db.migrationItem.rows.any fun item => item.migrationRunId == run.id &&
          item.organizationId == run.organizationId && item.id == id &&
          item.organizationId == organizationId
      .ok
        { value := rows.length
          writes := rows.map fun run => Write.migrationRun
            { run with
              lastError := some message
              failedItems :=
                if previousState = .failed then run.failedItems else run.failedItems + 1
              updatedAt := now } }

def markFailed (item : MigrationItem) (previousState : MigrationItemState) (error : Failure)
    (retryDelayMs : Nat) : Service Unit := do
  let nextAttemptAt := (← currentTime) + retryDelayMs
  (transaction (markFailedTransaction item.id item.organizationId previousState
    (migrationErrorCode error) nextAttemptAt)).noting fun _ => some .idle

def findItemBucket (organizationId bucketConnectionId : Id) : Tx (Option BucketConnection) :=
  bucketConnection.findFirst fun row =>
    row.id == bucketConnectionId && row.organizationId == organizationId

/-- An adapter with the bucket it is used for. -/
structure Endpoint where
  adapter : S3ProviderAdapter
  bucketName : String

/-- Read the source and store it under the target key. -/
def copyItem (item : MigrationItem) :
    Service (Endpoint × Endpoint × ProviderObjectMetadata) := do
  let sourceBucket ← query (findItemBucket item.organizationId item.sourceBucketConnectionId)
  let targetBucket ← query (findItemBucket item.organizationId item.targetBucketConnectionId)
  match sourceBucket, targetBucket with
  | some sourceBucket, some targetBucket =>
      let sourceAdapter ← workerAdapterFor item.organizationId sourceBucket.providerConnectionId
      let targetAdapter ← workerAdapterFor item.organizationId targetBucket.providerConnectionId
      let metadata ← sourceAdapter.getObject sourceBucket.bucketName item.sourcePhysicalKey
      Program.ofExcept (assertSourceFingerprint item metadata)
      let contentLengthBytes ← Program.ofExcept (safeContentLength item.sizeBytes)
      targetAdapter.putObject targetBucket.bucketName item.targetPhysicalKey metadata.contentType
        contentLengthBytes
      return (⟨sourceAdapter, sourceBucket.bucketName⟩, ⟨targetAdapter, targetBucket.bucketName⟩,
        metadata)
  | _, _ => throw (.error "MIGRATION_BUCKET_NOT_FOUND")

/-- Check the copy and switch to it. -/
def verifyAndSwitch (item : MigrationItem) (previousState : MigrationItemState)
    (source target : Endpoint) (metadata : ProviderObjectMetadata) : Service Unit := do
  let sourceAfterCopy ← source.adapter.headObject source.bucketName item.sourcePhysicalKey
  Program.ofExcept (assertSameSourceVersion metadata sourceAfterCopy)
  let destination ← target.adapter.headObject target.bucketName item.targetPhysicalKey
  throwIf (destination.sizeBytes ≠ item.sizeBytes) (.error "MIGRATION_SIZE_MISMATCH")
  throwIf (checksumDiffers item.checksum destination.checksumSha256)
    (.error "MIGRATION_CHECKSUM_MISMATCH")
  let switched ← switchLocation item (previousState == .failed)
  runIf (switched = false)
    ((target.adapter.deleteObject target.bucketName item.targetPhysicalKey).noting
      fun _ => some .idle).swallow

/-- The copy is removed again when anything after the copying fails. -/
def processItem (item : MigrationItem) (previousState : MigrationItemState) (retryDelayMs : Nat) :
    Service Unit := do
  let copied ← tryCatch (some <$> copyItem item) fun error => do
    markFailed item previousState error retryDelayMs
    return none
  match copied with
  | none => pure ()
  | some (source, target, metadata) =>
      tryCatch (verifyAndSwitch item previousState source target metadata) fun error => do
        (target.adapter.deleteObject target.bucketName item.targetPhysicalKey).swallow
        markFailed item previousState error retryDelayMs

/-! ## Cancelled and finished runs -/

def isOpen (item : MigrationItem) : Bool :=
  item.state == .pending || item.state == .copying || item.state == .failed

def findCancelled (batchSize : Nat) : Tx (List MigrationItem) :=
  Tx.read fun db =>
    (migrationItem.select
      (fun item => isOpen item && db.migrationRun.rows.any fun run =>
        run.id == item.migrationRunId && run.organizationId == item.organizationId &&
        run.state == .cancelled)
      (fun first second => decide (first.updatedAt ≤ second.updatedAt)) db).take batchSize

def cancelTransaction (item : MigrationItem) : Tx Unit := do
  let changed ← migrationItem.updateMany
    (fun row => row.id == item.id && row.organizationId == item.organizationId && isOpen row)
    fun row => { row with state := .skipped, lastError := some "CANCELLED" }
  runIf (changed = 1) do
    let _ ← migrationRun.updateMany
      (fun row => row.id == item.migrationRunId && row.organizationId == item.organizationId)
      fun row => { row with completedItems := row.completedItems + 1 }

/-- Delete what may have been copied, if the target bucket is still there. -/
def deleteTarget (item : MigrationItem) : Option BucketConnection → Service Unit
  | none => pure ()
  | some bucket => do
      let adapter ← workerAdapterFor item.organizationId bucket.providerConnectionId
      adapter.deleteObject bucket.bucketName item.targetPhysicalKey

def reconcileCancelledItem (item : MigrationItem) : Service Unit :=
  Program.swallow do
    deleteTarget item (← query (findItemBucket item.organizationId item.targetBucketConnectionId))
    transaction (cancelTransaction item)

def reconcileCancelledItems (batchSize : Nat) : Service Unit := do
  let items ← query (findCancelled batchSize)
  Program.forEach items reconcileCancelledItem

def completeRun (run : MigrationRun) : Service Unit :=
  if run.completedItems ≠ run.totalItems then
    pure ()
  else do
    let completedAt ← currentTime
    let _ ← query (migrationRun.updateMany
      (fun row => row.id == run.id && row.state == .running &&
        row.completedItems == run.totalItems)
      fun row => { row with state := .completed, completedAt := some completedAt })

def completeEmptyRuns : Service Unit := do
  let completedAt ← currentTime
  let _ ← query (migrationRun.updateMany
    (fun row => row.state == .running && row.totalItems == 0)
    fun row => { row with state := .completed, completedAt := some completedAt })
  let runs ← query (migrationRun.findMany fun row =>
    row.state == .running && decide (0 < row.totalItems))
  Program.forEach runs completeRun

/-! ## The pass -/

def safeInteger (name : String) (low high value : Int) : Except Failure Nat :=
  if value < low ∨ high < value then
    .error (.rangeError s!"{name} must be an integer from {low} to {high}")
  else
    .ok value.toNat

/-- One pass.  The numbers of completed and failed items it reports are not
modelled. -/
def reconcile (options : MigrationReconciliationOptions := {}) : Service Unit := do
  let now ← options.now.elim currentTime pure
  let batchSize ← Program.ofExcept (safeInteger "batchSize" 1 100 options.batchSize)
  let maxConcurrentPerProvider ← Program.ofExcept
    (safeInteger "maxConcurrentPerProvider" 1 20 options.maxConcurrentPerProvider)
  let retryDelayMs ← Program.ofExcept
    (safeInteger "retryDelayMs" 1000 86400000 options.retryDelayMs)
  let items ← query (findItems now batchSize)
  let claimedItems ← claimItems [] items
  runRounds maxConcurrentPerProvider retryDelayMs claimedItems.length claimedItems
  reconcileCancelledItems batchSize
  completeEmptyRuns

end MigrationReconciliationService

end Mosp.Worker
