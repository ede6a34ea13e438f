import Mosp.Services.Objects

/-!
# Migrations

`MigrationService`: runs that move the objects of a namespace from one bucket
to another, and their control.
-/

namespace Mosp.Services

open Mosp.Concurrency Mosp.Database Mosp.Sql
open Mosp.Concurrency.Program (throwIf runIf)

structure MigrationActionMetadata where
  actorId : Id
  requestId : String

structure MigrationCreateRequest where
  namespaceId : Id
  sourceBucketConnectionId : Id
  targetBucketConnectionId : Id

inductive MigrationAction where
  | start | pause | cancel
  deriving DecidableEq

namespace MigrationService

def maxMigrationItems : Nat := 10000

def logActivity (organizationId : Id) (metadata : MigrationActionMetadata) (action : String)
    (migrationId : Id) : Tx Unit := do
  let id ← Tx.randomUUID
  let _ ← activityLog.create
    { id
      organizationId := some organizationId
      actorId := some metadata.actorId
      action
      entityType := "MigrationRun"
      entityId := some migrationId
      requestId := metadata.requestId }

/-- A usable bucket of the organization. -/
def findBucket (organizationId bucketConnectionId : Id) : Tx (Option BucketConnection) :=
  Tx.read fun db => db.bucketConnection.find? fun bucket => bucket.id == bucketConnectionId &&
    bucket.organizationId == organizationId && bucket.status == .active &&
    db.providerConnection.rows.any fun provider => provider.id == bucket.providerConnectionId &&
      provider.organizationId == bucket.organizationId && provider.status == .healthy

/-- The available objects whose active location is in the source bucket. -/
def findObjects (organizationId : Id) (input : MigrationCreateRequest) :
    Tx (List (ObjectRecord × Option ObjectLocation)) := do
  let records ← Tx.read fun db =>
    (objectRecord.select
      (fun record => record.organizationId == organizationId &&
        record.namespaceId == input.namespaceId && record.state == .available &&
        db.objectLocation.rows.any fun location =>
          record.activeObjectLocationId == some location.id &&
          location.organizationId == organizationId &&
          location.bucketConnectionId == input.sourceBucketConnectionId &&
          location.state == .active)
      (fun first second => decide (first.logicalKey ≤ second.logicalKey)) db).take
        (maxMigrationItems + 1)
  let locations ← objectLocation.findMany fun location =>
    records.any fun record => record.activeObjectLocationId == some location.id
  return records.map fun record =>
    (record, locations.find? fun location => record.activeObjectLocationId == some location.id)

/-- The items of a run, each with an identifier and a target key of its own. -/
def items (organizationId migrationId : Id) (input : MigrationCreateRequest) :
    List (ObjectRecord × Option ObjectLocation) → Tx (List MigrationItem)
  | [] => pure []
  | (record, location) :: rest =>
      match location with
      | none => items organizationId migrationId input rest
      | some location =>
          if location.state ≠ .active then items organizationId migrationId input rest
          else do
            let id ← Tx.randomUUID
            let uuid ← Tx.randomUUID
            let others ← items organizationId migrationId input rest
            return {
              id
              organizationId
              migrationRunId := migrationId
              objectRecordId := record.id
              sourceLocationId := location.id
              sourceBucketConnectionId := input.sourceBucketConnectionId
              targetBucketConnectionId := input.targetBucketConnectionId
              sourcePhysicalKey := location.physicalKey
              targetPhysicalKey := .migration input.namespaceId migrationId uuid
              sourceEtag := location.etag
              sourceLastModified := location.providerLastModified
              sizeBytes := record.sizeBytes
              checksum := record.checksum } :: others

def createTransaction (organizationId migrationId : Id) (input : MigrationCreateRequest)
    (metadata : MigrationActionMetadata) (objects : List (ObjectRecord × Option ObjectLocation)) :
    Tx MigrationRun := do
  let created ← migrationRun.create
    { id := migrationId
      organizationId
      namespaceId := input.namespaceId
      sourceBucketConnectionId := input.sourceBucketConnectionId
      targetBucketConnectionId := input.targetBucketConnectionId
      initiatedById := metadata.actorId
      totalItems := objects.length }
  runIf (objects.length > 0) do
    let rows ← items organizationId migrationId input objects
    migrationItem.createMany rows
  logActivity organizationId metadata "migrations.create" migrationId
  return created

def create (organizationId : Id) (input : MigrationCreateRequest)
    (metadata : MigrationActionMetadata) : Service MigrationRun := do
  throwIf (input.sourceBucketConnectionId = input.targetBucketConnectionId) .migrationInvalidTarget
  let found ← query (virtualNamespace.findFirst fun row => row.id == input.namespaceId &&
    row.organizationId == organizationId && row.status == .active)
  let source ← query (findBucket organizationId input.sourceBucketConnectionId)
  let target ← query (findBucket organizationId input.targetBucketConnectionId)
  let activeRun ← query (migrationRun.findFirst fun row => row.organizationId == organizationId &&
    row.namespaceId == input.namespaceId &&
    (row.state == .created || row.state == .running || row.state == .paused))
  throwIf (found.isNone ∨ source.isNone ∨ target.isNone) .migrationInvalidTarget
  throwIf activeRun.isSome .migrationConflict
  let objects ← query (findObjects organizationId input)
  throwIf (objects.length > maxMigrationItems) .migrationTooLarge
  let migrationId ← randomUUID
  transaction (createTransaction organizationId migrationId input metadata objects)

/-- The states an action may start from. -/
def allowedStates : MigrationAction → List MigrationRunState
  | .start => [.created, .paused]
  | .pause => [.running]
  | .cancel => [.created, .running, .paused]

/-- The state an action leads to. -/
def nextState : MigrationAction → MigrationRunState
  | .start => .running
  | .pause => .paused
  | .cancel => .cancelled

def actionName : MigrationAction → String
  | .start => "start"
  | .pause => "pause"
  | .cancel => "cancel"

def controlTransaction (organizationId migrationId : Id) (action : MigrationAction)
    (startedAt : Option Time) (metadata : MigrationActionMetadata) : Tx MigrationRun := do
  let now ← Tx.now
  let changed ← migrationRun.updateMany
    (fun row => row.id == migrationId && row.organizationId == organizationId &&
      (allowedStates action).contains row.state)
    fun row =>
      { row with
        state := nextState action
        startedAt := if action = .start ∧ startedAt = none then some now else row.startedAt
        completedAt := if action = .cancel then some now else row.completedAt }
  throwIf (changed ≠ 1) .migrationConflict
  logActivity organizationId metadata ("migrations." ++ actionName action) migrationId
  migrationRun.findFirstOrThrow fun row =>
    row.id == migrationId && row.organizationId == organizationId

def control (organizationId migrationId : Id) (action : MigrationAction)
    (metadata : MigrationActionMetadata) : Service MigrationRun := do
  match ← query (migrationRun.findFirst fun row =>
      row.id == migrationId && row.organizationId == organizationId) with
  | none => throw .migrationNotFound
  | some current =>
      if (allowedStates action).contains current.state then
        transaction (controlTransaction organizationId migrationId action current.startedAt metadata)
      else
        throw .migrationConflict

end MigrationService

end Mosp.Services
