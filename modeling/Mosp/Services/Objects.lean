import Mosp.Data.Like
import Mosp.Services.Upload

/-!
# The object index

`ObjectIndexService`: listing, reading and deleting the objects of a namespace
under an API credential.
-/

namespace Mosp.Services

open Mosp.Concurrency Mosp.Data Mosp.Database Mosp.Sql
open Mosp.Concurrency.Program (throwIf runIf)

/-- Whether `assertSafeObjectPath` lets a path pass. -/
def assertSafeObjectPath (value : String) : Bool :=
  let chars := value.toList
  !(chars.contains '\x00' || chars.contains '\\' || (chars.zip chars.tail).contains ( '/', '/') ||
    startsWith value "/" ||
    (segments chars).any fun segment => segment == ['.'] || segment == ['.', '.'])

def safeObjectPathSchema (maxLength minimumLength : Nat) (value : String) : Bool :=
  minimumLength ≤ utf16Length value && utf16Length value ≤ maxLength &&
    value.toList.all (fun char => 0x1f < char.toNat && char.toNat != 0x7f) &&
    assertSafeObjectPath value

def objectListPrefixSchema : String → Bool :=
  safeObjectPathSchema 2048 0

structure ObjectListQuery where
  keyPrefix : Option String := none
  limit : Nat := 100

structure ObjectSummary where
  key : String
  sizeBytes : Int
  contentType : Option String
  checksum : Option String
  modifiedAt : Time
  etag : Option String

/-- The body of a proxied download is not modelled. -/
structure ProxiedObject where
  namespaceId : Id
  metadata : ProviderObjectMetadata

/-! ## Queries shared with the explorer -/

/-- The `startsWith` of a query, which is `LIKE` with the wildcards of the prefix unescaped. -/
def startsWithFilter (key keyPrefix : String) : Bool :=
  like key (keyPrefix ++ "%")

/-- The available records whose key a query takes to have a prefix, in the order of their
keys, with their active locations. -/
def findRecords (organizationId namespaceId : Id) (keyPrefix : Option String) (limit : Nat) :
    Tx (List (ObjectRecord × Option ObjectLocation)) := do
  let records ← objectRecord.findMany
    (fun row => row.organizationId == organizationId && row.namespaceId == namespaceId &&
      row.state == .available && keyPrefix.all (startsWithFilter row.logicalKey))
    (fun first second => decide (first.logicalKey ≤ second.logicalKey))
    (some limit)
  let locations ← objectLocation.findMany fun location =>
    records.any fun record => record.activeObjectLocationId == some location.id
  return records.map fun record =>
    (record, locations.find? fun location => record.activeObjectLocationId == some location.id)

/-- The available record of a key with its active location. -/
def findRecord (organizationId namespaceId : Id) (key : String) :
    Tx (Option UploadService.RecordWithLocation) := do
  match ← objectRecord.findFirst fun row => row.organizationId == organizationId &&
      row.namespaceId == namespaceId && row.logicalKey == key && row.state == .available with
  | none => pure none
  | some record => some <$> UploadService.includeActiveLocation record

/-- The record and its active location, if the location is active. -/
def activeObject (found : Option UploadService.RecordWithLocation) :
    Option (ObjectRecord × ObjectLocation × BucketConnection) :=
  match found with
  | some ⟨record, some (location, bucket)⟩ =>
      if location.state = .active then some (record, location, bucket) else none
  | _ => none

def toObjectSummary (record : ObjectRecord) (location : Option ObjectLocation) : ObjectSummary :=
  { key := record.logicalKey
    sizeBytes := record.sizeBytes
    contentType := record.contentType
    checksum := record.checksum
    modifiedAt := record.modifiedAt
    etag := location.bind ObjectLocation.etag }

/-! ## Deleting an object -/

/-- Who deletes, as far as the activity log tells. -/
structure DeleteActor where
  actorId : Option Id
  requestId : String

def logActivity (organizationId : Id) (actor : DeleteActor) (action : String) (entityId : Id) :
    Tx Unit := do
  let id ← Tx.randomUUID
  let _ ← activityLog.create
    { id
      organizationId := some organizationId
      actorId := actor.actorId
      action
      entityType := "ObjectRecord"
      entityId := some entityId
      requestId := actor.requestId }

/-- Claim the record for deletion while it is still at the location that was
read. -/
def claimDelete (organizationId namespaceId : Id) (record : ObjectRecord)
    (location : ObjectLocation) (notFound : Failure) (actor : DeleteActor) : Tx Unit := do
  let claimed ← objectRecord.updateMany
    (fun row => row.id == record.id && row.organizationId == organizationId &&
      row.namespaceId == namespaceId && row.state == .available &&
      row.activeObjectLocationId == some location.id)
    fun row => { row with state := .deleting }
  throwIf (claimed ≠ 1) notFound
  logActivity organizationId actor "objects.delete_requested" record.id

/-- Give the record back after the provider has refused. -/
def revertDelete (organizationId : Id) (record : ObjectRecord) : Tx Nat :=
  objectRecord.updateMany
    (fun row => row.id == record.id && row.organizationId == organizationId &&
      row.state == .deleting)
    fun row => { row with state := .available }

/-- Close the record and take its bytes out of the usage. -/
def finalizeDelete (organizationId namespaceId : Id) (record : ObjectRecord)
    (location : ObjectLocation) (notFound : Failure) (actor : DeleteActor) : Tx Unit := do
  let finalized ← objectRecord.updateMany
    (fun row => row.id == record.id && row.organizationId == organizationId &&
      row.namespaceId == namespaceId && row.state == .deleting &&
      row.activeObjectLocationId == some location.id)
    fun row => { row with state := .deleted, activeObjectLocationId := none }
  throwIf (finalized ≠ 1) notFound
  let _ ← objectLocation.updateMany
    (fun row => row.id == location.id && row.organizationId == organizationId &&
      row.state == .active)
    fun row => { row with state := .deleted }
  lockUsageCounter organizationId namespaceId
  let _ ← usageCounter.update (isCounterOf organizationId namespaceId) fun row =>
    { row with
      usedBytes := row.usedBytes - record.sizeBytes
      objectCount := row.objectCount - 1 }
  logActivity organizationId actor "objects.delete" record.id

/-- Claim, delete at the provider, then close the record; the claim is reverted
when the provider fails.  `ObjectIndexService.delete` and
`ObjectExplorerService.delete` are this text with their own errors. -/
def deleteActive (organizationId namespaceId : Id)
    (object : ObjectRecord × ObjectLocation × BucketConnection) (notFound unavailable : Failure)
    (actor : DeleteActor) : Service Unit := do
  let (record, location, bucket) := object
  (transaction (claimDelete organizationId namespaceId record location notFound actor)).noting
    fun outcome => match outcome with
      | .ok _ => some (.deleting record.id location.id)
      | .error _ => none
  tryCatch
    (do
      let adapter ← adapterFor organizationId bucket.providerConnectionId
      (adapter.deleteObject bucket.bucketName location.physicalKey).noting fun outcome =>
        match outcome with
        | .ok _ => some .idle
        | .error _ => none)
    fun _ => do
      let _ ← (query (revertDelete organizationId record)).noting fun _ => some .idle
      throw unavailable
  transaction (finalizeDelete organizationId namespaceId record location notFound actor)

namespace ObjectIndexService

def resolveNamespace (organizationId : Id) (namespaceSlug : String) :
    Service (Option VirtualNamespace) :=
  query (virtualNamespace.findFirst fun row =>
    row.organizationId == organizationId && row.slug == namespaceSlug)

/-- The active namespace of the credential under this name. -/
def ownNamespace (identity : ApiCredentialIdentity) (namespaceSlug : String) :
    Service VirtualNamespace := do
  match ← resolveNamespace identity.organizationId namespaceSlug with
  | none => throw .storageNamespaceNotFound
  | some found =>
      if found.id ≠ identity.namespaceId ∨ found.status ≠ .active then
        throw .storageNamespaceNotFound
      else
        return found

def canAccess (identity : ApiCredentialIdentity) (namespaceId : Id) (action : FolderGrantAction)
    (key : String) : Service Bool :=
  FolderGrantService.canAccess
    { organizationId := identity.organizationId
      namespaceId
      principalType := .apiCredential
      principalId := identity.principalId
      action
      key }

/-- Whether the credential may list under a prefix, if one is given. -/
def canListPrefix (identity : ApiCredentialIdentity) (namespaceId : Id) :
    Option String → Service Bool
  | some keyPrefix => canAccess identity namespaceId .list keyPrefix
  | none => pure true

/-- The summaries of the records that the credential may list. -/
def listAllowed (identity : ApiCredentialIdentity) (namespaceId : Id) :
    List (ObjectRecord × Option ObjectLocation) → Service (List ObjectSummary)
  | [] => pure []
  | (record, location) :: rest => do
      if location.any (fun location => location.state == .active) then
        let canList ← canAccess identity namespaceId .list record.logicalKey
        let others ← listAllowed identity namespaceId rest
        return if canList then toObjectSummary record location :: others else others
      else
        listAllowed identity namespaceId rest

def list (identity : ApiCredentialIdentity) (namespaceSlug : String) (filter : ObjectListQuery) :
    Service (List ObjectSummary) := do
  let found ← ownNamespace identity namespaceSlug
  let visible ← canListPrefix identity found.id filter.keyPrefix
  if visible then
    let records ← query (findRecords identity.organizationId found.id filter.keyPrefix filter.limit)
    listAllowed identity found.id records
  else
    return []

/-- The active object of a key, if the credential may do this with it. -/
def accessibleObject (identity : ApiCredentialIdentity) (namespaceId : Id)
    (action : FolderGrantAction) (key : String) :
    Service (ObjectRecord × ObjectLocation × BucketConnection) := do
  match activeObject (← query (findRecord identity.organizationId namespaceId key)) with
  | none => throw .storageObjectNotFound
  | some object =>
      if ← canAccess identity namespaceId action key then
        return object
      else
        throw .storageObjectNotFound

def head (identity : ApiCredentialIdentity) (namespaceSlug key : String) :
    Service ObjectSummary := do
  let found ← ownNamespace identity namespaceSlug
  let (record, location, _) ← accessibleObject identity found.id .read key
  return toObjectSummary record (some location)

def presignDownload (identity : ApiCredentialIdentity) (namespaceSlug key : String) :
    Service PresignedTransfer := do
  let found ← ownNamespace identity namespaceSlug
  let (record, location, bucket) ← accessibleObject identity found.id .read key
  tryCatch
    (do
      let adapter ← adapterFor identity.organizationId bucket.providerConnectionId
      let transfer ← adapter.createPresignedDownload bucket.bucketName location.physicalKey
      recordEgress identity.organizationId found.id record.sizeBytes
      return transfer)
    fun _ => throw .storageDownloadUnavailable

def getTransferMode (identity : ApiCredentialIdentity) (namespaceSlug : String) :
    Service NamespaceTransferMode := do
  let found ← ownNamespace identity namespaceSlug
  return found.defaultTransferMode

def proxyDownload (identity : ApiCredentialIdentity) (namespaceSlug key : String) :
    Service ProxiedObject := do
  let found ← ownNamespace identity namespaceSlug
  let (record, location, bucket) ← accessibleObject identity found.id .read key
  tryCatch
    (do
      let adapter ← adapterFor identity.organizationId bucket.providerConnectionId
      let metadata ← adapter.getObject bucket.bucketName location.physicalKey
      throwIf (metadata.sizeBytes ≠ record.sizeBytes) (.error "PROVIDER_SIZE_MISMATCH")
      return { namespaceId := found.id, metadata })
    fun _ => throw .storageDownloadUnavailable

def delete (identity : ApiCredentialIdentity) (namespaceSlug key requestId : String) :
    Service Unit := do
  let found ← ownNamespace identity namespaceSlug
  let object ← accessibleObject identity found.id .delete key
  deleteActive identity.organizationId found.id object .storageObjectNotFound
    .storageDeleteUnavailable { actorId := none, requestId }

end ObjectIndexService

end Mosp.Services
