import Mosp.Services.Objects

/-!
# The object explorer

`ObjectExplorerService`: the administrators' view of the objects of an
organization, with uploads that reserve quota without a session.
-/

namespace Mosp.Services

open Mosp.Concurrency Mosp.Database Mosp.Sql
open Mosp.Concurrency.Program (throwIf runIf)

structure ObjectExplorerNamespace where
  id : Id
  name : String
  slug : String
  status : NamespaceStatus

namespace ObjectExplorerService

def folderMarker : String := ".mosp-folder"

def listNamespaces (organizationId : Id) : Service (List ObjectExplorerNamespace) := do
  let namespaces ← query (virtualNamespace.findMany
    (fun row => row.organizationId == organizationId && row.status == .active)
    fun first second => decide (first.name ≤ second.name))
  return namespaces.map fun row =>
    { id := row.id, name := row.name, slug := row.slug, status := row.status }

def resolveNamespace (organizationId : Id) (namespaceSlug : String) : Service VirtualNamespace := do
  match ← query (virtualNamespace.findFirst fun row =>
      row.organizationId == organizationId && row.slug == namespaceSlug) with
  | none => throw .objectExplorerNamespaceNotFound
  | some found =>
      if found.status ≠ .active then throw .objectExplorerNamespaceNotFound
      else return found

def isFolderMarker (key : String) : Bool :=
  endsWith key ("/" ++ folderMarker)

def isActive (entry : ObjectRecord × Option ObjectLocation) : Bool :=
  entry.2.any fun location => location.state == .active

def list (organizationId : Id) (namespaceSlug : String) (filter : ObjectListQuery) :
    Service (List ObjectSummary) := do
  let found ← resolveNamespace organizationId namespaceSlug
  let records ← query (findRecords organizationId found.id filter.keyPrefix filter.limit)
  return (records.filter fun entry => isActive entry && !isFolderMarker entry.1.logicalKey).map
    fun entry => toObjectSummary entry.1 entry.2

def listFolders (organizationId : Id) (namespaceSlug keyPrefix : String) :
    Service (List String) := do
  let found ← resolveNamespace organizationId namespaceSlug
  let records ← query (findRecords organizationId found.id (some keyPrefix) 1000)
  let markers := records.filter fun entry => isActive entry && isFolderMarker entry.1.logicalKey
  return (markers.map fun entry => sliceEnd entry.1.logicalKey folderMarker.length).filter
    fun folder => startsWith folder keyPrefix

/-! ## Uploading -/

/-- The transaction that reserves the bytes of an upload. -/
def reserveTransaction (organizationId : Id) (found : VirtualNamespace)
    (target : PlacementTargetSelection) (sizeBytes : Int) : Tx Unit := do
  lockUsageCounter organizationId found.id
  let counter ← usageCounter.findFirstOrThrow (isCounterOf organizationId found.id)
  throwIf (counter.usedBytes + counter.reservedBytes + sizeBytes > found.quotaBytes)
    .objectExplorerUploadQuotaExceeded
  let fits ← PlacementService.assertTargetCapacity organizationId found.id target.id sizeBytes
  throwIf (fits = false) .objectExplorerUploadTargetUnavailable
  let _ ← usageCounter.update (isCounterOf organizationId found.id) fun row =>
    { row with reservedBytes := row.reservedBytes + sizeBytes }

def releaseTransaction (organizationId namespaceId : Id) (sizeBytes : Int) : Tx Unit := do
  lockUsageCounter organizationId namespaceId
  let _ ← usageCounter.update (isCounterOf organizationId namespaceId) fun row =>
    { row with reservedBytes := row.reservedBytes - sizeBytes }

/-- Release the bytes; from then on the upload holds only its key. -/
def releaseReservation (organizationId namespaceId : Id) (sizeBytes : Int)
    (physicalKey : PhysicalKey) : Service Unit :=
  (transaction (releaseTransaction organizationId namespaceId sizeBytes)).noting fun outcome =>
    match outcome with
    | .ok _ => some (.storing physicalKey)
    | .error _ => none

/-- The checksum that the provider reports. -/
def reportedChecksum (metadata : ProviderObjectMetadata) : Option String :=
  metadata.checksumSha256.map ("sha256:" ++ ·)

/-- The transaction that makes a stored object part of the index. -/
def commitTransaction (organizationId namespaceId : Id) (key : String)
    (target : PlacementTargetSelection) (physicalKey : PhysicalKey) (sizeBytes : Int)
    (contentType : Option String) (metadata : ProviderObjectMetadata)
    (objectRecordId locationId : Id) (actor : DeleteActor) : Tx Unit := do
  let _ ← objectRecord.create
    { id := objectRecordId
      organizationId
      namespaceId
      logicalKey := key
      state := .pending
      sizeBytes := metadata.sizeBytes
      contentType := contentType.or metadata.contentType
      checksum := reportedChecksum metadata }
  let now ← Tx.now
  let _ ← objectLocation.create
    { id := locationId
      organizationId
      objectRecordId
      bucketConnectionId := target.bucketConnection.id
      physicalKey
      state := .active
      etag := metadata.etag
      providerLastModified := metadata.lastModified
      verifiedAt := some now }
  let _ ← objectRecord.update (fun row => row.id == objectRecordId) fun row =>
    { row with state := .available, activeObjectLocationId := some locationId }
  lockUsageCounter organizationId namespaceId
  let _ ← usageCounter.update (isCounterOf organizationId namespaceId) fun row =>
    { row with
      reservedBytes := row.reservedBytes - sizeBytes
      usedBytes := row.usedBytes + metadata.sizeBytes
      objectCount := row.objectCount + 1 }
  logActivity organizationId actor "objects.upload" objectRecordId

/-- Store the body and check what the provider has. -/
def store (adapter : S3ProviderAdapter) (bucketName : String) (physicalKey : PhysicalKey)
    (contentType : Option String) (sizeBytes : Int) : Service ProviderObjectMetadata := do
  adapter.putObject bucketName physicalKey contentType sizeBytes
  let metadata ← adapter.headObject bucketName physicalKey
  throwIf (metadata.sizeBytes ≠ sizeBytes) (.error "PROVIDER_SIZE_MISMATCH")
  return metadata

/-- When the provider says the object was modified, or else the current time. -/
def lastModifiedOrNow (metadata : ProviderObjectMetadata) : Service Time :=
  match metadata.lastModified with
  | some lastModified => pure lastModified
  | none => currentTime

/-- From the placement target on: reserve, store, commit. -/
def uploadAt (organizationId : Id) (found : VirtualNamespace) (key : String) (sizeBytes : Int)
    (contentType : Option String) (actor : DeleteActor) (target : PlacementTargetSelection) :
    Service ObjectSummary := do
  let bucket := target.bucketConnection
  let uuid ← randomUUIDNoting fun uuid => .storing (.object found.id uuid)
  let physicalKey := PhysicalKey.object found.id uuid
  (transaction (reserveTransaction organizationId found target sizeBytes)).noting fun outcome =>
    match outcome with
    | .ok _ => some (.reserved organizationId found.id sizeBytes physicalKey)
    | .error _ => none
  -- The adapter is known to the handler only once it has been built.
  let adapter ← tryCatch (adapterFor organizationId bucket.providerConnectionId) fun _ => do
    releaseReservation organizationId found.id sizeBytes physicalKey
    throw .objectExplorerUploadUnavailable
  let metadata ← tryCatch (store adapter bucket.bucketName physicalKey contentType sizeBytes)
    fun _ => do
      releaseReservation organizationId found.id sizeBytes physicalKey
      (adapter.deleteObject bucket.bucketName physicalKey).swallow
      throw .objectExplorerUploadUnavailable
  let objectRecordId ← randomUUID
  let locationId ← randomUUID
  tryCatch
    ((transaction (commitTransaction organizationId found.id key target physicalKey sizeBytes
      contentType metadata objectRecordId locationId actor)).noting fun outcome =>
        match outcome with
        | .ok _ => some .idle
        | .error _ => none)
    fun _ => do
      (releaseReservation organizationId found.id sizeBytes physicalKey).swallow
      Program.swallow do
        let adapter ← adapterFor organizationId bucket.providerConnectionId
        adapter.deleteObject bucket.bucketName physicalKey
      throw .objectExplorerUploadUnavailable
  let modifiedAt ← lastModifiedOrNow metadata
  return {
    key
    sizeBytes := metadata.sizeBytes
    contentType := contentType.or metadata.contentType
    checksum := reportedChecksum metadata
    modifiedAt
    etag := metadata.etag }

def upload (config : ProxyTransferConfig) (organizationId : Id) (namespaceSlug key : String)
    (sizeBytes : Int) (contentType : Option String) (actor : DeleteActor) :
    Service ObjectSummary := do
  throwIf (sizeBytes < 0 ∨ sizeBytes > config.maxObjectBytes) .objectExplorerUploadTooLarge
  match ← query (virtualNamespace.findFirst fun row => row.organizationId == organizationId &&
      row.slug == namespaceSlug && row.status == .active) with
  | none => throw .objectExplorerNamespaceNotFound
  | some found =>
      throwIf (found.maxObjectSizeBytes.any (· < sizeBytes)) .objectExplorerUploadTooLarge
      let existing ← query (objectRecord.findFirst fun row =>
        row.organizationId == organizationId && row.namespaceId == found.id &&
        row.logicalKey == key && row.state == .available)
      throwIf existing.isSome .objectExplorerUploadConflict
      match ← PlacementService.selectTarget organizationId found.id sizeBytes with
      | none => throw .objectExplorerUploadTargetUnavailable
      | some target => uploadAt organizationId found key sizeBytes contentType actor target

def createFolder (config : ProxyTransferConfig) (organizationId : Id)
    (namespaceSlug folderPrefix : String) (actor : DeleteActor) : Service String := do
  let normalizedPrefix := if endsWith folderPrefix "/" then folderPrefix else folderPrefix ++ "/"
  let markerKey := normalizedPrefix ++ folderMarker
  -- The search is for the key in any namespace of the organization.
  let existing ← query (objectRecord.findFirst fun row =>
    row.organizationId == organizationId && row.logicalKey == markerKey && row.state == .available)
  if existing.isSome then
    return normalizedPrefix
  else
    let _ ← upload config organizationId namespaceSlug markerKey 0
      (some "application/x-mosp-folder") actor
    return normalizedPrefix

/-! ## Downloading and deleting -/

/-- The active object of a key. -/
def findActive (organizationId namespaceId : Id) (key : String) :
    Service (ObjectRecord × ObjectLocation × BucketConnection) := do
  match activeObject (← query (findRecord organizationId namespaceId key)) with
  | none => throw .objectExplorerObjectNotFound
  | some object => return object

def presignDownload (organizationId : Id) (namespaceSlug key : String) :
    Service PresignedTransfer := do
  let found ← resolveNamespace organizationId namespaceSlug
  let (record, location, bucket) ← findActive organizationId found.id key
  tryCatch
    (do
      let adapter ← adapterFor organizationId bucket.providerConnectionId
      let transfer ← adapter.createPresignedDownload bucket.bucketName location.physicalKey
      recordEgress organizationId found.id record.sizeBytes
      return transfer)
    fun _ => throw .objectExplorerDownloadUnavailable

def delete (organizationId : Id) (namespaceSlug key : String) (actor : DeleteActor) :
    Service Unit := do
  let found ← resolveNamespace organizationId namespaceSlug
  let object ← findActive organizationId found.id key
  deleteActive organizationId found.id object .objectExplorerObjectNotFound
    .objectExplorerDeleteUnavailable actor

end ObjectExplorerService

end Mosp.Services
