import Mosp.Services.FolderGrants
import Mosp.Services.Placement
import Mosp.Services.Usage

/-!
# Uploads

`UploadService`: sessions that reserve quota, the transfer to the provider, and
the commit that turns a verified object into an object of the index.
-/

namespace Mosp.Services

open Mosp.Concurrency Mosp.Database Mosp.Sql
open Mosp.Concurrency.Program (throwIf runIf)

structure ApiCredentialIdentity where
  credentialId : Id
  namespaceId : Id
  organizationId : Id
  principalId : Id

structure ProxyTransferConfig where
  maxObjectBytes : Int

structure UploadInitiateRequest where
  key : String
  sizeBytes : Nat
  contentType : Option String := none
  checksum : Option String := none
  idempotencyKey : String
  overwrite : Bool := false

structure CompletedPart where
  partNumber : Nat
  etag : String
  sizeBytes : Nat

structure UploadCompleteRequest where
  parts : Option (List CompletedPart) := none

structure UploadSessionSummary where
  uploadId : Id
  key : String
  sizeBytes : Int
  state : UploadSessionState
  transferMode : UploadTransferMode
  expiresAt : Time
  partSizeBytes : Option Int := none
  partCount : Option Int := none
  url : Option String := none
  contentType : Option String := none

/-- A session with the bucket it includes. -/
abbrev FoundSession := UploadSession × BucketConnection

namespace UploadService

def uploadSessionTtlMs : Nat := 15 * 60 * 1000
def multipartThresholdBytes : Int := 64 * 1024 * 1024
def multipartPartSizeBytes : Int := 64 * 1024 * 1024
def maxMultipartParts : Int := 10000
def maxActiveUploadsPerCredential : Nat := 100
def maxActiveUploadsPerNamespace : Int := 1000
def maxSafeInteger : Int := 9007199254740991

/-! ## Small helpers -/

def multipartPartCount (sizeBytes : Int) : Except Failure Int :=
  let count := (sizeBytes + multipartPartSizeBytes - 1) / multipartPartSizeBytes
  if count < 1 ∨ maxMultipartParts < count then .error .uploadQuotaExceeded else .ok count

def toSummary (session : UploadSession) : Except Failure UploadSessionSummary := do
  let summary : UploadSessionSummary :=
    { uploadId := session.id
      key := session.logicalKey
      sizeBytes := session.reservedBytes
      state := session.state
      transferMode := session.transferMode
      expiresAt := session.expiresAt }
  if session.transferMode = .multipart then
    let partCount ← multipartPartCount session.reservedBytes
    return { summary with
      partSizeBytes := some multipartPartSizeBytes
      partCount := some partCount }
  else
    return summary

/-- The parts ordered by number, if they are exactly the parts of an object of
this size. -/
def validateMultipartParts (sizeBytes : Int) (parts : Option (List CompletedPart)) :
    Except Failure (List CompletedPart) := do
  let expectedCount ← multipartPartCount sizeBytes
  match parts with
  | none => .error .uploadVerificationFailed
  | some parts =>
      if (parts.length : Int) ≠ expectedCount then .error .uploadVerificationFailed
      else
        let sorted := parts.insertionSort fun left right => left.partNumber ≤ right.partNumber
        if sorted.zipIdx.any (fun entry => entry.1.partNumber != entry.2 + 1) then
          .error .uploadVerificationFailed
        else if ((sorted.map fun part => (part.sizeBytes : Int)).sum) ≠ sizeBytes then
          .error .uploadVerificationFailed
        else
          .ok sorted

def includeBucketConnection (session : UploadSession) : Tx FoundSession := do
  let bucket ← bucketConnection.findFirstOrThrow fun row => row.id == session.bucketConnectionId
  return (session, bucket)

/-- The session of a credential. -/
def findSession (identity : ApiCredentialIdentity) (uploadId : Id) : Tx (Option FoundSession) := do
  match ← uploadSession.findFirst fun row => row.id == uploadId &&
      row.organizationId == identity.organizationId &&
      row.namespaceId == identity.namespaceId &&
      row.createdByCredentialId == identity.credentialId with
  | none => pure none
  | some session => some <$> includeBucketConnection session

/-! ## Ending a session -/

/-- Take the session's bytes out of the reservations. -/
def decrementReservation (organizationId namespaceId : Id) (reservedBytes : Int) : Tx Unit := do
  lockUsageCounter organizationId namespaceId
  let _ ← usageCounter.update (isCounterOf organizationId namespaceId) fun row =>
    { row with
      reservedBytes := row.reservedBytes - reservedBytes
      activeUploadCount := row.activeUploadCount - 1 }

/-- End a session that is read as `INITIATED` and then updated by its
identifier alone. -/
def endInitiated (state : UploadSessionState) (organizationId namespaceId uploadId : Id) :
    Tx Unit := do
  let found ← (uploadSession.findFirst fun row => row.id == uploadId &&
      row.organizationId == organizationId && row.namespaceId == namespaceId &&
      row.state == .initiated).noting fun outcome =>
    match outcome with
    | .ok (some _) => some (.releasing uploadId)
    | _ => none
  match found with
  | none => pure ()
  | some session =>
      let _ ← uploadSession.update (fun row => row.id == uploadId) fun row => { row with state }
      decrementReservation organizationId namespaceId session.reservedBytes

def releaseReservation (organizationId namespaceId uploadId : Id) : Service Unit :=
  transaction (endInitiated .aborted organizationId namespaceId uploadId)

def expire (organizationId namespaceId uploadId : Id) : Service Unit :=
  transaction (endInitiated .expired organizationId namespaceId uploadId)

/-- Expire a session whose time is over. -/
def throwIfExpired (session : UploadSession) : Service Unit := do
  let now ← currentTime
  if session.expiresAt ≤ now then
    expire session.organizationId session.namespaceId session.id
    throw .uploadSessionConflict
  else
    pure ()

def abortTransaction (identity : ApiCredentialIdentity) (session : UploadSession) : Tx Unit := do
  let changed ← uploadSession.updateMany
    (fun row => row.id == session.id && row.organizationId == identity.organizationId &&
      row.state == .initiated)
    fun row => { row with state := .aborted }
  throwIf (changed ≠ 1) .uploadSessionConflict
  decrementReservation identity.organizationId session.namespaceId session.reservedBytes

/-- Remove what the provider holds of a session: the multipart upload as long as
it is not finalized, and else the object. -/
def removeUpload (adapter : S3ProviderAdapter) (session : UploadSession)
    (bucket : BucketConnection) (providerUploadFinalized : Bool) : Service Unit :=
  match session.transferMode, session.providerUploadId, providerUploadFinalized with
  | .multipart, some providerUploadId, false =>
      adapter.abortMultipartUpload bucket.bucketName session.physicalKey providerUploadId
  | _, _, _ =>
      adapter.deleteObject bucket.bucketName session.physicalKey (some session.id)

def abort (identity : ApiCredentialIdentity) (uploadId : Id) : Service Unit := do
  match ← query (findSession identity uploadId) with
  | none => throw .uploadSessionNotFound
  | some (session, bucket) =>
      if session.state = .aborted ∨ session.state = .expired then
        return
      else if session.state ≠ .initiated then
        throw .uploadSessionConflict
      else do
        tryCatch
          (do
            let adapter ← adapterFor identity.organizationId bucket.providerConnectionId
            removeUpload adapter session bucket session.providerUploadFinalized)
          fun error => throw (.uploadProviderError error.message)
        transaction (abortTransaction identity session)

/-! ## Starting a session -/

def presign (session : UploadSession) (bucketName : String) (providerConnectionId : Id) :
    Service UploadSessionSummary :=
  if session.transferMode = .multipart ∨ session.transferMode = .proxied then
    .ofExcept (toSummary session)
  else do
    let owner ← query (uploadSession.findFirstOrThrow fun row => row.id == session.id)
    let adapter ← adapterFor owner.organizationId providerConnectionId
    let transfer ← adapter.createPresignedUpload bucketName session.physicalKey session.contentType
    let summary ← Program.ofExcept (toSummary session)
    return { summary with
      url := some transfer.url
      expiresAt := transfer.expiresAt
      contentType := transfer.contentType }

/-- Reserve the bytes and create the session. -/
def reserveTransaction (identity : ApiCredentialIdentity) (found : VirtualNamespace)
    (target : PlacementTargetSelection) (input : UploadInitiateRequest)
    (session : UploadSession) : Tx UploadSession := do
  let sizeBytes : Int := input.sizeBytes
  lockUsageCounter identity.organizationId found.id
  let counter ← usageCounter.findFirstOrThrow (isCounterOf identity.organizationId found.id)
  let fits ← PlacementService.assertTargetCapacity identity.organizationId found.id target.id
    sizeBytes
  throwIf (fits = false) .uploadTargetUnavailable
  throwIf (counter.activeUploadCount ≥ maxActiveUploadsPerNamespace) .uploadConcurrencyExceeded
  let active ← uploadSession.count fun row => row.organizationId == identity.organizationId &&
    row.namespaceId == found.id && row.createdByCredentialId == identity.credentialId &&
    row.state == .initiated
  throwIf (active ≥ maxActiveUploadsPerCredential) .uploadConcurrencyExceeded
  throwIf (counter.usedBytes + counter.reservedBytes + sizeBytes > found.quotaBytes)
    .uploadQuotaExceeded
  let _ ← usageCounter.update (isCounterOf identity.organizationId found.id) fun row =>
    { row with
      reservedBytes := row.reservedBytes + sizeBytes
      activeUploadCount := row.activeUploadCount + 1 }
  uploadSession.create session

/-- Give up the provider's multipart upload; nobody hears of an error. -/
def abandonMultipartUpload (organizationId providerConnectionId : Id) (bucketName : String)
    (physicalKey : PhysicalKey) (providerUploadId : Nat) : Service Unit :=
  Program.swallow do
    let adapter ← adapterFor organizationId providerConnectionId
    adapter.abortMultipartUpload bucketName physicalKey providerUploadId

def transferModeFor (found : VirtualNamespace) (sizeBytes : Int) : UploadTransferMode :=
  if found.defaultTransferMode = .proxied then .proxied
  else if sizeBytes ≥ multipartThresholdBytes then .multipart
  else .direct

/-- Start the provider's multipart upload where the mode needs one. -/
def startMultipart (identity : ApiCredentialIdentity) (bucket : BucketConnection)
    (physicalKey : PhysicalKey) (contentType : Option String) :
    UploadTransferMode → Service (Option Nat)
  | .multipart =>
      tryCatch
        (do
          let adapter ← adapterFor identity.organizationId bucket.providerConnectionId
          some <$> adapter.createMultipartUpload bucket.bucketName physicalKey contentType)
        fun error => throw (.uploadProviderError error.message)
  | _ => pure none

/-- Give up the multipart upload of a session that cannot be used. -/
def abandonSession (organizationId : Id) (bucket : BucketConnection) (session : UploadSession) :
    Service Unit :=
  match session.transferMode, session.providerUploadId, session.providerUploadFinalized with
  | .multipart, some providerUploadId, false =>
      abandonMultipartUpload organizationId bucket.providerConnectionId bucket.bucketName
        session.physicalKey providerUploadId
  | _, _, _ => pure ()

/-- Reserve the bytes of the session; without a session the multipart upload is
given up. -/
def reserve (identity : ApiCredentialIdentity) (found : VirtualNamespace)
    (target : PlacementTargetSelection) (input : UploadInitiateRequest)
    (session : UploadSession) : Service UploadSession :=
  tryCatch
    ((transaction (reserveTransaction identity found target input session)).noting
      fun _ => some .idle)
    fun error => do
      abandonUnreserved identity target.bucketConnection session
      match error with
      | .database "P2002" _ => throw .uploadIdempotencyConflict
      | _ => throw error
where
  abandonUnreserved (identity : ApiCredentialIdentity) (bucket : BucketConnection)
      (session : UploadSession) : Service Unit :=
    match session.providerUploadId with
    | some providerUploadId =>
        abandonMultipartUpload identity.organizationId bucket.providerConnectionId
          bucket.bucketName session.physicalKey providerUploadId
    | none => pure ()

/-- From the placement target on: draw the session's identifier and key, reserve
and presign. -/
def initiateAt (identity : ApiCredentialIdentity) (found : VirtualNamespace)
    (input : UploadInitiateRequest) (target : PlacementTargetSelection) :
    Service UploadSessionSummary := do
  let bucket := target.bucketConnection
  let uploadId ← randomUUIDNoting fun uploadId => .initiating uploadId none
  let expiresAt := (← currentTime) + uploadSessionTtlMs
  let uuid ← randomUUIDNoting fun uuid => .initiating uploadId (some (.object found.id uuid))
  let physicalKey := PhysicalKey.object found.id uuid
  let transferMode := transferModeFor found input.sizeBytes
  let providerUploadId ← startMultipart identity bucket physicalKey input.contentType transferMode
  let session ← reserve identity found target input
    { id := uploadId
      organizationId := identity.organizationId
      namespaceId := found.id
      placementTargetId := target.id
      bucketConnectionId := bucket.id
      createdByCredentialId := identity.credentialId
      idempotencyKey := input.idempotencyKey
      logicalKey := input.key
      physicalKey
      reservedBytes := input.sizeBytes
      allowOverwrite := input.overwrite
      contentType := input.contentType
      checksum := input.checksum
      transferMode
      providerUploadId
      expiresAt }
  tryCatch (presign session bucket.bucketName bucket.providerConnectionId) fun error => do
    abandonSession identity.organizationId bucket session
    (releaseReservation identity.organizationId found.id uploadId).swallow
    throw (.uploadProviderError error.message)

/-- A request with the idempotency key of an earlier one. -/
def resume (existing : FoundSession) (input : UploadInitiateRequest) :
    Service UploadSessionSummary := do
  let (session, bucket) := existing
  if session.logicalKey ≠ input.key ∨ session.reservedBytes ≠ input.sizeBytes ∨
      session.contentType ≠ input.contentType ∨ session.checksum ≠ input.checksum ∨
      session.allowOverwrite ≠ input.overwrite then
    throw .uploadIdempotencyConflict
  else if session.state ≠ .initiated then
    .ofExcept (toSummary session)
  else do
    let now ← currentTime
    if session.expiresAt ≤ now then
      .ofExcept (toSummary session)
    else
      presign session bucket.bucketName bucket.providerConnectionId

/-- The session of an earlier request with the same idempotency key. -/
def findIdempotent (identity : ApiCredentialIdentity) (namespaceId : Id)
    (idempotencyKey : String) : Tx (Option FoundSession) := do
  match ← uploadSession.findFirst fun row => row.organizationId == identity.organizationId &&
      row.namespaceId == namespaceId && row.idempotencyKey == idempotencyKey &&
      row.createdByCredentialId == identity.credentialId with
  | none => pure none
  | some session => some <$> includeBucketConnection session

def initiate (identity : ApiCredentialIdentity) (namespaceSlug : String)
    (input : UploadInitiateRequest) : Service UploadSessionSummary := do
  match ← query (virtualNamespace.findFirst fun row =>
      row.organizationId == identity.organizationId && row.slug == namespaceSlug) with
  | none => throw .storageNamespaceNotFound
  | some found =>
      throwIf (found.id ≠ identity.namespaceId ∨ found.status ≠ .active) .storageNamespaceNotFound
      let allowed ← FolderGrantService.canAccess
        { organizationId := identity.organizationId
          namespaceId := found.id
          principalType := .apiCredential
          principalId := identity.principalId
          action := .write
          key := input.key }
      throwIf (allowed = false) .uploadSessionNotFound
      let sizeBytes : Int := input.sizeBytes
      throwIf (found.maxObjectSizeBytes.any (· < sizeBytes)) .uploadQuotaExceeded
      match ← query (findIdempotent identity found.id input.idempotencyKey) with
      | some existing => resume existing input
      | none =>
          let existingObject ← query (objectRecord.findFirst fun row =>
            row.organizationId == identity.organizationId && row.namespaceId == found.id &&
            row.logicalKey == input.key && row.state == .available)
          throwIf (existingObject.isSome ∧ ¬input.overwrite) .uploadObjectAlreadyExists
          match ← PlacementService.selectTarget identity.organizationId found.id sizeBytes with
          | none => throw .uploadTargetUnavailable
          | some target => initiateAt identity found input target

/-! ## Presigning a part -/

/-- Make sure that the session has a row for the part. -/
def touchPart (session : UploadSession) (partNumber : Int) : Tx MultipartPart := do
  let id ← Tx.randomUUID
  multipartPart.upsert
    (fun row => row.uploadSessionId == session.id && row.partNumber == partNumber)
    { id, organizationId := session.organizationId, uploadSessionId := session.id, partNumber }
    fun row => row

def presignPart (identity : ApiCredentialIdentity) (uploadId : Id) (partNumber : Int) :
    Service PresignedTransfer := do
  throwIf (partNumber < 1 ∨ maxMultipartParts < partNumber) .uploadSessionConflict
  match ← query (findSession identity uploadId) with
  | none => throw .uploadSessionNotFound
  | some (session, bucket) =>
      match session.providerUploadId with
      | none => throw .uploadSessionConflict
      | some providerUploadId =>
          throwIf (session.transferMode ≠ .multipart ∨ session.state ≠ .initiated)
            .uploadSessionConflict
          throwIfExpired session
          let partCount ← Program.ofExcept (multipartPartCount session.reservedBytes)
          throwIf (partNumber > partCount) .uploadSessionConflict
          tryCatch
            (do
              let adapter ← adapterFor identity.organizationId bucket.providerConnectionId
              let transfer ← adapter.createPresignedUploadPart bucket.bucketName
                session.physicalKey providerUploadId partNumber
              let _ ← query (touchPart session partNumber)
              return transfer)
            fun error =>
              match error with
              | .uploadSessionConflict => throw .uploadSessionConflict
              | _ => throw (.uploadProviderError error.message)

/-! ## Completing a session -/

/-- Where the object was that an overwrite has replaced. -/
structure ReplacedLocation where
  bucketName : String
  providerConnectionId : Id
  physicalKey : PhysicalKey

/-- A record with its active location and the bucket of that. -/
structure RecordWithLocation where
  record : ObjectRecord
  activeObjectLocation : Option (ObjectLocation × BucketConnection)

def includeActiveLocation (record : ObjectRecord) : Tx RecordWithLocation := do
  match record.activeObjectLocationId with
  | none => return ⟨record, none⟩
  | some locationId =>
      match ← objectLocation.findFirst fun row => row.id == locationId with
      | none => return ⟨record, none⟩
      | some location =>
          let bucket ← bucketConnection.findFirstOrThrow fun row =>
            row.id == location.bucketConnectionId
          return ⟨record, some (location, bucket)⟩

/-- The record of the session's key, read again once its row is locked. -/
def lockExisting (identity : ApiCredentialIdentity) (session : UploadSession) :
    Tx (Option RecordWithLocation) := do
  match ← objectRecord.findFirst fun row => row.organizationId == identity.organizationId &&
      row.namespaceId == session.namespaceId && row.logicalKey == session.logicalKey with
  | none => return none
  | some first =>
      let _ ← includeActiveLocation first
      let _ ← objectRecord.selectForUpdate fun row =>
        row.id == first.id && row.organizationId == identity.organizationId
      match ← objectRecord.findFirst fun row =>
          row.id == first.id && row.organizationId == identity.organizationId with
      | none => throw .uploadSessionConflict
      | some existing => some <$> includeActiveLocation existing

/-- What the record says about the object that was verified. -/
def describe (session : UploadSession) (metadata : ProviderObjectMetadata)
    (row : ObjectRecord) : ObjectRecord :=
  { row with
    sizeBytes := metadata.sizeBytes
    contentType := session.contentType.or metadata.contentType
    checksum := session.checksum }

/-- Point the record at the new location before that is created (an existing
record), or create the record without a location. -/
def writeRecord (identity : ApiCredentialIdentity) (session : UploadSession)
    (metadata : ProviderObjectMetadata) (objectRecordId locationId : Id)
    (existing : Option RecordWithLocation) : Tx (Option ReplacedLocation) :=
  match existing with
  | none => do
      let _ ← objectRecord.create
        (describe session metadata
          { id := objectRecordId
            organizationId := identity.organizationId
            namespaceId := session.namespaceId
            logicalKey := session.logicalKey
            state := .pending
            sizeBytes := 0 })
      return none
  | some ⟨record, activeObjectLocation⟩ =>
      if record.state = .deleted then do
        let _ ← objectRecord.update (fun row => row.id == record.id) fun row =>
          describe session metadata
            { row with state := .pending, activeObjectLocationId := some locationId }
        return none
      else
        match activeObjectLocation with
        | none => throw .uploadSessionConflict
        | some (activeLocation, bucket) => do
            let _ ← objectLocation.updateMany
              (fun row => row.id == activeLocation.id &&
                row.organizationId == identity.organizationId && row.state == .active)
              fun row => { row with state := .retained }
            let _ ← objectRecord.update (fun row => row.id == record.id) fun row =>
              describe session metadata
                { row with state := .available, activeObjectLocationId := some locationId }
            return some
              { bucketName := bucket.bucketName
                providerConnectionId := bucket.providerConnectionId
                physicalKey := activeLocation.physicalKey }

/-- Whether the object of a session was a tombstone or did not exist. -/
def isNewObject (existing : Option RecordWithLocation) : Bool :=
  existing.all fun found => found.record.state == .deleted

def upsertPart (identity : ApiCredentialIdentity) (session : UploadSession)
    (part : CompletedPart) : Tx Unit := do
  let id ← Tx.randomUUID
  let _ ← multipartPart.upsert
    (fun row => row.uploadSessionId == session.id && row.partNumber == part.partNumber)
    { id
      organizationId := identity.organizationId
      uploadSessionId := session.id
      partNumber := part.partNumber
      etag := some part.etag
      sizeBytes := some part.sizeBytes }
    fun row => { row with etag := some part.etag, sizeBytes := some part.sizeBytes }

/-- Move the session's bytes from the reservations to the used bytes. -/
def settleUsage (identity : ApiCredentialIdentity) (session : UploadSession)
    (metadata : ProviderObjectMetadata) (existing : Option RecordWithLocation) : Tx Unit := do
  lockUsageCounter identity.organizationId session.namespaceId
  let usageDelta := match existing with
    | some found =>
        if found.record.state = .available then metadata.sizeBytes - found.record.sizeBytes
        else metadata.sizeBytes
    | none => metadata.sizeBytes
  let _ ← usageCounter.update (isCounterOf identity.organizationId session.namespaceId) fun row =>
    { row with
      reservedBytes := row.reservedBytes - session.reservedBytes
      usedBytes := row.usedBytes + usageDelta
      objectCount := row.objectCount + if isNewObject existing then 1 else 0
      activeUploadCount := row.activeUploadCount - 1
      ingressBytes := row.ingressBytes + metadata.sizeBytes }

/-- From the locked record on: write the record and its new location, settle the usage
and end the session. -/
def publish (identity : ApiCredentialIdentity) (session : UploadSession)
    (metadata : ProviderObjectMetadata) (multipartParts : Option (List CompletedPart))
    (objectRecordId locationId : Id) (existing : Option RecordWithLocation) :
    Tx (Option ReplacedLocation) := do
  let replacedLocation ← writeRecord identity session metadata objectRecordId locationId existing
  let recordId := (existing.map fun found => found.record.id).getD objectRecordId
  let now ← Tx.now
  let _ ← objectLocation.create
    { id := locationId
      organizationId := identity.organizationId
      objectRecordId := recordId
      bucketConnectionId := session.bucketConnectionId
      physicalKey := session.physicalKey
      state := .active
      etag := metadata.etag
      verifiedAt := some now
      providerLastModified := metadata.lastModified }
  runIf (isNewObject existing) do
    let _ ← objectRecord.update (fun row => row.id == recordId) fun row =>
      { row with state := .available, activeObjectLocationId := some locationId }
  Program.forEach (multipartParts.getD []) (upsertPart identity session)
  settleUsage identity session metadata existing
  let completedAt ← Tx.now
  let _ ← uploadSession.update (fun row => row.id == session.id) fun row =>
    { row with state := .completed, completedAt := some completedAt }
  return replacedLocation

/-- The commit transaction of `complete`. -/
def completeTransaction (identity : ApiCredentialIdentity) (session : UploadSession)
    (metadata : ProviderObjectMetadata) (multipartParts : Option (List CompletedPart))
    (objectRecordId locationId : Id) : Tx (Option ReplacedLocation) := do
  let claimed ← uploadSession.updateMany
    (fun row => row.id == session.id && row.organizationId == identity.organizationId &&
      row.state == .initiated)
    fun row => { row with state := .completing }
  throwIf (claimed ≠ 1) .uploadSessionConflict
  let existing ← lockExisting identity session
  throwIf (existing.any (fun found => found.record.state == .available) ∧ ¬session.allowOverwrite)
    .uploadObjectAlreadyExists
  throwIf (existing.any fun found =>
    found.record.state != .available && found.record.state != .deleted) .uploadSessionConflict
  publish identity session metadata multipartParts objectRecordId locationId existing

def cleanupFinalizedProviderObject (identity : ApiCredentialIdentity) (session : UploadSession)
    (bucket : BucketConnection) : Service Unit := do
  let adapter ← adapterFor identity.organizationId bucket.providerConnectionId
  adapter.deleteObject bucket.bucketName session.physicalKey (some session.id)
  releaseReservation session.organizationId session.namespaceId session.id

def cleanupFailedUpload (adapter : Option S3ProviderAdapter) (session : UploadSession)
    (bucket : BucketConnection) (providerUploadFinalized : Bool) : Service Unit :=
  Program.ensuring
    (adapter.elim (pure ()) fun adapter =>
      removeUpload adapter session bucket providerUploadFinalized)
    (releaseReservation session.organizationId session.namespaceId session.id)

def deleteRetainedLocation (organizationId : Id) (location : ReplacedLocation) : Service Unit := do
  let adapter ← adapterFor organizationId location.providerConnectionId
  adapter.deleteObject location.bucketName location.physicalKey

/-- Whether the provider's object is the one the session announced. -/
def isVerified (session : UploadSession) (metadata : ProviderObjectMetadata) : Bool :=
  metadata.sizeBytes == session.reservedBytes &&
    session.checksum.all fun checksum =>
      !startsWith checksum "sha256:" || metadata.checksumSha256 == some (sliceFrom checksum 7)

/-- Finish the provider's multipart upload and mark the session, where there is
one to finish.  Returns whether the upload is finalized now. -/
def finalizeMultipart (identity : ApiCredentialIdentity) (session : UploadSession)
    (bucket : BucketConnection) (adapter : S3ProviderAdapter)
    (multipartParts : Option (List CompletedPart)) : Service Bool := do
  match session.transferMode, session.providerUploadId, multipartParts with
  | .multipart, some providerUploadId, some parts =>
      let alreadyFinalized ← adapter.objectExists bucket.bucketName session.physicalKey
      runIf (alreadyFinalized = false)
        (adapter.completeMultipartUpload bucket.bucketName session.physicalKey providerUploadId
          (parts.map fun part => (part.etag, (part.partNumber : Int))))
      let marked ← query (uploadSession.updateMany
        (fun row => row.id == session.id && row.organizationId == identity.organizationId &&
          row.state == .initiated)
        fun row => { row with providerUploadFinalized := true })
      throwIf (marked ≠ 1) .uploadSessionConflict
      return true
  | _, _, _ => return session.providerUploadFinalized

/-- Commit a verified object; what was stored is removed again if that fails. -/
def commit (identity : ApiCredentialIdentity) (session : UploadSession)
    (bucket : BucketConnection) (metadata : ProviderObjectMetadata)
    (multipartParts : Option (List CompletedPart)) (providerUploadFinalized : Bool) :
    Service Unit := do
  let objectRecordId ← randomUUID
  let locationId ← randomUUID
  tryCatch
    (do
      let replacedLocation ← (transaction (completeTransaction identity session metadata
        multipartParts objectRecordId locationId)).noting fun _ => some .idle
      replacedLocation.elim (pure ()) fun location =>
        (deleteRetainedLocation identity.organizationId location).swallow)
    fun error => do
      runIf providerUploadFinalized (cleanupFinalizedProviderObject identity session bucket).swallow
      throw error

/-- The parts that finish a multipart upload which is not finalized yet. -/
def requiredParts (session : UploadSession) (input : UploadCompleteRequest) :
    Except Failure (Option (List CompletedPart)) :=
  if session.transferMode = .multipart ∧ ¬session.providerUploadFinalized then
    some <$> validateMultipartParts session.reservedBytes input.parts
  else
    .ok none

/-- Finish the transfer and ask the provider for the object. -/
def headSession (identity : ApiCredentialIdentity) (session : UploadSession)
    (bucket : BucketConnection) (multipartParts : Option (List CompletedPart)) :
    Service (S3ProviderAdapter × Bool × ProviderObjectMetadata) :=
  tryCatch
    (do
      let adapter ← adapterFor identity.organizationId bucket.providerConnectionId
      let finalized ← finalizeMultipart identity session bucket adapter multipartParts
      let metadata ← (adapter.headObject bucket.bucketName session.physicalKey).noting fun outcome =>
        match outcome with
        | .ok metadata => if isVerified session metadata then some (.verified session.id) else none
        | .error _ => none
      return (adapter, finalized, metadata))
    fun error =>
      match error with
      | .uploadSessionConflict => throw .uploadSessionConflict
      | _ => throw (.uploadProviderError error.message)

/-- `complete` for a session that can still be completed. -/
def completeInitiated (identity : ApiCredentialIdentity) (session : UploadSession)
    (bucket : BucketConnection) (input : UploadCompleteRequest) :
    Service UploadSessionSummary := do
  throwIf ((session.transferMode = .direct ∨ session.transferMode = .proxied) ∧ input.parts.isSome)
    .uploadSessionConflict
  let multipartParts ← Program.ofExcept (requiredParts session input)
  let (adapter, providerUploadFinalized, metadata) ←
    headSession identity session bucket multipartParts
  if isVerified session metadata then
    commit identity session bucket metadata multipartParts providerUploadFinalized
    let summary ← Program.ofExcept (toSummary session)
    return { summary with state := .completed }
  else
    (cleanupFailedUpload (some adapter) session bucket providerUploadFinalized).swallow
    throw .uploadVerificationFailed

def complete (identity : ApiCredentialIdentity) (uploadId : Id) (input : UploadCompleteRequest) :
    Service UploadSessionSummary := do
  match ← query (findSession identity uploadId) with
  | none => throw .uploadSessionNotFound
  | some (session, bucket) =>
      if session.state = .completed then
        .ofExcept (toSummary session)
      else if session.state ≠ .initiated then
        throw .uploadSessionConflict
      else do
        throwIfExpired session
        completeInitiated identity session bucket input

/-! ## Uploading through the proxy -/

/-- The errors that `proxyUpload` passes on as they are. -/
def proxyError : Failure → Failure
  | .uploadSessionConflict => .uploadSessionConflict
  | .uploadObjectAlreadyExists => .uploadObjectAlreadyExists
  | .uploadVerificationFailed => .uploadVerificationFailed
  | .uploadProviderError message => .uploadProviderError message
  | error => .uploadProviderError error.message

/-- Store the body and complete the session. -/
def storeAndComplete (identity : ApiCredentialIdentity) (session : UploadSession)
    (bucket : BucketConnection) (adapter : S3ProviderAdapter) (contentLengthBytes : Int) :
    Service UploadSessionSummary := do
  adapter.putObject bucket.bucketName session.physicalKey session.contentType contentLengthBytes
  complete identity session.id {}

/-- Release a session whose body cannot be stored. -/
def checkLength (config : ProxyTransferConfig) (session : UploadSession)
    (contentLengthBytes : Int) : Service Unit :=
  if contentLengthBytes > config.maxObjectBytes ∨ contentLengthBytes > maxSafeInteger then do
    releaseReservation session.organizationId session.namespaceId session.id
    throw .uploadProxyObjectTooLarge
  else if contentLengthBytes ≠ session.reservedBytes then do
    releaseReservation session.organizationId session.namespaceId session.id
    throw .uploadProxySizeMismatch
  else
    pure ()

def proxyUpload (config : ProxyTransferConfig) (identity : ApiCredentialIdentity) (uploadId : Id)
    (contentLengthBytes : Int) : Service UploadSessionSummary := do
  throwIf (contentLengthBytes < 0) .uploadProxyObjectTooLarge
  match ← query (findSession identity uploadId) with
  | none => throw .uploadSessionNotFound
  | some (session, bucket) =>
      throwIf (session.transferMode ≠ .proxied ∨ session.state ≠ .initiated) .uploadSessionConflict
      throwIfExpired session
      checkLength config session contentLengthBytes
      -- The adapter is known to the handler only once it has been built.
      let adapter ← tryCatch
        (adapterFor identity.organizationId bucket.providerConnectionId)
        fun error => do
          (cleanupFailedUpload none session bucket false).swallow
          throw (proxyError error)
      tryCatch (storeAndComplete identity session bucket adapter contentLengthBytes)
        fun error => do
          (cleanupFailedUpload (some adapter) session bucket false).swallow
          throw (proxyError error)

end UploadService

end Mosp.Services
