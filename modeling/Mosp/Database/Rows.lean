import Mosp.Data.Table

/-!
# The rows of the schema

One structure for each table, with the columns that the modelled services read
or write.  Identifiers stand for UUIDs and times are milliseconds.
-/

namespace Mosp.Database

open Mosp.Data

/-- A UUID. -/
abbrev Id := Nat

/-- A point in time, in milliseconds. -/
abbrev Time := Nat

/-- The keys under which the services store objects at a provider. -/
inductive PhysicalKey where
  /-- `objects/<namespace>/<uuid>` -/
  | object (namespaceId uuid : Id)
  /-- `objects/<namespace>/migration/<run>/<uuid>` -/
  | migration (namespaceId migrationId uuid : Id)
  deriving DecidableEq

/-- The UUID that makes a key unique. -/
def PhysicalKey.uuid : PhysicalKey → Id
  | .object _ uuid => uuid
  | .migration _ _ uuid => uuid

/-! ## Enumerations -/

inductive RoleScope where
  | global | organization
  deriving DecidableEq

inductive ProviderStatus where
  | pending | healthy | degraded | unhealthy | disabled
  deriving DecidableEq

inductive BucketStatus where
  | pending | active | unhealthy | disabled
  deriving DecidableEq

inductive NamespaceStatus where
  | active | disabled
  deriving DecidableEq

inductive NamespaceTransferMode where
  | direct | proxied
  deriving DecidableEq

inductive PlacementPolicyStatus where
  | active | disabled
  deriving DecidableEq

inductive ApiCredentialStatus where
  | active | revoked | expired
  deriving DecidableEq

inductive FolderGrantPrincipalType where
  | role | apiCredential
  deriving DecidableEq

inductive FolderGrantAction where
  | list | read | write | delete
  deriving DecidableEq

inductive ObjectRecordState where
  | pending | available | deleting | deleted
  deriving DecidableEq

inductive ObjectLocationState where
  | candidate | active | retained | deleted
  deriving DecidableEq

inductive MigrationRunState where
  | created | running | paused | completed | failed | cancelled
  deriving DecidableEq

inductive MigrationItemState where
  | pending | copying | completed | skipped | failed
  deriving DecidableEq

inductive UploadSessionState where
  | initiated | completing | completed | aborted | expired
  deriving DecidableEq

inductive UploadTransferMode where
  | direct | multipart | proxied
  deriving DecidableEq

/-! ## Tables -/

structure Organization where
  id : Id

structure User where
  id : Id

structure Role where
  id : Id
  organizationId : Option Id
  scope : RoleScope

structure ProviderConnection where
  id : Id
  organizationId : Id
  status : ProviderStatus

structure ProviderCredential where
  id : Id
  providerConnectionId : Id

structure BucketConnection where
  id : Id
  organizationId : Id
  providerConnectionId : Id
  bucketName : String
  status : BucketStatus

structure VirtualNamespace where
  id : Id
  organizationId : Id
  name : String
  slug : String
  status : NamespaceStatus
  quotaBytes : Int
  maxObjectSizeBytes : Option Int := none
  defaultTransferMode : NamespaceTransferMode := .direct

structure PlacementPolicy where
  id : Id
  namespaceId : Id
  organizationId : Id
  status : PlacementPolicyStatus := .active

structure PlacementTarget where
  id : Id
  policyId : Id
  organizationId : Id
  bucketConnectionId : Id
  priorityTier : Int := 0
  weight : Int := 100
  configuredCapacityBytes : Option Int := none
  thresholdPercent : Int := 100
  enabled : Bool := true
  createdAt : Time := 0

structure ApiCredential where
  id : Id
  organizationId : Id
  namespaceId : Id
  status : ApiCredentialStatus := .active
  expiresAt : Option Time := none

structure FolderGrant where
  id : Id
  organizationId : Id
  namespaceId : Id
  principalType : FolderGrantPrincipalType
  principalId : Id
  folderPrefix : String
  actions : List FolderGrantAction
  expiresAt : Option Time := none
  createdById : Id
  createdAt : Time := 0
  updatedAt : Time := 0

structure ObjectRecord where
  id : Id
  organizationId : Id
  namespaceId : Id
  logicalKey : String
  activeObjectLocationId : Option Id := none
  state : ObjectRecordState := .pending
  sizeBytes : Int
  contentType : Option String := none
  checksum : Option String := none
  modifiedAt : Time := 0

structure ObjectLocation where
  id : Id
  organizationId : Id
  objectRecordId : Id
  bucketConnectionId : Id
  physicalKey : PhysicalKey
  state : ObjectLocationState := .candidate
  etag : Option String := none
  providerLastModified : Option Time := none
  verifiedAt : Option Time := none
  updatedAt : Time := 0

structure UsageCounter where
  id : Id
  organizationId : Id
  namespaceId : Id
  usedBytes : Int := 0
  reservedBytes : Int := 0
  objectCount : Int := 0
  activeUploadCount : Int := 0
  requestCount : Int := 0
  ingressBytes : Int := 0
  egressBytes : Int := 0

structure UploadSession where
  id : Id
  organizationId : Id
  namespaceId : Id
  placementTargetId : Id
  bucketConnectionId : Id
  createdByCredentialId : Id
  idempotencyKey : String
  logicalKey : String
  physicalKey : PhysicalKey
  reservedBytes : Int
  allowOverwrite : Bool := false
  contentType : Option String := none
  checksum : Option String := none
  transferMode : UploadTransferMode := .direct
  providerUploadId : Option Nat := none
  providerUploadFinalized : Bool := false
  state : UploadSessionState := .initiated
  expiresAt : Time
  completedAt : Option Time := none
  createdAt : Time := 0
  updatedAt : Time := 0

structure MultipartPart where
  id : Id
  organizationId : Id
  uploadSessionId : Id
  partNumber : Int
  etag : Option String := none
  sizeBytes : Option Int := none

structure MigrationRun where
  id : Id
  organizationId : Id
  namespaceId : Id
  sourceBucketConnectionId : Id
  targetBucketConnectionId : Id
  initiatedById : Id
  state : MigrationRunState := .created
  totalItems : Int := 0
  completedItems : Int := 0
  failedItems : Int := 0
  lastError : Option String := none
  startedAt : Option Time := none
  completedAt : Option Time := none
  createdAt : Time := 0
  updatedAt : Time := 0

structure MigrationItem where
  id : Id
  organizationId : Id
  migrationRunId : Id
  objectRecordId : Id
  sourceLocationId : Id
  sourceBucketConnectionId : Id
  targetBucketConnectionId : Id
  sourcePhysicalKey : PhysicalKey
  targetPhysicalKey : PhysicalKey
  sourceEtag : Option String := none
  sourceLastModified : Option Time := none
  sizeBytes : Int
  checksum : Option String := none
  state : MigrationItemState := .pending
  attempts : Int := 0
  lastError : Option String := none
  nextAttemptAt : Option Time := none
  updatedAt : Time := 0

structure ActivityLog where
  id : Id
  organizationId : Option Id
  actorId : Option Id := none
  action : String
  entityType : String
  entityId : Option Id
  requestId : String
  createdAt : Time := 0

instance : Row Organization := ⟨Organization.id⟩
instance : Row User := ⟨User.id⟩
instance : Row Role := ⟨Role.id⟩
instance : Row ProviderConnection := ⟨ProviderConnection.id⟩
instance : Row ProviderCredential := ⟨ProviderCredential.id⟩
instance : Row BucketConnection := ⟨BucketConnection.id⟩
instance : Row VirtualNamespace := ⟨VirtualNamespace.id⟩
instance : Row PlacementPolicy := ⟨PlacementPolicy.id⟩
instance : Row PlacementTarget := ⟨PlacementTarget.id⟩
instance : Row ApiCredential := ⟨ApiCredential.id⟩
instance : Row FolderGrant := ⟨FolderGrant.id⟩
instance : Row ObjectRecord := ⟨ObjectRecord.id⟩
instance : Row ObjectLocation := ⟨ObjectLocation.id⟩
instance : Row UsageCounter := ⟨UsageCounter.id⟩
instance : Row UploadSession := ⟨UploadSession.id⟩
instance : Row MultipartPart := ⟨MultipartPart.id⟩
instance : Row MigrationRun := ⟨MigrationRun.id⟩
instance : Row MigrationItem := ⟨MigrationItem.id⟩
instance : Row ActivityLog := ⟨ActivityLog.id⟩

end Mosp.Database
