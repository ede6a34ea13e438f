import Mosp.Database.Rows
import Mosp.Sql.Transaction
import Mathlib.Tactic.Simps.Basic

/-!
# The database

One table for each model of the schema, the row writes that the services make,
and the client's models with the columns it stamps.  Configuration tables
(organizations, roles, providers, buckets, namespaces, placement, credentials)
are written by no modelled operation and have no writes.
-/

namespace Mosp.Database

open Mosp.Concurrency Mosp.Data Mosp.Sql

structure Db where
  organization : Table Organization := .empty
  user : Table User := .empty
  role : Table Role := .empty
  providerConnection : Table ProviderConnection := .empty
  providerCredential : Table ProviderCredential := .empty
  bucketConnection : Table BucketConnection := .empty
  virtualNamespace : Table VirtualNamespace := .empty
  placementPolicy : Table PlacementPolicy := .empty
  placementTarget : Table PlacementTarget := .empty
  apiCredential : Table ApiCredential := .empty
  folderGrant : Table FolderGrant := .empty
  objectRecord : Table ObjectRecord := .empty
  objectLocation : Table ObjectLocation := .empty
  usageCounter : Table UsageCounter := .empty
  uploadSession : Table UploadSession := .empty
  multipartPart : Table MultipartPart := .empty
  migrationRun : Table MigrationRun := .empty
  migrationItem : Table MigrationItem := .empty
  activityLog : Table ActivityLog := .empty

instance : Inhabited Db :=
  ⟨{}⟩

/-- A single row write. -/
inductive Write where
  | folderGrant (row : FolderGrant)
  | objectRecord (row : ObjectRecord)
  | objectLocation (row : ObjectLocation)
  | usageCounter (row : UsageCounter)
  | uploadSession (row : UploadSession)
  | multipartPart (row : MultipartPart)
  | migrationRun (row : MigrationRun)
  | migrationItem (row : MigrationItem)
  | activityLog (row : ActivityLog)
  | eraseFolderGrant (id : Id)
  | eraseUploadSession (id : Id)

/-- What can be locked: a row, or the value of a unique index that a row takes
up. -/
inductive Lock where
  | row (table : String) (id : Id)
  | usageCounterKey (organizationId namespaceId : Id)
  | objectRecordKey (namespaceId : Id) (logicalKey : String)
  | objectRecordPointer (locationId : Id)
  | objectLocationKey (objectRecordId bucketConnectionId : Id) (physicalKey : PhysicalKey)
  | uploadSessionKey (organizationId namespaceId : Id) (idempotencyKey : String)
  | multipartPartKey (uploadSessionId : Id) (partNumber : Int)
  | migrationItemKey (migrationRunId objectRecordId : Id)
  | migrationRunKey (organizationId namespaceId : Id)
  | folderGrantKey (organizationId namespaceId : Id) (principalType : FolderGrantPrincipalType)
      (principalId : Id) (folderPrefix : String)
  deriving DecidableEq

namespace Db

/-- Apply one row write.  Deleting an upload session cascades to its parts. -/
def write (db : Db) : Write → Db
  | .folderGrant row => { db with folderGrant := db.folderGrant.put row }
  | .objectRecord row => { db with objectRecord := db.objectRecord.put row }
  | .objectLocation row => { db with objectLocation := db.objectLocation.put row }
  | .usageCounter row => { db with usageCounter := db.usageCounter.put row }
  | .uploadSession row => { db with uploadSession := db.uploadSession.put row }
  | .multipartPart row => { db with multipartPart := db.multipartPart.put row }
  | .migrationRun row => { db with migrationRun := db.migrationRun.put row }
  | .migrationItem row => { db with migrationItem := db.migrationItem.put row }
  | .activityLog row => { db with activityLog := db.activityLog.put row }
  | .eraseFolderGrant id => { db with folderGrant := db.folderGrant.erase id }
  | .eraseUploadSession id =>
      { db with
        uploadSession := db.uploadSession.erase id
        multipartPart := db.multipartPart.eraseWhere fun part => part.uploadSessionId == id }

/-- What a write locks until its transaction ends. -/
def locks : Write → List Lock
  | .folderGrant row =>
      [.row "FolderGrant" row.id,
        .folderGrantKey row.organizationId row.namespaceId row.principalType row.principalId
          row.folderPrefix]
  | .objectRecord row =>
      [.row "ObjectRecord" row.id, .objectRecordKey row.namespaceId row.logicalKey] ++
        (row.activeObjectLocationId.map Lock.objectRecordPointer).toList
  | .objectLocation row =>
      [.row "ObjectLocation" row.id,
        .objectLocationKey row.objectRecordId row.bucketConnectionId row.physicalKey]
  | .usageCounter row =>
      [.row "UsageCounter" row.id, .usageCounterKey row.organizationId row.namespaceId]
  | .uploadSession row =>
      [.row "UploadSession" row.id,
        .uploadSessionKey row.organizationId row.namespaceId row.idempotencyKey]
  | .multipartPart row =>
      [.row "MultipartPart" row.id, .multipartPartKey row.uploadSessionId row.partNumber]
  | .migrationRun row =>
      [.row "MigrationRun" row.id, .migrationRunKey row.organizationId row.namespaceId]
  | .migrationItem row =>
      [.row "MigrationItem" row.id, .migrationItemKey row.migrationRunId row.objectRecordId]
  | .activityLog row => [.row "ActivityLog" row.id]
  | .eraseFolderGrant id => [.row "FolderGrant" id]
  | .eraseUploadSession id => [.row "UploadSession" id]

instance : Sql.Database Db Write Lock where
  write := write
  locks := locks

@[simp]
theorem database_write (db : Db) (change : Write) : Sql.Database.write db change = db.write change :=
  rfl

end Db

/-! ## Errors -/

/-- What can go wrong in a service, with the source's error classes. -/
inductive Failure where
  | storageObjectNotFound
  | storageNamespaceNotFound
  | storageDownloadUnavailable
  | storageDeleteUnavailable
  | uploadQuotaExceeded
  | uploadConcurrencyExceeded
  | uploadTargetUnavailable
  | uploadIdempotencyConflict
  | uploadSessionNotFound
  | uploadSessionConflict
  | uploadVerificationFailed
  | uploadObjectAlreadyExists
  | uploadProviderError (message : String)
  | uploadProxySizeMismatch
  | uploadProxyObjectTooLarge
  | objectExplorerNamespaceNotFound
  | objectExplorerObjectNotFound
  | objectExplorerDownloadUnavailable
  | objectExplorerDeleteUnavailable
  | objectExplorerUploadUnavailable
  | objectExplorerUploadTooLarge
  | objectExplorerUploadQuotaExceeded
  | objectExplorerUploadConflict
  | objectExplorerUploadTargetUnavailable
  | folderGrantNotFound
  | folderGrantNamespaceNotFound
  | folderGrantPrincipalNotFound
  | folderGrantCredentialNotActive
  | folderGrantExpiryInvalid
  | folderGrantPrefixInvalid
  | migrationNotFound
  | migrationConflict
  | migrationInvalidTarget
  | migrationTooLarge
  | providerConnectionNotFound
  | rangeError (message : String)
  /-- `new Error(message)` -/
  | error (message : String)
  /-- An error of the provider's client with its HTTP status. -/
  | provider (message : String) (status : Option Nat)
  /-- An error of the database client with its code. -/
  | database (code message : String)
  deriving DecidableEq

namespace Failure

/-- The `message` of the error object; the error classes are thrown without
one. -/
def message : Failure → String
  | .uploadProviderError message => message
  | .rangeError message => message
  | .error message => message
  | .provider message _ => message
  | .database _ message => message
  | _ => ""

def uniqueConstraint (message : String) : Failure :=
  .database "P2002" message

def foreignKeyConstraint (message : String) : Failure :=
  .database "P2003" message

/-- The client reports a violated CHECK without a code of its own. -/
def checkConstraint (message : String) : Failure :=
  .database "" message

instance : DatabaseError Failure where
  notFound := .database "P2025" "Record not found"
  duplicate := .uniqueConstraint "PRIMARY"

end Failure

/-! ## Phases -/

/-- What a call has in hand.  Phases say which call owns an identifier, a
reservation or the right to undo a step; no service reads them. -/
inductive Phase where
  | idle
  /-- `initiate` has drawn the identifier of its session, and maybe the key. -/
  | initiating (uploadId : Id) (physicalKey : Option PhysicalKey)
  /-- `complete` has seen the object of the session at the provider. -/
  | verified (uploadId : Id)
  /-- A transaction has read an `INITIATED` session that it is going to end. -/
  | releasing (uploadId : Id)
  /-- An explorer upload has drawn its key. -/
  | storing (physicalKey : PhysicalKey)
  /-- An explorer upload has reserved bytes that it has not returned. -/
  | reserved (organizationId namespaceId : Id) (sizeBytes : Int) (physicalKey : PhysicalKey)
  /-- A delete has claimed the record and has not heard from the provider. -/
  | deleting (recordId locationId : Id)
  /-- A worker has claimed these migration items and is not done with them. -/
  | holding (itemIds : List Id)
  deriving DecidableEq

instance : Inhabited Phase :=
  ⟨.idle⟩

/-- A transaction body over the database. -/
abbrev Tx (α : Type) : Type 1 :=
  Sql.Tx Db Write Lock Failure Phase α

/-! ## Models -/

@[simps table]
def role : Relation Db Lock Role where
  table := Db.role
  rowLock := .row "Role"

@[simps table]
def providerConnection : Relation Db Lock ProviderConnection where
  table := Db.providerConnection
  rowLock := .row "ProviderConnection"

@[simps table]
def providerCredential : Relation Db Lock ProviderCredential where
  table := Db.providerCredential
  rowLock := .row "ProviderCredential"

@[simps table]
def bucketConnection : Relation Db Lock BucketConnection where
  table := Db.bucketConnection
  rowLock := .row "BucketConnection"

@[simps table]
def virtualNamespace : Relation Db Lock VirtualNamespace where
  table := Db.virtualNamespace
  rowLock := .row "VirtualNamespace"

@[simps table]
def placementTarget : Relation Db Lock PlacementTarget where
  table := Db.placementTarget
  rowLock := .row "PlacementTarget"

@[simps table]
def apiCredential : Relation Db Lock ApiCredential where
  table := Db.apiCredential
  rowLock := .row "ApiCredential"

@[simps toModel_toRelation_table toModel_put toModel_created toModel_updated erase]
def folderGrant : ErasableModel Db Write Lock FolderGrant where
  table := Db.folderGrant
  rowLock := .row "FolderGrant"
  put := .folderGrant
  erase := .eraseFolderGrant
  created now row := { row with createdAt := now, updatedAt := now }
  updated now row := { row with updatedAt := now }

@[simps toRelation_table put created updated]
def objectRecord : Model Db Write Lock ObjectRecord where
  table := Db.objectRecord
  rowLock := .row "ObjectRecord"
  put := .objectRecord
  created now row := { row with modifiedAt := now }
  updated now row := { row with modifiedAt := now }

@[simps toRelation_table put created updated]
def objectLocation : Model Db Write Lock ObjectLocation where
  table := Db.objectLocation
  rowLock := .row "ObjectLocation"
  put := .objectLocation
  created now row := { row with updatedAt := now }
  updated now row := { row with updatedAt := now }

@[simps toRelation_table put created updated]
def usageCounter : Model Db Write Lock UsageCounter where
  table := Db.usageCounter
  rowLock := .row "UsageCounter"
  put := .usageCounter

@[simps toModel_toRelation_table toModel_put toModel_created toModel_updated erase]
def uploadSession : ErasableModel Db Write Lock UploadSession where
  table := Db.uploadSession
  rowLock := .row "UploadSession"
  put := .uploadSession
  erase := .eraseUploadSession
  created now row := { row with createdAt := now, updatedAt := now }
  updated now row := { row with updatedAt := now }

@[simps toRelation_table put created updated]
def multipartPart : Model Db Write Lock MultipartPart where
  table := Db.multipartPart
  rowLock := .row "MultipartPart"
  put := .multipartPart

@[simps toRelation_table put created updated]
def migrationRun : Model Db Write Lock MigrationRun where
  table := Db.migrationRun
  rowLock := .row "MigrationRun"
  put := .migrationRun
  created now row := { row with createdAt := now, updatedAt := now }
  updated now row := { row with updatedAt := now }

@[simps toRelation_table put created updated]
def migrationItem : Model Db Write Lock MigrationItem where
  table := Db.migrationItem
  rowLock := .row "MigrationItem"
  put := .migrationItem
  created now row := { row with updatedAt := now }
  updated now row := { row with updatedAt := now }

@[simps toRelation_table put created updated]
def activityLog : Model Db Write Lock ActivityLog where
  table := Db.activityLog
  rowLock := .row "ActivityLog"
  put := .activityLog
  created now row := { row with createdAt := now }

end Mosp.Database
