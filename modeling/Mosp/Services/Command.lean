import Mosp.Database.Schema

/-!
# What a service asks of its surroundings

A service is a program of commands: standalone queries and transactions of the
database client, calls of the storage provider, the clock and the random
number generator.  Each command is one indivisible step when services are
interleaved at the grain of transactions.
-/

namespace Mosp.Services

open Mosp.Concurrency Mosp.Database Mosp.Sql

/-! ## The storage provider -/

structure ProviderObjectMetadata where
  sizeBytes : Int
  checksumSha256 : Option String := none
  contentType : Option String := none
  etag : Option String := none
  lastModified : Option Time := none
  deriving DecidableEq

structure PresignedTransfer where
  url : String
  expiresAt : Time
  contentType : Option String := none
  deriving DecidableEq

/-- Where an object is stored: the provider, its bucket and the key. -/
structure Address where
  providerConnectionId : Id
  bucketName : String
  physicalKey : PhysicalKey
  deriving DecidableEq

/-- A client of one provider connection. -/
structure S3ProviderAdapter where
  providerConnectionId : Id

/-- The calls of an adapter.  Bodies of objects are not modelled; the provider
says what it stored when it is asked for the metadata. -/
inductive ProviderCall : Type → Type where
  /-- Check the endpoint, decrypt the credentials and build the client. -/
  | connect (providerConnectionId : Id) : ProviderCall S3ProviderAdapter
  | createPresignedUpload (address : Address) (contentType : Option String) :
      ProviderCall PresignedTransfer
  | createPresignedDownload (address : Address) : ProviderCall PresignedTransfer
  | createPresignedUploadPart (address : Address) (uploadId : Nat) (partNumber : Int) :
      ProviderCall PresignedTransfer
  | createMultipartUpload (address : Address) (contentType : Option String) : ProviderCall Nat
  | completeMultipartUpload (address : Address) (uploadId : Nat) (parts : List (String × Int)) :
      ProviderCall Unit
  | abortMultipartUpload (address : Address) (uploadId : Nat) : ProviderCall Unit
  | headObject (address : Address) : ProviderCall ProviderObjectMetadata
  | objectExists (address : Address) : ProviderCall Bool
  | getObject (address : Address) : ProviderCall ProviderObjectMetadata
  | putObject (address : Address) (contentType : Option String) (contentLengthBytes : Int) :
      ProviderCall Unit
  /-- `givenUp` is the session whose upload is given up by this, if any; the
  provider does not see it. -/
  | deleteObject (address : Address) (givenUp : Option Id) : ProviderCall Unit

/-! ## Commands -/

inductive Command : Type → Type 1 where
  /-- One query outside a transaction; the relations it includes are separate
  statements. -/
  | query {α : Type} (body : Tx α) : Command (Except Failure α)
  | transaction {α : Type} (body : Tx α) : Command (Except Failure α)
  | provider {α : Type} (call : ProviderCall α) : Command (Except Failure α)
  | now : Command Time
  | randomUUID : Command Id
  | randomInt (maxExclusive : Int) : Command Int
  /-- Start `processItem` for each of these items, all at once. -/
  | processItems (work : List (MigrationItem × MigrationItemState)) (retryDelayMs : Nat) :
      Command Unit
  /-- Wait until everything that was started in this process has ended, or until
  one of the started programs has failed. -/
  | settled : Command (Except Failure Unit)

/-- A service: a program of commands. -/
abbrev Service (α : Type) : Type 1 :=
  Program Command Phase Failure α

/-- Perform a command whose answer may be an error. -/
def attempt {α : Type} (command : Command (Except Failure α)) : Service α :=
  .perform command (fun _ => none) .ofExcept

def query {α : Type} (body : Tx α) : Service α :=
  attempt (.query body)

def transaction {α : Type} (body : Tx α) : Service α :=
  attempt (.transaction body)

def provider {α : Type} (call : ProviderCall α) : Service α :=
  attempt (.provider call)

/-- `new Date()` -/
def currentTime : Service Time :=
  .perform .now (fun _ => none) .pure

def randomUUID : Service Id :=
  .perform .randomUUID (fun _ => none) .pure

def randomInt (maxExclusive : Int) : Service Int :=
  .perform (.randomInt maxExclusive) (fun _ => none) .pure

/-- Draw an identifier and show a phase that names it. -/
def randomUUIDNoting (note : Id → Phase) : Service Id :=
  .perform .randomUUID (fun id => some (note id)) .pure

/-! ## Adapters -/

namespace S3ProviderAdapter

variable (adapter : S3ProviderAdapter)

def address (bucketName : String) (key : PhysicalKey) : Address :=
  { providerConnectionId := adapter.providerConnectionId, bucketName, physicalKey := key }

def createPresignedUpload (bucketName : String) (key : PhysicalKey)
    (contentType : Option String) : Service PresignedTransfer :=
  provider (.createPresignedUpload (adapter.address bucketName key) contentType)

def createPresignedDownload (bucketName : String) (key : PhysicalKey) :
    Service PresignedTransfer :=
  provider (.createPresignedDownload (adapter.address bucketName key))

def createPresignedUploadPart (bucketName : String) (key : PhysicalKey) (uploadId : Nat)
    (partNumber : Int) : Service PresignedTransfer :=
  if partNumber < 1 ∨ 10000 < partNumber then
    throw (.rangeError "partNumber must be between 1 and 10000")
  else
    provider (.createPresignedUploadPart (adapter.address bucketName key) uploadId partNumber)

def createMultipartUpload (bucketName : String) (key : PhysicalKey)
    (contentType : Option String) : Service Nat :=
  provider (.createMultipartUpload (adapter.address bucketName key) contentType)

def completeMultipartUpload (bucketName : String) (key : PhysicalKey) (uploadId : Nat)
    (parts : List (String × Int)) : Service Unit :=
  if parts.length = 0 ∨ 10000 < parts.length then
    throw (.rangeError "multipart completion requires 1 to 10000 parts")
  else
    provider (.completeMultipartUpload (adapter.address bucketName key) uploadId parts)

def abortMultipartUpload (bucketName : String) (key : PhysicalKey) (uploadId : Nat) :
    Service Unit :=
  provider (.abortMultipartUpload (adapter.address bucketName key) uploadId)

def headObject (bucketName : String) (key : PhysicalKey) : Service ProviderObjectMetadata :=
  provider (.headObject (adapter.address bucketName key))

def objectExists (bucketName : String) (key : PhysicalKey) : Service Bool :=
  provider (.objectExists (adapter.address bucketName key))

def getObject (bucketName : String) (key : PhysicalKey) : Service ProviderObjectMetadata :=
  provider (.getObject (adapter.address bucketName key))

def putObject (bucketName : String) (key : PhysicalKey) (contentType : Option String)
    (contentLengthBytes : Int) : Service Unit :=
  provider (.putObject (adapter.address bucketName key) contentType contentLengthBytes)

def deleteObject (bucketName : String) (key : PhysicalKey) (givenUp : Option Id := none) :
    Service Unit :=
  provider (.deleteObject (adapter.address bucketName key) givenUp)

end S3ProviderAdapter

/-- The provider connection of an organization that has credentials. -/
def findProvider (organizationId providerId : Id) : Tx (Option ProviderConnection) := do
  match ← providerConnection.findFirst fun row =>
      row.id == providerId && row.organizationId == organizationId with
  | none => pure none
  | some connection =>
      match ← providerCredential.findFirst fun row => row.providerConnectionId == connection.id with
      | none => pure none
      | some _ => pure (some connection)

/-- The adapter of a provider connection.  The API and the worker each have
their own, and differ in the error for a connection that is not there. -/
def adapterForOr (missing : Failure) (organizationId providerId : Id) :
    Service S3ProviderAdapter := do
  match ← query (findProvider organizationId providerId) with
  | none => throw missing
  | some connection => provider (.connect connection.id)

/-- `ProviderConnectionService.adapterFor` -/
def adapterFor (organizationId providerId : Id) : Service S3ProviderAdapter :=
  adapterForOr .providerConnectionNotFound organizationId providerId

/-- `WorkerProviderResolver.adapterFor` -/
def workerAdapterFor (organizationId providerId : Id) : Service S3ProviderAdapter :=
  adapterForOr (.error "PROVIDER_NOT_FOUND") organizationId providerId

/-! ## Strings -/

/-- `String.prototype.startsWith` -/
def startsWith (text start : String) : Bool :=
  start.toList.isPrefixOf text.toList

/-- `String.prototype.endsWith` -/
def endsWith (text ending : String) : Bool :=
  ending.toList.isSuffixOf text.toList

/-- `String.prototype.slice` from an index on. -/
def sliceFrom (text : String) (index : Nat) : String :=
  String.ofList (text.toList.drop index)

/-- `String.prototype.slice` without the last characters. -/
def sliceEnd (text : String) (count : Nat) : String :=
  String.ofList (text.toList.take (text.toList.length - count))

/-- `String.prototype.length`, the number of UTF-16 units. -/
def utf16Length (text : String) : Nat :=
  text.toList.foldr (fun char units => units + if char.toNat < 0x10000 then 1 else 2) 0

end Mosp.Services
