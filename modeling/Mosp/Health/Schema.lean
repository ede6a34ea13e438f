import Mosp.Database.Rows
import Mosp.Provider.Endpoint
import Mosp.Sql.Atomic
import Mosp.Sql.Constraint
import Mathlib.Tactic.Simps.Basic

/-!
# The tables of the provider connections

Provider connections with their configuration, their credentials and what was
found out about them.
-/

namespace Mosp.Health

open Mosp.Concurrency Mosp.Data Mosp.Sql
open Mosp.Database (Id Time ProviderStatus ActivityLog)

inductive ProviderType where
  | awsS3 | cloudflareR2 | backblazeB2 | minio | genericS3
  deriving DecidableEq

inductive AddressingMode where
  | auto | virtualHosted | pathStyle
  deriving DecidableEq

/-- `healthDetails` -/
structure HealthDetails where
  code : Option String := none
  bucketCount : Option Nat := none
  deriving DecidableEq

structure ProviderConnection where
  id : Id
  organizationId : Id
  displayName : String
  type : ProviderType
  endpoint : String
  region : String
  addressingMode : AddressingMode := .auto
  status : ProviderStatus := .pending
  lastHealthCheckedAt : Option Time := none
  healthDetails : Option HealthDetails := none
  createdAt : Time := 0
  updatedAt : Time := 0

abbrev Bytes := List UInt8

structure EncryptedProviderCredential where
  algorithm : String
  authTag : Bytes
  encryptedDataKey : Bytes
  encryptedPayload : Bytes
  formatVersion : Nat
  iv : Bytes
  keyVersion : String
  deriving DecidableEq

structure ProviderCredential where
  id : Id
  providerConnectionId : Id
  encrypted : EncryptedProviderCredential
  createdAt : Time := 0
  rotatedAt : Option Time := none

structure ProviderCapability where
  id : Id
  providerConnectionId : Id
  capability : String
  supported : Bool
  details : Option (List (String × String)) := none
  testedAt : Time

instance : Row ProviderConnection := ⟨ProviderConnection.id⟩
instance : Row ProviderCredential := ⟨ProviderCredential.id⟩
instance : Row ProviderCapability := ⟨ProviderCapability.id⟩

@[simp]
theorem rowId_providerConnection (row : ProviderConnection) : Row.id row = row.id :=
  rfl

@[simp]
theorem rowId_providerCredential (row : ProviderCredential) : Row.id row = row.id :=
  rfl

structure Db where
  providerConnection : Table ProviderConnection := .empty
  providerCredential : Table ProviderCredential := .empty
  providerCapability : Table ProviderCapability := .empty
  activityLog : Table ActivityLog := .empty

instance : Inhabited Db :=
  ⟨{}⟩

/-- A single row write. -/
inductive Write where
  | providerConnection (row : ProviderConnection)
  | providerCredential (row : ProviderCredential)
  | providerCapability (row : ProviderCapability)
  | activityLog (row : ActivityLog)

namespace Db

def write (db : Db) : Write → Db
  | .providerConnection row => { db with providerConnection := db.providerConnection.put row }
  | .providerCredential row => { db with providerCredential := db.providerCredential.put row }
  | .providerCapability row => { db with providerCapability := db.providerCapability.put row }
  | .activityLog row => { db with activityLog := db.activityLog.put row }

/-- Transactions run in one piece here, so nothing is locked. -/
instance : Sql.Database Db Write Unit where
  write := write
  locks _ := []

@[simp]
theorem database_write (db : Db) (change : Write) : Sql.Database.write db change = db.write change :=
  rfl

end Db

/-! ## Errors and phases -/

inductive Failure where
  | providerConnectionNotFound
  | providerConnectionValidationError (code : String)
  /-- `new Error(message)` -/
  | error (message : String)
  | rangeError (message : String)
  /-- An error of the storage provider's client. -/
  | provider (name : String) (httpStatusCode : Option Nat)
  /-- An error of the database client with its code. -/
  | database (code message : String)
  deriving DecidableEq

instance : DatabaseError Failure where
  notFound := .database "P2025" "Record not found"
  duplicate := .database "P2002" "PRIMARY"

structure ProviderCredentialPayload where
  accessKeyId : String
  secretAccessKey : String
  sessionToken : Option String := none
  deriving DecidableEq

/-- What a client is connected with. -/
structure Configuration where
  endpoint : String
  region : String
  addressingMode : AddressingMode
  credentials : ProviderCredentialPayload
  deriving DecidableEq

/-- What a call has in hand. -/
inductive Phase where
  | idle
  /-- A test with this configuration has succeeded; that is going to be recorded for the
  provider. -/
  | recording (providerId : Id) (configuration : Configuration)
  deriving DecidableEq

instance : Inhabited Phase :=
  ⟨.idle⟩

@[simp]
theorem default_phase : (default : Phase) = .idle :=
  rfl

/-! ## Constraints -/

/-- The unique indexes and foreign keys of the tables that are written. -/
inductive Constraint where
  | providerConnectionDisplayName
  | providerCredentialConnection
  | providerCapabilityKey
  | providerCredentialProvider
  | providerCapabilityProvider
  deriving DecidableEq

namespace Constraint

/-- What a constraint says about the database. -/
@[reducible]
def Holds (db : Db) : Constraint → Prop
  | .providerConnectionDisplayName =>
      Unique db.providerConnection fun row => some (row.organizationId, row.displayName)
  | .providerCredentialConnection =>
      Unique db.providerCredential fun row => some row.providerConnectionId
  | .providerCapabilityKey =>
      Unique db.providerCapability fun row => some (row.providerConnectionId, row.capability)
  | .providerCredentialProvider =>
      References db.providerCredential (fun row => some row.providerConnectionId)
        db.providerConnection ProviderConnection.id
  | .providerCapabilityProvider =>
      References db.providerCapability (fun row => some row.providerConnectionId)
        db.providerConnection ProviderConnection.id

instance (db : Db) (constraint : Constraint) : Decidable (constraint.Holds db) := by
  cases constraint <;> exact inferInstance

/-- The error for a constraint that does not hold. -/
def failure : Constraint → Failure
  | .providerConnectionDisplayName => .database "P2002" "organizationId,displayName"
  | .providerCredentialConnection => .database "P2002" "providerConnectionId"
  | .providerCapabilityKey => .database "P2002" "providerConnectionId,capability"
  | _ => .database "P2003" "foreign key"

end Constraint

/-- The constraints in the order in which they are consulted. -/
def constraints : List Constraint :=
  [.providerConnectionDisplayName, .providerCredentialConnection, .providerCapabilityKey,
    .providerCredentialProvider, .providerCapabilityProvider]

/-- The first constraint that the database breaks. -/
def violation (db : Db) : Option Failure :=
  (constraints.find? fun constraint => !decide (constraint.Holds db)).map Constraint.failure

/-! ## Models -/

/-- A transaction body over the tables. -/
abbrev Tx (α : Type) : Type 1 :=
  Sql.Tx Db Write Unit Failure Phase α

@[simps toRelation_table put created updated]
def providerConnection : Model Db Write Unit ProviderConnection where
  table := Db.providerConnection
  rowLock _ := ()
  put := .providerConnection
  created now row := { row with createdAt := now, updatedAt := now }
  updated now row := { row with updatedAt := now }

@[simps toRelation_table put created updated]
def providerCredential : Model Db Write Unit ProviderCredential where
  table := Db.providerCredential
  rowLock _ := ()
  put := .providerCredential
  created now row := { row with createdAt := now }

@[simps toRelation_table put created updated]
def providerCapability : Model Db Write Unit ProviderCapability where
  table := Db.providerCapability
  rowLock _ := ()
  put := .providerCapability

@[simps toRelation_table put created updated]
def activityLog : Model Db Write Unit ActivityLog where
  table := Db.activityLog
  rowLock _ := ()
  put := .activityLog
  created now row := { row with createdAt := now }

end Mosp.Health
