import Mosp.Database.Rows
import Mosp.Sql.Constraint
import Mosp.Sql.Transaction
import Mathlib.Tactic.Simps.Basic

/-!
# The tables of the placement policies

Namespaces with their policies and the targets of these, and the rows of the
uploads that refer to targets.  The services of this part write policies,
targets and the activity log; the other tables are only referred to.
-/

namespace Mosp.Policies

open Mosp.Concurrency Mosp.Data Mosp.Sql
open Mosp.Database (Id Time NamespaceStatus NamespaceTransferMode PlacementPolicyStatus
  BucketConnection UploadSession ObjectRecord ObjectLocation)

inductive NamespaceVersioningMode where
  | disabled
  deriving DecidableEq

inductive PlacementPolicyStrategy where
  | priorityWeighted
  deriving DecidableEq

structure VirtualNamespace where
  id : Id
  organizationId : Id
  name : String
  slug : String
  status : NamespaceStatus := .active
  quotaBytes : Int
  maxObjectSizeBytes : Option Int := none
  defaultTransferMode : NamespaceTransferMode := .direct
  versioningMode : NamespaceVersioningMode := .disabled
  createdAt : Time := 0
  updatedAt : Time := 0
  deriving DecidableEq

structure PlacementPolicy where
  id : Id
  namespaceId : Id
  organizationId : Id
  strategy : PlacementPolicyStrategy := .priorityWeighted
  status : PlacementPolicyStatus := .active
  createdAt : Time := 0
  updatedAt : Time := 0
  deriving DecidableEq

/-- The columns of a target that a request chooses. -/
structure TargetConfiguration where
  bucketConnectionId : Id
  priorityTier : Int
  weight : Int
  configuredCapacityBytes : Option Int
  thresholdPercent : Int
  enabled : Bool
  deriving DecidableEq

structure PlacementTarget extends TargetConfiguration where
  id : Id
  policyId : Id
  organizationId : Id
  createdAt : Time := 0
  updatedAt : Time := 0
  deriving DecidableEq

/-- The metadata of the events that the service records. -/
structure ActivityMetadata where
  targetCount : Nat
  strategy : PlacementPolicyStrategy
  status : PlacementPolicyStatus
  deriving DecidableEq

structure ActivityLog where
  id : Id
  organizationId : Id
  actorId : Id
  action : String
  entityType : String
  entityId : Id
  requestId : String
  metadata : ActivityMetadata
  createdAt : Time := 0
  deriving DecidableEq

instance : Row VirtualNamespace := ⟨VirtualNamespace.id⟩
instance : Row PlacementPolicy := ⟨PlacementPolicy.id⟩
instance : Row PlacementTarget := ⟨PlacementTarget.id⟩
instance : Row ActivityLog := ⟨ActivityLog.id⟩

@[simp]
theorem rowId_bucketConnection (row : BucketConnection) : Row.id row = row.id :=
  rfl

@[simp]
theorem rowId_virtualNamespace (row : VirtualNamespace) : Row.id row = row.id :=
  rfl

@[simp]
theorem rowId_placementPolicy (row : PlacementPolicy) : Row.id row = row.id :=
  rfl

@[simp]
theorem rowId_placementTarget (row : PlacementTarget) : Row.id row = row.id :=
  rfl

@[simp]
theorem rowId_activityLog (row : ActivityLog) : Row.id row = row.id :=
  rfl

structure Db where
  bucketConnection : Table BucketConnection := .empty
  virtualNamespace : Table VirtualNamespace := .empty
  placementPolicy : Table PlacementPolicy := .empty
  placementTarget : Table PlacementTarget := .empty
  uploadSession : Table UploadSession := .empty
  objectRecord : Table ObjectRecord := .empty
  objectLocation : Table ObjectLocation := .empty
  activityLog : Table ActivityLog := .empty

/-- A single row write. -/
inductive Write where
  | placementPolicy (row : PlacementPolicy)
  | placementTarget (row : PlacementTarget)
  | activityLog (row : ActivityLog)
  | erasePlacementTarget (id : Id)

namespace Db

def write (db : Db) : Write → Db
  | .placementPolicy row => { db with placementPolicy := db.placementPolicy.put row }
  | .placementTarget row => { db with placementTarget := db.placementTarget.put row }
  | .activityLog row => { db with activityLog := db.activityLog.put row }
  | .erasePlacementTarget id => { db with placementTarget := db.placementTarget.erase id }

/-- Transactions run in one piece here, so nothing is locked. -/
instance : Sql.Database Db Write Unit where
  write := write
  locks _ := []

@[simp]
theorem database_write (db : Db) (change : Write) : Sql.Database.write db change = db.write change :=
  rfl

end Db

inductive Failure where
  | namespaceNotFound
  | placementBucketNotFound
  | typeError (message : String)
  /-- An error of the database client with its code. -/
  | database (code message : String)
  deriving DecidableEq

instance : DatabaseError Failure where
  notFound := .database "P2025" "Record not found"
  duplicate := .database "P2002" "PRIMARY"

/-! ## Constraints -/

/-- The values that the columns of a target admit. -/
def admitted (row : TargetConfiguration) : Bool :=
  (0 ≤ row.priorityTier && row.priorityTier ≤ 2147483647) &&
    (0 < row.weight && row.weight ≤ 2147483647) &&
    row.configuredCapacityBytes.all (fun bytes => 0 ≤ bytes && bytes ≤ 9223372036854775807) &&
    (0 ≤ row.thresholdPercent && row.thresholdPercent ≤ 100)

/-- The unique indexes, foreign keys and checks of the tables that are written, and the foreign
keys that refer to them. -/
inductive Constraint where
  | placementPolicyNamespace
  | placementTargetKey
  | placementPolicyNamespaceReference
  | placementTargetPolicyReference
  | placementTargetBucketReference
  | uploadSessionTargetReference
  | placementTargetChecks
  deriving DecidableEq

namespace Constraint

/-- What a constraint says about the database.  Foreign keys carry the organization along. -/
@[reducible]
def Holds (db : Db) : Constraint → Prop
  | .placementPolicyNamespace => Unique db.placementPolicy fun row => some row.namespaceId
  | .placementTargetKey =>
      Unique db.placementTarget fun row => some (row.policyId, row.bucketConnectionId)
  | .placementPolicyNamespaceReference =>
      References db.placementPolicy (fun row => some (row.namespaceId, row.organizationId))
        db.virtualNamespace fun row => (row.id, row.organizationId)
  | .placementTargetPolicyReference =>
      References db.placementTarget (fun row => some (row.policyId, row.organizationId))
        db.placementPolicy fun row => (row.id, row.organizationId)
  | .placementTargetBucketReference =>
      References db.placementTarget (fun row => some (row.bucketConnectionId, row.organizationId))
        db.bucketConnection fun row => (row.id, row.organizationId)
  | .uploadSessionTargetReference =>
      References db.uploadSession (fun row => some (row.placementTargetId, row.organizationId))
        db.placementTarget fun row => (row.id, row.organizationId)
  | .placementTargetChecks => Checked db.placementTarget fun row => admitted row.toTargetConfiguration

instance (db : Db) (constraint : Constraint) : Decidable (constraint.Holds db) := by
  cases constraint <;> exact inferInstance

/-- The error for a constraint that does not hold. -/
def failure : Constraint → Failure
  | .placementPolicyNamespace => .database "P2002" "namespaceId"
  | .placementTargetKey => .database "P2002" "policyId,bucketConnectionId"
  | .placementTargetChecks => .database "P2010" "check"
  | _ => .database "P2003" "foreign key"

end Constraint

/-- The constraints in the order in which they are consulted. -/
def constraints : List Constraint :=
  [.placementPolicyNamespace, .placementTargetKey, .placementPolicyNamespaceReference,
    .placementTargetPolicyReference, .placementTargetBucketReference,
    .uploadSessionTargetReference, .placementTargetChecks]

/-- The first constraint that the database breaks. -/
def violation (db : Db) : Option Failure :=
  (constraints.find? fun constraint => !decide (constraint.Holds db)).map Constraint.failure

/-- Every constraint holds. -/
def Valid (db : Db) : Prop :=
  ∀ constraint : Constraint, constraint.Holds db

theorem mem_constraints (constraint : Constraint) : constraint ∈ constraints := by
  cases constraint <;> decide

theorem violation_eq_none {db : Db} : violation db = none ↔ Valid db :=
  violated_eq_none mem_constraints

/-! ## Models -/

/-- A transaction body over the tables. -/
abbrev Tx (α : Type) : Type 1 :=
  Sql.Tx Db Write Unit Failure Unit α

@[simps table]
def bucketConnection : Relation Db Unit BucketConnection where
  table := Db.bucketConnection
  rowLock _ := ()

@[simps table]
def virtualNamespace : Relation Db Unit VirtualNamespace where
  table := Db.virtualNamespace
  rowLock _ := ()

@[simps toRelation_table put created updated]
def placementPolicy : Model Db Write Unit PlacementPolicy where
  table := Db.placementPolicy
  rowLock _ := ()
  put := .placementPolicy
  created now row := { row with createdAt := now, updatedAt := now }
  updated now row := { row with updatedAt := now }

@[simps toModel_toRelation_table toModel_put toModel_created toModel_updated erase]
def placementTarget : ErasableModel Db Write Unit PlacementTarget where
  table := Db.placementTarget
  rowLock _ := ()
  put := .placementTarget
  created now row := { row with createdAt := now, updatedAt := now }
  updated now row := { row with updatedAt := now }
  erase := .erasePlacementTarget

@[simps toRelation_table put created updated]
def activityLog : Model Db Write Unit ActivityLog where
  table := Db.activityLog
  rowLock _ := ()
  put := .activityLog
  created now row := { row with createdAt := now }

end Mosp.Policies
