import Mosp.Database.Rows
import Mosp.Sql.Constraint
import Mosp.Sql.Protocol
import Mathlib.Tactic.Simps.Basic

/-!
# The tables of the platform settings

Settings, their audit events and the users who change them.  A setting whose
key is not on the list of keys is neither read nor written, so the key of a row
is one of the list.
-/

namespace Mosp.Platform

open Mosp.Concurrency Mosp.Data Mosp.Database Mosp.Sql

inductive PlatformSettingKey where
  | maintenanceMode
  | defaultQuotaBytes
  | defaultMaxObjectSizeBytes
  | defaultTransferMode
  | proxyMaxObjectSizeBytes
  | proxyTransferTimeoutSeconds
  | storageMaxInFlight
  | migrationMaxConcurrentPerProvider
  | migrationRetryDelaySeconds
  | providerHealthCheckIntervalSeconds
  deriving DecidableEq

/-- The key as it stands in a request and in the table. -/
def PlatformSettingKey.text : PlatformSettingKey → String
  | .maintenanceMode => "maintenance_mode"
  | .defaultQuotaBytes => "default_quota_bytes"
  | .defaultMaxObjectSizeBytes => "default_max_object_size_bytes"
  | .defaultTransferMode => "default_transfer_mode"
  | .proxyMaxObjectSizeBytes => "proxy_max_object_size_bytes"
  | .proxyTransferTimeoutSeconds => "proxy_transfer_timeout_seconds"
  | .storageMaxInFlight => "storage_max_in_flight"
  | .migrationMaxConcurrentPerProvider => "migration_max_concurrent_per_provider"
  | .migrationRetryDelaySeconds => "migration_retry_delay_seconds"
  | .providerHealthCheckIntervalSeconds => "provider_health_check_interval_seconds"

/-- The JSON values that settings have. -/
inductive JsonValue where
  | null
  | bool (value : Bool)
  | number (value : Int)
  | string (value : String)
  deriving DecidableEq

structure User where
  id : Id
  email : String

structure PlatformSetting where
  id : Id
  key : PlatformSettingKey
  value : JsonValue
  version : Nat
  updatedById : Option Id := none
  createdAt : Time := 0
  updatedAt : Time := 0
  deriving DecidableEq

structure ActivityLog where
  id : Id
  organizationId : Option Id
  actorId : Option Id
  action : String
  entityType : String
  entityId : String
  requestId : String
  /-- `metadata`: the key that was changed. -/
  changedKey : String
  createdAt : Time := 0

instance : Row User := ⟨User.id⟩
instance : Row PlatformSetting := ⟨PlatformSetting.id⟩
instance : Row ActivityLog := ⟨ActivityLog.id⟩

@[simp]
theorem rowId_platformSetting (row : PlatformSetting) : Row.id row = row.id :=
  rfl

structure Db where
  user : Table User := .empty
  platformSetting : Table PlatformSetting := .empty
  activityLog : Table ActivityLog := .empty

instance : Inhabited Db :=
  ⟨{}⟩

/-- A single row write. -/
inductive Write where
  | platformSetting (row : PlatformSetting)
  | activityLog (row : ActivityLog)

/-- What can be locked: a row, or the value of a unique index that a row takes
up. -/
inductive Lock where
  | user (id : Id)
  | platformSetting (id : Id)
  | settingKey (key : PlatformSettingKey)
  | activityLog (id : Id)
  deriving DecidableEq

namespace Db

def write (db : Db) : Write → Db
  | .platformSetting row => { db with platformSetting := db.platformSetting.put row }
  | .activityLog row => { db with activityLog := db.activityLog.put row }

/-- What a write locks until its transaction ends. -/
def locks : Write → List Lock
  | .platformSetting row => [.platformSetting row.id, .settingKey row.key]
  | .activityLog row => [.activityLog row.id]

instance : Sql.Database Db Write Lock where
  write := write
  locks := locks

@[simp]
theorem database_write (db : Db) (change : Write) : Sql.Database.write db change = db.write change :=
  rfl

@[simp]
theorem database_locks (change : Write) : Sql.Database.locks Db change = locks change :=
  rfl

/-- A row lock protects the row; while a key is locked, no row comes to have it. -/
def Same : Lock → Db → Db → Prop
  | .platformSetting id, before, after =>
      after.platformSetting.get? id = before.platformSetting.get? id
  | .settingKey key, before, after =>
      ∀ row ∈ after.platformSetting, row.key = key → ∃ old ∈ before.platformSetting, old.key = key
  | _, _, _ => True

theorem same_settingKey_write {key : PlatformSettingKey} (db : Db) (change : Write)
    (free : Lock.settingKey key ∉ locks change) : Same (.settingKey key) db (db.write change) := by
  intro row member keyEq
  cases change with
  | platformSetting written =>
      rcases Table.mem_put.mp member with rfl | ⟨old, -⟩
      · exact absurd (by simp [locks, keyEq]) free
      · exact ⟨row, old, keyEq⟩
  | activityLog _ => exact ⟨row, member, keyEq⟩

instance : Guarded Db where
  Same := Same
  same_refl lock db := by
    cases lock with
    | platformSetting id => rfl
    | settingKey key => exact fun row member keyEq => ⟨row, member, keyEq⟩
    | _ => trivial
  same_trans {lock first second third} before after := by
    cases lock with
    | platformSetting id => exact Eq.trans after before
    | settingKey key =>
        intro row member keyEq
        obtain ⟨middle, middleMem, middleKey⟩ := after row member keyEq
        exact before middle middleMem middleKey
    | _ => trivial
  same_write {lock} db change free := by
    cases lock with
    | platformSetting id =>
        cases change with
        | platformSetting row =>
            have distinct : id ≠ row.id := fun same => free (by simp [locks, same])
            exact db.platformSetting.get?_put_ne distinct
        | activityLog row => rfl
    | settingKey key => exact same_settingKey_write db change free
    | _ => trivial

end Db

/-! ## Errors and phases -/

inductive Failure where
  | platformSettingVersionConflict
  /-- An error of the database client with its code. -/
  | database (code message : String)
  deriving DecidableEq

instance : DatabaseError Failure where
  notFound := .database "P2025" "Record not found"
  duplicate := .database "P2002" "PRIMARY"

structure PlatformSettingsUpdateRequest where
  /-- The entries of `values` in their order; an entry may be `undefined`. -/
  values : List (PlatformSettingKey × Option JsonValue)
  distinct : (values.map Prod.fst).Nodup := by decide
  expectedVersions : Option (List (String × Nat)) := none

/-- `input.expectedVersions?.[key]` -/
def PlatformSettingsUpdateRequest.expectedVersion (input : PlatformSettingsUpdateRequest)
    (key : PlatformSettingKey) : Option Nat :=
  input.expectedVersions.bind (List.lookup key.text)

/-- What a call has in hand or has achieved. -/
inductive Phase where
  | idle
  /-- `updateSettings` has read a setting, or has not found one. -/
  | updating (key : PlatformSettingKey) (version : Option Nat)
  /-- `updateSettings` has committed these rows. -/
  | updated (input : PlatformSettingsUpdateRequest) (rows : List PlatformSetting)
  /-- `updateSettings` has thrown a version conflict. -/
  | conflicted
  /-- `updateSettings` has thrown another error. -/
  | failed

instance : Inhabited Phase :=
  ⟨.idle⟩

@[simp]
theorem default_phase : (default : Phase) = .idle :=
  rfl

/-! ## Constraints -/

/-- The unique index, the foreign keys and the column type of the tables that are
written. -/
inductive Constraint where
  | platformSettingKey
  | platformSettingVersion
  | platformSettingUpdatedBy
  | activityLogActor
  deriving DecidableEq

namespace Constraint

/-- What a constraint says about the database. -/
@[reducible]
def Holds (db : Db) : Constraint → Prop
  | .platformSettingKey => Unique db.platformSetting fun row => some row.key
  | .platformSettingVersion =>
      Checked db.platformSetting fun row => decide (row.version ≤ 2147483647)
  | .platformSettingUpdatedBy =>
      References db.platformSetting PlatformSetting.updatedById db.user User.id
  | .activityLogActor => References db.activityLog ActivityLog.actorId db.user User.id

instance (db : Db) (constraint : Constraint) : Decidable (constraint.Holds db) := by
  cases constraint <;> exact inferInstance

/-- The error for a constraint that does not hold. -/
def failure : Constraint → Failure
  | .platformSettingKey => .database "P2002" "key"
  | .platformSettingVersion => .database "P2020" "out of range"
  | _ => .database "P2003" "foreign key"

end Constraint

/-- The constraints in the order in which they are consulted. -/
def constraints : List Constraint :=
  [.platformSettingKey, .platformSettingVersion, .platformSettingUpdatedBy, .activityLogActor]

/-- The first constraint that the database breaks. -/
def violation (db : Db) : Option Failure :=
  (constraints.find? fun constraint => !decide (constraint.Holds db)).map Constraint.failure

theorem holds_of_violation {db : Db} (none_ : violation db = none) {constraint : Constraint}
    (member : constraint ∈ constraints) : constraint.Holds db := by
  rw [violation, Option.map_eq_none_iff, List.find?_eq_none] at none_
  simpa using none_ constraint member

/-! ## Models -/

/-- A transaction body over the tables. -/
abbrev Tx (α : Type) : Type 1 :=
  Sql.Tx Db Write Lock Failure Phase α

@[simps toRelation_table put created updated]
def platformSetting : Model Db Write Lock PlatformSetting where
  table := Db.platformSetting
  rowLock := .platformSetting
  put := .platformSetting
  created now row := { row with createdAt := now, updatedAt := now }
  updated now row := { row with updatedAt := now }

@[simps toRelation_table put created updated]
def activityLog : Model Db Write Lock ActivityLog where
  table := Db.activityLog
  rowLock := .activityLog
  put := .activityLog
  created now row := { row with createdAt := now }

end Mosp.Platform
