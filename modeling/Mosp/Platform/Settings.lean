import Mosp.Platform.Schema

/-!
# Platform settings

`PlatformService`: reading the settings, and changing several of them in one
transaction.  Each is read in one statement, compared with the version that the
request expects, and written by its identifier in another.
-/

namespace Mosp.Platform

open Mosp.Concurrency Mosp.Data Mosp.Database Mosp.Sql

/-- The service reaches nothing besides the database. -/
inductive Elsewhere : Type → Type 1

abbrev Service (α : Type) : Type 1 :=
  Program (Exchange Elsewhere Db Write Lock Failure) Phase Failure α

/-- A transaction whose error is thrown; `note` is shown when it has ended. -/
def transaction {α : Type} (body : Tx α) (note : Except Failure α → Option Phase := fun _ => none) :
    Service α :=
  body.transact note

structure PlatformActionMetadata where
  actorId : Id
  requestId : String

structure PlatformSettingSummary where
  key : PlatformSettingKey
  value : JsonValue
  version : Nat
  updatedAt : Option Time
  /-- The identifier and the email of the user. -/
  updatedBy : Option (Id × String)

/-- `DEFAULT_PLATFORM_SETTINGS` -/
def defaultPlatformSettings : PlatformSettingKey → JsonValue
  | .maintenanceMode => .bool false
  | .defaultQuotaBytes => .string "10737418240"
  | .defaultMaxObjectSizeBytes => .null
  | .defaultTransferMode => .string "DIRECT"
  | .proxyMaxObjectSizeBytes => .string "1073741824"
  | .proxyTransferTimeoutSeconds => .number 300
  | .storageMaxInFlight => .number 100
  | .migrationMaxConcurrentPerProvider => .number 2
  | .migrationRetryDelaySeconds => .number 60
  | .providerHealthCheckIntervalSeconds => .number 60

/-- `Object.keys(DEFAULT_PLATFORM_SETTINGS)` -/
def settingKeys : List PlatformSettingKey :=
  [.maintenanceMode, .defaultQuotaBytes, .defaultMaxObjectSizeBytes, .defaultTransferMode,
    .proxyMaxObjectSizeBytes, .proxyTransferTimeoutSeconds, .storageMaxInFlight,
    .migrationMaxConcurrentPerProvider, .migrationRetryDelaySeconds,
    .providerHealthCheckIntervalSeconds]

namespace PlatformService

def toSettingSummary (setting : PlatformSetting) (updatedBy : Option User) :
    PlatformSettingSummary :=
  { key := setting.key
    value := setting.value
    version := setting.version
    updatedAt := some setting.updatedAt
    updatedBy := updatedBy.map fun user => (user.id, user.email) }

/-- The summary of a key among the stored settings and their users. -/
def summaryOf (stored : List (PlatformSetting × Option User)) (key : PlatformSettingKey) :
    PlatformSettingSummary :=
  match stored.find? fun entry => entry.1.key == key with
  | none =>
      { key
        value := defaultPlatformSettings key
        version := 0
        updatedAt := none
        updatedBy := none }
  | some (setting, updatedBy) => toSettingSummary setting updatedBy

def getSettings : Service (List PlatformSettingSummary) := do
  let stored ← transaction (.read fun db =>
    (platformSetting.select (fun _ => true)
      (fun first second => decide (first.key.text ≤ second.key.text)) db).map fun setting =>
        (setting, db.user.find? fun user => setting.updatedById == some user.id))
  return (settingKeys.insertionSort fun first second => first.text ≤ second.text).map
    (summaryOf stored)

/-- The write of one iteration of the loop of `updateSettings`. -/
def writeSetting (metadata : PlatformActionMetadata) (key : PlatformSettingKey) (value : JsonValue)
    (nextVersion : Nat) : Option PlatformSetting → Tx PlatformSetting
  | some current =>
      platformSetting.update (fun row => row.id == current.id) fun row =>
        { row with value, version := nextVersion, updatedById := some metadata.actorId }
  | none => do
      let id ← Tx.randomUUID
      platformSetting.create
        { id, key, value, version := nextVersion, updatedById := some metadata.actorId }

/-- The audit event of one iteration. -/
def logUpdate (metadata : PlatformActionMetadata) (key : PlatformSettingKey) : Tx ActivityLog := do
  let id ← Tx.randomUUID
  activityLog.create
    { id
      organizationId := none
      actorId := some metadata.actorId
      action := "platform.settings.update"
      entityType := "PlatformSetting"
      entityId := key.text
      requestId := metadata.requestId
      changedKey := key.text }

/-- What the first query of an iteration shows. -/
def noteUpdating (key : PlatformSettingKey) :
    Except Failure (Option PlatformSetting) → Option Phase
  | .ok found => some (.updating key (found.map PlatformSetting.version))
  | .error _ => none

/-- One iteration of the loop: the row that it writes. -/
def updateSetting (input : PlatformSettingsUpdateRequest) (metadata : PlatformActionMetadata)
    (key : PlatformSettingKey) (value : JsonValue) : Tx PlatformSetting := do
  let current ← Program.noting (noteUpdating key)
    (platformSetting.findFirst fun row => row.key == key)
  let currentVersion := (current.map PlatformSetting.version).getD 0
  Program.throwIf ((input.expectedVersion key).any (· != currentVersion) = true)
    .platformSettingVersionConflict
  let written ← writeSetting metadata key value (currentVersion + 1) current
  let _ ← logUpdate metadata key
  return written

/-- The loop over the entries of `input.values`. -/
def updateEach (input : PlatformSettingsUpdateRequest) (metadata : PlatformActionMetadata) :
    List (PlatformSettingKey × Option JsonValue) → Tx (List PlatformSetting)
  | [] => return []
  | (_, none) :: rest => updateEach input metadata rest
  | (key, some value) :: rest => do
      let written ← updateSetting input metadata key value
      let others ← updateEach input metadata rest
      return written :: others

/-- What the transaction of `updateSettings` shows when it has ended. -/
def noteUpdated (input : PlatformSettingsUpdateRequest) :
    Except Failure (List PlatformSetting) → Option Phase
  | .ok rows => some (.updated input rows)
  | .error .platformSettingVersionConflict => some .conflicted
  | .error _ => some .failed

def updateSettings (input : PlatformSettingsUpdateRequest) (metadata : PlatformActionMetadata) :
    Service (List PlatformSettingSummary) := do
  let _ ← transaction (updateEach input metadata input.values) (noteUpdated input)
  getSettings

end PlatformService

end Mosp.Platform
