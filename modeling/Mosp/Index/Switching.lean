import Mosp.Database.Constraints
import Mosp.Index.MigrationTransactions

/-!
# How the work on an item ends

The two transactions that end the work on a claimed item.  A switch moves the
record to the copy or skips the item; a failure is noted on the item and its run.
-/

namespace Mosp.Database.Valid

open Mosp.Data Mosp.Sql

variable {db : Db}

/-- An item may change its progress. -/
theorem update_migrationItem (valid : Valid db) {old : MigrationItem} (row : MigrationItem)
    (oldMem : old ∈ db.migrationItem)
    (same : row = { old with
      state := row.state
      attempts := row.attempts
      lastError := row.lastError
      nextAttemptAt := row.nextAttemptAt
      updatedAt := row.updatedAt }) :
    Valid (db.write (.migrationItem row)) := by
  rw [same]
  intro constraint
  have before := valid constraint
  cases constraint
  case migrationItemObjectRecordKey => exact Unique.put_same before oldMem rfl rfl
  case migrationItemOrganization => exact References.put_same before oldMem rfl
  case migrationItemMigrationRun => exact References.put_same before oldMem rfl
  case migrationItemObjectRecord => exact References.put_same before oldMem rfl
  all_goals exact before

/-- A run may change its counters and its last error. -/
theorem update_migrationRun (valid : Valid db) {old : MigrationRun} (row : MigrationRun)
    (oldMem : old ∈ db.migrationRun)
    (same : row = { old with
      completedItems := row.completedItems
      failedItems := row.failedItems
      lastError := row.lastError
      updatedAt := row.updatedAt }) :
    Valid (db.write (.migrationRun row)) := by
  rw [same]
  intro constraint
  have before := valid constraint
  cases constraint
  case migrationRunActiveNamespace => exact Unique.put_same before oldMem rfl rfl
  case migrationRunOrganization => exact References.put_same before oldMem rfl
  case migrationRunNamespace => exact References.put_same before oldMem rfl
  case migrationRunSourceBucketConnection => exact References.put_same before oldMem rfl
  case migrationRunTargetBucketConnection => exact References.put_same before oldMem rfl
  case migrationRunInitiatedBy => exact References.put_same before oldMem rfl
  case migrationItemMigrationRun =>
    refine References.put_referenced before fun other otherMem sameId => ?_
    rw [Table.eq_of_id_eq otherMem oldMem sameId]
  all_goals exact before

end Mosp.Database.Valid

namespace Mosp.Index

open Mosp.Concurrency Mosp.Data Mosp.Sql Mosp.Database Mosp.Services Mosp.Worker
open MigrationReconciliationService

/-- The row of the item, in some state. -/
def ItemIs (item : MigrationItem) (db : Db) (state : MigrationItemState) : Prop :=
  ∃ row ∈ db.migrationItem, row.id = item.id ∧ row.organizationId = item.organizationId ∧
    row.state = state

/-- Records and locations are as they were. -/
structure SameIndex (before after : Db) : Prop where
  objectRecord : after.objectRecord = before.objectRecord
  objectLocation : after.objectLocation = before.objectLocation

/-- The item moves its object to a location that the object does not have yet. -/
def Relocates (item : MigrationItem) (db : Db) : Prop :=
  ∀ location ∈ db.objectLocation, location.id = item.sourceLocationId →
    ¬(location.bucketConnectionId = item.targetBucketConnectionId ∧
      location.physicalKey = item.targetPhysicalKey)

/-- The record has moved from the source to the copy. -/
structure Moved (item : MigrationItem) (before after : Db) : Prop where
  running : ∃ run ∈ before.migrationRun, run.id = item.migrationRunId ∧
    run.organizationId = item.organizationId ∧ run.state = .running
  pointer : ∃ record ∈ before.objectRecord, ∃ moved ∈ after.objectRecord,
    ∃ target ∈ after.objectLocation,
      record.id = item.objectRecordId ∧ record.organizationId = item.organizationId ∧
      record.state = .available ∧ record.activeObjectLocationId = some item.sourceLocationId ∧
      moved.id = record.id ∧ moved.activeObjectLocationId = some target.id ∧
      target.id ≠ item.sourceLocationId ∧
      target.bucketConnectionId = item.targetBucketConnectionId ∧
      target.physicalKey = item.targetPhysicalKey ∧ target.state = .active

variable {check : Db → Option Failure} {time : Time} {state : State Db} {item : MigrationItem}

theorem Relocates.same {before after : Db} (relocates : Relocates item before)
    (same : SameIndex before after) : Relocates item after := by
  intro location member
  rw [same.objectLocation] at member
  exact relocates location member

/-! ## Parts of a switch -/

/-- Ending the work on a claimed item. -/
theorem wp_endItem {throws : Failure → Prop} {data : MigrationItem → MigrationItem}
    {returns : Nat → State Db → Prop} (claimed : ItemIs item state.db .copying)
    (written : ∀ row ∈ state.db.migrationItem, row.id = item.id →
      row.organizationId = item.organizationId →
      Tx.Written check throws state [Write.migrationItem { data row with updatedAt := time }]
        (returns 1)) :
    Tx.wp check time
      (migrationItem.updateMany
        (fun row => row.id == item.id && row.organizationId == item.organizationId &&
          row.state == .copying) data : Database.Tx Nat) returns throws state := by
  obtain ⟨row, member, sameId, tenant, copying⟩ := claimed
  apply Tx.wp_updateMany_byId item.id
  · intro other matches_
    simp only [Bool.and_eq_true, beq_iff_eq] at matches_
    exact matches_.1.1
  · intro other otherMem matches_
    simp only [Bool.and_eq_true, beq_iff_eq] at matches_
    exact written other otherMem matches_.1.1 matches_.1.2
  · intro unchanged
    have differs := unchanged row member
    simp [sameId, tenant, copying] at differs

theorem wp_skipClaimed {lastError : String} {returns : Unit → State Db → Prop}
    (claimed : ItemIs item state.db .copying)
    (goes : ∀ after : State Db, SameIndex state.db after.db → ItemIs item after.db .skipped →
      returns () after) :
    Tx.wp check time (skipItem item lastError) returns (fun _ => True) state := by
  simp only [skipItem, Program.bind_eq, Program.pure_eq, Tx.wp_bind]
  apply wp_endItem claimed
  intro row member sameId tenant
  apply Tx.Written.of_goes
  apply goes
  · exact ⟨rfl, rfl⟩
  · exact ⟨_, Table.mem_put_self _ _, sameId, tenant, rfl⟩

/-- The copy is an active location afterwards, and not the source. -/
theorem wp_upsertCopy {returns : ObjectLocation → State Db → Prop}
    (relocates : Relocates item state.db)
    (source : ∃ location ∈ state.db.objectLocation, location.id = item.sourceLocationId)
    (goes : ∀ target : ObjectLocation, target.id ≠ item.sourceLocationId →
      target.bucketConnectionId = item.targetBucketConnectionId →
      target.physicalKey = item.targetPhysicalKey → target.state = .active →
      returns target (state.issue.write [Write.objectLocation target])) :
    Tx.wp check time (upsertTarget item) returns (fun _ => True) state := by
  obtain ⟨location, locationMem, locationId⟩ := source
  simp only [upsertTarget, Program.bind_eq, Tx.wp_bind, Tx.wp_randomUUID, Tx.wp_now, Tx.wp_upsert,
    State.issue_db]
  split
  · rename_i present found
    obtain ⟨presentMem, matches_⟩ := Table.find?_some found
    simp only [Bool.and_eq_true, beq_iff_eq] at matches_
    apply Tx.Written.of_goes
    apply goes
    · exact fun same => relocates present presentMem same ⟨matches_.1.2, matches_.2⟩
    · exact matches_.1.2
    · exact matches_.2
    · rfl
  · split
    · trivial
    · rename_i free
      apply Tx.Written.of_goes
      apply goes
      · exact fun same => Table.get?_none.mp free location locationMem (locationId.trans same.symm)
      · rfl
      · rfl
      · rfl

/-- Another location is not touched. -/
theorem wp_retainOther {locationId : Id} {target : ObjectLocation}
    {returns : Unit → State Db → Prop} (member : target ∈ state.db.objectLocation)
    (other : target.id ≠ locationId)
    (goes : ∀ after : State Db,
      after.db = { state.db with objectLocation := after.db.objectLocation } →
      target ∈ after.db.objectLocation → returns () after) :
    Tx.wp check time (retainLocation item locationId) returns (fun _ => True) state := by
  simp only [retainLocation, Program.bind_eq, Program.pure_eq, Tx.wp_bind]
  apply Tx.wp_updateMany_byId locationId
  · intro row matches_
    simp only [Bool.and_eq_true, beq_iff_eq] at matches_
    exact matches_.1.1
  · intro row rowMem matches_
    simp only [Bool.and_eq_true, beq_iff_eq] at matches_
    apply Tx.Written.of_goes
    apply goes
    · rfl
    · exact Table.mem_put.mpr (.inr ⟨member, fun same => other (same.trans matches_.1.1)⟩)
  · exact fun _ => goes state rfl member

/-! ## The two transactions -/

/-- How a switch of a claimed item ends. -/
inductive SwitchEnds (item : MigrationItem) (before after : Db) : Bool → Prop where
  | moved (moved : Moved item before after) : SwitchEnds item before after true
  | skipped (same : SameIndex before after) (ended : ItemIs item after .skipped) :
      SwitchEnds item before after false

/-- A switch moves the record, or leaves the index alone and skips the item. -/
theorem wp_switchClaimed {wasPreviouslyFailed : Bool} (valid : Valid state.db)
    (claimed : ItemIs item state.db .copying) (relocates : Relocates item state.db) :
    Tx.wp check time (switchTransaction item wasPreviouslyFailed)
      (fun switched after => SwitchEnds item state.db after.db switched) (fun _ => True) state := by
  simp only [switchTransaction, Program.bind_eq, Program.pure_eq, Tx.wp_bind, Tx.wp_findFirst]
  split
  · rw [Tx.wp_bind]
    exact wp_skipClaimed claimed fun after same ended => .skipped same ended
  · rename_i runs
    rw [Tx.wp_bind, Tx.wp_findFirst]
    split
    · rw [Tx.wp_bind]
      apply wp_skipClaimed claimed
      intro skipped same ended
      rw [Tx.wp_bind]
      apply wp_completeItem
      intro after _ catalog
      have records : after.db.objectRecord = skipped.db.objectRecord :=
        (congrArg Catalog.records catalog :)
      have locations : after.db.objectLocation = skipped.db.objectLocation :=
        (congrArg Catalog.locations catalog :)
      have items : after.db.migrationItem = skipped.db.migrationItem :=
        (congrArg Catalog.items catalog :)
      refine .skipped ⟨records.trans same.objectRecord, locations.trans same.objectLocation⟩ ?_
      unfold ItemIs
      rw [items]
      exact ended
    · rename_i present
      obtain ⟨run, runFound⟩ := Option.ne_none_iff_exists'.mp
        (mt Option.isNone_iff_eq_none.mpr runs)
      obtain ⟨runMem, runMatches⟩ := Table.find?_some runFound
      simp only [Bool.and_eq_true, beq_iff_eq] at runMatches
      obtain ⟨record, recordFound⟩ := Option.ne_none_iff_exists'.mp
        (mt Option.isNone_iff_eq_none.mpr present)
      obtain ⟨recordMem, recordMatches⟩ := Table.find?_some recordFound
      simp only [Bool.and_eq_true, beq_iff_eq] at recordMatches
      obtain ⟨⟨⟨recordId, tenant⟩, available⟩, pointer⟩ := recordMatches
      rw [Tx.wp_bind]
      apply wp_upsertCopy relocates
      · exact valid .objectRecordActiveObjectLocation record recordMem _ pointer
      intro target other bucket key active
      rw [Tx.wp_bind]
      apply wp_retainOther (Table.mem_put_self state.db.objectLocation target) other
      intro retained retainedDb targetMem
      have recordKept : record ∈ retained.db.objectRecord := by
        rw [retainedDb]
        exact recordMem
      rw [Tx.wp_bind]
      apply wp_movePointer recordKept ⟨recordId, tenant⟩ pointer available
      rw [if_neg (fun several => absurd rfl several), Tx.wp_bind]
      have stillClaimed : ItemIs item retained.db .copying := by
        unfold ItemIs
        rw [retainedDb]
        exact claimed
      refine wp_endItem stillClaimed fun row _ _ _ => ?_
      apply Tx.Written.of_goes
      rw [if_neg (fun several => absurd rfl several), Tx.wp_bind]
      apply wp_completeItem
      intro counted _ catalog
      have records : counted.db.objectRecord = retained.db.objectRecord.put
          { record with activeObjectLocationId := some target.id, modifiedAt := time } :=
        (congrArg Catalog.records catalog :)
      have locations : counted.db.objectLocation = retained.db.objectLocation :=
        (congrArg Catalog.locations catalog :)
      simp only [Tx.wp_bind, Tx.wp_randomUUID, Tx.wp_create, Tx.wp_pure]
      split
      · trivial
      · apply Tx.Written.of_goes
        refine .moved ⟨⟨run, runMem, runMatches.1.1, runMatches.1.2, runMatches.2⟩, record, recordMem,
          { record with activeObjectLocationId := some target.id, modifiedAt := time }, ?_, target,
          ?_, recordId, tenant, available, pointer, rfl, rfl, other, bucket, key, active⟩
        · show _ ∈ counted.db.objectRecord
          rw [records]
          exact Table.mem_put_self _ _
        · show target ∈ counted.db.objectLocation
          rw [locations]
          exact targetMem

/-- A run that has this item is the one that the item names. -/
theorem runId_of_item {db : Db} {row : MigrationItem} {run : MigrationRun} {organizationId : Id}
    (member : row ∈ db.migrationItem)
    (matches_ : (db.migrationItem.rows.any fun other => other.migrationRunId == run.id &&
      other.organizationId == run.organizationId && other.id == row.id &&
      other.organizationId == organizationId) = true) : run.id = row.migrationRunId := by
  obtain ⟨other, otherMem, conditions⟩ := List.any_eq_true.mp matches_
  simp only [Bool.and_eq_true, beq_iff_eq] at conditions
  obtain rfl := Table.eq_of_id_eq otherMem member conditions.1.2
  exact conditions.1.1.1.symm

/-- The failure of a claimed item is always noted, and changes nothing else about the index. -/
theorem wp_markFailedClaimed {previousState : MigrationItemState} {message : String}
    {nextAttemptAt : Time} (valid : Valid state.db) (claimed : ItemIs item state.db .copying) :
    Tx.wp violation time
      (markFailedTransaction item.id item.organizationId previousState message nextAttemptAt)
      (fun _ after => SameIndex state.db after.db ∧ ItemIs item after.db .failed)
      (fun _ => False) state := by
  simp only [markFailedTransaction, Program.bind_eq, Program.pure_eq, Tx.wp_bind]
  apply wp_endItem claimed
  intro row member sameId tenant
  have failedValid := valid.update_migrationItem
    { row with
      state := .failed
      lastError := some message
      nextAttemptAt := some nextAttemptAt
      updatedAt := time } member rfl
  apply Tx.Written.of_valid
  · exact violation_eq_none.mpr failedValid
  rw [if_neg (fun several => absurd rfl several), Tx.wp_bind, Tx.wp_statement]
  have failed : ItemIs item (state.write [Write.migrationItem
      { row with
        state := .failed
        lastError := some message
        nextAttemptAt := some nextAttemptAt
        updatedAt := time }]).db .failed :=
    ⟨_, Table.mem_put_self _ _, sameId, tenant, rfl⟩
  obtain ⟨failedRow, failedMem, failedId, failedTenant, isFailed⟩ := failed
  rw [← failedId]
  rcases Table.filter_byId fun run (_ : run ∈ (state.write [Write.migrationItem
      { row with
        state := .failed
        lastError := some message
        nextAttemptAt := some nextAttemptAt
        updatedAt := time }]).db.migrationRun) => runId_of_item failedMem with
    none_ | ⟨run, runMem, _, single⟩
  · dsimp only
    rw [none_]
    exact ⟨⟨rfl, rfl⟩, failedRow, failedMem, failedId, failedTenant, isFailed⟩
  · dsimp only
    rw [single]
    apply Tx.Written.of_valid
    · exact violation_eq_none.mpr (failedValid.update_migrationRun _ runMem rfl)
    · exact ⟨⟨rfl, rfl⟩, failedRow, failedMem, failedId, failedTenant, isFailed⟩

end Mosp.Index
