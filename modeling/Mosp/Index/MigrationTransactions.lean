import Mosp.Index.SessionTransactions
import Mosp.Index.Lookups
import Mosp.Worker.MigrationReconciliation

/-!
# Transactions on migrations as actions of the catalog

Creating a run schedules its items, the worker makes progress on them, and a
switch moves a record to its copy.
-/

namespace Mosp.Index

open Mosp.Concurrency Mosp.Data Mosp.Sql Mosp.Database Mosp.Services Mosp.Worker

variable {check : Db → Option Failure} {time : Time} {state : State Db}

/-! ## Creating a run -/

/-- The items of a run as they are scheduled: their target keys are drawn between two
states of the supply of identifiers. -/
structure Scheduled (migrationId : Id) (objects : List (ObjectRecord × Option ObjectLocation))
    (low high : Nat) (rows : List MigrationItem) : Prop where
  drawn : ∀ row ∈ rows, ∃ namespaceId, ∃ uuid : Nat, low ≤ uuid ∧ uuid < high ∧
    row.migrationRunId = migrationId ∧
    row.targetPhysicalKey = .migration namespaceId migrationId uuid
  distinct : rows.Pairwise fun first second => first.targetPhysicalKey ≠ second.targetPhysicalKey
  source : ∀ row ∈ rows, ∃ entry ∈ objects, ∃ location ∈ entry.2,
    location.id = row.sourceLocationId

theorem wp_items {organizationId migrationId : Id} {input : MigrationCreateRequest}
    {objects : List (ObjectRecord × Option ObjectLocation)}
    {returns : List MigrationItem → State Db → Prop}
    (goes : ∀ rows after, after.db = state.db → state.nextId ≤ after.nextId →
      Scheduled migrationId objects state.nextId after.nextId rows → returns rows after) :
    Tx.wp check time (MigrationService.items organizationId migrationId input objects) returns
      (fun _ => True) state := by
  induction objects generalizing state returns with
  | nil => exact goes [] state rfl (Nat.le_refl _) ⟨by simp, .nil, by simp⟩
  | cons entry rest ih =>
      obtain ⟨record, location⟩ := entry
      have skipped : Tx.wp check time (MigrationService.items organizationId migrationId input rest)
          returns (fun _ => True) state := by
        apply ih
        intro rows after same later scheduled
        apply goes rows after same later
        refine ⟨scheduled.drawn, scheduled.distinct, fun row member => ?_⟩
        obtain ⟨other, otherMem, from_⟩ := scheduled.source row member
        exact ⟨other, List.mem_cons_of_mem _ otherMem, from_⟩
      unfold MigrationService.items
      cases location with
      | none => exact skipped
      | some location =>
          dsimp only
          split
          · exact skipped
          · simp only [Program.bind_eq, Program.pure_eq, Tx.wp_bind, Tx.wp_randomUUID, Tx.wp_pure]
            apply ih
            intro rows after same later scheduled
            simp only [State.issue_nextId] at later
            apply goes
            · exact same
            · omega
            constructor
            · intro row member
              rcases List.mem_cons.mp member with rfl | member
              · exact ⟨_, state.nextId + 1, by omega, by omega, rfl, rfl⟩
              · obtain ⟨namespaceId, uuid, low, high, own⟩ := scheduled.drawn row member
                simp only [State.issue_nextId] at low
                exact ⟨namespaceId, uuid, by omega, high, own⟩
            · apply List.Pairwise.cons _ scheduled.distinct
              intro row member sameKey
              obtain ⟨namespaceId, uuid, low, _, _, key⟩ := scheduled.drawn row member
              rw [key, State.issue_nextId, PhysicalKey.migration.injEq] at sameKey
              obtain ⟨_, _, rfl⟩ := sameKey
              exact Nat.not_succ_le_self _ low
            · intro row member
              rcases List.mem_cons.mp member with rfl | member
              · exact ⟨_, List.mem_cons_self, location, rfl, rfl⟩
              · obtain ⟨other, otherMem, from_⟩ := scheduled.source row member
                exact ⟨other, List.mem_cons_of_mem _ otherMem, from_⟩

/-- Creating the rows changes nothing about that. -/
theorem Scheduled.created {migrationId : Id} {objects : List (ObjectRecord × Option ObjectLocation)}
    {low high : Nat} {rows : List MigrationItem}
    (scheduled : Scheduled migrationId objects low high rows) (time : Time) :
    Scheduled migrationId objects low high (rows.map (migrationItem.created time)) where
  drawn row member := by
    obtain ⟨other, otherMem, rfl⟩ := List.mem_map.mp member
    exact scheduled.drawn other otherMem
  distinct := List.pairwise_map.mpr scheduled.distinct
  source row member := by
    obtain ⟨other, otherMem, rfl⟩ := List.mem_map.mp member
    exact scheduled.source other otherMem

theorem Scheduled.mono {migrationId : Id} {objects : List (ObjectRecord × Option ObjectLocation)}
    {low high later : Nat} {rows : List MigrationItem}
    (scheduled : Scheduled migrationId objects low high rows) (le : high ≤ later) :
    Scheduled migrationId objects low later rows where
  drawn row member := by
    obtain ⟨namespaceId, uuid, above, below, own⟩ := scheduled.drawn row member
    exact ⟨namespaceId, uuid, above, Nat.lt_of_lt_of_le below le, own⟩
  distinct := scheduled.distinct
  source := scheduled.source

/-- Keys that are drawn later are not in use. -/
theorem Scheduled.unused {catalog : Catalog} {nextId migrationId : Id}
    {objects : List (ObjectRecord × Option ObjectLocation)} {high : Nat} {rows : List MigrationItem}
    (scheduled : Scheduled migrationId objects nextId high rows)
    (consistent : Consistent catalog nextId) {row : MigrationItem} (member : row ∈ rows) :
    (∀ other ∈ catalog.items, other.targetPhysicalKey ≠ row.targetPhysicalKey) ∧
      ∀ location ∈ catalog.locations, location.physicalKey ≠ row.targetPhysicalKey := by
  obtain ⟨namespaceId, uuid, above, _, _, key⟩ := scheduled.drawn row member
  constructor
  · intro other otherMem sameKey
    obtain ⟨_, otherUuid, below, otherKey⟩ := consistent.itemKey other otherMem
    rw [key, otherKey, PhysicalKey.migration.injEq] at sameKey
    obtain ⟨_, _, rfl⟩ := sameKey
    exact Nat.not_le_of_lt below above
  · intro location locationMem sameKey
    have below := consistent.locationKey location locationMem
    rw [sameKey, key] at below
    exact Nat.not_le_of_lt below above

/-- New items with new target keys can be scheduled one after the other. -/
theorem enables_schedule {catalog : Catalog} {nextId low migrationId : Id}
    {objects : List (ObjectRecord × Option ObjectLocation)} {rows : List MigrationItem}
    (scheduled : Scheduled migrationId objects low nextId rows)
    (ids : (rows.map MigrationItem.id).Nodup)
    (free : ∀ row ∈ rows, ∀ other ∈ catalog.items, other.id ≠ row.id ∧
      other.targetPhysicalKey ≠ row.targetPhysicalKey)
    (unused : ∀ row ∈ rows, ∀ location ∈ catalog.locations,
      location.physicalKey ≠ row.targetPhysicalKey)
    (sources : ∀ entry ∈ objects, ∀ location ∈ entry.2,
      ∃ row ∈ catalog.locations, row.id = location.id) :
    catalog.Enables nextId (rows.map .schedule) := by
  induction rows generalizing catalog with
  | nil => trivial
  | cons row rest ih =>
      obtain ⟨namespaceId, uuid, _, below, run, key⟩ := scheduled.drawn row List.mem_cons_self
      obtain ⟨entry, entryMem, location, locationEq, sourceId⟩ :=
        scheduled.source row List.mem_cons_self
      obtain ⟨source, sourceMem, sourceEq⟩ := sources entry entryMem location locationEq
      obtain ⟨ownKey, otherKeys⟩ := List.pairwise_cons.mp scheduled.distinct
      obtain ⟨ownId, otherIds⟩ := List.nodup_cons.mp ids
      refine ⟨⟨free row List.mem_cons_self, unused row List.mem_cons_self,
        ⟨source, sourceMem, sourceEq.trans sourceId⟩, namespaceId, uuid, below, run ▸ key⟩, ?_⟩
      apply ih
      · refine ⟨fun other otherMem => scheduled.drawn other (List.mem_cons_of_mem _ otherMem),
          otherKeys, fun other otherMem => scheduled.source other (List.mem_cons_of_mem _ otherMem)⟩
      · exact otherIds
      · intro other otherMem present presentMem
        rcases Table.mem_put.mp presentMem with rfl | ⟨inTable, _⟩
        · constructor
          · intro sameId
            exact ownId (List.mem_map.mpr ⟨other, otherMem, sameId.symm⟩)
          · exact ownKey other otherMem
        · exact free other (List.mem_cons_of_mem _ otherMem) present inTable
      · exact fun other otherMem => unused other (List.mem_cons_of_mem _ otherMem)
      · exact sources

theorem catalogOf_schedule (rows : List MigrationItem) (db : Db) :
    catalogOf ((rows.map Write.migrationItem).foldl Database.write db) =
      (rows.map Action.schedule).foldl Catalog.after (catalogOf db) := by
  induction rows generalizing db with
  | nil => rfl
  | cons row rest ih => exact ih (db.write (.migrationItem row))

theorem wp_migrationLogActivity {organizationId : Id} {metadata : MigrationActionMetadata}
    {action : String} {migrationId : Id} {returns : Unit → State Db → Prop}
    (goes : ∀ after : State Db, state.nextId ≤ after.nextId →
      catalogOf after.db = catalogOf state.db → returns () after) :
    Tx.wp check time (MigrationService.logActivity organizationId metadata action migrationId)
      returns (fun _ => True) state := by
  simp only [MigrationService.logActivity, Program.bind_eq, Program.pure_eq, Tx.wp_bind,
    Tx.wp_randomUUID, Tx.wp_create, Tx.wp_pure]
  split
  · trivial
  · apply Tx.Written.of_goes
    exact goes _ (Nat.le_succ _) rfl

/-- Creating a run schedules its items. -/
theorem wp_createTransaction {organizationId migrationId : Id} {input : MigrationCreateRequest}
    {metadata : MigrationActionMetadata} {objects : List (ObjectRecord × Option ObjectLocation)}
    (consistent : Consistent (catalogOf state.db) state.nextId)
    (sources : ∀ entry ∈ objects, ∀ location ∈ entry.2,
      ∃ row ∈ state.db.objectLocation, row.id = location.id) :
    Tx.wp check time
      (MigrationService.createTransaction organizationId migrationId input metadata objects)
      (fun _ after => ∃ rows : List MigrationItem, PerformsAll state after (rows.map .schedule))
      (fun _ => True) state := by
  simp only [MigrationService.createTransaction, Program.bind_eq, Program.pure_eq, Tx.wp_bind,
    Tx.wp_create, Tx.wp_runIf, Tx.wp_pure]
  split
  · trivial
  · apply Tx.Written.of_goes
    constructor
    · intro _
      apply wp_items
      intro rows drawn drawnDb later scheduled
      apply Tx.wp_createMany trivial
      intro freeIds ids
      apply Tx.Written.of_goes
      apply wp_migrationLogActivity
      intro after afterLater catalog
      refine ⟨rows.map (migrationItem.created time), Nat.le_trans later afterLater, ?_, ?_⟩
      · have stamped := (scheduled.mono afterLater).created time
        apply enables_schedule stamped ids
        · intro row member other otherMem
          constructor
          · apply freeIds row member
            rw [drawnDb]
            exact otherMem
          · exact (stamped.unused consistent member).1 other otherMem
        · intro row member
          exact (stamped.unused consistent member).2
        · exact sources
      · rw [catalog]
        apply (catalogOf_schedule (rows.map (migrationItem.created time)) drawn.db).trans
        rw [drawnDb]
        rfl
    · intro _
      apply wp_migrationLogActivity
      intro after later catalog
      exact ⟨[], later, trivial, catalog⟩

/-- The other commands on runs leave the catalog as it is. -/
theorem wp_controlTransaction {organizationId migrationId : Id} {action : MigrationAction}
    {startedAt : Option Time} {metadata : MigrationActionMetadata} :
    Tx.wp check time
      (MigrationService.controlTransaction organizationId migrationId action startedAt metadata)
      (fun _ after => Performs state after .rest) (fun _ => True) state := by
  simp only [MigrationService.controlTransaction, Program.bind_eq, Tx.wp_bind, Tx.wp_now,
    Tx.wp_throwIf]
  apply Tx.wp_updateMany_byId migrationId
  · intro row matches_
    simp only [Bool.and_eq_true, beq_iff_eq] at matches_
    exact matches_.1.1
  · intro row _ _
    apply Tx.Written.of_goes
    refine ⟨fun _ => trivial, fun _ => ?_⟩
    apply wp_migrationLogActivity
    intro after later catalog
    rw [Tx.wp_findFirstOrThrow]
    split
    · trivial
    · exact .rest later catalog
  · intro _
    exact ⟨fun _ => trivial, fun several => absurd Nat.zero_ne_one several⟩

theorem catalogOf_migrationRuns (rows : List MigrationRun) (db : Db) :
    catalogOf ((rows.map Write.migrationRun).foldl Database.write db) = catalogOf db := by
  induction rows generalizing db with
  | nil => rfl
  | cons row rest ih => exact ih (db.write (.migrationRun row))

theorem wp_updateRuns {condition : MigrationRun → Bool} {data : MigrationRun → MigrationRun} :
    Tx.wp check time (migrationRun.updateMany condition data : Database.Tx Nat)
      (fun _ after => Performs state after .rest) (fun _ => True) state := by
  rw [Tx.wp_updateMany]
  apply Tx.Written.of_goes
  constructor
  · exact Nat.le_refl _
  · trivial
  · have unchanged := catalogOf_migrationRuns
      ((state.db.migrationRun.filter condition).map fun row => migrationRun.updated time (data row))
      state.db
    rw [List.map_map] at unchanged
    exact unchanged

/-! ## Working on an item -/

/-- A step of an item, or none. -/
def Works (action : Action) : Prop :=
  action = .rest ∨ ∃ item, action = .work item

/-- What follows such a step and leaves the catalog as it is. -/
theorem Works.followed {before middle after : State Db} {action : Action} (works : Works action)
    (performs : Performs before middle action) (later : middle.nextId ≤ after.nextId)
    (same : catalogOf after.db = catalogOf middle.db) : Performs before after action := by
  refine ⟨Nat.le_trans performs.later later, ?_, same.trans performs.catalog⟩
  rcases works with rfl | ⟨item, rfl⟩
  · trivial
  · exact performs.enabled

/-- A statement that changes the progress of one item. -/
theorem wp_updateItem {condition : MigrationItem → Bool} {data : MigrationItem → MigrationItem}
    {returns : Nat → State Db → Prop} (id : Id) (byId : ∀ row, condition row = true → row.id = id)
    (terms : ∀ row, itemTerms (data row) = itemTerms row)
    (goes : ∀ changed after action, after.nextId = state.nextId → Works action →
      Performs state after action → returns changed after) :
    Tx.wp check time (migrationItem.updateMany condition data : Database.Tx Nat) returns
      (fun _ => True) state := by
  apply Tx.wp_updateMany_byId id byId
  · intro row member _
    apply Tx.Written.of_goes
    apply goes 1 (state.write [Write.migrationItem { data row with updatedAt := time }])
      (.work { data row with updatedAt := time }) rfl (.inr ⟨_, rfl⟩)
    exact ⟨Nat.le_refl _, ⟨row, member, (terms row).symm⟩, rfl⟩
  · intro _
    exact goes 0 state .rest rfl (.inl rfl) (.rest (Nat.le_refl _) rfl)

/-- Claiming an item is an update under a condition on the run. -/
theorem wp_claimStatement_iff {id organizationId : Id} {previousState : MigrationItemState}
    {returns : Nat → State Db → Prop} {throws : Failure → Prop} :
    Tx.wp check time
        (MigrationReconciliationService.claimStatement id organizationId previousState) returns
        throws state ↔
      Tx.wp check time (migrationItem.updateMany
        (fun row => row.id == id && row.organizationId == organizationId &&
          row.state == previousState && state.db.migrationRun.rows.any fun run =>
            run.id == row.migrationRunId && run.organizationId == row.organizationId &&
              run.state == .running)
        fun row => { row with
          state := .copying, attempts := row.attempts + 1, lastError := none } :
            Database.Tx Nat) returns throws state := by
  unfold MigrationReconciliationService.claimStatement
  rw [Tx.wp_statement, Tx.wp_updateMany]
  rfl

theorem wp_claimStatement {id organizationId : Id} {previousState : MigrationItemState} :
    Tx.wp check time
      (MigrationReconciliationService.claimStatement id organizationId previousState)
      (fun _ after => ∃ action, Works action ∧ Performs state after action) (fun _ => True)
      state := by
  rw [wp_claimStatement_iff]
  apply wp_updateItem id
  · intro row matches_
    simp only [Bool.and_eq_true, beq_iff_eq] at matches_
    exact matches_.1.1.1
  · exact fun _ => rfl
  · intro _ after action _ works performs
    exact ⟨action, works, performs⟩

/-- Marking an item and its run. -/
theorem wp_markFailedTransaction {id organizationId : Id} {previousState : MigrationItemState}
    {message : String} {nextAttemptAt : Time} :
    Tx.wp check time
      (MigrationReconciliationService.markFailedTransaction id organizationId previousState message
        nextAttemptAt)
      (fun _ after => ∃ action, Works action ∧ Performs state after action) (fun _ => True)
      state := by
  simp only [MigrationReconciliationService.markFailedTransaction, Program.bind_eq,
    Program.pure_eq, Tx.wp_bind]
  apply wp_updateItem id
  · intro row matches_
    simp only [Bool.and_eq_true, beq_iff_eq] at matches_
    exact matches_.1.1
  · exact fun _ => rfl
  · intro changed after action afterId works performs
    split
    · exact ⟨action, works, performs⟩
    · rw [Tx.wp_bind, Tx.wp_statement]
      apply Tx.Written.of_goes
      refine ⟨action, works, works.followed performs (Nat.le_refl _) ?_⟩
      have unchanged := catalogOf_migrationRuns
        ((after.db.migrationRun.filter fun run => after.db.migrationItem.rows.any fun item =>
          item.migrationRunId == run.id && item.organizationId == run.organizationId &&
            item.id == id && item.organizationId == organizationId).map fun run =>
          { run with
            lastError := some message
            failedItems := if previousState = .failed then run.failedItems else run.failedItems + 1
            updatedAt := time }) after.db
      rw [List.map_map] at unchanged
      exact unchanged

theorem wp_cancelTransaction {item : MigrationItem} :
    Tx.wp check time (MigrationReconciliationService.cancelTransaction item)
      (fun _ after => ∃ action, Works action ∧ Performs state after action) (fun _ => True)
      state := by
  simp only [MigrationReconciliationService.cancelTransaction, Program.bind_eq, Program.pure_eq,
    Tx.wp_bind, Tx.wp_runIf]
  apply wp_updateItem item.id
  · intro row matches_
    simp only [Bool.and_eq_true, beq_iff_eq] at matches_
    exact matches_.1.1
  · exact fun _ => rfl
  · intro changed after action afterId works performs
    constructor
    · intro _
      apply Tx.wp_mono wp_updateRuns _ fun _ _ => trivial
      intro _ last rest
      exact ⟨action, works, works.followed performs rest.later rest.catalog⟩
    · intro _
      exact ⟨action, works, performs⟩

/-! ## Switching -/

open MigrationReconciliationService in
theorem wp_completeItem {migrationRunId : Id} {wasPreviouslyFailed : Bool}
    {returns : Unit → State Db → Prop}
    (goes : ∀ after : State Db, after.nextId = state.nextId →
      catalogOf after.db = catalogOf state.db → returns () after) :
    Tx.wp check time (completeItem migrationRunId wasPreviouslyFailed) returns (fun _ => True)
      state := by
  simp only [completeItem, Program.bind_eq, Program.pure_eq, Tx.wp_bind, Tx.wp_update]
  split
  · trivial
  · apply Tx.Written.of_goes
    exact goes _ rfl rfl

open MigrationReconciliationService in
theorem wp_skipItem {item : MigrationItem} {lastError : String} {returns : Unit → State Db → Prop}
    (goes : ∀ after action, Works action → Performs state after action → returns () after) :
    Tx.wp check time (skipItem item lastError) returns (fun _ => True) state := by
  simp only [skipItem, Program.bind_eq, Program.pure_eq, Tx.wp_bind]
  apply wp_updateItem item.id
  · intro row matches_
    simp only [Bool.and_eq_true, beq_iff_eq] at matches_
    exact matches_.1.1
  · exact fun _ => rfl
  · intro _ after action _ works performs
    exact goes after action works performs

open MigrationReconciliationService in
/-- A copy that is not a location yet becomes one. -/
theorem wp_upsertTarget {item : MigrationItem} {returns : ObjectLocation → State Db → Prop}
    (unused : ∀ location ∈ state.db.objectLocation,
      location.physicalKey ≠ item.targetPhysicalKey)
    (goes : ∀ target : ObjectLocation, (∀ other ∈ state.db.objectLocation, other.id ≠ target.id) →
      target.organizationId = item.organizationId → target.objectRecordId = item.objectRecordId →
      target.bucketConnectionId = item.targetBucketConnectionId →
      target.physicalKey = item.targetPhysicalKey → target.state = .active →
      returns target (state.issue.write [Write.objectLocation target])) :
    Tx.wp check time (upsertTarget item) returns (fun _ => True) state := by
  simp only [upsertTarget, Program.bind_eq, Tx.wp_bind, Tx.wp_randomUUID, Tx.wp_now, Tx.wp_upsert,
    State.issue_db]
  split
  · rename_i present found
    obtain ⟨presentMem, matches_⟩ := Table.find?_some found
    simp only [Bool.and_eq_true, beq_iff_eq] at matches_
    exact absurd matches_.2 (unused present presentMem)
  · split
    · trivial
    · rename_i free
      apply Tx.Written.of_goes
      exact goes _ (Table.get?_none.mp free) rfl rfl rfl rfl rfl

open MigrationReconciliationService in
theorem wp_retainLocation {item : MigrationItem} {location : ObjectLocation}
    {returns : Unit → State Db → Prop} (member : location ∈ state.db.objectLocation)
    (own : location.organizationId = item.organizationId) (active : location.state = .active)
    (goes : returns () (state.write
      [Write.objectLocation { location with state := .retained, updatedAt := time }])) :
    Tx.wp check time (retainLocation item location.id) returns (fun _ => True) state := by
  simp only [retainLocation, Program.bind_eq, Program.pure_eq, Tx.wp_bind]
  apply Tx.wp_updateMany_byId location.id
  · intro row matches_
    simp only [Bool.and_eq_true, beq_iff_eq] at matches_
    exact matches_.1.1
  · intro row rowMem matches_
    simp only [Bool.and_eq_true, beq_iff_eq] at matches_
    obtain rfl := Table.eq_of_id_eq rowMem member matches_.1.1
    apply Tx.Written.of_goes
    exact goes
  · intro unchanged
    have differs := unchanged location member
    simp [own, active] at differs

open MigrationReconciliationService in
theorem wp_movePointer {item : MigrationItem} {targetId : Id} {record : ObjectRecord}
    {returns : Nat → State Db → Prop} (member : record ∈ state.db.objectRecord)
    (own : record.id = item.objectRecordId ∧ record.organizationId = item.organizationId)
    (pointer : record.activeObjectLocationId = some item.sourceLocationId)
    (available : record.state = .available)
    (goes : returns 1 (state.write [Write.objectRecord
      { record with activeObjectLocationId := some targetId, modifiedAt := time }])) :
    Tx.wp check time (movePointer item targetId) returns (fun _ => True) state := by
  apply Tx.wp_updateMany_byId item.objectRecordId
  · intro row matches_
    simp only [Bool.and_eq_true, beq_iff_eq] at matches_
    exact matches_.1.1.1
  · intro row rowMem matches_
    simp only [Bool.and_eq_true, beq_iff_eq] at matches_
    obtain rfl := Table.eq_of_id_eq rowMem member (matches_.1.1.1.trans own.1.symm)
    apply Tx.Written.of_goes
    exact goes
  · intro unchanged
    have differs := unchanged record member
    simp [own, pointer, available] at differs

/-- What a switch does: nothing but progress, or the record moves to the copy.  Then the
item is completed, unless it was no longer being copied. -/
inductive Switched (before after : State Db) (item : MigrationItem) : Bool → Prop where
  | stays {action : Action} (works : Works action) (performs : Performs before after action) :
      Switched before after item false
  | moves {switched : Bool} (row : MigrationItem) {record : ObjectRecord}
      {retained target : ObjectLocation} (sameId : row.id = item.id)
      (performs : Performs before after (.migrate row record retained target)) :
      Switched before after item switched

open MigrationReconciliationService in
/-- The transaction of a switch.  With every record at the source, the copy is not yet a
location, so the pointer always moves. -/
theorem wp_switchTransaction {item : MigrationItem} {wasPreviouslyFailed : Bool}
    (consistent : Consistent (catalogOf state.db) state.nextId)
    (known : ∃ row ∈ state.db.migrationItem, itemTerms row = itemTerms item) :
    Tx.wp check time (switchTransaction item wasPreviouslyFailed)
      (fun switched after => Switched state after item switched) (fun _ => True) state := by
  obtain ⟨old, oldMem, terms⟩ := known
  have sameId : old.id = item.id := (congrArg MigrationItem.id terms :)
  have sameSource : old.sourceLocationId = item.sourceLocationId :=
    (congrArg MigrationItem.sourceLocationId terms :)
  have sameKey : old.targetPhysicalKey = item.targetPhysicalKey :=
    (congrArg MigrationItem.targetPhysicalKey terms :)
  simp only [switchTransaction, Program.bind_eq, Program.pure_eq, Tx.wp_bind, Tx.wp_findFirst]
  split
  · rw [Tx.wp_bind]
    apply wp_skipItem
    intro after action works performs
    exact .stays works performs
  · rw [Tx.wp_bind, Tx.wp_findFirst]
    split
    · rw [Tx.wp_bind]
      apply wp_skipItem
      intro skipped action works performs
      rw [Tx.wp_bind]
      apply wp_completeItem
      intro after afterId catalog
      exact .stays works (works.followed performs (Nat.le_of_eq afterId.symm) catalog)
    · rename_i running present
      obtain ⟨record, recordFound⟩ := Option.ne_none_iff_exists'.mp
        (mt Option.isNone_iff_eq_none.mpr present)
      obtain ⟨recordMem, matches_⟩ := Table.find?_some recordFound
      simp only [Bool.and_eq_true, beq_iff_eq] at matches_
      obtain ⟨⟨⟨recordId, recordOrganization⟩, available⟩, pointer⟩ := matches_
      obtain ⟨_, source, sourceMem, sourceId, owner, tenant, active⟩ :=
        consistent.pointer record recordMem item.sourceLocationId pointer
      have unused : ∀ location ∈ state.db.objectLocation,
          location.physicalKey ≠ item.targetPhysicalKey := by
        intro location locationMem used
        apply consistent.moved old oldMem location locationMem (used.trans sameKey.symm) record
          recordMem
        rw [sameSource]
        exact pointer
      rw [Tx.wp_bind]
      apply wp_upsertTarget unused
      intro target fresh targetOrganization targetOwner targetBucket targetKey targetActive
      rw [Tx.wp_bind, ← sourceId]
      have sourceKept : source ∈ state.db.objectLocation.put target :=
        Table.mem_put.mpr (.inr ⟨sourceMem, fresh source sourceMem⟩)
      apply wp_retainLocation
      · exact sourceKept
      · exact tenant.trans recordOrganization
      · exact active
      rw [Tx.wp_bind]
      apply wp_movePointer
      · exact recordMem
      · exact ⟨recordId, recordOrganization⟩
      · exact pointer
      · exact available
      rw [if_neg (fun several => absurd rfl several), Tx.wp_bind]
      have moves : ∀ (row : MigrationItem) (switched : Bool) (after : State Db),
          itemTerms old = itemTerms row → state.nextId ≤ after.nextId →
          catalogOf after.db = (catalogOf state.db).after (.migrate row
            { record with activeObjectLocationId := some target.id, modifiedAt := time }
            { source with state := .retained, updatedAt := time } target) →
          Switched state after item switched := by
        intro row switched after rowTerms later catalog
        have itemEq : itemTerms row = itemTerms item := rowTerms.symm.trans terms
        suffices enabled : (Action.migrate row
            { record with activeObjectLocationId := some target.id, modifiedAt := time }
            { source with state := .retained, updatedAt := time } target).Enabled
              (catalogOf state.db) after.nextId from
          .moves row (congrArg MigrationItem.id itemEq :) ⟨later, enabled, catalog⟩
        refine ⟨⟨old, oldMem, rowTerms⟩, ⟨record, recordMem, ?_, available, ?_, rfl, ?_⟩,
          ⟨rfl, source, sourceMem, ?_, rfl⟩, fresh, targetActive, ?_, ?_, ?_⟩
        · exact recordId.trans (congrArg MigrationItem.objectRecordId itemEq :).symm
        · exact pointer.trans (congrArg some (congrArg MigrationItem.sourceLocationId itemEq :)).symm
        · exact targetOrganization.trans recordOrganization.symm
        · exact sourceId.trans (congrArg MigrationItem.sourceLocationId itemEq :).symm
        · exact targetOwner.trans (congrArg MigrationItem.objectRecordId itemEq :).symm
        · exact targetBucket.trans
            (congrArg MigrationItem.targetBucketConnectionId itemEq :).symm
        · exact targetKey.trans (congrArg MigrationItem.targetPhysicalKey itemEq :).symm
      apply Tx.wp_updateMany_byId item.id
      · intro row matches_
        simp only [Bool.and_eq_true, beq_iff_eq] at matches_
        exact matches_.1.1
      · intro row rowMem matches_
        simp only [Bool.and_eq_true, beq_iff_eq] at matches_
        obtain rfl := Table.eq_of_id_eq rowMem oldMem (matches_.1.1.trans sameId.symm)
        apply Tx.Written.of_goes
        rw [if_neg (fun several => absurd rfl several), Tx.wp_bind]
        apply wp_completeItem
        intro counted countedId countedCatalog
        simp only [Tx.wp_bind, Tx.wp_randomUUID, Tx.wp_create, Tx.wp_pure]
        split
        · trivial
        · apply Tx.Written.of_goes
          apply moves { row with
            state := .completed, lastError := none, nextAttemptAt := none, updatedAt := time }
          · rfl
          · show state.nextId ≤ counted.nextId + 1
            rw [countedId]
            exact Nat.le_add_right state.nextId 2
          · apply countedCatalog.trans
            apply (catalogOf_migrationItem _ _).trans
            rfl
      · intro _
        rw [if_pos Nat.zero_ne_one]
        apply moves old
        · rfl
        · exact Nat.le_succ state.nextId
        · have unchanged : state.db.migrationItem.put old = state.db.migrationItem :=
            Table.put_eq_self oldMem
          exact congrArg (fun items => { catalogOf state.db with
            records := state.db.objectRecord.put
              { record with activeObjectLocationId := some target.id, modifiedAt := time }
            locations := (state.db.objectLocation.put target).put
              { source with state := .retained, updatedAt := time }
            items }) unchanged.symm

end Mosp.Index
