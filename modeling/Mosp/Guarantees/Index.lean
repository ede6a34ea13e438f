import Mosp.Guarantees.Cutover
import Mosp.Guarantees.Objects

/-!
# The object index along every run

Whatever the interleaving, and whichever processes stop, the services move the
catalog only in actions that it allows, and the records in use and the active
locations belong together one to one.  From any point of a run on,
ended sessions stay as they ended, locations only move forward, and a location
that no record points at is never pointed at again.
-/

namespace Mosp.Guarantees

open Mosp.Concurrency Mosp.Data Mosp.Sql Mosp.Database Mosp.Index Mosp.Services Mosp.Worker
open Mosp.System Mosp.Conduct

theorem Fresh.placed {db : Db} (fresh : Fresh db) : Placed (catalogOf db) :=
  fun location member => absurd member (fresh.no_location location)

theorem Fresh.delivered {db : Db} (fresh : Fresh db) : Delivered (catalogOf db) :=
  fun session member => absurd member (fresh.no_session session)

/-! ## A run -/

namespace Upload

/-- Its deletion follows. -/
def deleted (calls : Calls) : Option Calls :=
  Script.resume violation calls
    [.start (.delete Overwrite.identity "reports" "report" "request"), .act 2 {} 10]

theorem publishes : ∃ calls later, published = some calls ∧ deleted calls = some later := by
  have runs : (published.bind deleted).isSome := by decide
  obtain ⟨later, ran⟩ := Option.isSome_iff_exists.mp runs
  obtain ⟨calls, published, deleted⟩ := Option.bind_eq_some_iff.mp ran
  exact ⟨calls, later, published, deleted⟩

end Upload

/-! ## Two points of a run -/

/-- Where objects are not watched, every run respects the contract. -/
theorem respects_any (constraints : Db → Option Failure) :
    Contract.Respects (machine constraints) environment
      (Permitted (fun _ => True) fun _ _ => True) (contract (limitsOf fun _ _ => False)) := by
  apply respects_permitted
  · exact fun _ _ _ careful => careful.elim
  · exact fun _ _ _ careful => careful
  · exact fun careful => careful.elim

section

variable {constraints : Db → Option Failure} {start : World} {calls later : Calls}

theorem holds_of_run (kept : WellKept start)
    (reaches : Reaches constraints (fun _ => True) (fun _ _ => True) start calls) :
    Contract.Holds (machine constraints) (contract (limitsOf fun _ _ => False)) calls := by
  apply (respects_any constraints).holds _ reaches
  exact ⟨upheld_start kept fun _ _ impossible => impossible.elim, fun _ _ found => by simp at found⟩

/-- What lies between two points of a run. -/
theorem preserves_of_run (kept : WellKept start)
    (reaches : Reaches constraints (fun _ => True) (fun _ _ => True) start calls)
    (continues : Continues constraints calls later) :
    Preserves (limitsOf fun _ _ => False) (sceneOf calls.view) (sceneOf later.view) :=
  ((respects_any constraints).rely (holds_of_run kept reaches) continues
    (Nat.le_refl later.calls.length)).toPreserves

/-- What has come about since the start. -/
theorem preserves_of_start (kept : WellKept start)
    (reaches : Reaches constraints (fun _ => True) (fun _ _ => True) start calls) :
    Preserves (limitsOf fun _ _ => False) (sceneOf ⟨[], start⟩) (sceneOf calls.view) :=
  preserves_of_run kept .refl reaches

/-! ## The catalog -/

/-- Whatever the services do between two points of a run, the catalog goes from the one to the
other in actions that it allows: the services refine it. -/
theorem services_refine_catalog (kept : WellKept start)
    (reaches : Reaches constraints (fun _ => True) (fun _ _ => True) start calls)
    (continues : Continues constraints calls later) :
    (catalogOf calls.shared.db).Run calls.shared.nextId (catalogOf later.shared.db)
      later.shared.nextId :=
  (preserves_of_run kept reaches continues).run

theorem services_refine_catalog_upload : ∃ calls later, Upload.published = some calls ∧
    Upload.deleted calls = some later ∧
    (catalogOf calls.shared.db).Run calls.shared.nextId (catalogOf later.shared.db)
      later.shared.nextId := by
  obtain ⟨calls, later, ran, continued⟩ := Upload.publishes
  have fresh : Fresh Upload.start.db := by decide
  exact ⟨calls, later, ran, continued, services_refine_catalog fresh.wellKept
    (Script.reaches_any ran) (Script.continues continued)⟩

/-! ## Records and their active locations -/

/-- The records in use and the active locations belong together one to one, within one
organization, and no other record points at a location. -/
theorem index_exact (kept : WellKept start) (placed : Placed (catalogOf start.db))
    (reaches : Reaches constraints (fun _ => True) (fun _ _ => True) start calls) :
    Set.BijOn ObjectRecord.activeObjectLocationId
        {record | record ∈ calls.shared.db.objectRecord ∧ takesSpace record = true}
        {pointer | ∃ location ∈ calls.shared.db.objectLocation,
          location.state = .active ∧ pointer = some location.id} ∧
      (∀ record ∈ calls.shared.db.objectRecord, ∀ location ∈ calls.shared.db.objectLocation,
        record.activeObjectLocationId = some location.id →
        location.objectRecordId = record.id ∧
          location.organizationId = record.organizationId) ∧
      ∀ record ∈ calls.shared.db.objectRecord, takesSpace record = false →
        record.activeObjectLocationId = none := by
  have consistent : Consistent (catalogOf calls.shared.db) calls.shared.nextId :=
    (holds_of_run kept reaches).inv.consistent
  have pointed : Placed (catalogOf calls.shared.db) :=
    (preserves_of_start kept reaches).run.placed kept.consistent placed
  refine ⟨⟨?_, ?_, ?_⟩, ?_, ?_⟩
  · rintro record ⟨recordMem, space⟩
    obtain ⟨locationId, pointer⟩ :=
      Option.ne_none_iff_exists'.mp (consistent.stored record recordMem space)
    obtain ⟨_, location, locationMem, rfl, _, _, active⟩ :=
      consistent.pointer record recordMem locationId pointer
    exact ⟨location, locationMem, active, pointer⟩
  · rintro first ⟨firstMem, firstSpace⟩ second ⟨secondMem, _⟩ same
    obtain ⟨locationId, pointer⟩ :=
      Option.ne_none_iff_exists'.mp (consistent.stored first firstMem firstSpace)
    exact consistent.pointer_unique firstMem secondMem pointer (same.symm.trans pointer)
  · rintro _ ⟨location, locationMem, active, rfl⟩
    obtain ⟨record, recordMem, _, pointer⟩ := pointed location locationMem active
    exact ⟨record, ⟨recordMem, (consistent.pointer record recordMem _ pointer).1⟩, pointer⟩
  · intro record recordMem location locationMem pointer
    obtain ⟨_, row, rowMem, sameId, owner, tenant, _⟩ :=
      consistent.pointer record recordMem location.id pointer
    obtain rfl : row = location := Table.eq_of_id_eq rowMem locationMem sameId
    exact ⟨owner, tenant⟩
  · intro record recordMem free
    by_contra pointing
    obtain ⟨locationId, pointer⟩ := Option.ne_none_iff_exists'.mp pointing
    rw [(consistent.pointer record recordMem locationId pointer).1] at free
    contradiction

theorem index_exact_upload : ∃ calls, Upload.published = some calls ∧
    ∀ record ∈ calls.shared.db.objectRecord, ∀ location ∈ calls.shared.db.objectLocation,
      record.activeObjectLocationId = some location.id →
      location.objectRecordId = record.id ∧
        location.organizationId = record.organizationId := by
  obtain ⟨calls, _, ran, _⟩ := Upload.publishes
  have fresh : Fresh Upload.start.db := by decide
  exact ⟨calls, ran, (index_exact fresh.wellKept fresh.placed (Script.reaches_any ran)).2.1⟩

/-! ## What only moves forward -/

/-- From one point of a run to a later one a session keeps its terms, and once it has ended
also its state. -/
theorem ended_sessions_final (kept : WellKept start)
    (reaches : Reaches constraints (fun _ => True) (fun _ _ => True) start calls)
    (continues : Continues constraints calls later) :
    ∀ session ∈ calls.shared.db.uploadSession, ∀ row ∈ later.shared.db.uploadSession,
      row.id = session.id → sessionTerms row = sessionTerms session ∧
        (session.state ≠ .initiated → row.state = session.state) := by
  intro session sessionMem row rowMem sameId
  have sound : Sound (limitsOf fun _ _ => False) (sceneOf calls.view) :=
    (holds_of_run kept reaches).inv.toSound
  have preserves := preserves_of_run kept reaches continues
  constructor
  · have known : SessionKnown session (sceneOf later.view) :=
      preserves.toPersists.sessionKnown (sound.sessionKnown sessionMem)
    exact known.terms row rowMem sameId
  · intro final
    have ended : Ended session.id session.state (sceneOf later.view) :=
      preserves.ended session.id session.state final (sound.ended sessionMem)
    exact ended.state row rowMem sameId

theorem ended_sessions_final_upload : ∃ calls later, Upload.published = some calls ∧
    Upload.deleted calls = some later ∧
    ∀ session ∈ calls.shared.db.uploadSession, ∀ row ∈ later.shared.db.uploadSession,
      row.id = session.id → sessionTerms row = sessionTerms session ∧
        (session.state ≠ .initiated → row.state = session.state) := by
  obtain ⟨calls, later, ran, continued⟩ := Upload.publishes
  have fresh : Fresh Upload.start.db := by decide
  exact ⟨calls, later, ran, continued,
    ended_sessions_final fresh.wellKept (Script.reaches_any ran) (Script.continues continued)⟩

/-- A location stays, never goes back, and serves at a later point only the record that it
serves now, at the same size. -/
theorem locations_forward (kept : WellKept start)
    (reaches : Reaches constraints (fun _ => True) (fun _ _ => True) start calls)
    (continues : Continues constraints calls later) :
    ∀ location ∈ calls.shared.db.objectLocation,
      (∃ row ∈ later.shared.db.objectLocation, locationTerms row = locationTerms location ∧
        stage location.state ≤ stage row.state) ∧
      ∀ record ∈ later.shared.db.objectRecord, record.activeObjectLocationId = some location.id →
        ∃ old ∈ calls.shared.db.objectRecord, old.id = record.id ∧
          old.activeObjectLocationId = some location.id ∧ old.sizeBytes = record.sizeBytes := by
  intro location locationMem
  have preserves := preserves_of_run kept reaches continues
  constructor
  · obtain ⟨row, rowMem, terms⟩ := preserves.location location locationMem
    obtain ⟨kept, keptMem, keptId, further⟩ :=
      preserves.run.location_advanced (holds_of_run kept reaches).inv.consistent locationMem
    have rowId : row.id = location.id := (congrArg ObjectLocation.id terms :)
    obtain rfl : kept = row := Table.eq_of_id_eq keptMem rowMem (keptId.trans rowId.symm)
    exact ⟨kept, keptMem, terms, further⟩
  · intro record recordMem pointer
    exact preserves.pointer record recordMem location locationMem pointer

theorem locations_forward_upload : ∃ calls later, Upload.published = some calls ∧
    Upload.deleted calls = some later ∧
    ∀ location ∈ calls.shared.db.objectLocation,
      ∃ row ∈ later.shared.db.objectLocation, locationTerms row = locationTerms location ∧
        stage location.state ≤ stage row.state := by
  obtain ⟨calls, later, ran, continued⟩ := Upload.publishes
  have fresh : Fresh Upload.start.db := by decide
  refine ⟨calls, later, ran, continued, fun location locationMem => ?_⟩
  exact (locations_forward fresh.wellKept (Script.reaches_any ran)
    (Script.continues continued) location locationMem).1

/-- Two migration items never have one target, and once a copy is among the locations no
record is served from the source of its item. -/
theorem migration_targets (kept : WellKept start)
    (reaches : Reaches constraints (fun _ => True) (fun _ _ => True) start calls) :
    (∀ item ∈ calls.shared.db.migrationItem, ∀ other ∈ calls.shared.db.migrationItem,
      item.targetPhysicalKey = other.targetPhysicalKey → item = other) ∧
    ∀ item ∈ calls.shared.db.migrationItem, ∀ location ∈ calls.shared.db.objectLocation,
      location.physicalKey = item.targetPhysicalKey →
      ∀ record ∈ calls.shared.db.objectRecord,
        record.activeObjectLocationId ≠ some item.sourceLocationId := by
  have consistent : Consistent (catalogOf calls.shared.db) calls.shared.nextId :=
    (holds_of_run kept reaches).inv.consistent
  constructor
  · intro item itemMem other otherMem sameKey
    exact Table.eq_of_id_eq itemMem otherMem (consistent.target item itemMem other otherMem sameKey)
  · exact consistent.moved

end

namespace Migrated

def item : MigrationItem :=
  { Unreported.item with state := .pending }

def db : Db :=
  { Unreported.db with
    migrationItem := .ofRows [item]
    usageCounter := .ofRows
      [{ id := 70, organizationId := 1, namespaceId := 2, usedBytes := 5, objectCount := 1 }] }

/-- The object is at the source, and the migration is running. -/
def start : World where
  state := ⟨db, 100⟩
  objects address :=
    if address = ⟨20, "old", .object 2 41⟩ then some Unreported.metadata else none
  clock := 1000

/-- One pass of the worker. -/
def pass : Option Calls :=
  Script.run violation (fun _ _ => true) start
    [.start (.reconcileMigrations {}), .act 0 {} 5,
      .act 1 { metadata := Unreported.metadata } 11]

theorem wellKept : WellKept start where
  ledger := .of_tenant 1 2 (by decide) ⟨by decide, by decide, by decide, by decide⟩
  consistent :=
    { sessionId := by rintro _ ⟨⟩
      sessionKey := by rintro _ ⟨⟩
      reserved := by rintro _ ⟨⟩
      size := fun record member => by
        obtain rfl := List.mem_singleton.mp member
        decide
      stored := fun record member _ => by
        obtain rfl := List.mem_singleton.mp member
        decide
      pointer := fun record member locationId pointer => by
        obtain rfl := List.mem_singleton.mp member
        obtain rfl := Option.some.inj pointer
        exact ⟨rfl, _, List.mem_singleton_self _, rfl, rfl, rfl, rfl⟩
      locationKey := fun location member => by
        obtain rfl := List.mem_singleton.mp member
        decide
      itemKey := fun row member => by
        obtain rfl := List.mem_singleton.mp member
        exact ⟨2, 61, by decide, rfl⟩
      target := fun row member other otherMem _ => by
        obtain rfl := List.mem_singleton.mp member
        obtain rfl := List.mem_singleton.mp otherMem
        rfl
      source := fun row member => by
        obtain rfl := List.mem_singleton.mp member
        exact ⟨_, List.mem_singleton_self _, rfl⟩
      moved := fun row member location locationMem sameKey => by
        obtain rfl := List.mem_singleton.mp member
        obtain rfl := List.mem_singleton.mp locationMem
        contradiction }

end Migrated

theorem migration_targets_migrated : ∃ calls, Migrated.pass = some calls ∧
    (∃ location ∈ calls.shared.db.objectLocation.rows,
      location.physicalKey = Migrated.item.targetPhysicalKey) ∧
    ∀ item ∈ calls.shared.db.migrationItem, ∀ location ∈ calls.shared.db.objectLocation,
      location.physicalKey = item.targetPhysicalKey →
      ∀ record ∈ calls.shared.db.objectRecord,
        record.activeObjectLocationId ≠ some item.sourceLocationId := by
  have runs : ∃ calls, Migrated.pass = some calls ∧
      (calls.shared.db.objectLocation.rows.any fun location =>
        location.physicalKey == Migrated.item.targetPhysicalKey) = true :=
    (Option.any_eq_true _ _).mp (by decide +kernel)
  obtain ⟨calls, ran, copied⟩ := runs
  obtain ⟨location, locationMem, sameKey⟩ := List.any_eq_true.mp copied
  exact ⟨calls, ran, ⟨location, locationMem, eq_of_beq sameKey⟩,
    (migration_targets Migrated.wellKept (Script.reaches_any ran)).2⟩

end Mosp.Guarantees
