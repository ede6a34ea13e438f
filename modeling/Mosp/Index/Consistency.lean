import Mosp.Index.Catalog

/-!
# Consistent catalogs

A record that takes up space points at an active location of its own, keys and
identifiers are below the next one, and a record never comes back to a location
that it has left.  Every action keeps this.
-/

namespace Mosp.Index

open Mosp.Data Mosp.Database Mosp.Services

/-- What holds of the catalog between transactions. -/
structure Consistent (catalog : Catalog) (nextId : Id) : Prop where
  sessionId : ∀ session ∈ catalog.sessions, session.id < nextId
  sessionKey : ∀ session ∈ catalog.sessions, ∃ uuid < nextId,
    session.physicalKey = .object session.namespaceId uuid
  reserved : ∀ session ∈ catalog.sessions, 0 ≤ session.reservedBytes
  size : ∀ record ∈ catalog.records, 0 ≤ record.sizeBytes
  stored : ∀ record ∈ catalog.records, takesSpace record = true →
    record.activeObjectLocationId ≠ none
  pointer : ∀ record ∈ catalog.records, ∀ locationId,
    record.activeObjectLocationId = some locationId → takesSpace record = true ∧
      ∃ location ∈ catalog.locations, location.id = locationId ∧
        location.objectRecordId = record.id ∧
        location.organizationId = record.organizationId ∧ location.state = .active
  locationKey : ∀ location ∈ catalog.locations, location.physicalKey.uuid < nextId
  itemKey : ∀ item ∈ catalog.items, ∃ namespaceId uuid, uuid < nextId ∧
    item.targetPhysicalKey = .migration namespaceId item.migrationRunId uuid
  target : ∀ item ∈ catalog.items, ∀ other ∈ catalog.items,
    item.targetPhysicalKey = other.targetPhysicalKey → item.id = other.id
  source : ∀ item ∈ catalog.items, ∃ location ∈ catalog.locations,
    location.id = item.sourceLocationId
  moved : ∀ item ∈ catalog.items, ∀ location ∈ catalog.locations,
    location.physicalKey = item.targetPhysicalKey → ∀ record ∈ catalog.records,
      record.activeObjectLocationId ≠ some item.sourceLocationId

theorem Consistent.mono {catalog : Catalog} {nextId later : Id}
    (consistent : Consistent catalog nextId) (le : nextId ≤ later) : Consistent catalog later where
  sessionId session member := Nat.lt_of_lt_of_le (consistent.sessionId session member) le
  sessionKey session member := by
    obtain ⟨uuid, below, key⟩ := consistent.sessionKey session member
    exact ⟨uuid, Nat.lt_of_lt_of_le below le, key⟩
  reserved := consistent.reserved
  size := consistent.size
  stored := consistent.stored
  pointer := consistent.pointer
  locationKey location member := Nat.lt_of_lt_of_le (consistent.locationKey location member) le
  itemKey item member := by
    obtain ⟨namespaceId, uuid, below, key⟩ := consistent.itemKey item member
    exact ⟨namespaceId, uuid, Nat.lt_of_lt_of_le below le, key⟩
  target := consistent.target
  source := consistent.source
  moved := consistent.moved

/-- Two records do not point at the same location. -/
theorem Consistent.pointer_unique {catalog : Catalog} {nextId : Id}
    (consistent : Consistent catalog nextId) {first second : ObjectRecord}
    (firstMem : first ∈ catalog.records) (secondMem : second ∈ catalog.records) {locationId : Id}
    (firstPointer : first.activeObjectLocationId = some locationId)
    (secondPointer : second.activeObjectLocationId = some locationId) : first = second := by
  obtain ⟨_, location, locationMem, locationId_, owner, _⟩ :=
    consistent.pointer first firstMem _ firstPointer
  obtain ⟨_, other, otherMem, otherId, otherOwner, _⟩ :=
    consistent.pointer second secondMem _ secondPointer
  have same : location = other :=
    Table.eq_of_id_eq locationMem otherMem (locationId_.trans otherId.symm)
  subst same
  exact Table.eq_of_id_eq firstMem secondMem (owner.symm.trans otherOwner)

/-! ## Publications -/

namespace Publication

variable {catalog : Catalog} {publication : Publication}

theorem Ready.location_origin (ready : publication.Ready catalog) {location : ObjectLocation}
    (member : location ∈ (catalog.publish publication).locations) :
    (∃ old ∈ catalog.locations, locationTerms old = locationTerms location) ∨
      location = publication.location := by
  rcases Table.mem_put.mp member with rfl | ⟨inTable, _⟩
  · exact .inr rfl
  · left
    cases retainedEq : publication.retained with
    | none =>
        rw [retainedEq] at inTable
        exact ⟨location, inTable, rfl⟩
    | some row =>
        rw [retainedEq] at inTable
        rcases Table.mem_put.mp inTable with rfl | ⟨inTable, _⟩
        · obtain ⟨_, _, _, old, oldMem, _, terms⟩ := ready.retained _ retainedEq
          exact ⟨old, oldMem, terms⟩
        · exact ⟨location, inTable, rfl⟩

/-- A location is still there, and in the state it was in unless it was the
active location of the key. -/
theorem Ready.location_kept (ready : publication.Ready catalog) {location : ObjectLocation}
    (member : location ∈ catalog.locations) :
    ∃ row ∈ (catalog.publish publication).locations,
      locationTerms row = locationTerms location ∧
        (row = location ∨ ∃ old ∈ publication.existing,
          old.activeObjectLocationId = some location.id) := by
  have fresh := ready.freshLocation location member
  cases retainedEq : publication.retained with
  | none =>
      refine ⟨location, Table.mem_put.mpr (.inr ⟨?_, fresh⟩), rfl, .inl rfl⟩
      rw [retainedEq]
      exact member
  | some retained =>
      obtain ⟨_, old, oldEq, active, activeMem, pointer, terms⟩ := ready.retained _ retainedEq
      have sameId : active.id = retained.id := (congrArg ObjectLocation.id terms :)
      by_cases same : location.id = retained.id
      · have locationEq : location = active :=
          Table.eq_of_id_eq member activeMem (same.trans sameId.symm)
        subst locationEq
        refine ⟨retained, Table.mem_put.mpr (.inr ⟨?_, ?_⟩), terms.symm, .inr ⟨old, oldEq, pointer⟩⟩
        · rw [retainedEq]
          exact Table.mem_put_self _ _
        · intro idEq
          exact fresh (same.trans idEq)
      · refine ⟨location, Table.mem_put.mpr (.inr ⟨?_, fresh⟩), rfl, .inl rfl⟩
        rw [retainedEq]
        exact Table.mem_put.mpr (.inr ⟨member, same⟩)

end Publication

/-! ## Where rows come from -/

namespace Action

variable {catalog : Catalog} {nextId : Id} {action : Action}

/-- A session was there before, or is the one that is opened. -/
theorem session_origin (enabled : action.Enabled catalog nextId) {session : UploadSession}
    (member : session ∈ (catalog.after action).sessions) :
    (∃ old ∈ catalog.sessions, sessionTerms old = sessionTerms session) ∨
      action = .openSession session := by
  have overwritten : ∀ row : UploadSession,
      (∃ old ∈ catalog.sessions, sessionTerms old = sessionTerms row) →
      session ∈ catalog.sessions.put row →
      ∃ old ∈ catalog.sessions, sessionTerms old = sessionTerms session := by
    intro row origin inTable
    rcases Table.mem_put.mp inTable with rfl | ⟨inTable, _⟩
    · exact origin
    · exact ⟨session, inTable, rfl⟩
  cases action with
  | progress row =>
      obtain ⟨old, oldMem, terms, _⟩ := enabled
      exact .inl (overwritten row ⟨old, oldMem, terms⟩ member)
  | openSession row =>
      rcases Table.mem_put.mp member with rfl | ⟨inTable, _⟩
      · exact .inr rfl
      · exact .inl ⟨session, inTable, rfl⟩
  | closeSession row =>
      obtain ⟨old, oldMem, terms, _⟩ := enabled
      exact .inl (overwritten row ⟨old, oldMem, terms⟩ member)
  | prune sessionId => exact .inl ⟨session, (Table.mem_erase.mp member).1, rfl⟩
  | complete row publication =>
      obtain ⟨⟨old, oldMem, terms, _⟩, _⟩ := enabled
      exact .inl (overwritten row ⟨old, oldMem, terms⟩ member)
  | rest | reserve | release | upload | claim | revert | finalize | retire | work | schedule
  | migrate => exact .inl ⟨session, member, rfl⟩

/-- A location was there before, or is new and carries the object of a session, of
an explorer upload or of a migration item. -/
theorem location_origin (enabled : action.Enabled catalog nextId) {location : ObjectLocation}
    (member : location ∈ (catalog.after action).locations) :
    (∃ old ∈ catalog.locations, locationTerms old = locationTerms location) ∨
      ((∀ old ∈ catalog.locations, old.id ≠ location.id) ∧
        ((∃ session ∈ catalog.sessions, location.physicalKey = session.physicalKey) ∨
          (∃ namespaceId uuid, uuid < nextId ∧
            location.physicalKey = .object namespaceId uuid) ∨
          ∃ item ∈ catalog.items, location.physicalKey = item.targetPhysicalKey ∧
            ∃ row record retained, row.id = item.id ∧
              action = .migrate row record retained location)) := by
  cases action with
  | complete row publication =>
      obtain ⟨⟨old, oldMem, terms, _⟩, _, ready, _, _, _, _, key⟩ := enabled
      have readyBefore : publication.Ready catalog := ready
      rcases readyBefore.location_origin member with origin | rfl
      · exact .inl origin
      · have sameKey : old.physicalKey = row.physicalKey := (congrArg UploadSession.physicalKey terms :)
        exact .inr ⟨ready.freshLocation, .inl ⟨old, oldMem, key.trans sameKey.symm⟩⟩
  | upload sizeBytes publication =>
      obtain ⟨ready, _, _, uuid, below, key⟩ := enabled
      rcases ready.location_origin member with origin | rfl
      · exact .inl origin
      · exact .inr ⟨ready.freshLocation, .inr (.inl ⟨_, uuid, below, key⟩)⟩
  | finalize record row =>
      obtain ⟨_, _, _, _, _, active, activeMem, _, terms⟩ := enabled
      rcases Table.mem_put.mp member with rfl | ⟨inTable, _⟩
      · exact .inl ⟨active, activeMem, terms⟩
      · exact .inl ⟨location, inTable, rfl⟩
  | retire row =>
      obtain ⟨_, old, oldMem, _, terms⟩ := enabled
      rcases Table.mem_put.mp member with rfl | ⟨inTable, _⟩
      · exact .inl ⟨old, oldMem, terms⟩
      · exact .inl ⟨location, inTable, rfl⟩
  | migrate item record retained target =>
      obtain ⟨⟨old, oldMem, itemEq⟩, _, ⟨retainedState, source, sourceMem, sourceId, terms⟩, fresh,
        active, _, _, key⟩ := enabled
      have sameKey : old.targetPhysicalKey = item.targetPhysicalKey :=
        (congrArg MigrationItem.targetPhysicalKey itemEq :)
      rcases Table.mem_put.mp member with rfl | ⟨inTable, _⟩
      · exact .inl ⟨source, sourceMem, terms⟩
      · rcases Table.mem_put.mp inTable with rfl | ⟨inTable, _⟩
        · have sameId : old.id = item.id := (congrArg MigrationItem.id itemEq :)
          exact .inr ⟨fresh, .inr (.inr ⟨old, oldMem, key.trans sameKey.symm, item, record, retained,
            sameId.symm, rfl⟩)⟩
        · exact .inl ⟨location, inTable, rfl⟩
  | rest | progress | openSession | closeSession | prune | reserve | release | claim | revert
  | work | schedule => exact .inl ⟨location, member, rfl⟩

/-- No location disappears. -/
theorem location_kept (enabled : action.Enabled catalog nextId) {location : ObjectLocation}
    (member : location ∈ catalog.locations) :
    ∃ row ∈ (catalog.after action).locations, locationTerms row = locationTerms location := by
  have overwritten : ∀ (table : Table ObjectLocation) (row old : ObjectLocation),
      location ∈ table → old ∈ table → locationTerms old = locationTerms row →
      ∃ kept ∈ table.put row, locationTerms kept = locationTerms location := by
    intro table row old inTable oldMem terms
    have sameId : old.id = row.id := (congrArg ObjectLocation.id terms :)
    by_cases same : location.id = row.id
    · have locationEq : location = old := Table.eq_of_id_eq inTable oldMem (same.trans sameId.symm)
      subst locationEq
      exact ⟨row, Table.mem_put_self _ _, terms.symm⟩
    · exact ⟨location, Table.mem_put.mpr (.inr ⟨inTable, same⟩), rfl⟩
  cases action with
  | complete row publication =>
      obtain ⟨_, _, ready, _⟩ := enabled
      have readyBefore : publication.Ready catalog := ready
      obtain ⟨kept, keptMem, terms, _⟩ := readyBefore.location_kept member
      exact ⟨kept, keptMem, terms⟩
  | upload sizeBytes publication =>
      obtain ⟨kept, keptMem, terms, _⟩ := enabled.1.location_kept member
      exact ⟨kept, keptMem, terms⟩
  | finalize record row =>
      obtain ⟨_, _, _, _, _, active, activeMem, _, terms⟩ := enabled
      exact overwritten _ row active member activeMem terms
  | retire row =>
      obtain ⟨_, old, oldMem, _, terms⟩ := enabled
      exact overwritten _ row old member oldMem terms
  | migrate item record retained target =>
      obtain ⟨_, _, ⟨_, source, sourceMem, _, terms⟩, fresh, _⟩ := enabled
      have kept : ∀ other ∈ catalog.locations, other ∈ catalog.locations.put target :=
        fun other otherMem => Table.mem_put.mpr (.inr ⟨otherMem, fresh other otherMem⟩)
      exact overwritten _ retained source (kept location member) (kept source sourceMem) terms
  | rest | progress | openSession | closeSession | prune | reserve | release | claim | revert
  | work | schedule => exact ⟨location, member, rfl⟩

/-- A migration item was there before, or is the one that is added. -/
theorem item_origin (enabled : action.Enabled catalog nextId) {item : MigrationItem}
    (member : item ∈ (catalog.after action).items) :
    (∃ old ∈ catalog.items, itemTerms old = itemTerms item) ∨ action = .schedule item := by
  cases action with
  | work row =>
      obtain ⟨old, oldMem, terms⟩ := enabled
      rcases Table.mem_put.mp member with rfl | ⟨inTable, _⟩
      · exact .inl ⟨old, oldMem, terms⟩
      · exact .inl ⟨item, inTable, rfl⟩
  | schedule row =>
      rcases Table.mem_put.mp member with rfl | ⟨inTable, _⟩
      · exact .inr rfl
      · exact .inl ⟨item, inTable, rfl⟩
  | migrate row record retained target =>
      obtain ⟨⟨old, oldMem, terms⟩, _⟩ := enabled
      rcases Table.mem_put.mp member with rfl | ⟨inTable, _⟩
      · exact .inl ⟨old, oldMem, terms⟩
      · exact .inl ⟨item, inTable, rfl⟩
  | rest | progress | openSession | closeSession | prune | reserve | release | complete | upload
  | claim | revert | finalize | retire => exact .inl ⟨item, member, rfl⟩

/-- No migration item disappears. -/
theorem item_kept (enabled : action.Enabled catalog nextId) {item : MigrationItem}
    (member : item ∈ catalog.items) :
    ∃ row ∈ (catalog.after action).items, itemTerms row = itemTerms item := by
  have overwritten : ∀ row : MigrationItem,
      (∃ old ∈ catalog.items, itemTerms old = itemTerms row) →
      ∃ kept ∈ catalog.items.put row, itemTerms kept = itemTerms item := by
    rintro row ⟨old, oldMem, terms⟩
    have sameId : old.id = row.id := (congrArg MigrationItem.id terms :)
    by_cases same : item.id = row.id
    · have itemEq : item = old := Table.eq_of_id_eq member oldMem (same.trans sameId.symm)
      subst itemEq
      exact ⟨row, Table.mem_put_self _ _, terms.symm⟩
    · exact ⟨item, Table.mem_put.mpr (.inr ⟨member, same⟩), rfl⟩
  cases action with
  | work row => exact overwritten row enabled
  | schedule row =>
      exact ⟨item, Table.mem_put.mpr (.inr ⟨member, (enabled.1 item member).1⟩), rfl⟩
  | migrate row record retained target => exact overwritten row enabled.1
  | rest | progress | openSession | closeSession | prune | reserve | release | complete | upload
  | claim | revert | finalize | retire => exact ⟨item, member, rfl⟩

/-- A record points at a location that is new, or pointed at it before and had the
same size. -/
theorem record_origin (enabled : action.Enabled catalog nextId) {record : ObjectRecord}
    (member : record ∈ (catalog.after action).records) {locationId : Id}
    (pointer : record.activeObjectLocationId = some locationId) :
    (∃ old ∈ catalog.records, old.id = record.id ∧
        old.organizationId = record.organizationId ∧ old.namespaceId = record.namespaceId ∧
        old.activeObjectLocationId = some locationId ∧ old.sizeBytes = record.sizeBytes) ∨
      ∀ location ∈ catalog.locations, location.id ≠ locationId := by
  have published : ∀ publication : Publication, publication.Ready catalog →
      record ∈ catalog.records.put publication.record →
      record ∈ catalog.records ∨ ∀ location ∈ catalog.locations, location.id ≠ locationId := by
    intro publication ready inTable
    rcases Table.mem_put.mp inTable with rfl | ⟨inTable, _⟩
    · right
      rw [ready.pointer, Option.some.injEq] at pointer
      subst pointer
      exact ready.freshLocation
    · exact .inl inTable
  have unchanged : record ∈ catalog.records → ∃ old ∈ catalog.records, old.id = record.id ∧
      old.organizationId = record.organizationId ∧ old.namespaceId = record.namespaceId ∧
      old.activeObjectLocationId = some locationId ∧ old.sizeBytes = record.sizeBytes :=
    fun inTable => ⟨record, inTable, rfl, rfl, rfl, pointer, rfl⟩
  cases action with
  | complete row publication =>
      obtain ⟨_, _, ready, _⟩ := enabled
      exact (published publication ready member).imp_left unchanged
  | upload sizeBytes publication => exact (published publication enabled.1 member).imp_left unchanged
  | claim row | revert row =>
      obtain ⟨old, oldMem, _, rowEq⟩ := enabled
      rcases Table.mem_put.mp member with rfl | ⟨inTable, _⟩
      · rw [rowEq] at pointer ⊢
        exact .inl ⟨old, oldMem, rfl, rfl, rfl, pointer, rfl⟩
      · exact .inl (unchanged inTable)
  | finalize row location =>
      obtain ⟨old, oldMem, _, rowEq, _⟩ := enabled
      rcases Table.mem_put.mp member with rfl | ⟨inTable, _⟩
      · rw [rowEq] at pointer
        contradiction
      · exact .inl (unchanged inTable)
  | migrate item row retained target =>
      obtain ⟨_, ⟨old, oldMem, _, _, _, rowEq, _⟩, _, fresh, _⟩ := enabled
      rcases Table.mem_put.mp member with rfl | ⟨inTable, _⟩
      · right
        rw [rowEq, Option.some.injEq] at pointer
        subst pointer
        exact fresh
      · exact .inl (unchanged inTable)
  | rest | progress | openSession | closeSession | prune | reserve | release | retire | work
  | schedule => exact .inl (unchanged member)

/-- After a migration no record is at the source. -/
theorem moved_of_migrate (consistent : Consistent catalog nextId) {item : MigrationItem}
    {row : ObjectRecord} {retained target : ObjectLocation}
    (enabled : (Action.migrate item row retained target).Enabled catalog nextId)
    {record : ObjectRecord}
    (member : record ∈ (catalog.after (.migrate item row retained target)).records) :
    record.activeObjectLocationId ≠ some item.sourceLocationId := by
  intro pointer
  obtain ⟨_, ⟨old, oldMem, _, _, oldPointer, rowEq, _⟩, ⟨_, source, sourceMem, sourceId, _⟩, fresh,
    _⟩ := enabled
  rcases Table.mem_put.mp member with rfl | ⟨inTable, otherId⟩
  · rw [rowEq, Option.some.injEq] at pointer
    exact fresh source sourceMem (sourceId.trans pointer.symm)
  · have same : record = old := consistent.pointer_unique inTable oldMem pointer oldPointer
    rw [rowEq] at otherId
    exact otherId (congrArg ObjectRecord.id same :)

end Action

/-! ## What happens without migrations -/

namespace Action

variable {catalog : Catalog} {nextId : Id} {action : Action}

/-- The publication of an action, if it publishes. -/
def Publishes (action : Action) (publication : Publication) : Prop :=
  (∃ session, action = .complete session publication) ∨
    ∃ sizeBytes, action = .upload sizeBytes publication

theorem Publishes.ready {publication : Publication} (publishes : action.Publishes publication)
    (enabled : action.Enabled catalog nextId) : publication.Ready catalog := by
  rcases publishes with ⟨session, rfl⟩ | ⟨sizeBytes, rfl⟩
  · exact enabled.2.2.1
  · exact enabled.1

theorem Publishes.location_mem {publication : Publication}
    (publishes : action.Publishes publication) :
    publication.location ∈ (catalog.after action).locations := by
  rcases publishes with ⟨session, rfl⟩ | ⟨sizeBytes, rfl⟩
  · exact Table.mem_put_self _ _
  · exact Table.mem_put_self _ _

/-- A session that is open was open before, or is the one that is opened. -/
theorem initiated_origin (enabled : action.Enabled catalog nextId) {session : UploadSession}
    (member : session ∈ (catalog.after action).sessions) (open_ : session.state = .initiated) :
    (∃ old ∈ catalog.sessions, sessionTerms old = sessionTerms session ∧
      old.state = .initiated) ∨ action = .openSession session := by
  have unchanged : session ∈ catalog.sessions → ∃ old ∈ catalog.sessions,
      sessionTerms old = sessionTerms session ∧ old.state = .initiated :=
    fun inTable => ⟨session, inTable, rfl, open_⟩
  cases action with
  | progress row =>
      obtain ⟨old, oldMem, terms, sameState⟩ := enabled
      rcases Table.mem_put.mp member with rfl | ⟨inTable, _⟩
      · exact .inl ⟨old, oldMem, terms, sameState.trans open_⟩
      · exact .inl (unchanged inTable)
  | openSession row =>
      rcases Table.mem_put.mp member with rfl | ⟨inTable, _⟩
      · exact .inr rfl
      · exact .inl (unchanged inTable)
  | closeSession row =>
      obtain ⟨_, _, _, _, ended⟩ := enabled
      rcases Table.mem_put.mp member with rfl | ⟨inTable, _⟩
      · simp [open_] at ended
      · exact .inl (unchanged inTable)
  | prune sessionId => exact .inl (unchanged (Table.mem_erase.mp member).1)
  | complete row publication =>
      obtain ⟨_, completed, _⟩ := enabled
      rcases Table.mem_put.mp member with rfl | ⟨inTable, _⟩
      · rw [completed] at open_
        contradiction
      · exact .inl (unchanged inTable)
  | rest | reserve | release | upload | claim | revert | finalize | retire | work | schedule
  | migrate => exact .inl (unchanged member)

/-- A completed session stays completed. -/
theorem completed_kept (enabled : action.Enabled catalog nextId) {old session : UploadSession}
    (oldMem : old ∈ catalog.sessions) (member : session ∈ (catalog.after action).sessions)
    (sameId : old.id = session.id) (completed : old.state = .completed) :
    session.state = .completed := by
  have unchanged : session ∈ catalog.sessions → session.state = .completed := by
    intro inTable
    rw [← Table.eq_of_id_eq oldMem inTable sameId]
    exact completed
  cases action with
  | progress row =>
      obtain ⟨was, wasMem, terms, sameState⟩ := enabled
      rcases Table.mem_put.mp member with rfl | ⟨inTable, _⟩
      · have wasId : was.id = session.id := (congrArg UploadSession.id terms :)
        rw [← sameState, Table.eq_of_id_eq wasMem oldMem (wasId.trans sameId.symm)]
        exact completed
      · exact unchanged inTable
  | openSession row =>
      rcases Table.mem_put.mp member with rfl | ⟨inTable, _⟩
      · exact absurd sameId (enabled.1 old oldMem)
      · exact unchanged inTable
  | closeSession row =>
      obtain ⟨was, wasMem, terms, open_, _⟩ := enabled
      rcases Table.mem_put.mp member with rfl | ⟨inTable, _⟩
      · have wasId : was.id = session.id := (congrArg UploadSession.id terms :)
        rw [Table.eq_of_id_eq wasMem oldMem (wasId.trans sameId.symm), completed] at open_
        contradiction
      · exact unchanged inTable
  | prune sessionId => exact unchanged (Table.mem_erase.mp member).1
  | complete row publication =>
      rcases Table.mem_put.mp member with rfl | ⟨inTable, _⟩
      · exact enabled.2.1
      · exact unchanged inTable
  | rest | reserve | release | upload | claim | revert | finalize | retire | work | schedule
  | migrate => exact unchanged member

/-- A location was there before, or is published. -/
theorem published_origin (enabled : action.Enabled catalog nextId)
    (stays : ∀ item record retained target, action ≠ .migrate item record retained target)
    {location : ObjectLocation} (member : location ∈ (catalog.after action).locations) :
    (∃ old ∈ catalog.locations, locationTerms old = locationTerms location) ∨
      ∃ publication, action.Publishes publication ∧ location = publication.location := by
  cases action with
  | complete row publication =>
      have ready : publication.Ready catalog := enabled.2.2.1
      rcases ready.location_origin member with origin | rfl
      · exact .inl origin
      · exact .inr ⟨publication, .inl ⟨row, rfl⟩, rfl⟩
  | upload sizeBytes publication =>
      rcases enabled.1.location_origin member with origin | rfl
      · exact .inl origin
      · exact .inr ⟨publication, .inr ⟨sizeBytes, rfl⟩, rfl⟩
  | finalize record row =>
      obtain ⟨_, _, _, _, _, active, activeMem, _, terms⟩ := enabled
      rcases Table.mem_put.mp member with rfl | ⟨inTable, _⟩
      · exact .inl ⟨active, activeMem, terms⟩
      · exact .inl ⟨location, inTable, rfl⟩
  | retire row =>
      obtain ⟨_, old, oldMem, _, terms⟩ := enabled
      rcases Table.mem_put.mp member with rfl | ⟨inTable, _⟩
      · exact .inl ⟨old, oldMem, terms⟩
      · exact .inl ⟨location, inTable, rfl⟩
  | migrate item record retained target => exact absurd rfl (stays item record retained target)
  | rest | progress | openSession | closeSession | prune | reserve | release | claim | revert
  | work | schedule => exact .inl ⟨location, member, rfl⟩

/-- A location keeps its terms. -/
theorem location_terms (enabled : action.Enabled catalog nextId) {old location : ObjectLocation}
    (oldMem : old ∈ catalog.locations) (member : location ∈ (catalog.after action).locations)
    (sameId : old.id = location.id) : locationTerms old = locationTerms location := by
  obtain ⟨kept, keptMem, terms⟩ := location_kept enabled oldMem
  have keptId : kept.id = old.id := (congrArg ObjectLocation.id terms :)
  rw [← Table.eq_of_id_eq keptMem member (keptId.trans sameId)]
  exact terms.symm

/-- A record that is available was so before, is published, or comes back from
deletion. -/
theorem available_origin (enabled : action.Enabled catalog nextId)
    (stays : ∀ item record retained target, action ≠ .migrate item record retained target)
    {record : ObjectRecord} (member : record ∈ (catalog.after action).records)
    (available : record.state = .available) :
    record ∈ catalog.records ∨
      (∃ publication, action.Publishes publication ∧ record = publication.record) ∨
      action = .revert record := by
  cases action with
  | complete row publication =>
      rcases Table.mem_put.mp member with rfl | ⟨inTable, _⟩
      · exact .inr (.inl ⟨publication, .inl ⟨row, rfl⟩, rfl⟩)
      · exact .inl inTable
  | upload sizeBytes publication =>
      rcases Table.mem_put.mp member with rfl | ⟨inTable, _⟩
      · exact .inr (.inl ⟨publication, .inr ⟨sizeBytes, rfl⟩, rfl⟩)
      · exact .inl inTable
  | claim row =>
      obtain ⟨_, _, _, rowEq⟩ := enabled
      rcases Table.mem_put.mp member with rfl | ⟨inTable, _⟩
      · rw [rowEq] at available
        contradiction
      · exact .inl inTable
  | revert row =>
      rcases Table.mem_put.mp member with rfl | ⟨inTable, _⟩
      · exact .inr (.inr rfl)
      · exact .inl inTable
  | finalize row location =>
      obtain ⟨_, _, _, rowEq, _⟩ := enabled
      rcases Table.mem_put.mp member with rfl | ⟨inTable, _⟩
      · rw [rowEq] at available
        contradiction
      · exact .inl inTable
  | migrate item row retained target => exact absurd rfl (stays item row retained target)
  | rest | progress | openSession | closeSession | prune | reserve | release | retire | work
  | schedule => exact .inl member

/-- A record in deletion stays there until it comes back or is closed. -/
theorem deleting_kept (enabled : action.Enabled catalog nextId)
    (stays : ∀ item record retained target, action ≠ .migrate item record retained target)
    {record : ObjectRecord} (member : record ∈ catalog.records)
    (deleting : record.state = .deleting) :
    record ∈ (catalog.after action).records ∨
      (∃ row, action = .revert row ∧ row.id = record.id) ∨
      ∃ row location, action = .finalize row location ∧
        record.activeObjectLocationId = some location.id := by
  have published : ∀ publication : Publication, publication.Ready catalog →
      record ∈ catalog.records.put publication.record := by
    intro publication ready
    apply Table.mem_put.mpr
    refine .inr ⟨member, fun sameId => ?_⟩
    cases existing : publication.existing with
    | none => exact ready.freshRecord existing record member sameId
    | some old =>
        obtain ⟨oldMem, oldId, _⟩ := ready.existing old existing
        apply ready.passed old existing
        rw [Table.eq_of_id_eq oldMem member (oldId.trans sameId.symm)]
        exact deleting
  cases action with
  | complete row publication => exact .inl (published publication enabled.2.2.1)
  | upload sizeBytes publication => exact .inl (published publication enabled.1)
  | claim row =>
      obtain ⟨old, oldMem, available, rowEq⟩ := enabled
      refine .inl (Table.mem_put.mpr (.inr ⟨member, fun sameId => ?_⟩))
      rw [rowEq] at sameId
      rw [Table.eq_of_id_eq oldMem member sameId.symm, deleting] at available
      contradiction
  | revert row =>
      by_cases sameId : row.id = record.id
      · exact .inr (.inl ⟨row, rfl, sameId⟩)
      · exact .inl (Table.mem_put.mpr (.inr ⟨member, fun same => sameId same.symm⟩))
  | finalize row location =>
      obtain ⟨old, oldMem, _, rowEq, _, active, _, pointer, terms⟩ := enabled
      by_cases sameId : record.id = row.id
      · have idEq : row.id = old.id := (congrArg ObjectRecord.id rowEq :)
        have same : record = old := Table.eq_of_id_eq member oldMem (sameId.trans idEq)
        have activeId : active.id = location.id := (congrArg ObjectLocation.id terms :)
        refine .inr (.inr ⟨row, location, rfl, ?_⟩)
        rw [same, pointer, activeId]
      · exact .inl (Table.mem_put.mpr (.inr ⟨member, sameId⟩))
  | migrate item row retained target => exact absurd rfl (stays item row retained target)
  | rest | progress | openSession | closeSession | prune | reserve | release | retire | work
  | schedule => exact .inl member

end Action

/-! ## Every action keeps the catalog consistent -/

namespace Consistent

variable {catalog : Catalog} {nextId : Id} {action : Action}

theorem size_after (consistent : Consistent catalog nextId)
    (enabled : action.Enabled catalog nextId) :
    ∀ record ∈ (catalog.after action).records, 0 ≤ record.sizeBytes := by
  have overwritten : ∀ row : ObjectRecord, 0 ≤ row.sizeBytes →
      ∀ record ∈ catalog.records.put row, 0 ≤ record.sizeBytes := by
    intro row size record inTable
    rcases Table.mem_put.mp inTable with rfl | ⟨inTable, _⟩
    · exact size
    · exact consistent.size record inTable
  cases action with
  | complete session publication => exact overwritten _ enabled.2.2.1.size
  | upload sizeBytes publication => exact overwritten _ enabled.1.size
  | claim row | revert row =>
      obtain ⟨old, oldMem, _, rowEq⟩ := enabled
      apply overwritten
      rw [rowEq]
      exact consistent.size old oldMem
  | finalize row location =>
      obtain ⟨old, oldMem, _, rowEq, _⟩ := enabled
      apply overwritten
      rw [rowEq]
      exact consistent.size old oldMem
  | migrate item row retained target =>
      obtain ⟨_, ⟨old, oldMem, _, _, _, rowEq, _⟩, _⟩ := enabled
      apply overwritten
      rw [rowEq]
      exact consistent.size old oldMem
  | rest | progress | openSession | closeSession | prune | reserve | release | retire | work
  | schedule => exact consistent.size

theorem stored_after (consistent : Consistent catalog nextId)
    (enabled : action.Enabled catalog nextId) :
    ∀ record ∈ (catalog.after action).records, takesSpace record = true →
      record.activeObjectLocationId ≠ none := by
  have overwritten : ∀ row : ObjectRecord,
      (takesSpace row = true → row.activeObjectLocationId ≠ none) →
      ∀ record ∈ catalog.records.put row, takesSpace record = true →
        record.activeObjectLocationId ≠ none := by
    intro row stored record inTable takes
    rcases Table.mem_put.mp inTable with rfl | ⟨inTable, _⟩
    · exact stored takes
    · exact consistent.stored record inTable takes
  cases action with
  | complete session publication =>
      apply overwritten
      intro _
      rw [enabled.2.2.1.pointer]
      exact Option.some_ne_none _
  | upload sizeBytes publication =>
      apply overwritten
      intro _
      rw [enabled.1.pointer]
      exact Option.some_ne_none _
  | claim row | revert row =>
      obtain ⟨old, oldMem, state, rowEq⟩ := enabled
      apply overwritten
      intro _
      rw [rowEq]
      exact consistent.stored old oldMem (by simp [takesSpace, state])
  | finalize row location =>
      obtain ⟨old, _, _, rowEq, _⟩ := enabled
      apply overwritten
      intro takes
      rw [rowEq] at takes
      simp [takesSpace] at takes
  | migrate item row retained target =>
      obtain ⟨_, ⟨old, _, _, _, _, rowEq, _⟩, _⟩ := enabled
      apply overwritten
      intro _
      rw [rowEq]
      exact Option.some_ne_none _
  | rest | progress | openSession | closeSession | prune | reserve | release | retire | work
  | schedule => exact consistent.stored

/-- Where a record points at after a publication. -/
theorem pointer_publish (consistent : Consistent catalog nextId) {publication : Publication}
    (ready : publication.Ready catalog) :
    ∀ record ∈ (catalog.publish publication).records, ∀ locationId,
      record.activeObjectLocationId = some locationId → takesSpace record = true ∧
        ∃ location ∈ (catalog.publish publication).locations, location.id = locationId ∧
          location.objectRecordId = record.id ∧
          location.organizationId = record.organizationId ∧ location.state = .active := by
  intro record member locationId pointer
  rcases Table.mem_put.mp member with rfl | ⟨inTable, otherId⟩
  · rw [ready.pointer, Option.some.injEq] at pointer
    constructor
    · simp [takesSpace, ready.available]
    · exact ⟨publication.location, Table.mem_put_self _ _, pointer, ready.owner, ready.tenant,
        ready.active⟩
  · obtain ⟨takes, location, locationMem, idEq, owner, tenant, active⟩ :=
      consistent.pointer record inTable locationId pointer
    refine ⟨takes, ?_⟩
    obtain ⟨kept, keptMem, terms, same | ⟨old, oldEq, oldPointer⟩⟩ :=
      ready.location_kept locationMem
    · subst same
      exact ⟨_, keptMem, idEq, owner, tenant, active⟩
    · -- Only the record of the key points at the location that is retained.
      obtain ⟨oldMem, oldId, _⟩ := ready.existing old oldEq
      have same : record = old :=
        consistent.pointer_unique inTable oldMem (idEq ▸ pointer) oldPointer
      exact absurd ((congrArg ObjectRecord.id same).trans oldId) otherId

theorem pointer_after (consistent : Consistent catalog nextId)
    (enabled : action.Enabled catalog nextId) :
    ∀ record ∈ (catalog.after action).records, ∀ locationId,
      record.activeObjectLocationId = some locationId → takesSpace record = true ∧
        ∃ location ∈ (catalog.after action).locations, location.id = locationId ∧
          location.objectRecordId = record.id ∧
          location.organizationId = record.organizationId ∧ location.state = .active := by
  cases action with
  | complete session publication =>
      have ready : publication.Ready catalog := enabled.2.2.1
      exact consistent.pointer_publish ready
  | upload sizeBytes publication => exact consistent.pointer_publish enabled.1
  | claim row | revert row =>
      intro record member locationId pointer
      obtain ⟨old, oldMem, state, rowEq⟩ := enabled
      rcases Table.mem_put.mp member with rfl | ⟨inTable, _⟩
      · rw [rowEq] at pointer ⊢
        exact ⟨rfl, (consistent.pointer old oldMem locationId pointer).2⟩
      · exact consistent.pointer record inTable locationId pointer
  | finalize row closed =>
      intro record member locationId pointer
      obtain ⟨old, oldMem, _, rowEq, _, active, activeMem, oldPointer, terms⟩ := enabled
      rcases Table.mem_put.mp member with rfl | ⟨inTable, otherId⟩
      · rw [rowEq] at pointer
        contradiction
      · obtain ⟨takes, location, locationMem, idEq, rest⟩ :=
          consistent.pointer record inTable locationId pointer
        refine ⟨takes, location, Table.mem_put.mpr (.inr ⟨locationMem, ?_⟩), idEq, rest⟩
        intro same
        have activeId : active.id = closed.id := (congrArg ObjectLocation.id terms :)
        have pointerActive : record.activeObjectLocationId = some active.id := by
          rw [pointer, ← idEq, activeId]
          exact congrArg some same
        rw [rowEq] at otherId
        have recordEq := consistent.pointer_unique inTable oldMem pointerActive oldPointer
        exact otherId (congrArg ObjectRecord.id recordEq :)
  | retire row =>
      intro record member locationId pointer
      obtain ⟨_, old, oldMem, retained, terms⟩ := enabled
      obtain ⟨takes, location, locationMem, idEq, owner, tenant, active⟩ :=
        consistent.pointer record member locationId pointer
      refine ⟨takes, location, Table.mem_put.mpr (.inr ⟨locationMem, ?_⟩), idEq, owner, tenant,
        active⟩
      intro same
      have sameId : old.id = row.id := (congrArg ObjectLocation.id terms :)
      have locationEq : location = old := Table.eq_of_id_eq locationMem oldMem (same.trans sameId.symm)
      rw [locationEq, retained] at active
      contradiction
  | migrate item row retained target =>
      intro record member locationId pointer
      obtain ⟨_, ⟨old, oldMem, oldId, _, oldPointer, rowEq, tenant⟩,
        ⟨_, source, sourceMem, sourceId, terms⟩, fresh, active, owner, _, _⟩ := enabled
      have retainedId : source.id = retained.id := (congrArg ObjectLocation.id terms :)
      have keptTarget : target ∈ (catalog.locations.put target).put retained := by
        apply Table.mem_put.mpr
        right
        constructor
        · exact Table.mem_put_self _ _
        · intro same
          exact fresh source sourceMem (retainedId.trans same.symm)
      rcases Table.mem_put.mp member with rfl | ⟨inTable, otherId⟩
      · rw [rowEq, Option.some.injEq] at pointer
        constructor
        · rw [rowEq]
          simp [takesSpace, *]
        · refine ⟨target, keptTarget, pointer, ?_, ?_, active⟩
          · rw [rowEq, owner, ← oldId]
          · rw [rowEq, tenant]
      · obtain ⟨takes, location, locationMem, idEq, rest⟩ :=
          consistent.pointer record inTable locationId pointer
        refine ⟨takes, location, ?_, idEq, rest⟩
        apply Table.mem_put.mpr
        right
        constructor
        · exact Table.mem_put.mpr (.inr ⟨locationMem, fresh location locationMem⟩)
        · intro same
          have pointerSource : record.activeObjectLocationId = some item.sourceLocationId := by
            rw [pointer, ← idEq, ← sourceId, retainedId]
            exact congrArg some same
          rw [rowEq] at otherId
          have recordEq := consistent.pointer_unique inTable oldMem pointerSource oldPointer
          exact otherId (congrArg ObjectRecord.id recordEq :)
  | rest | progress | openSession | closeSession | prune | reserve | release | work | schedule =>
      exact consistent.pointer

/-- Every action keeps the catalog consistent. -/
theorem after (consistent : Consistent catalog nextId) (enabled : action.Enabled catalog nextId) :
    Consistent (catalog.after action) nextId where
  sessionId session member := by
    rcases action.session_origin enabled member with ⟨old, oldMem, terms⟩ | rfl
    · have same : old.id = session.id := (congrArg UploadSession.id terms :)
      exact same ▸ consistent.sessionId old oldMem
    · exact enabled.2.2.2.1
  sessionKey session member := by
    rcases action.session_origin enabled member with ⟨old, oldMem, terms⟩ | rfl
    · have sameKey : old.physicalKey = session.physicalKey :=
        (congrArg UploadSession.physicalKey terms :)
      have sameNamespace : old.namespaceId = session.namespaceId :=
        (congrArg UploadSession.namespaceId terms :)
      rw [← sameKey, ← sameNamespace]
      exact consistent.sessionKey old oldMem
    · exact enabled.2.2.2.2
  reserved session member := by
    rcases action.session_origin enabled member with ⟨old, oldMem, terms⟩ | rfl
    · have same : old.reservedBytes = session.reservedBytes :=
        (congrArg UploadSession.reservedBytes terms :)
      exact same ▸ consistent.reserved old oldMem
    · exact enabled.2.2.1
  size := consistent.size_after enabled
  stored := consistent.stored_after enabled
  pointer := consistent.pointer_after enabled
  locationKey location member := by
    rcases action.location_origin enabled member with ⟨old, oldMem, terms⟩ | ⟨_, key⟩
    · have same : old.physicalKey = location.physicalKey :=
        (congrArg ObjectLocation.physicalKey terms :)
      exact same ▸ consistent.locationKey old oldMem
    · rcases key with ⟨session, sessionMem, key⟩ | ⟨_, uuid, below, key⟩ | ⟨item, itemMem, key, _⟩
      · obtain ⟨uuid, below, sessionKey⟩ := consistent.sessionKey session sessionMem
        rw [key, sessionKey]
        exact below
      · rw [key]
        exact below
      · obtain ⟨_, uuid, below, itemKey⟩ := consistent.itemKey item itemMem
        rw [key, itemKey]
        exact below
  itemKey item member := by
    rcases action.item_origin enabled member with ⟨old, oldMem, terms⟩ | rfl
    · have sameKey : old.targetPhysicalKey = item.targetPhysicalKey :=
        (congrArg MigrationItem.targetPhysicalKey terms :)
      have sameRun : old.migrationRunId = item.migrationRunId :=
        (congrArg MigrationItem.migrationRunId terms :)
      rw [← sameKey, ← sameRun]
      exact consistent.itemKey old oldMem
    · exact enabled.2.2.2
  target item member other otherMem keyEq := by
    have sameKey : ∀ {first second : MigrationItem}, itemTerms first = itemTerms second →
        first.id = second.id ∧ first.targetPhysicalKey = second.targetPhysicalKey :=
      fun terms => ⟨(congrArg MigrationItem.id terms :),
        (congrArg MigrationItem.targetPhysicalKey terms :)⟩
    rcases action.item_origin enabled member with ⟨old, oldMem, terms⟩ | scheduled <;>
      rcases action.item_origin enabled otherMem with ⟨old', oldMem', terms'⟩ | scheduled'
    · rw [← (sameKey terms).1, ← (sameKey terms').1]
      apply consistent.target old oldMem old' oldMem'
      rw [(sameKey terms).2, (sameKey terms').2, keyEq]
    · subst scheduled'
      exact absurd ((sameKey terms).2.trans keyEq) (enabled.1 old oldMem).2
    · subst scheduled
      exact absurd ((sameKey terms').2.trans keyEq.symm) (enabled.1 old' oldMem').2
    · rw [scheduled] at scheduled'
      rw [Action.schedule.inj scheduled']
  source item member := by
    rcases action.item_origin enabled member with ⟨old, oldMem, terms⟩ | rfl
    · obtain ⟨location, locationMem, idEq⟩ := consistent.source old oldMem
      obtain ⟨kept, keptMem, keptTerms⟩ := action.location_kept enabled locationMem
      have sameId : kept.id = location.id := (congrArg ObjectLocation.id keptTerms :)
      have sameSource : old.sourceLocationId = item.sourceLocationId :=
        (congrArg MigrationItem.sourceLocationId terms :)
      exact ⟨kept, keptMem, sameId.trans (idEq.trans sameSource)⟩
    · exact enabled.2.2.1
  moved item member location locationMem keyEq record recordMem pointer := by
    rcases action.item_origin enabled member with ⟨old, oldMem, terms⟩ | rfl
    · have sameKey : old.targetPhysicalKey = item.targetPhysicalKey :=
        (congrArg MigrationItem.targetPhysicalKey terms :)
      have sameSource : old.sourceLocationId = item.sourceLocationId :=
        (congrArg MigrationItem.sourceLocationId terms :)
      rw [← sameKey] at keyEq
      rw [← sameSource] at pointer
      obtain ⟨source, sourceMem, sourceId⟩ := consistent.source old oldMem
      obtain ⟨before, beforeMem, _, _, _, beforePointer, _⟩ :=
        (action.record_origin enabled recordMem pointer).resolve_right
          fun fresh => fresh source sourceMem sourceId
      obtain ⟨_, _, _, itemKey⟩ := consistent.itemKey old oldMem
      rcases action.location_origin enabled locationMem with ⟨was, wasMem, wasTerms⟩ | ⟨_, key⟩
      · have sameWas : was.physicalKey = location.physicalKey :=
          (congrArg ObjectLocation.physicalKey wasTerms :)
        exact consistent.moved old oldMem was wasMem (sameWas.trans keyEq) before beforeMem
          beforePointer
      · rcases key with ⟨session, sessionMem, key⟩ | ⟨_, _, _, key⟩ |
          ⟨migrated, migratedMem, key, row, moved, retained, rowId, rfl⟩
        · obtain ⟨_, _, sessionKey⟩ := consistent.sessionKey session sessionMem
          rw [key, sessionKey, itemKey] at keyEq
          contradiction
        · rw [key, itemKey] at keyEq
          contradiction
        · have sameItem : migrated = old :=
            Table.eq_of_id_eq migratedMem oldMem
              (consistent.target migrated migratedMem old oldMem (key.symm.trans keyEq))
          obtain ⟨rowOld, rowOldMem, rowTerms⟩ := enabled.1
          have rowOldEq : rowOld = old := by
            apply Table.eq_of_id_eq rowOldMem oldMem
            have rowOldId : rowOld.id = row.id := (congrArg MigrationItem.id rowTerms :)
            rw [← sameItem]
            exact rowOldId.trans rowId
          have rowSource : rowOld.sourceLocationId = row.sourceLocationId :=
            (congrArg MigrationItem.sourceLocationId rowTerms :)
          apply Action.moved_of_migrate consistent enabled recordMem
          rw [pointer, ← rowSource, rowOldEq]
    · exact enabled.2.1 location locationMem keyEq

end Consistent

end Mosp.Index
