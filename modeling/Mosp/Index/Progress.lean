import Mosp.Index.Accounting

/-!
# Rows only move forward

A run of the catalog takes one action after the other.  Along it an ended session
stays as it ended, a location goes from active over retained to deleted and never
back, every active location is one that a record points at, and the object of
every completed session is in the index.
-/

namespace Mosp.Index

open Mosp.Data Mosp.Database Mosp.Services

/-- Every active location is the one its record points at. -/
def Placed (catalog : Catalog) : Prop :=
  ∀ location ∈ catalog.locations, location.state = .active →
    ∃ record ∈ catalog.records, record.id = location.objectRecordId ∧
      record.activeObjectLocationId = some location.id

/-- The object of a session is in the index: there is a location under its key in its
bucket, of a record in its namespace. -/
def DeliveredTo (catalog : Catalog) (session : UploadSession) : Prop :=
  ∃ location ∈ catalog.locations, location.physicalKey = session.physicalKey ∧
    location.bucketConnectionId = session.bucketConnectionId ∧
    ∃ record ∈ catalog.records, record.id = location.objectRecordId ∧
      record.organizationId = session.organizationId ∧ record.namespaceId = session.namespaceId

/-- The objects of completed sessions are in the index. -/
def Delivered (catalog : Catalog) : Prop :=
  ∀ session ∈ catalog.sessions, session.state = .completed → DeliveredTo catalog session

/-- Where an object goes is part of the terms of its session. -/
theorem DeliveredTo.of_terms {catalog : Catalog} {session row : UploadSession}
    (terms : sessionTerms row = sessionTerms session) (delivered : DeliveredTo catalog row) :
    DeliveredTo catalog session := by
  obtain ⟨location, locationMem, key, bucket, record, recordMem, owner, tenant, namespace_⟩ :=
    delivered
  exact ⟨location, locationMem, key.trans (congrArg UploadSession.physicalKey terms :),
    bucket.trans (congrArg UploadSession.bucketConnectionId terms :), record, recordMem, owner,
    tenant.trans (congrArg UploadSession.organizationId terms :),
    namespace_.trans (congrArg UploadSession.namespaceId terms :)⟩

/-- How far a location has come. -/
def stage : ObjectLocationState → Nat
  | .candidate => 0
  | .active => 1
  | .retained => 2
  | .deleted => 3

theorem stage_le_deleted (state : ObjectLocationState) : stage state ≤ stage .deleted := by
  cases state <;> decide

/-- A location is among the rows, not less far than before. -/
def Advanced (locations : Table ObjectLocation) (location : ObjectLocation) : Prop :=
  ∃ kept ∈ locations, kept.id = location.id ∧ stage location.state ≤ stage kept.state

/-- Writing a row that is as far as the one it replaces sets no location back. -/
theorem Advanced.put {table : Table ObjectLocation} {location row : ObjectLocation}
    (member : location ∈ table)
    (further : location.id = row.id → stage location.state ≤ stage row.state) :
    Advanced (table.put row) location := by
  by_cases same : location.id = row.id
  · exact ⟨row, Table.mem_put_self _ _, same.symm, further same⟩
  · exact ⟨location, Table.mem_put.mpr (.inr ⟨member, same⟩), rfl, Nat.le_refl _⟩

namespace Publication

variable {catalog : Catalog} {nextId : Id} {publication : Publication}

theorem Ready.location_advanced (ready : publication.Ready catalog)
    (consistent : Consistent catalog nextId) {location : ObjectLocation}
    (member : location ∈ catalog.locations) :
    Advanced (catalog.publish publication).locations location := by
  have fresh := ready.freshLocation location member
  cases retainedEq : publication.retained with
  | none =>
      refine ⟨location, Table.mem_put.mpr (.inr ⟨?_, fresh⟩), rfl, Nat.le_refl _⟩
      rw [retainedEq]
      exact member
  | some retained =>
      obtain ⟨retainedState, old, oldEq, active, activeMem, pointer, terms⟩ :=
        ready.retained _ retainedEq
      have sameId : active.id = retained.id := (congrArg ObjectLocation.id terms :)
      have further : location.id = retained.id → stage location.state ≤ stage retained.state := by
        intro same
        obtain ⟨_, row, rowMem, rowId, _, _, rowActive⟩ :=
          consistent.pointer old (ready.existing old oldEq).1 active.id pointer
        have rowEq : row = location :=
          Table.eq_of_id_eq rowMem member ((rowId.trans sameId).trans same.symm)
        rw [← rowEq, rowActive, retainedState]
        decide
      obtain ⟨kept, keptMem, keptId, keptStage⟩ := Advanced.put member further
      refine ⟨kept, Table.mem_put.mpr (.inr ⟨?_, ?_⟩), keptId, keptStage⟩
      · rw [retainedEq]
        exact keptMem
      · change kept.id ≠ publication.location.id
        rw [keptId]
        exact fresh

/-- After a publication every active location is still pointed at. -/
theorem Ready.placed (ready : publication.Ready catalog) (consistent : Consistent catalog nextId)
    (placed : Placed catalog) : Placed (catalog.publish publication) := by
  intro location member active
  rcases Table.mem_put.mp member with rfl | ⟨inTable, _⟩
  · exact ⟨publication.record, Table.mem_put_self _ _, ready.owner.symm, ready.pointer⟩
  · have before : location ∈ catalog.locations ∧
        ∀ row ∈ publication.retained, location.id ≠ row.id := by
      cases retainedEq : publication.retained with
      | none =>
          rw [retainedEq] at inTable
          exact ⟨inTable, nofun⟩
      | some retained =>
          rw [retainedEq] at inTable
          rcases Table.mem_put.mp inTable with rfl | ⟨inTable, apart⟩
          · rw [(ready.retained _ retainedEq).1] at active
            contradiction
          · refine ⟨inTable, fun row rowEq => ?_⟩
            obtain rfl := Option.some.inj rowEq
            exact apart
    obtain ⟨locationMem, apart⟩ := before
    obtain ⟨record, recordMem, owner, pointer⟩ := placed location locationMem active
    refine ⟨record, Table.mem_put.mpr (.inr ⟨recordMem, fun same => ?_⟩), owner, pointer⟩
    -- the record of the key: its active location is the one that is retained
    cases existingEq : publication.existing with
    | none => exact ready.freshRecord existingEq record recordMem same
    | some old =>
        obtain ⟨oldMem, oldId, _⟩ := ready.existing old existingEq
        obtain rfl : record = old := Table.eq_of_id_eq recordMem oldMem (same.trans oldId.symm)
        obtain ⟨space, row, rowMem, rowId, _, tenant, _⟩ :=
          consistent.pointer record recordMem location.id pointer
        obtain rfl : row = location := Table.eq_of_id_eq rowMem locationMem rowId
        obtain ⟨retained, retainedEq, sameId⟩ :=
          ready.leaves record existingEq space row rowMem pointer tenant active
        exact apart retained retainedEq sameId.symm

end Publication

namespace Action

variable {catalog : Catalog} {nextId : Id} {action : Action}

/-- A session that has ended stays as it ended. -/
theorem ended_kept (enabled : action.Enabled catalog nextId) {old session : UploadSession}
    (oldMem : old ∈ catalog.sessions) (member : session ∈ (catalog.after action).sessions)
    (sameId : old.id = session.id) (ended : old.state ≠ .initiated) :
    session.state = old.state := by
  have unchanged : session ∈ catalog.sessions → session.state = old.state := by
    intro inTable
    rw [Table.eq_of_id_eq oldMem inTable sameId]
  have untouched : ∀ row : UploadSession, (∃ was ∈ catalog.sessions,
      sessionTerms was = sessionTerms row ∧ was.state = .initiated) →
      session ∈ catalog.sessions.put row → session.state = old.state := by
    rintro row ⟨was, wasMem, terms, open_⟩ inTable
    rcases Table.mem_put.mp inTable with rfl | ⟨inTable, _⟩
    · have wasId : was.id = session.id := (congrArg UploadSession.id terms :)
      rw [Table.eq_of_id_eq wasMem oldMem (wasId.trans sameId.symm)] at open_
      contradiction
    · exact unchanged inTable
  cases action with
  | progress row =>
      obtain ⟨was, wasMem, terms, sameState⟩ := enabled
      rcases Table.mem_put.mp member with rfl | ⟨inTable, _⟩
      · have wasId : was.id = session.id := (congrArg UploadSession.id terms :)
        rw [← sameState, Table.eq_of_id_eq wasMem oldMem (wasId.trans sameId.symm)]
      · exact unchanged inTable
  | openSession row =>
      rcases Table.mem_put.mp member with rfl | ⟨inTable, _⟩
      · exact absurd sameId (enabled.1 old oldMem)
      · exact unchanged inTable
  | closeSession row =>
      obtain ⟨was, wasMem, terms, open_, _⟩ := enabled
      exact untouched row ⟨was, wasMem, terms, open_⟩ member
  | prune sessionId => exact unchanged (Table.mem_erase.mp member).1
  | complete row publication => exact untouched row enabled.1 member
  | rest | reserve | release | upload | claim | revert | finalize | retire | work | schedule
  | migrate => exact unchanged member

/-- No location goes back. -/
theorem location_advanced (consistent : Consistent catalog nextId)
    (enabled : action.Enabled catalog nextId) {location : ObjectLocation}
    (member : location ∈ catalog.locations) :
    Advanced (catalog.after action).locations location := by
  cases action with
  | complete row publication =>
      obtain ⟨_, _, ready, _⟩ := enabled
      have readyBefore : publication.Ready catalog := ready
      exact readyBefore.location_advanced consistent member
  | upload sizeBytes publication => exact enabled.1.location_advanced consistent member
  | finalize record row =>
      obtain ⟨_, _, _, _, deleted, _⟩ := enabled
      apply Advanced.put member
      rw [deleted]
      exact fun _ => stage_le_deleted _
  | retire row =>
      apply Advanced.put member
      rw [enabled.1]
      exact fun _ => stage_le_deleted _
  | migrate item record retained target =>
      obtain ⟨_, ⟨old, oldMem, _, _, pointer, _⟩, ⟨retainedState, source, sourceMem, sourceId,
        terms⟩, fresh, _⟩ := enabled
      have kept : location ∈ catalog.locations.put target :=
        Table.mem_put.mpr (.inr ⟨member, fresh location member⟩)
      apply Advanced.put kept
      intro same
      have retainedId : source.id = retained.id := (congrArg ObjectLocation.id terms :)
      obtain ⟨_, row, rowMem, rowId, _, _, active⟩ := consistent.pointer old oldMem _ pointer
      have rowEq : row = location := Table.eq_of_id_eq rowMem member
        ((rowId.trans sourceId.symm).trans (retainedId.trans same.symm))
      rw [← rowEq, active, retainedState]
      decide
  | rest | progress | openSession | closeSession | prune | reserve | release | claim | revert
  | work | schedule => exact ⟨location, member, rfl, Nat.le_refl _⟩

/-- No record disappears or moves to another namespace. -/
theorem record_kept (enabled : action.Enabled catalog nextId) {record : ObjectRecord}
    (member : record ∈ catalog.records) :
    ∃ row ∈ (catalog.after action).records, row.id = record.id ∧
      row.organizationId = record.organizationId ∧ row.namespaceId = record.namespaceId := by
  have overwritten : ∀ row : ObjectRecord, (∀ old ∈ catalog.records, old.id = row.id →
      row.organizationId = old.organizationId ∧ row.namespaceId = old.namespaceId) →
      ∃ kept ∈ catalog.records.put row, kept.id = record.id ∧
        kept.organizationId = record.organizationId ∧ kept.namespaceId = record.namespaceId := by
    intro row place
    by_cases same : record.id = row.id
    · exact ⟨row, Table.mem_put_self _ _, same.symm, place record member same⟩
    · exact ⟨record, Table.mem_put.mpr (.inr ⟨member, same⟩), rfl, rfl, rfl⟩
  have published : ∀ publication : Publication, publication.Ready catalog →
      ∃ kept ∈ catalog.records.put publication.record, kept.id = record.id ∧
        kept.organizationId = record.organizationId ∧ kept.namespaceId = record.namespaceId := by
    intro publication ready
    apply overwritten
    intro old oldMem same
    cases existingEq : publication.existing with
    | none => exact absurd same (ready.freshRecord existingEq old oldMem)
    | some was =>
        obtain ⟨wasMem, wasId, organization, namespace_⟩ := ready.existing was existingEq
        obtain rfl : old = was := Table.eq_of_id_eq oldMem wasMem (same.trans wasId.symm)
        exact ⟨organization.symm, namespace_.symm⟩
  have rewritten : ∀ row old : ObjectRecord, old ∈ catalog.records → old.id = row.id →
      row.organizationId = old.organizationId → row.namespaceId = old.namespaceId →
      ∃ kept ∈ catalog.records.put row, kept.id = record.id ∧
        kept.organizationId = record.organizationId ∧ kept.namespaceId = record.namespaceId := by
    intro row old oldMem sameId organization namespace_
    apply overwritten
    intro other otherMem otherId
    obtain rfl : other = old := Table.eq_of_id_eq otherMem oldMem (otherId.trans sameId.symm)
    exact ⟨organization, namespace_⟩
  cases action with
  | complete row publication => exact published publication enabled.2.2.1
  | upload sizeBytes publication => exact published publication enabled.1
  | claim row | revert row =>
      obtain ⟨old, oldMem, _, rowEq⟩ := enabled
      exact rewritten row old oldMem (congrArg ObjectRecord.id rowEq.symm :)
        (congrArg ObjectRecord.organizationId rowEq :) (congrArg ObjectRecord.namespaceId rowEq :)
  | finalize row location =>
      obtain ⟨old, oldMem, _, rowEq, _⟩ := enabled
      exact rewritten row old oldMem (congrArg ObjectRecord.id rowEq.symm :)
        (congrArg ObjectRecord.organizationId rowEq :) (congrArg ObjectRecord.namespaceId rowEq :)
  | migrate item row retained target =>
      obtain ⟨_, ⟨old, oldMem, _, _, _, rowEq, _⟩, _⟩ := enabled
      exact rewritten row old oldMem (congrArg ObjectRecord.id rowEq.symm :)
        (congrArg ObjectRecord.organizationId rowEq :) (congrArg ObjectRecord.namespaceId rowEq :)
  | rest | progress | openSession | closeSession | prune | reserve | release | retire | work
  | schedule => exact ⟨record, member, rfl, rfl, rfl⟩

/-- A session that is completed was so before, or is completed now. -/
theorem completed_origin (enabled : action.Enabled catalog nextId) {session : UploadSession}
    (member : session ∈ (catalog.after action).sessions) (completed : session.state = .completed) :
    (∃ old ∈ catalog.sessions, sessionTerms old = sessionTerms session ∧ old.state = .completed) ∨
      ∃ publication, action = .complete session publication := by
  have unchanged : session ∈ catalog.sessions → ∃ old ∈ catalog.sessions,
      sessionTerms old = sessionTerms session ∧ old.state = .completed :=
    fun inTable => ⟨session, inTable, rfl, completed⟩
  cases action with
  | progress row =>
      obtain ⟨old, oldMem, terms, sameState⟩ := enabled
      rcases Table.mem_put.mp member with rfl | ⟨inTable, _⟩
      · exact .inl ⟨old, oldMem, terms, sameState.trans completed⟩
      · exact .inl (unchanged inTable)
  | openSession row =>
      rcases Table.mem_put.mp member with rfl | ⟨inTable, _⟩
      · rw [enabled.2.1] at completed
        contradiction
      · exact .inl (unchanged inTable)
  | closeSession row =>
      obtain ⟨_, _, _, _, ended⟩ := enabled
      rcases Table.mem_put.mp member with rfl | ⟨inTable, _⟩
      · simp [completed] at ended
      · exact .inl (unchanged inTable)
  | prune sessionId => exact .inl (unchanged (Table.mem_erase.mp member).1)
  | complete row publication =>
      rcases Table.mem_put.mp member with rfl | ⟨inTable, _⟩
      · exact .inr ⟨publication, rfl⟩
      · exact .inl (unchanged inTable)
  | rest | reserve | release | upload | claim | revert | finalize | retire | work | schedule
  | migrate => exact .inl (unchanged member)

/-- An object that is in the index stays there. -/
theorem deliveredTo_kept (enabled : action.Enabled catalog nextId) {session : UploadSession}
    (delivered : DeliveredTo catalog session) : DeliveredTo (catalog.after action) session := by
  obtain ⟨location, locationMem, key, bucket, record, recordMem, owner, tenant, namespace_⟩ :=
    delivered
  obtain ⟨row, rowMem, terms⟩ := location_kept enabled locationMem
  obtain ⟨kept, keptMem, keptId, keptTenant, keptNamespace⟩ := record_kept enabled recordMem
  have rowOwner : row.objectRecordId = location.objectRecordId :=
    (congrArg ObjectLocation.objectRecordId terms :)
  exact ⟨row, rowMem, (congrArg ObjectLocation.physicalKey terms :).trans key,
    (congrArg ObjectLocation.bucketConnectionId terms :).trans bucket, kept, keptMem,
    (keptId.trans owner).trans rowOwner.symm, keptTenant.trans tenant,
    keptNamespace.trans namespace_⟩

theorem delivered_after (enabled : action.Enabled catalog nextId) (delivered : Delivered catalog) :
    Delivered (catalog.after action) := by
  intro session member completed
  rcases completed_origin enabled member completed with
    ⟨old, oldMem, terms, wasCompleted⟩ | ⟨publication, rfl⟩
  · exact deliveredTo_kept enabled ((delivered old oldMem wasCompleted).of_terms terms)
  · obtain ⟨_, _, ready, tenant, namespace_, _, bucket, key⟩ := enabled
    exact ⟨publication.location, Table.mem_put_self _ _, key, bucket, publication.record,
      Table.mem_put_self _ _, ready.owner.symm, tenant, namespace_⟩

/-- Every action leaves each active location pointed at. -/
theorem placed_after (consistent : Consistent catalog nextId)
    (enabled : action.Enabled catalog nextId) (placed : Placed catalog) :
    Placed (catalog.after action) := by
  -- a record that is rewritten keeps the locations that are not its own
  have rewritten : ∀ (old row : ObjectRecord) (location : ObjectLocation), old ∈ catalog.records →
      row.id = old.id →
      (old.activeObjectLocationId = some location.id →
        row.activeObjectLocationId = some location.id) →
      location ∈ catalog.locations → location.state = .active →
      ∃ record ∈ catalog.records.put row, record.id = location.objectRecordId ∧
        record.activeObjectLocationId = some location.id := by
    intro old row location oldMem rowId points member active
    obtain ⟨record, recordMem, owner, pointer⟩ := placed location member active
    by_cases same : record.id = row.id
    · obtain rfl : record = old := Table.eq_of_id_eq recordMem oldMem (same.trans rowId)
      exact ⟨row, Table.mem_put_self _ _, rowId.trans owner, points pointer⟩
    · exact ⟨record, Table.mem_put.mpr (.inr ⟨recordMem, same⟩), owner, pointer⟩
  cases action with
  | complete row publication =>
      obtain ⟨_, _, ready, _⟩ := enabled
      have readyBefore : publication.Ready catalog := ready
      exact readyBefore.placed consistent placed
  | upload sizeBytes publication => exact enabled.1.placed consistent placed
  | claim row | revert row =>
      obtain ⟨old, oldMem, _, rowEq⟩ := enabled
      intro location member active
      apply rewritten old row location oldMem (congrArg ObjectRecord.id rowEq :) _ member active
      rw [rowEq]
      exact id
  | finalize row closed =>
      obtain ⟨old, oldMem, _, rowEq, deleted, was, _, pointer, terms⟩ := enabled
      have sameId : was.id = closed.id := (congrArg ObjectLocation.id terms :)
      intro location member active
      rcases Table.mem_put.mp member with rfl | ⟨inTable, apart⟩
      · rw [deleted] at active
        contradiction
      · apply rewritten old row location oldMem (congrArg ObjectRecord.id rowEq :) _ inTable active
        intro points
        rw [pointer, Option.some.injEq, sameId] at points
        exact absurd points.symm apart
  | retire row =>
      intro location member active
      rcases Table.mem_put.mp member with rfl | ⟨inTable, _⟩
      · rw [enabled.1] at active
        contradiction
      · exact placed location inTable active
  | migrate item row retained target =>
      obtain ⟨_, ⟨old, oldMem, itemRecord, _, pointer, rowEq, _⟩, ⟨retainedState, source, _, sourceId,
        terms⟩, _, _, owner, _⟩ := enabled
      have sameId : source.id = retained.id := (congrArg ObjectLocation.id terms :)
      have rowId : row.id = old.id := (congrArg ObjectRecord.id rowEq :)
      intro location member active
      rcases Table.mem_put.mp member with rfl | ⟨inTable, apart⟩
      · rw [retainedState] at active
        contradiction
      · rcases Table.mem_put.mp inTable with rfl | ⟨inTable, _⟩
        · refine ⟨row, Table.mem_put_self _ _, (rowId.trans itemRecord).trans owner.symm, ?_⟩
          rw [rowEq]
        · apply rewritten old row location oldMem rowId _ inTable active
          intro points
          rw [pointer, Option.some.injEq, ← sourceId, sameId] at points
          exact absurd points.symm apart
  | rest | progress | openSession | closeSession | prune | reserve | release | work | schedule =>
      exact placed

end Action

/-! ## Runs -/

/-- What actions make of a catalog, one after the other, while identifiers are handed out. -/
inductive Catalog.Run (catalog : Catalog) (nextId : Id) : Catalog → Id → Prop
  | refl : Run catalog nextId catalog nextId
  | tail {middle : Catalog} {reached later : Id} {action : Action} :
      Run catalog nextId middle reached → reached ≤ later → action.Enabled middle later →
      action.Admitted middle → Run catalog nextId (middle.after action) later

namespace Catalog.Run

variable {catalog middle after : Catalog} {nextId reached later : Id} {action : Action}

theorem single (le : nextId ≤ later) (enabled : action.Enabled catalog later)
    (admitted : action.Admitted catalog) : Run catalog nextId (catalog.after action) later :=
  .tail .refl le enabled admitted

/-- Handing out identifiers is nothing that the catalog knows of. -/
theorem rest (le : nextId ≤ later) : Run catalog nextId catalog later :=
  have enabled : Action.Enabled catalog later .rest := trivial
  .single le enabled trivial

theorem trans (early : Run catalog nextId middle reached) (late : Run middle reached after later) :
    Run catalog nextId after later := by
  induction late with
  | refl => exact early
  | tail _ le enabled admitted ih => exact .tail ih le enabled admitted

theorem consistent (run : Run catalog nextId after later) (start : Consistent catalog nextId) :
    Consistent after later := by
  induction run with
  | refl => exact start
  | tail _ le enabled _ ih => exact (ih.mono le).after enabled

theorem location_advanced (run : Run catalog nextId after later)
    (start : Consistent catalog nextId) {location : ObjectLocation}
    (member : location ∈ catalog.locations) : Advanced after.locations location := by
  induction run with
  | refl => exact ⟨location, member, rfl, Nat.le_refl _⟩
  | tail before le enabled _ ih =>
      obtain ⟨row, rowMem, rowId, rowStage⟩ := ih
      obtain ⟨kept, keptMem, keptId, keptStage⟩ :=
        Action.location_advanced ((before.consistent start).mono le) enabled rowMem
      exact ⟨kept, keptMem, keptId.trans rowId, Nat.le_trans rowStage keptStage⟩

theorem placed (run : Run catalog nextId after later) (start : Consistent catalog nextId)
    (placed : Placed catalog) : Placed after := by
  induction run with
  | refl => exact placed
  | tail before le enabled _ ih =>
      exact Action.placed_after ((before.consistent start).mono le) enabled ih

theorem delivered (run : Run catalog nextId after later) (delivered : Delivered catalog) :
    Delivered after := by
  induction run with
  | refl => exact delivered
  | tail _ _ enabled _ ih => exact Action.delivered_after enabled ih

end Catalog.Run

end Mosp.Index
