import Mosp.Conduct.Scene

/-!
# What a call may rely on

While a call waits, the others leave the terms of sessions, locations and items
alone, and a record only ever gets a location that is new.  What a call has read
therefore stays true.
-/

namespace Mosp.Conduct

open Mosp.Data Mosp.Database Mosp.Index
open Mosp.System hiding Action

/-- What no step of another call changes. -/
structure Persists (before after : Scene) : Prop where
  later : before.nextId ≤ after.nextId
  buckets : after.catalog.buckets = before.catalog.buckets
  namespaces : after.catalog.namespaces = before.catalog.namespaces
  session : ∀ row ∈ after.catalog.sessions,
    (∃ old ∈ before.catalog.sessions, sessionTerms old = sessionTerms row) ∨
      before.nextId ≤ row.id ∨ ∃ i key, before.Shows i (.initiating row.id key)
  open_ : ∀ row ∈ after.catalog.sessions, row.state = .initiated →
    (∃ old ∈ before.catalog.sessions, old.id = row.id ∧ old.state = .initiated) ∨
      before.nextId ≤ row.id ∨ ∃ i key, before.Shows i (.initiating row.id key)
  initiating : ∀ i uploadId key, after.Shows i (.initiating uploadId key) →
    before.nextId ≤ uploadId ∨ ∃ other, before.Shows i (.initiating uploadId other)
  location : ∀ row ∈ before.catalog.locations,
    ∃ kept ∈ after.catalog.locations, locationTerms kept = locationTerms row
  pointer : ∀ record ∈ after.catalog.records, ∀ location ∈ before.catalog.locations,
    record.activeObjectLocationId = some location.id →
    ∃ old ∈ before.catalog.records, old.id = record.id ∧
      old.activeObjectLocationId = some location.id ∧ old.sizeBytes = record.sizeBytes
  item : ∀ row ∈ before.catalog.items,
    ∃ kept ∈ after.catalog.items, itemTerms kept = itemTerms row

namespace Persists

theorem refl (scene : Scene) : Persists scene scene where
  later := Nat.le_refl _
  buckets := rfl
  namespaces := rfl
  session row member := .inl ⟨row, member, rfl⟩
  open_ row member initiated := .inl ⟨row, member, rfl, initiated⟩
  initiating _ _ key shown := .inr ⟨key, shown⟩
  location row member := ⟨row, member, rfl⟩
  pointer record member _ _ pointer := ⟨record, member, rfl, pointer, rfl⟩
  item row member := ⟨row, member, rfl⟩

theorem trans {first second third : Scene} (early : Persists first second)
    (late : Persists second third) : Persists first third where
  later := Nat.le_trans early.later late.later
  buckets := late.buckets.trans early.buckets
  namespaces := late.namespaces.trans early.namespaces
  session row member := by
    rcases late.session row member with ⟨middle, middleMem, terms⟩ | fresh | ⟨i, key, shown⟩
    · have sameId : middle.id = row.id := (congrArg UploadSession.id terms :)
      rcases early.session middle middleMem with ⟨old, oldMem, oldTerms⟩ | fresh | shown
      · exact .inl ⟨old, oldMem, oldTerms.trans terms⟩
      · exact .inr (.inl (sameId ▸ fresh))
      · exact .inr (.inr (sameId ▸ shown))
    · exact .inr (.inl (Nat.le_trans early.later fresh))
    · rcases early.initiating i row.id key shown with fresh | ⟨other, was⟩
      · exact .inr (.inl fresh)
      · exact .inr (.inr ⟨i, other, was⟩)
  open_ row member initiated := by
    rcases late.open_ row member initiated with
      ⟨middle, middleMem, sameId, middleOpen⟩ | fresh | ⟨i, key, shown⟩
    · rcases early.open_ middle middleMem middleOpen with ⟨old, oldMem, oldId, oldOpen⟩ | new
      · exact .inl ⟨old, oldMem, oldId.trans sameId, oldOpen⟩
      · rw [sameId] at new
        exact .inr new
    · exact .inr (.inl (Nat.le_trans early.later fresh))
    · rcases early.initiating i row.id key shown with fresh | ⟨other, was⟩
      · exact .inr (.inl fresh)
      · exact .inr (.inr ⟨i, other, was⟩)
  initiating i uploadId key shown := by
    rcases late.initiating i uploadId key shown with fresh | ⟨other, was⟩
    · exact .inl (Nat.le_trans early.later fresh)
    · exact early.initiating i uploadId other was
  location row member := by
    obtain ⟨middle, middleMem, terms⟩ := early.location row member
    obtain ⟨kept, keptMem, keptTerms⟩ := late.location middle middleMem
    exact ⟨kept, keptMem, keptTerms.trans terms⟩
  pointer record member location locationMem pointer := by
    obtain ⟨middle, middleMem, terms⟩ := early.location location locationMem
    have sameId : middle.id = location.id := (congrArg ObjectLocation.id terms :)
    obtain ⟨was, wasMem, wasId, wasPointer, wasSize⟩ :=
      late.pointer record member middle middleMem (pointer.trans (congrArg some sameId.symm))
    rw [sameId] at wasPointer
    obtain ⟨old, oldMem, oldId, oldPointer, oldSize⟩ :=
      early.pointer was wasMem location locationMem wasPointer
    exact ⟨old, oldMem, oldId.trans wasId, oldPointer, oldSize.trans wasSize⟩
  item row member := by
    obtain ⟨middle, middleMem, terms⟩ := early.item row member
    obtain ⟨kept, keptMem, keptTerms⟩ := late.item middle middleMem
    exact ⟨kept, keptMem, keptTerms.trans terms⟩

end Persists

/-- What a move leaves to the other calls. -/
theorem Move.persists {caller : Nat} {before after : Scene} {action : Action} {old new : Phase}
    (move : Move caller before after action old new) : Persists before after where
  later := move.later
  buckets := by
    rw [move.catalog]
    cases action <;> rfl
  namespaces := by
    rw [move.catalog]
    cases action <;> rfl
  session row member := by
    rw [move.catalog] at member
    rcases Action.session_origin move.enabled member with origin | rfl
    · exact .inl origin
    · obtain ⟨⟨key, oldEq⟩, _⟩ := move.opens row rfl
      exact .inr (.inr ⟨caller, key, oldEq ▸ move.own⟩)
  open_ row member initiated := by
    rw [move.catalog] at member
    rcases Action.initiated_origin move.enabled member initiated with
      ⟨old, oldMem, terms, wasOpen⟩ | rfl
    · exact .inl ⟨old, oldMem, (congrArg UploadSession.id terms :), wasOpen⟩
    · obtain ⟨⟨key, oldEq⟩, _⟩ := move.opens row rfl
      exact .inr (.inr ⟨caller, key, oldEq ▸ move.own⟩)
  initiating i uploadId key shown := by
    rcases move.initiating_origin shown with was | ⟨_, fresh, _⟩
    · exact .inr was
    · exact .inl fresh
  location row member := by
    rw [move.catalog]
    exact Action.location_kept move.enabled member
  pointer record member location locationMem pointer := by
    rw [move.catalog] at member
    rcases Action.record_origin move.enabled member pointer with
      ⟨was, wasMem, sameId, _, _, wasPointer, sameSize⟩ | fresh
    · exact ⟨was, wasMem, sameId, wasPointer, sameSize⟩
    · exact absurd rfl (fresh location locationMem)
  item row member := by
    rw [move.catalog]
    exact Action.item_kept move.enabled member

/-! ## What a call has read -/

/-- A session as it was read: a row of its identifier has its terms. -/
structure SessionKnown (session : UploadSession) (scene : Scene) : Prop where
  below : session.id < scene.nextId
  terms : ∀ row ∈ scene.catalog.sessions, row.id = session.id →
    sessionTerms row = sessionTerms session
  opened : ∀ i key, ¬scene.Shows i (.initiating session.id key)
  bytes : 0 ≤ session.reservedBytes

/-- A session that has ended. -/
structure SessionEnded (session : UploadSession) (scene : Scene) : Prop where
  below : session.id < scene.nextId
  ended : ∀ row ∈ scene.catalog.sessions, row.id = session.id → row.state ≠ .initiated
  opened : ∀ i key, ¬scene.Shows i (.initiating session.id key)

/-- A location as it was read. -/
def LocationKnown (location : ObjectLocation) (scene : Scene) : Prop :=
  ∃ row ∈ scene.catalog.locations, locationTerms row = locationTerms location

/-- A record as it was read at a location. -/
structure RecordKnown (record : ObjectRecord) (location : ObjectLocation) (scene : Scene) :
    Prop where
  located : LocationKnown location scene
  size : ∀ row ∈ scene.catalog.records, row.id = record.id →
    row.activeObjectLocationId = some location.id → row.sizeBytes = record.sizeBytes

/-- A migration item as it was read. -/
def ItemKnown (item : MigrationItem) (scene : Scene) : Prop :=
  ∃ row ∈ scene.catalog.items, itemTerms row = itemTerms item

namespace Persists

variable {before after : Scene}

theorem sessionKnown (persists : Persists before after) {session : UploadSession}
    (known : SessionKnown session before) : SessionKnown session after where
  below := Nat.lt_of_lt_of_le known.below persists.later
  terms row member sameId := by
    rcases persists.session row member with ⟨old, oldMem, terms⟩ | fresh | ⟨i, key, shown⟩
    · have oldId : old.id = row.id := (congrArg UploadSession.id terms :)
      exact terms.symm.trans (known.terms old oldMem (oldId.trans sameId))
    · rw [sameId] at fresh
      exact absurd fresh (Nat.not_le_of_lt known.below)
    · rw [sameId] at shown
      exact absurd shown (known.opened i key)
  opened i key shown := by
    rcases persists.initiating i session.id key shown with fresh | ⟨other, was⟩
    · exact Nat.not_le_of_lt known.below fresh
    · exact known.opened i other was
  bytes := known.bytes

theorem sessionEnded (persists : Persists before after) {session : UploadSession}
    (known : SessionEnded session before) : SessionEnded session after where
  below := Nat.lt_of_lt_of_le known.below persists.later
  ended row member sameId initiated := by
    rcases persists.open_ row member initiated with
      ⟨old, oldMem, oldId, wasOpen⟩ | fresh | ⟨i, key, shown⟩
    · exact known.ended old oldMem (oldId.trans sameId) wasOpen
    · rw [sameId] at fresh
      exact Nat.not_le_of_lt known.below fresh
    · rw [sameId] at shown
      exact known.opened i key shown
  opened i key shown := by
    rcases persists.initiating i session.id key shown with fresh | ⟨other, was⟩
    · exact Nat.not_le_of_lt known.below fresh
    · exact known.opened i other was

theorem locationKnown (persists : Persists before after) {location : ObjectLocation}
    (known : LocationKnown location before) : LocationKnown location after := by
  obtain ⟨row, member, terms⟩ := known
  obtain ⟨kept, keptMem, keptTerms⟩ := persists.location row member
  exact ⟨kept, keptMem, keptTerms.trans terms⟩

theorem recordKnown (persists : Persists before after) {record : ObjectRecord}
    {location : ObjectLocation} (known : RecordKnown record location before) :
    RecordKnown record location after where
  located := persists.locationKnown known.located
  size row member sameId pointer := by
    obtain ⟨at_, atMem, terms⟩ := known.located
    have atId : at_.id = location.id := (congrArg ObjectLocation.id terms :)
    obtain ⟨old, oldMem, oldId, oldPointer, oldSize⟩ :=
      persists.pointer row member at_ atMem (pointer.trans (congrArg some atId.symm))
    rw [atId] at oldPointer
    exact oldSize.symm.trans (known.size old oldMem (oldId.trans sameId) oldPointer)

theorem itemKnown (persists : Persists before after) {item : MigrationItem}
    (known : ItemKnown item before) : ItemKnown item after := by
  obtain ⟨row, member, terms⟩ := known
  obtain ⟨kept, keptMem, keptTerms⟩ := persists.item row member
  exact ⟨kept, keptMem, keptTerms.trans terms⟩

end Persists

/-- A session of the catalog is known when it is read. -/
theorem Sound.sessionKnown {mode : Mode} {scene : Scene} (sound : Sound mode scene)
    {session : UploadSession} (member : session ∈ scene.catalog.sessions) :
    SessionKnown session scene where
  below := sound.consistent.sessionId session member
  terms row rowMem sameId := by rw [Table.eq_of_id_eq rowMem member sameId]
  opened i key shown := sound.tokens.absent i session.id key shown session member rfl
  bytes := sound.consistent.reserved session member

/-- A session that has ended when it is read stays so. -/
theorem Sound.sessionEnded {mode : Mode} {scene : Scene} (sound : Sound mode scene)
    {session : UploadSession} (member : session ∈ scene.catalog.sessions)
    (ended : session.state ≠ .initiated) : SessionEnded session scene where
  below := sound.consistent.sessionId session member
  ended row rowMem sameId := by rw [Table.eq_of_id_eq rowMem member sameId]; exact ended
  opened i key shown := sound.tokens.absent i session.id key shown session member rfl

/-- A record of the catalog is known at its active location when it is read. -/
theorem recordKnown_of_mem {scene : Scene} {record : ObjectRecord} {location : ObjectLocation}
    (member : record ∈ scene.catalog.records) (locationMem : location ∈ scene.catalog.locations) :
    RecordKnown record location scene where
  located := ⟨location, locationMem, rfl⟩
  size row rowMem sameId _ := by rw [Table.eq_of_id_eq rowMem member sameId]

end Mosp.Conduct
