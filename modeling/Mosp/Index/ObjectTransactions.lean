import Mosp.Index.Lookups
import Mosp.Index.SessionTransactions

/-!
# Transactions on objects as actions of the catalog

The commits that publish an object, and the steps of a deletion.
-/

namespace Mosp.Index

open Mosp.Concurrency Mosp.Data Mosp.Sql Mosp.Database Mosp.Services Mosp.Worker

variable {check : Db → Option Failure} {time : Time} {state : State Db}

/-! ## Completing a session -/

theorem wp_upsertPart {identity : ApiCredentialIdentity} {session : UploadSession}
    {part : CompletedPart} {returns : Unit → State Db → Prop}
    (goes : ∀ after : State Db, state.nextId ≤ after.nextId →
      catalogOf after.db = catalogOf state.db → returns () after) :
    Tx.wp check time (UploadService.upsertPart identity session part) returns (fun _ => True)
      state := by
  simp only [UploadService.upsertPart, Program.bind_eq, Program.pure_eq, Tx.wp_bind,
    Tx.wp_randomUUID, Tx.wp_upsert, Tx.wp_pure, State.issue_db]
  split
  · apply Tx.Written.of_goes
    exact goes _ (Nat.le_succ _) rfl
  · split
    · trivial
    · apply Tx.Written.of_goes
      exact goes _ (Nat.le_succ _) rfl

theorem wp_upsertParts {identity : ApiCredentialIdentity} {session : UploadSession}
    {parts : List CompletedPart} {returns : Unit → State Db → Prop}
    (goes : ∀ after : State Db, state.nextId ≤ after.nextId →
      catalogOf after.db = catalogOf state.db → returns () after) :
    Tx.wp check time (Program.forEach parts (UploadService.upsertPart identity session)) returns
      (fun _ => True) state := by
  induction parts generalizing state with
  | nil => exact goes state (Nat.le_refl _) rfl
  | cons part rest ih =>
      simp only [Program.forEach, Tx.wp_bind]
      apply wp_upsertPart
      intro touched touchedLater touchedCatalog
      apply ih
      intro after later catalog
      exact goes after (Nat.le_trans touchedLater later) (catalog.trans touchedCatalog)

/-- The record of the key before the commit. -/
def recordBefore (existing : Option UploadService.RecordWithLocation) : Option ObjectRecord :=
  existing.map UploadService.RecordWithLocation.record

/-- The guards of the commit let a key pass that is free or closed, or whose record
is available. -/
def Passed (existing : Option UploadService.RecordWithLocation) : Prop :=
  ∀ found ∈ existing, found.record.state = .available ∨ found.record.state = .deleted

theorem wp_settleUsage {identity : ApiCredentialIdentity} {session : UploadSession}
    {metadata : ProviderObjectMetadata} {existing : Option UploadService.RecordWithLocation}
    {publication : Publication} {returns : Unit → State Db → Prop} (passed : Passed existing)
    (size : publication.record.sizeBytes = metadata.sizeBytes)
    (before : publication.existing = recordBefore existing)
    (goes : ∀ after : State Db, state.nextId ≤ after.nextId →
      catalogOf after.db = (catalogOf state.db).charge identity.organizationId session.namespaceId
        ({ reservedBytes := -session.reservedBytes, activeUploadCount := -1 } + publication.gain) →
      returns () after) :
    Tx.wp check time (UploadService.settleUsage identity session metadata existing) returns
      (fun _ => True) state := by
  simp only [UploadService.settleUsage, Program.bind_eq, Program.pure_eq, Tx.wp_bind, Tx.wp_pure]
  apply wp_lockUsageCounter
  intro locked lockedLater lockedCatalog
  apply wp_updateCounter
    ({ reservedBytes := -session.reservedBytes, activeUploadCount := -1 } + publication.gain)
  · exact fun _ => rfl
  · exact fun _ => ⟨rfl, rfl⟩
  · intro row
    unfold Publication.gain Publication.stored
    rw [before, size]
    cases existing with
    | none => ext <;> simp [usageOf, recordBefore, UploadService.isNewObject, sub_eq_add_neg]
    | some found =>
        rcases passed found rfl with available | deleted
        · ext <;> simp [usageOf, recordBefore, UploadService.isNewObject, takesSpace, available,
            Option.filter, sub_eq_add_neg]
        · ext <;> simp [usageOf, recordBefore, UploadService.isNewObject, takesSpace, deleted,
            Option.filter, sub_eq_add_neg]
  · intro _ after afterId afterCatalog
    apply goes
    · rw [afterId]
      exact lockedLater
    · rw [afterCatalog, lockedCatalog]

/-- Updating one record by its identifier. -/
theorem wp_updateRecord (record : ObjectRecord) {id : Id} {data : ObjectRecord → ObjectRecord}
    {returns : ObjectRecord → State Db → Prop} (member : record ∈ state.db.objectRecord)
    (sameId : record.id = id)
    (goes : returns { data record with modifiedAt := time }
      (state.write [Write.objectRecord { data record with modifiedAt := time }])) :
    Tx.wp check time (objectRecord.update (fun row => row.id == id) data :
      Database.Tx ObjectRecord) returns (fun _ => True) state := by
  apply Tx.wp_update_byId member
  · exact beq_iff_eq.mpr sameId
  · intro other _ matches_
    exact (beq_iff_eq.mp matches_).trans sameId.symm
  · apply Tx.Written.of_goes
    exact goes

/-- Where the object was that an overwrite replaces. -/
def Replaces (db : Db) (existing : Option ObjectRecord) (replaced : UploadService.ReplacedLocation) :
    Prop :=
  ∃ location bucket, LocatedIn db location bucket ∧
    (∃ old ∈ existing, old ∈ db.objectRecord ∧ old.activeObjectLocationId = some location.id) ∧
    replaced =
      { bucketName := bucket.bucketName
        providerConnectionId := bucket.providerConnectionId
        physicalKey := location.physicalKey }

/-- What the commit has written before it creates the new location. -/
structure RecordWritten (before after : State Db) (existing : Option ObjectRecord)
    (row : ObjectRecord) (retained : Option ObjectLocation) : Prop where
  nextId : after.nextId = before.nextId
  catalog : catalogOf after.db =
    { catalogOf before.db with
      records := before.db.objectRecord.put row
      locations := retained.elim before.db.objectLocation before.db.objectLocation.put }
  fresh : existing = none → ∀ other ∈ before.db.objectRecord, other.id ≠ row.id
  leaves : ∀ old ∈ existing, takesSpace old = true →
    ∀ location ∈ before.db.objectLocation, old.activeObjectLocationId = some location.id →
      location.organizationId = old.organizationId → location.state = .active →
      ∃ row ∈ retained, row.id = location.id
  retained : ∀ location ∈ retained, location.state = .retained ∧
    ∃ old ∈ existing, ∃ active ∈ before.db.objectLocation,
      old.activeObjectLocationId = some active.id ∧ locationTerms active = locationTerms location

/-- What the commit writes about the record. -/
structure Described (identity : ApiCredentialIdentity) (session : UploadSession)
    (metadata : ProviderObjectMetadata) (existing : Option UploadService.RecordWithLocation)
    (objectRecordId locationId : Id) (row : ObjectRecord) : Prop where
  id : row.id = ((existing.map fun found => found.record.id).getD objectRecordId)
  organizationId : row.organizationId = identity.organizationId
  namespaceId : row.namespaceId = session.namespaceId
  size : row.sizeBytes = metadata.sizeBytes
  published : UploadService.isNewObject existing = false →
    row.state = .available ∧ row.activeObjectLocationId = some locationId

theorem wp_writeRecord {identity : ApiCredentialIdentity} {session : UploadSession}
    {metadata : ProviderObjectMetadata} {objectRecordId locationId : Id}
    {existing : Option UploadService.RecordWithLocation}
    {returns : Option UploadService.ReplacedLocation → State Db → Prop}
    (found : ∀ entry ∈ existing, RecordIn state.db entry ∧
      entry.record.organizationId = identity.organizationId ∧
      entry.record.namespaceId = session.namespaceId)
    (goes : ∀ replaced row retained after,
      RecordWritten state after (recordBefore existing) row retained →
      Described identity session metadata existing objectRecordId locationId row →
      (∀ entry ∈ replaced, Replaces state.db (recordBefore existing) entry) →
      returns replaced after) :
    Tx.wp check time
      (UploadService.writeRecord identity session metadata objectRecordId locationId existing)
      returns (fun _ => True) state := by
  unfold UploadService.writeRecord
  split
  · simp only [Program.bind_eq, Program.pure_eq, Tx.wp_bind, Tx.wp_create, Tx.wp_pure]
    split
    · trivial
    · rename_i free
      apply Tx.Written.of_goes
      refine goes none _ none _ ⟨rfl, rfl, fun _ => Table.get?_none.mp free, ?_, ?_⟩
        ⟨rfl, rfl, rfl, rfl, ?_⟩ ?_
      · rintro _ ⟨⟩
      · rintro _ ⟨⟩
      · simp [UploadService.isNewObject]
      · rintro _ ⟨⟩
  · rename_i record activeObjectLocation
    obtain ⟨entryIn, sameOrganization, sameNamespace⟩ := found _ rfl
    split
    · rename_i deleted
      simp only [Program.bind_eq, Program.pure_eq, Tx.wp_bind]
      apply wp_updateRecord record entryIn.record_mem rfl
      refine goes none _ none _ ⟨rfl, rfl, ?_, ?_, ?_⟩
        ⟨rfl, sameOrganization, sameNamespace, rfl, fun old => ?_⟩ ?_
      · rintro ⟨⟩
      · rintro _ ⟨⟩ takes
        simp [takesSpace, deleted] at takes
      · rintro _ ⟨⟩
      · simp [UploadService.isNewObject, deleted] at old
      · rintro _ ⟨⟩
    · split
      · exact trivial
      · rename_i location bucket
        obtain ⟨located, pointer⟩ := entryIn.located _ rfl
        have replaces : ∀ entry ∈ some (UploadService.ReplacedLocation.mk bucket.bucketName
            bucket.providerConnectionId location.physicalKey),
            Replaces state.db (recordBefore (some ⟨record, some (location, bucket)⟩)) entry := by
          rintro _ ⟨⟩
          exact ⟨location, bucket, located, ⟨record, rfl, entryIn.record_mem, pointer⟩, rfl⟩
        simp only [Program.bind_eq, Program.pure_eq, Tx.wp_bind]
        apply Tx.wp_updateMany_byId location.id
        · intro row matches_
          simp only [Bool.and_eq_true, beq_iff_eq] at matches_
          exact matches_.1.1
        · intro row rowMem matches_
          simp only [Bool.and_eq_true, beq_iff_eq] at matches_
          obtain rfl := Table.eq_of_id_eq rowMem located.location_mem matches_.1.1
          apply Tx.Written.of_goes
          apply wp_updateRecord record
          · exact entryIn.record_mem
          · rfl
          refine goes _ _ (some { row with state := .retained, updatedAt := time }) _
            ⟨rfl, rfl, ?_, ?_, ?_⟩
            ⟨rfl, sameOrganization, sameNamespace, rfl, fun _ => ⟨rfl, rfl⟩⟩ replaces
          · rintro ⟨⟩
          · rintro _ ⟨⟩ _ active _ samePointer _ _
            exact ⟨_, rfl, Option.some.inj (pointer.symm.trans samePointer)⟩
          · rintro _ ⟨⟩
            exact ⟨rfl, record, rfl, row, rowMem, pointer, rfl⟩
        · intro inactive
          apply wp_updateRecord record entryIn.record_mem rfl
          refine goes _ _ none _ ⟨rfl, rfl, ?_, ?_, ?_⟩
            ⟨rfl, sameOrganization, sameNamespace, rfl, fun _ => ⟨rfl, rfl⟩⟩ replaces
          · rintro ⟨⟩
          · rintro _ ⟨⟩ _ active activeMem samePointer tenant isActive
            have unmatched := inactive active activeMem
            have sameId : active.id = location.id := Option.some.inj (samePointer.symm.trans pointer)
            have own : active.organizationId = identity.organizationId :=
              tenant.trans sameOrganization
            simp [sameId, own, isActive] at unmatched
          · rintro _ ⟨⟩

/-- Creating the location of a publication. -/
theorem wp_createLocation {row : ObjectLocation} {returns : ObjectLocation → State Db → Prop}
    (goes : (∀ other ∈ state.db.objectLocation, other.id ≠ row.id) →
      returns { row with updatedAt := time }
        (state.write [Write.objectLocation { row with updatedAt := time }])) :
    Tx.wp check time (objectLocation.create row : Database.Tx ObjectLocation) returns
      (fun _ => True) state := by
  rw [Tx.wp_create]
  split
  · trivial
  · rename_i free
    apply Tx.Written.of_goes
    exact goes (Table.get?_none.mp free)

/-- The row of a record that is created before its location becomes available
together with its pointer. -/
theorem wp_publishRecord {isNew : Bool} {record : ObjectRecord} {locationId : Id}
    {returns : Unit → State Db → Prop} (member : record ∈ state.db.objectRecord)
    (published : isNew = false →
      record.state = .available ∧ record.activeObjectLocationId = some locationId)
    (goes : ∀ row after, row.state = .available → row.activeObjectLocationId = some locationId →
      row.id = record.id → row.organizationId = record.organizationId →
      row.namespaceId = record.namespaceId → row.sizeBytes = record.sizeBytes →
      after.nextId = state.nextId →
      catalogOf after.db = { catalogOf state.db with records := state.db.objectRecord.put row } →
      returns () after) :
    Tx.wp check time (Program.runIf (isNew = true)
      ((objectRecord.update (fun row => row.id == record.id) fun row =>
        { row with state := .available, activeObjectLocationId := some locationId }).bind
          fun _ => .pure ()) : Database.Tx Unit) returns (fun _ => True) state := by
  rw [Tx.wp_runIf]
  constructor
  · intro _
    rw [Tx.wp_bind]
    apply wp_updateRecord record member rfl
    exact goes { record with
      state := .available, activeObjectLocationId := some locationId, modifiedAt := time } _
      rfl rfl rfl rfl rfl rfl rfl rfl
  · intro old
    obtain ⟨available, pointer⟩ := published (by simpa using old)
    apply goes record _ available pointer rfl rfl rfl rfl rfl
    rw [Table.put_eq_self member]
    rfl

theorem wp_lockExisting_any {identity : ApiCredentialIdentity} {session : UploadSession}
    {returns : Option UploadService.RecordWithLocation → State Db → Prop}
    (goes : ∀ existing, (∀ entry ∈ existing, RecordIn state.db entry ∧
      entry.record.organizationId = identity.organizationId ∧
      entry.record.namespaceId = session.namespaceId) → returns existing state) :
    Tx.wp check time (UploadService.lockExisting identity session) returns (fun _ => True)
      state := by
  apply wp_lockExisting
  · intro _
    apply goes
    rintro _ ⟨⟩
  · intro found foundIn sameOrganization sameNamespace _
    apply goes
    rintro _ ⟨⟩
    exact ⟨foundIn, sameOrganization, sameNamespace⟩

/-- The object of a claimed session is published. -/
theorem wp_publish {identity : ApiCredentialIdentity} {session claimed : UploadSession}
    {metadata : ProviderObjectMetadata} {multipartParts : Option (List CompletedPart)}
    {objectRecordId locationId : Id} {existing : Option UploadService.RecordWithLocation}
    {returns : Option UploadService.ReplacedLocation → State Db → Prop}
    (claimedMem : claimed ∈ state.db.uploadSession) (claimedId : claimed.id = session.id)
    (nonneg : 0 ≤ metadata.sizeBytes) (passed : Passed existing)
    (found : ∀ entry ∈ existing, RecordIn state.db entry ∧
      entry.record.organizationId = identity.organizationId ∧
      entry.record.namespaceId = session.namespaceId)
    (goes : ∀ replaced publication after, state.nextId ≤ after.nextId →
      publication.Ready (catalogOf state.db) → publication.existing = recordBefore existing →
      publication.record.organizationId = identity.organizationId →
      publication.record.namespaceId = session.namespaceId →
      publication.record.sizeBytes = metadata.sizeBytes →
      publication.location.bucketConnectionId = session.bucketConnectionId →
      publication.location.physicalKey = session.physicalKey →
      catalogOf after.db =
        (Catalog.publish { catalogOf state.db with
          sessions := state.db.uploadSession.put { claimed with
            state := .completed, completedAt := some time, updatedAt := time } } publication).charge
          identity.organizationId session.namespaceId
          ({ reservedBytes := -session.reservedBytes, activeUploadCount := -1 } +
            publication.gain) →
      (∀ entry ∈ replaced, Replaces state.db publication.existing entry) →
      returns replaced after) :
    Tx.wp check time
      (UploadService.publish identity session metadata multipartParts objectRecordId locationId
        existing) returns (fun _ => True) state := by
  simp only [UploadService.publish, Program.bind_eq, Program.pure_eq, Tx.wp_bind, Tx.wp_now]
  apply wp_writeRecord found
  intro replaced row retained written recordWritten described replaces
  apply wp_createLocation
  intro freshLocation
  rw [← described.id]
  have records : written.db.objectRecord = state.db.objectRecord.put row :=
    congrArg Catalog.records recordWritten.catalog
  have locations : written.db.objectLocation =
      retained.elim state.db.objectLocation state.db.objectLocation.put :=
    congrArg Catalog.locations recordWritten.catalog
  have sessions : written.db.uploadSession = state.db.uploadSession :=
    congrArg Catalog.sessions recordWritten.catalog
  apply wp_publishRecord
  · show row ∈ written.db.objectRecord
    rw [records]
    exact Table.mem_put_self _ _
  · exact described.published
  · intro final published available pointer sameId sameOrganization sameNamespace sameSize
      publishedId publishedCatalog
    apply wp_upsertParts
    intro touched touchedLater touchedCatalog
    let publication : Publication :=
      { record := final
        location :=
          { id := locationId
            organizationId := identity.organizationId
            objectRecordId := row.id
            bucketConnectionId := session.bucketConnectionId
            physicalKey := session.physicalKey
            state := .active
            etag := metadata.etag
            verifiedAt := some time
            providerLastModified := metadata.lastModified
            updatedAt := time }
        existing := recordBefore existing
        retained }
    apply wp_settleUsage passed (sameSize.trans described.size) (rfl : publication.existing = _)
    intro settled settledLater settledCatalog
    have published : catalogOf touched.db = (catalogOf state.db).publish publication := by
      rw [touchedCatalog]
      apply publishedCatalog.trans
      show { catalogOf written.db with
        records := written.db.objectRecord.put final
        locations := written.db.objectLocation.put publication.location } = _
      rw [recordWritten.catalog, records, locations, Table.put_put sameId.symm]
      rfl
    have settledSessions : settled.db.uploadSession = state.db.uploadSession :=
      (congrArg Catalog.sessions settledCatalog).trans (congrArg Catalog.sessions published)
    have freshBefore : ∀ location ∈ state.db.objectLocation, location.id ≠ locationId := by
      intro location member
      change ∀ other ∈ written.db.objectLocation, other.id ≠ locationId at freshLocation
      rw [locations] at freshLocation
      cases retained with
      | none => exact freshLocation location member
      | some kept =>
          by_cases same : location.id = kept.id
          · rw [same]
            exact freshLocation kept (Table.mem_put_self _ _)
          · exact freshLocation location (Table.mem_put.mpr (.inr ⟨member, same⟩))
    apply Tx.wp_update_byId (show claimed ∈ settled.db.uploadSession from settledSessions ▸ claimedMem)
    · exact beq_iff_eq.mpr claimedId
    · intro other _ matches_
      exact (beq_iff_eq.mp matches_).trans claimedId.symm
    · apply Tx.Written.of_goes
      have ready : publication.Ready (catalogOf state.db) := by
        constructor
        · exact available
        · exact pointer
        · exact (sameSize.trans described.size) ▸ nonneg
        · rfl
        · exact sameId.symm
        · exact described.organizationId.symm.trans sameOrganization.symm
        · exact freshBefore
        · intro new other otherMem
          rw [show publication.record.id = row.id from sameId]
          exact recordWritten.fresh new other otherMem
        · intro old oldEq
          obtain ⟨entry, entryEq, rfl⟩ := Option.map_eq_some_iff.mp oldEq
          obtain ⟨entryIn, entryOrganization, entryNamespace⟩ := found entry entryEq
          refine ⟨entryIn.record_mem, ?_, ?_, ?_⟩
          · rw [show publication.record.id = row.id from sameId, described.id, entryEq]
            rfl
          · exact entryOrganization.trans
              (sameOrganization.trans described.organizationId).symm
          · exact entryNamespace.trans (sameNamespace.trans described.namespaceId).symm
        · intro old oldEq deleting
          obtain ⟨entry, entryEq, rfl⟩ := Option.map_eq_some_iff.mp oldEq
          rcases passed entry entryEq with available | deleted
          · rw [available] at deleting
            contradiction
          · rw [deleted] at deleting
            contradiction
        · exact recordWritten.retained
        · exact recordWritten.leaves
      refine goes replaced publication _ ?_ ready rfl ?_ ?_ ?_ rfl rfl ?_ replaces
      · show state.nextId ≤ settled.nextId
        have writtenId : touched.nextId ≥ state.nextId := by
          rw [← recordWritten.nextId]
          exact publishedId ▸ touchedLater
        exact Nat.le_trans writtenId settledLater
      · exact sameOrganization.trans described.organizationId
      · exact sameNamespace.trans described.namespaceId
      · exact sameSize.trans described.size
      · apply (catalogOf_uploadSession settled.db _).trans
        rw [settledCatalog, published]
        rfl

/-- The commit of `complete` publishes the object of the session. -/
theorem wp_completeTransaction {identity : ApiCredentialIdentity} {session : UploadSession}
    {metadata : ProviderObjectMetadata} {multipartParts : Option (List CompletedPart)}
    {objectRecordId locationId : Id} (known : KnownSession state.db session)
    (nonneg : 0 ≤ session.reservedBytes) (size : metadata.sizeBytes = session.reservedBytes) :
    Tx.wp check time
      (UploadService.completeTransaction identity session metadata multipartParts objectRecordId
        locationId)
      (fun replaced after => ∃ row publication, Performs state after (.complete row publication) ∧
        row.id = session.id ∧ ∀ entry ∈ replaced, Replaces state.db publication.existing entry)
      (fun _ => True) state := by
  simp only [UploadService.completeTransaction, Program.bind_eq, Tx.wp_bind, Tx.wp_throwIf]
  apply Tx.wp_updateMany_byId session.id
  · intro row matches_
    simp only [Bool.and_eq_true, beq_iff_eq] at matches_
    exact matches_.1.1
  · intro old member matches_
    simp only [Bool.and_eq_true, beq_iff_eq] at matches_
    obtain ⟨⟨sameId, sameOrganization⟩, open_⟩ := matches_
    have terms := known old member sameId
    have sameNamespace : old.namespaceId = session.namespaceId :=
      (congrArg UploadSession.namespaceId terms :)
    have sameBytes : old.reservedBytes = session.reservedBytes :=
      (congrArg UploadSession.reservedBytes terms :)
    have sameBucket : old.bucketConnectionId = session.bucketConnectionId :=
      (congrArg UploadSession.bucketConnectionId terms :)
    have sameKey : old.physicalKey = session.physicalKey :=
      (congrArg UploadSession.physicalKey terms :)
    apply Tx.Written.of_goes
    refine ⟨fun _ => trivial, fun _ => ?_⟩
    have claimedMem : { old with state := .completing, updatedAt := time } ∈
        (state.write [uploadSession.put (uploadSession.updated time
          { old with state := .completing })]).db.uploadSession :=
      Table.mem_put_self _ _
    apply wp_lockExisting_any
    intro existing found
    refine ⟨fun _ => trivial, fun _ => ⟨fun _ => trivial, fun passes => ?_⟩⟩
    have passed : Passed existing := by
      rintro entry rfl
      simpa [or_iff_not_imp_left] using passes
    apply wp_publish claimedMem sameId (size ▸ nonneg) passed found
    intro replaced publication after later ready before organization namespace_ bytes bucket key
      catalog replaces
    refine ⟨{ old with state := .completed, completedAt := some time, updatedAt := time },
      publication, ⟨later, ⟨⟨old, member, rfl, open_⟩, rfl, { ready with }, ?_, ?_, ?_, ?_, ?_⟩, ?_⟩,
      sameId, ?_⟩
    · exact organization.trans sameOrganization.symm
    · exact namespace_.trans sameNamespace.symm
    · exact bytes.trans (size.trans sameBytes.symm)
    · exact bucket.trans sameBucket.symm
    · exact key.trans sameKey.symm
    · rw [catalog, ← sameOrganization, ← sameNamespace, ← sameBytes]
      have rewritten : (state.db.uploadSession.put
            { old with state := .completing, updatedAt := time }).put
            { old with state := .completed, completedAt := some time, updatedAt := time } =
          state.db.uploadSession.put
            { old with state := .completed, completedAt := some time, updatedAt := time } :=
        Table.put_put rfl
      exact congrArg (fun sessions => Catalog.charge
        (Catalog.publish { catalogOf state.db with sessions } publication) _ _ _) rewritten
    · intro entry entryEq
      obtain ⟨location, bucket, located, points, rfl⟩ := replaces entry entryEq
      exact ⟨location, bucket, { located with }, points, rfl⟩
  · intro _
    exact ⟨fun _ => trivial, fun several => absurd Nat.zero_ne_one several⟩

/-! ## Uploads of the explorer -/

theorem wp_logActivity {organizationId : Id} {actor : DeleteActor} {action : String} {entityId : Id}
    {returns : Unit → State Db → Prop}
    (goes : ∀ after : State Db, state.nextId ≤ after.nextId →
      catalogOf after.db = catalogOf state.db → returns () after) :
    Tx.wp check time (logActivity organizationId actor action entityId) returns (fun _ => True)
      state := by
  simp only [logActivity, Program.bind_eq, Program.pure_eq, Tx.wp_bind, Tx.wp_randomUUID,
    Tx.wp_create, Tx.wp_pure]
  split
  · trivial
  · apply Tx.Written.of_goes
    exact goes _ (Nat.le_succ _) rfl

/-- The commit of an explorer upload publishes its object. -/
theorem wp_commitTransaction {organizationId namespaceId : Id} {key : String}
    {target : PlacementTargetSelection} {physicalKey : PhysicalKey} {sizeBytes : Int}
    {contentType : Option String} {metadata : ProviderObjectMetadata}
    {objectRecordId locationId : Id} {actor : DeleteActor} (nonneg : 0 ≤ sizeBytes)
    (size : metadata.sizeBytes = sizeBytes)
    (drawn : ∃ uuid < state.nextId, physicalKey = .object namespaceId uuid) :
    Tx.wp check time
      (ObjectExplorerService.commitTransaction organizationId namespaceId key target physicalKey
        sizeBytes contentType metadata objectRecordId locationId actor)
      (fun _ after => ∃ publication, Performs state after (.upload sizeBytes publication) ∧
        publication.record.organizationId = organizationId ∧
        publication.record.namespaceId = namespaceId ∧
        publication.location.bucketConnectionId = target.bucketConnection.id ∧
        publication.location.physicalKey = physicalKey)
      (fun _ => True) state := by
  simp only [ObjectExplorerService.commitTransaction, Program.bind_eq, Tx.wp_bind, Tx.wp_now]
  rw [Tx.wp_create]
  split
  · trivial
  · rename_i free
    apply Tx.Written.of_goes
    apply wp_createLocation
    intro freshLocation
    let row : ObjectRecord :=
      { id := objectRecordId
        organizationId
        namespaceId
        logicalKey := key
        state := .pending
        sizeBytes := metadata.sizeBytes
        contentType := contentType.or metadata.contentType
        checksum := ObjectExplorerService.reportedChecksum metadata
        modifiedAt := time }
    let publication : Publication :=
      { record := { row with state := .available, activeObjectLocationId := some locationId }
        location :=
          { id := locationId
            organizationId
            objectRecordId
            bucketConnectionId := target.bucketConnection.id
            physicalKey
            state := .active
            etag := metadata.etag
            providerLastModified := metadata.lastModified
            verifiedAt := some time
            updatedAt := time }
        existing := none
        retained := none }
    apply wp_updateRecord row
    · exact Table.mem_put_self _ _
    · rfl
    apply wp_lockUsageCounter
    intro locked lockedLater lockedCatalog
    apply wp_updateCounter ({ reservedBytes := -sizeBytes } + publication.gain)
    · exact fun _ => rfl
    · exact fun _ => ⟨rfl, rfl⟩
    · intro counter
      ext <;> simp [usageOf, Publication.gain, Publication.stored, publication, row,
        sub_eq_add_neg]
    · intro _ charged chargedId chargedCatalog
      apply wp_logActivity
      intro after afterLater afterCatalog
      have later : state.nextId ≤ after.nextId := by
        apply Nat.le_trans lockedLater
        rw [← chargedId]
        exact afterLater
      obtain ⟨uuid, below, keyEq⟩ := drawn
      refine ⟨publication, ⟨later, ⟨?_, rfl, size, uuid, Nat.lt_of_lt_of_le below later, keyEq⟩, ?_⟩,
        rfl, rfl, rfl, rfl⟩
      · constructor
        · rfl
        · rfl
        · exact nonneg.trans_eq size.symm
        · rfl
        · rfl
        · rfl
        · exact freshLocation
        · exact fun _ => Table.get?_none.mp free
        · rintro _ ⟨⟩
        · rintro _ ⟨⟩
        · rintro _ ⟨⟩
        · rintro _ ⟨⟩
      · have rewritten : (state.db.objectRecord.put row).put publication.record =
            state.db.objectRecord.put publication.record := Table.put_put rfl
        rw [afterCatalog, chargedCatalog, lockedCatalog]
        exact congrArg (fun records => Catalog.charge { catalogOf state.db with
          records, locations := state.db.objectLocation.put publication.location } _ _ _) rewritten

/-! ## Deleting -/

/-- A record goes into deletion where the caller has seen it. -/
theorem wp_claimDelete {organizationId namespaceId : Id} {record : ObjectRecord}
    {location : ObjectLocation} {notFound : Failure} {actor : DeleteActor} :
    Tx.wp check time (claimDelete organizationId namespaceId record location notFound actor)
      (fun _ after => ∃ row, Performs state after (.claim row) ∧ row.id = record.id ∧
        row.activeObjectLocationId = some location.id)
      (fun _ => True) state := by
  simp only [claimDelete, Program.bind_eq, Tx.wp_bind, Tx.wp_throwIf]
  apply Tx.wp_updateMany_byId record.id
  · intro row matches_
    simp only [Bool.and_eq_true, beq_iff_eq] at matches_
    exact matches_.1.1.1.1
  · intro old member matches_
    simp only [Bool.and_eq_true, beq_iff_eq] at matches_
    obtain ⟨⟨⟨⟨sameId, _⟩, _⟩, available⟩, pointer⟩ := matches_
    apply Tx.Written.of_goes
    refine ⟨fun _ => trivial, fun _ => ?_⟩
    apply wp_logActivity
    intro after later catalog
    exact ⟨{ old with state := .deleting, modifiedAt := time },
      ⟨later, ⟨old, member, available, rfl⟩, catalog⟩, sameId, pointer⟩
  · intro _
    exact ⟨fun _ => trivial, fun several => absurd Nat.zero_ne_one several⟩

/-- A record comes back from deletion, if it is in deletion. -/
theorem wp_revertDelete {organizationId : Id} {record : ObjectRecord} :
    Tx.wp check time (revertDelete organizationId record)
      (fun _ after => ∃ action, Performs state after action ∧
        (action = .rest ∨ ∃ row, action = .revert row ∧ row.id = record.id))
      (fun _ => True) state := by
  apply Tx.wp_updateMany_byId record.id
  · intro row matches_
    simp only [Bool.and_eq_true, beq_iff_eq] at matches_
    exact matches_.1.1
  · intro old member matches_
    simp only [Bool.and_eq_true, beq_iff_eq] at matches_
    obtain ⟨⟨sameId, _⟩, deleting⟩ := matches_
    apply Tx.Written.of_goes
    exact ⟨.revert { old with state := .available, modifiedAt := time },
      ⟨Nat.le_refl _, ⟨old, member, deleting, rfl⟩, rfl⟩, .inr ⟨_, rfl, sameId⟩⟩
  · intro _
    exact ⟨.rest, .rest (Nat.le_refl _) rfl, .inl rfl⟩

/-- What a call knows of a record it has read at a location: as long as the record
is there, it is as it was. -/
def KnownAt (db : Db) (record : ObjectRecord) (locationId : Id) : Prop :=
  ∀ row ∈ db.objectRecord, row.id = record.id → row.activeObjectLocationId = some locationId →
    row.sizeBytes = record.sizeBytes

/-- Closing the location and taking the bytes out of the usage, once the record is
closed. -/
theorem wp_closeLocation {organizationId namespaceId locationId entityId : Id} {sizeBytes : Int}
    {actor : DeleteActor} {action : String} {old row : ObjectRecord}
    (consistent : Consistent (catalogOf state.db) state.nextId) (member : old ∈ state.db.objectRecord)
    (deleting : old.state = .deleting) (pointer : old.activeObjectLocationId = some locationId)
    (closed : row = { old with
      state := .deleted, activeObjectLocationId := none, modifiedAt := row.modifiedAt })
    (own : old.organizationId = organizationId ∧ old.namespaceId = namespaceId ∧
      old.sizeBytes = sizeBytes) :
    Tx.wp check time
      ((objectLocation.updateMany
        (fun row => row.id == locationId && row.organizationId == organizationId &&
          row.state == .active)
        fun row => { row with state := .deleted }).bind fun _ =>
          (lockUsageCounter organizationId namespaceId).bind fun _ =>
            (usageCounter.update (isCounterOf organizationId namespaceId) fun row =>
              { row with
                usedBytes := row.usedBytes - sizeBytes
                objectCount := row.objectCount - 1 }).bind fun _ =>
                  logActivity organizationId actor action entityId)
      (fun _ after => ∃ location, Performs state after (.finalize row location) ∧
        location.id = locationId)
      (fun _ => True) (state.write [Write.objectRecord row]) := by
  obtain ⟨_, location, locationMem, locationId_, _, tenant, active⟩ :=
    consistent.pointer old member locationId pointer
  simp only [Tx.wp_bind]
  apply Tx.wp_updateMany_byId locationId
  · intro other matches_
    simp only [Bool.and_eq_true, beq_iff_eq] at matches_
    exact matches_.1.1
  · intro other otherMem matches_
    simp only [Bool.and_eq_true, beq_iff_eq] at matches_
    obtain rfl := Table.eq_of_id_eq otherMem locationMem (matches_.1.1.trans locationId_.symm)
    apply Tx.Written.of_goes
    apply wp_lockUsageCounter
    intro locked lockedLater lockedCatalog
    apply wp_updateCounter { usedBytes := -sizeBytes, objectCount := -1 }
    · exact fun _ => rfl
    · exact fun _ => ⟨rfl, rfl⟩
    · intro counter
      ext <;> simp [usageOf, sub_eq_add_neg]
    · intro _ charged chargedId chargedCatalog
      apply wp_logActivity
      intro after afterLater afterCatalog
      refine ⟨{ other with state := .deleted, updatedAt := time }, ⟨?_, ?_, ?_⟩, matches_.1.1⟩
      · apply Nat.le_trans lockedLater
        rw [← chargedId]
        exact afterLater
      · exact ⟨old, member, deleting, closed, rfl, other, locationMem,
          pointer.trans (congrArg some locationId_.symm), rfl⟩
      · rw [afterCatalog, chargedCatalog, lockedCatalog]
        rw [closed, ← own.1, ← own.2.1, ← own.2.2]
        rfl
  · intro unchanged
    have changed := unchanged location locationMem
    simp [locationId_, tenant, own.1, active] at changed

/-- A service closes the record that it has deleted at the provider. -/
theorem wp_finalizeDelete {organizationId namespaceId : Id} {record : ObjectRecord}
    {location : ObjectLocation} {notFound : Failure} {actor : DeleteActor}
    (consistent : Consistent (catalogOf state.db) state.nextId)
    (known : KnownAt state.db record location.id) :
    Tx.wp check time (finalizeDelete organizationId namespaceId record location notFound actor)
      (fun _ after => ∃ row closed, Performs state after (.finalize row closed) ∧
        closed.id = location.id)
      (fun _ => True) state := by
  simp only [finalizeDelete, Program.bind_eq]
  rw [Tx.wp_bind]
  apply Tx.wp_updateMany_byId record.id
  · intro row matches_
    simp only [Bool.and_eq_true, beq_iff_eq] at matches_
    exact matches_.1.1.1.1
  · intro old member matches_
    simp only [Bool.and_eq_true, beq_iff_eq] at matches_
    obtain ⟨⟨⟨⟨sameId, sameOrganization⟩, sameNamespace⟩, deleting⟩, pointer⟩ := matches_
    apply Tx.Written.of_goes
    rw [Tx.wp_bind, Tx.wp_throwIf]
    refine ⟨fun _ => trivial, fun _ => ?_⟩
    apply Tx.wp_mono (wp_closeLocation consistent member deleting pointer rfl
      ⟨sameOrganization, sameNamespace, known old member sameId pointer⟩) _ fun _ _ => trivial
    intro _ after performs
    obtain ⟨closed, performs, closedId⟩ := performs
    exact ⟨_, closed, performs, closedId⟩
  · intro _
    rw [Tx.wp_bind, Tx.wp_throwIf]
    exact ⟨fun _ => trivial, fun several => absurd Nat.zero_ne_one several⟩

/-- The worker closes the record that it has deleted at the provider. -/
theorem wp_finalizeTransaction {record : ObjectRecord} {locationId : Id}
    (consistent : Consistent (catalogOf state.db) state.nextId)
    (known : KnownAt state.db record locationId) :
    Tx.wp check time (UploadReconciliationService.finalizeTransaction record locationId)
      (fun _ after => ∃ action, Performs state after action ∧
        (action = .rest ∨ ∃ row closed, action = .finalize row closed ∧ closed.id = locationId))
      (fun _ => True) state := by
  simp only [UploadReconciliationService.finalizeTransaction, Program.bind_eq, Program.pure_eq]
  rw [Tx.wp_bind]
  apply Tx.wp_updateMany_byId record.id
  · intro row matches_
    simp only [Bool.and_eq_true, beq_iff_eq] at matches_
    exact matches_.1.1.1.1
  · intro old member matches_
    simp only [Bool.and_eq_true, beq_iff_eq] at matches_
    obtain ⟨⟨⟨⟨sameId, sameOrganization⟩, sameNamespace⟩, deleting⟩, pointer⟩ := matches_
    apply Tx.Written.of_goes
    rw [if_neg (fun several => absurd rfl several)]
    apply Tx.wp_mono (wp_closeLocation consistent member deleting pointer rfl
      ⟨sameOrganization, sameNamespace, known old member sameId pointer⟩) _ fun _ _ => trivial
    intro _ after performs
    obtain ⟨closed, performs, closedId⟩ := performs
    exact ⟨_, performs, .inr ⟨_, closed, rfl, closedId⟩⟩
  · intro _
    rw [if_pos Nat.zero_ne_one]
    exact ⟨.rest, .rest (Nat.le_refl _) rfl, .inl rfl⟩

/-- The worker marks a retained location as deleted. -/
theorem wp_retireLocation {location : ObjectLocation} :
    Tx.wp check time (objectLocation.updateMany
        (fun row => row.id == location.id && row.organizationId == location.organizationId &&
          row.state == .retained)
        fun row => { row with state := .deleted } : Database.Tx Nat)
      (fun _ after => ∃ action, Performs state after action ∧
        (action = .rest ∨ ∃ row, action = .retire row))
      (fun _ => True) state := by
  apply Tx.wp_updateMany_byId location.id
  · intro row matches_
    simp only [Bool.and_eq_true, beq_iff_eq] at matches_
    exact matches_.1.1
  · intro old member matches_
    simp only [Bool.and_eq_true, beq_iff_eq] at matches_
    apply Tx.Written.of_goes
    exact ⟨.retire { old with state := .deleted, updatedAt := time },
      ⟨Nat.le_refl _, ⟨rfl, old, member, matches_.2, rfl⟩, rfl⟩, .inr ⟨_, rfl⟩⟩
  · intro _
    exact ⟨.rest, .rest (Nat.le_refl _) rfl, .inl rfl⟩

end Mosp.Index
