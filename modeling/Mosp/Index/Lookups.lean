import Mosp.Services.Explorer
import Mosp.Worker.UploadReconciliation

/-!
# What the queries of the services find

The queries read rows together with the rows they refer to.  A query changes
nothing, and fails where a row it refers to is missing.
-/

namespace Mosp.Index

open Mosp.Concurrency Mosp.Data Mosp.Sql Mosp.Database Mosp.Services Mosp.Worker

variable {check : Db → Option Failure} {time : Time} {state : State Db}

/-- A session with its bucket, as the database has them. -/
structure FoundIn (db : Db) (found : FoundSession) : Prop where
  session_mem : found.1 ∈ db.uploadSession
  bucket_mem : found.2 ∈ db.bucketConnection
  own : found.2.id = found.1.bucketConnectionId

/-- A location with its bucket, as the database has them. -/
structure LocatedIn (db : Db) (location : ObjectLocation) (bucket : BucketConnection) : Prop where
  location_mem : location ∈ db.objectLocation
  bucket_mem : bucket ∈ db.bucketConnection
  own : bucket.id = location.bucketConnectionId

/-- A record with its active location, as the database has them. -/
structure RecordIn (db : Db) (found : UploadService.RecordWithLocation) : Prop where
  record_mem : found.record ∈ db.objectRecord
  located : ∀ entry ∈ found.activeObjectLocation, LocatedIn db entry.1 entry.2 ∧
    found.record.activeObjectLocationId = some entry.1.id
  missing : found.activeObjectLocation = none → ∀ locationId,
    found.record.activeObjectLocationId = some locationId →
      ∀ location ∈ db.objectLocation, location.id ≠ locationId

theorem wp_includeBucketConnection {session : UploadSession}
    {returns : FoundSession → State Db → Prop} (member : session ∈ state.db.uploadSession)
    (goes : ∀ found, found.1 = session → FoundIn state.db found → returns found state) :
    Tx.wp check time (UploadService.includeBucketConnection session) returns (fun _ => True)
      state := by
  simp only [UploadService.includeBucketConnection, Program.bind_eq, Program.pure_eq, Tx.wp_bind,
    Tx.wp_findFirstOrThrow]
  split
  · trivial
  · rename_i bucket found
    obtain ⟨bucketMem, own⟩ := Table.find?_some found
    exact goes (session, bucket) rfl ⟨member, bucketMem, by simpa using own⟩

theorem wp_includeActiveLocation {record : ObjectRecord}
    {returns : UploadService.RecordWithLocation → State Db → Prop}
    (member : record ∈ state.db.objectRecord)
    (goes : ∀ found, found.record = record → RecordIn state.db found → returns found state) :
    Tx.wp check time (UploadService.includeActiveLocation record) returns (fun _ => True)
      state := by
  unfold UploadService.includeActiveLocation
  split
  · rename_i noPointer
    apply goes ⟨record, none⟩ rfl
    refine ⟨member, by simp, fun _ locationId pointer => ?_⟩
    rw [noPointer] at pointer
    contradiction
  · rename_i locationId pointer
    simp only [Program.bind_eq, Program.pure_eq, Tx.wp_bind, Tx.wp_findFirst]
    split
    · rename_i absent
      apply goes ⟨record, none⟩ rfl
      refine ⟨member, by simp, fun _ other pointer' location locationMem sameId => ?_⟩
      rw [pointer, Option.some.injEq] at pointer'
      have differs := Table.find?_none.mp absent location locationMem
      simp [sameId, pointer'] at differs
    · rename_i location found
      obtain ⟨locationMem, sameId⟩ := Table.find?_some found
      simp only [Tx.wp_bind, Tx.wp_findFirstOrThrow]
      split
      · trivial
      · rename_i bucket bucketFound
        obtain ⟨bucketMem, own⟩ := Table.find?_some bucketFound
        apply goes ⟨record, some (location, bucket)⟩ rfl
        refine ⟨member, ?_, by simp⟩
        rintro _ ⟨⟩
        refine ⟨⟨locationMem, bucketMem, by simpa using own⟩, ?_⟩
        rw [pointer]
        simpa using (beq_iff_eq.mp sameId).symm

/-- Reading rows one after the other. -/
theorem wp_mapM {α β : Type} {items : List α} {body : α → Database.Tx β}
    {returns : List β → State Db → Prop} (holds : β → Prop)
    (each : ∀ item ∈ items, ∀ goes : β → State Db → Prop, (∀ value, holds value → goes value state) →
      Tx.wp check time (body item) goes (fun _ => True) state)
    (goes : ∀ values, (∀ value ∈ values, holds value) → returns values state) :
    Tx.wp check time (items.mapM' body) returns (fun _ => True) state := by
  induction items generalizing returns with
  | nil => exact goes [] (by simp)
  | cons item rest ih =>
      simp only [List.mapM'_cons, Program.bind_eq, Program.pure_eq, Tx.wp_bind]
      apply each item List.mem_cons_self
      intro value valueHolds
      apply ih
      · exact fun other otherMem => each other (List.mem_cons_of_mem _ otherMem)
      · intro values valuesHold
        apply goes
        intro other otherMem
        rcases List.mem_cons.mp otherMem with rfl | inRest
        · exact valueHolds
        · exact valuesHold other inRest

theorem mem_select {D K R : Type} [Row R] {relation : Relation D K R} {condition : R → Bool}
    {before : R → R → Bool} {db : D} {row : R} :
    row ∈ relation.select condition before db ↔
      row ∈ relation.table db ∧ condition row = true := by
  unfold Relation.select
  rw [List.mem_insertionSort]
  exact Table.mem_filter

/-- The rows a query reads satisfy its condition. -/
theorem wp_findMany {R : Type} [Row R] {relation : Relation Db Lock R} {condition : R → Bool}
    {before : R → R → Bool} {take : Option Nat} {returns : List R → State Db → Prop}
    (goes : ∀ rows, (∀ row ∈ rows, row ∈ relation.table state.db ∧ condition row = true) →
      returns rows state) :
    Tx.wp check time (relation.findMany condition before take : Database.Tx (List R)) returns
      (fun _ => True) state := by
  rw [Tx.wp_findMany]
  apply goes
  intro row member
  cases take with
  | none => exact mem_select.mp member
  | some count => exact mem_select.mp (List.mem_of_mem_take member)

/-! ## Sessions -/

theorem wp_findSession {identity : ApiCredentialIdentity} {uploadId : Id}
    {returns : Option FoundSession → State Db → Prop}
    (goes : ∀ found, (∀ entry ∈ found, FoundIn state.db entry ∧ entry.1.id = uploadId ∧
      entry.1.organizationId = identity.organizationId) → returns found state) :
    Tx.wp check time (UploadService.findSession identity uploadId) returns (fun _ => True)
      state := by
  simp only [UploadService.findSession, Program.bind_eq, Program.pure_eq, Tx.wp_bind,
    Tx.wp_findFirst]
  split
  · exact goes none (by simp)
  · rename_i session found
    obtain ⟨member, matches_⟩ := Table.find?_some found
    simp only [Bool.and_eq_true, beq_iff_eq] at matches_
    simp only [Program.map_eq, Tx.wp_bind]
    apply wp_includeBucketConnection member
    intro entry entryEq entryIn
    apply goes
    rintro _ ⟨⟩
    exact ⟨entryIn, entryEq ▸ matches_.1.1.1, entryEq ▸ matches_.1.1.2⟩

/-- A session of a credential under an idempotency key. -/
structure KeyedBy (identity : ApiCredentialIdentity) (namespaceId : Id) (idempotencyKey : String)
    (session : UploadSession) : Prop where
  organizationId : session.organizationId = identity.organizationId
  namespaceId : session.namespaceId = namespaceId
  idempotencyKey : session.idempotencyKey = idempotencyKey
  credential : session.createdByCredentialId = identity.credentialId

theorem wp_findIdempotent {identity : ApiCredentialIdentity} {namespaceId : Id}
    {idempotencyKey : String} {returns : Option FoundSession → State Db → Prop}
    (goes : ∀ found, (∀ entry ∈ found, FoundIn state.db entry ∧
      KeyedBy identity namespaceId idempotencyKey entry.1) → returns found state) :
    Tx.wp check time (UploadService.findIdempotent identity namespaceId idempotencyKey) returns
      (fun _ => True) state := by
  simp only [UploadService.findIdempotent, Program.bind_eq, Program.pure_eq, Tx.wp_bind,
    Tx.wp_findFirst]
  split
  · exact goes none (by simp)
  · rename_i session found
    obtain ⟨member, matches_⟩ := Table.find?_some found
    simp only [Bool.and_eq_true, beq_iff_eq] at matches_
    obtain ⟨⟨⟨organization, namespace_⟩, key⟩, credential⟩ := matches_
    simp only [Program.map_eq, Tx.wp_bind]
    apply wp_includeBucketConnection member
    rintro entry rfl entryIn
    apply goes
    rintro _ ⟨⟩
    exact ⟨entryIn, ⟨organization, namespace_, key, credential⟩⟩

theorem wp_findExpired {now : Time} {batchSize : Nat}
    {returns : List FoundSession → State Db → Prop}
    (goes : ∀ entries, (∀ entry ∈ entries, FoundIn state.db entry) → returns entries state) :
    Tx.wp check time (UploadReconciliationService.findExpired now batchSize) returns
      (fun _ => True) state := by
  simp only [UploadReconciliationService.findExpired, Program.bind_eq, Tx.wp_bind]
  apply wp_findMany
  intro sessions selected
  apply wp_mapM fun entry => FoundIn state.db entry
  · intro session member goes' holds
    apply wp_includeBucketConnection (selected session member).1
    exact fun entry _ entryIn => holds entry entryIn
  · exact goes

/-! ## Records -/

/-- The records that a worker takes up which looks for records in deletion. -/
def takenUp (batchSize : Nat) (db : Db) : List ObjectRecord :=
  (objectRecord.select (fun row => row.state == .deleting)
    (fun first second => decide (first.modifiedAt ≤ second.modifiedAt)) db).take batchSize

theorem mem_takenUp {batchSize : Nat} {db : Db} {record : ObjectRecord}
    (member : record ∈ takenUp batchSize db) :
    record ∈ db.objectRecord ∧ record.state = .deleting := by
  obtain ⟨inTable, deleting⟩ := mem_select.mp (List.mem_of_mem_take member)
  exact ⟨inTable, beq_iff_eq.mp deleting⟩

theorem wp_findDeleting {batchSize : Nat}
    {returns : List UploadService.RecordWithLocation → State Db → Prop}
    (goes : ∀ entries, (∀ entry ∈ entries, RecordIn state.db entry ∧
      entry.record ∈ takenUp batchSize state.db) → returns entries state) :
    Tx.wp check time (UploadReconciliationService.findDeleting batchSize) returns
      (fun _ => True) state := by
  simp only [UploadReconciliationService.findDeleting, Program.bind_eq, Tx.wp_bind, Tx.wp_findMany]
  apply wp_mapM fun entry => RecordIn state.db entry ∧ entry.record ∈ takenUp batchSize state.db
  · intro record member goes' holds
    apply wp_includeActiveLocation (mem_takenUp member).1
    intro entry entryEq entryIn
    exact holds entry ⟨entryIn, entryEq ▸ member⟩
  · exact goes

theorem wp_findRetained {batchSize : Nat}
    {returns : List (ObjectLocation × BucketConnection) → State Db → Prop}
    (goes : ∀ entries, (∀ entry ∈ entries, LocatedIn state.db entry.1 entry.2 ∧
      entry.1.state = .retained) → returns entries state) :
    Tx.wp check time (UploadReconciliationService.findRetained batchSize) returns
      (fun _ => True) state := by
  simp only [UploadReconciliationService.findRetained, Program.bind_eq, Program.pure_eq,
    Tx.wp_bind]
  apply wp_findMany
  intro locations selected
  apply wp_mapM fun entry => LocatedIn state.db entry.1 entry.2 ∧ entry.1.state = .retained
  · intro location member goes' holds
    obtain ⟨locationMem, retained⟩ := selected location member
    rw [Tx.wp_bind, Tx.wp_findFirstOrThrow]
    split
    · trivial
    · rename_i bucket found
      obtain ⟨bucketMem, own⟩ := Table.find?_some found
      exact holds (location, bucket)
        ⟨⟨locationMem, bucketMem, by simpa using own⟩, beq_iff_eq.mp retained⟩
  · exact goes

theorem wp_findRecord {organizationId namespaceId : Id} {key : String}
    {returns : Option UploadService.RecordWithLocation → State Db → Prop}
    (goes : ∀ found, (∀ entry ∈ found, RecordIn state.db entry ∧
      entry.record.organizationId = organizationId ∧ entry.record.namespaceId = namespaceId ∧
      entry.record.logicalKey = key ∧ entry.record.state = .available) → returns found state) :
    Tx.wp check time (findRecord organizationId namespaceId key) returns (fun _ => True) state := by
  simp only [findRecord, Program.bind_eq, Program.pure_eq, Tx.wp_bind, Tx.wp_findFirst]
  split
  · exact goes none (by simp)
  · rename_i record found
    obtain ⟨member, matches_⟩ := Table.find?_some found
    simp only [Bool.and_eq_true, beq_iff_eq] at matches_
    obtain ⟨⟨⟨sameOrganization, sameNamespace⟩, sameKey⟩, available⟩ := matches_
    simp only [Program.map_eq, Tx.wp_bind]
    apply wp_includeActiveLocation member
    intro entry entryEq entryIn
    apply goes
    rintro _ ⟨⟩
    rw [entryEq]
    exact ⟨entryIn, sameOrganization, sameNamespace, sameKey, available⟩

/-- The record of the session's key, or that there is none. -/
theorem wp_lockExisting {identity : ApiCredentialIdentity} {session : UploadSession}
    {returns : Option UploadService.RecordWithLocation → State Db → Prop}
    (absent : (∀ record ∈ state.db.objectRecord, record.organizationId = identity.organizationId →
      record.namespaceId = session.namespaceId → record.logicalKey ≠ session.logicalKey) →
      returns none state)
    (present : ∀ found, RecordIn state.db found →
      found.record.organizationId = identity.organizationId →
      found.record.namespaceId = session.namespaceId →
      found.record.logicalKey = session.logicalKey → returns (some found) state) :
    Tx.wp check time (UploadService.lockExisting identity session) returns (fun _ => True)
      state := by
  simp only [UploadService.lockExisting, Program.bind_eq, Program.pure_eq, Program.map_eq,
    Program.throw_eq, Tx.wp_bind, Tx.wp_findFirst, objectRecord_toRelation_table]
  split
  · rename_i notFound
    apply absent
    intro record member sameOrganization sameNamespace sameKey
    have differs := Table.find?_none.mp notFound record member
    simp [sameOrganization, sameNamespace, sameKey] at differs
  · rename_i first found
    obtain ⟨firstMem, matches_⟩ := Table.find?_some found
    simp only [Bool.and_eq_true, beq_iff_eq] at matches_
    obtain ⟨⟨_, sameNamespace⟩, sameKey⟩ := matches_
    simp only [Tx.wp_bind]
    apply wp_includeActiveLocation firstMem
    intro _ _ _
    rw [Tx.wp_selectForUpdate, Tx.wp_findFirst]
    split
    · trivial
    · rename_i existing existingFound
      obtain ⟨existingMem, again⟩ := Table.find?_some existingFound
      simp only [Bool.and_eq_true, beq_iff_eq] at again
      have same : existing = first := Table.eq_of_id_eq existingMem firstMem again.1
      rw [Tx.wp_bind]
      apply wp_includeActiveLocation existingMem
      intro entry entryEq entryIn
      apply present entry entryIn
      · rw [entryEq]
        exact again.2
      · rw [entryEq, same]
        exact sameNamespace
      · rw [entryEq, same]
        exact sameKey

end Mosp.Index
