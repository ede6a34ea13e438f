import Mosp.Database.Constraints
import Mosp.Index.Usage
import Mosp.Index.Lookups

/-!
# The commit of a completed upload and the schema

The commit transaction of `complete` builds a cycle: the record points at its
active location, and the location belongs to the record.  For a key without a
record the transaction creates the record without a pointer, then the location,
then sets the pointer, and every state in between satisfies the constraints.
For an overwrite and for a tombstone it sets the pointer first, to a location
that does not exist yet; the foreign key of the pointer is not deferrable, and
the statement fails.
-/

namespace Mosp.Index

open Mosp.Concurrency Mosp.Data Mosp.Sql Mosp.Database Mosp.Services
open Mosp.Services.UploadService

/-! ## The parts of a multipart upload -/

theorem multipartPartCount_ok {sizeBytes count : Int}
    (counted : multipartPartCount sizeBytes = .ok count) : count ≤ 10000 := by
  unfold multipartPartCount at counted
  by_cases outside :
      (sizeBytes + multipartPartSizeBytes - 1) / multipartPartSizeBytes < 1 ∨
        maxMultipartParts < (sizeBytes + multipartPartSizeBytes - 1) / multipartPartSizeBytes
  · simp only [if_pos outside] at counted
    contradiction
  · simp only [if_neg outside] at counted
    obtain rfl := Except.ok.inj counted
    exact not_lt.mp (not_or.mp outside).2

/-- Validated parts are numbered from 1 to at most 10000. -/
theorem validateMultipartParts_ok {sizeBytes : Int} {input : Option (List CompletedPart)}
    {parts : List CompletedPart} (validated : validateMultipartParts sizeBytes input = .ok parts) :
    ∀ part ∈ parts, 1 ≤ part.partNumber ∧ part.partNumber ≤ 10000 := by
  unfold validateMultipartParts at validated
  cases counted : multipartPartCount sizeBytes with
  | error error => simp [counted, bind, Except.bind] at validated
  | ok expectedCount =>
      have countLe := multipartPartCount_ok counted
      cases input with
      | none => simp [counted, bind, Except.bind] at validated
      | some given =>
          simp only [counted, bind, Except.bind] at validated
          split at validated
          · contradiction
          rename_i lengthEq
          split at validated
          · contradiction
          rename_i numbered
          split at validated
          · contradiction
          obtain rfl := Except.ok.inj validated
          intro part partMem
          obtain ⟨index, inside, partAt⟩ := List.getElem_of_mem partMem
          have entryMem : (part, index) ∈ (given.insertionSort fun left right =>
              left.partNumber ≤ right.partNumber).zipIdx := by
            rw [List.mem_zipIdx_iff_getElem?]
            simpa [List.getElem?_eq_getElem inside] using partAt
          have numberEq : part.partNumber = index + 1 := by
            by_contra different
            exact numbered (List.any_eq_true.mpr ⟨_, entryMem, by simpa using different⟩)
          rw [List.length_insertionSort] at inside
          push Not at lengthEq
          omega

/-! ## A key without a record -/

/-- What `complete` has established when it starts the commit transaction, and
what a database that keeps its constraints and its ledger adds to that.  The two
identifiers and those from `nextId` on are UUIDs that nothing uses yet. -/
structure CommitRequest (db : Db) (nextId : Id) (identity : ApiCredentialIdentity)
    (session : UploadSession) (metadata : ProviderObjectMetadata)
    (multipartParts : Option (List CompletedPart)) (objectRecordId locationId : Id) : Prop where
  valid : Valid db
  ledger : UsageLedger db
  member : session ∈ db.uploadSession
  initiated : session.state = .initiated
  own : session.organizationId = identity.organizationId
  verified : isVerified session metadata = true
  validated : ∀ parts ∈ multipartParts, ∃ input,
    validateMultipartParts session.reservedBytes input = .ok parts
  freshRecord : ∀ record ∈ db.objectRecord, record.id ≠ objectRecordId
  freshLocation : ∀ location ∈ db.objectLocation, location.id ≠ locationId
  freshParts : ∀ part ∈ db.multipartPart, part.id < nextId

/-- An available record of the session's key, whose active location carries the
session's object. -/
def Published (db : Db) (session : UploadSession) (locationId : Id) : Prop :=
  ∃ record ∈ db.objectRecord, ∃ location ∈ db.objectLocation,
    record.organizationId = session.organizationId ∧
    record.namespaceId = session.namespaceId ∧ record.logicalKey = session.logicalKey ∧
    record.state = .available ∧ record.activeObjectLocationId = some locationId ∧
    location.id = locationId ∧ location.objectRecordId = record.id ∧
    location.state = .active ∧ location.physicalKey = session.physicalKey

/-- The index after the commit. -/
def Committed (db : Db) (session : UploadSession) (locationId : Id) : Prop :=
  Published db session locationId ∧
    ∃ completed ∈ db.uploadSession, completed.id = session.id ∧ completed.state = .completed

/-- The record of the session's key. -/
def IsKeyOf (session : UploadSession) (record : ObjectRecord) : Prop :=
  record.namespaceId = session.namespaceId ∧ record.logicalKey = session.logicalKey

section NoRecord

variable {db : Db} {nextId : Id} {identity : ApiCredentialIdentity} {session : UploadSession}
  {metadata : ProviderObjectMetadata} {multipartParts : Option (List CompletedPart)}
  {objectRecordId locationId : Id} {time : Time}

/-- Two tenants cannot share a namespace. -/
theorem organizationId_eq (valid : Valid db) {record : ObjectRecord} (record_mem : record ∈ db.objectRecord)
    {session : UploadSession} (session_mem : session ∈ db.uploadSession)
    (same : record.namespaceId = session.namespaceId) :
    record.organizationId = session.organizationId := by
  obtain ⟨first, firstMem, firstEq⟩ := valid .objectRecordNamespace record record_mem _ rfl
  obtain ⟨second, secondMem, secondEq⟩ := valid .uploadSessionNamespace session session_mem _ rfl
  simp only [Prod.mk.injEq] at firstEq secondEq
  have sameRow : first = second := Table.eq_of_id_eq firstMem secondMem
    (firstEq.1.trans (same.trans secondEq.1.symm))
  rw [← firstEq.2, ← secondEq.2, sameRow]

/-- The parts are written one after the other, and nothing else changes. -/
theorem wp_upsertParts_valid (session : UploadSession) {db : Db} {nextId : Id} {parts : List CompletedPart}
    {returns : Unit → State Db → Prop} {throws : Failure → Prop} (valid : Valid db)
    (member : ∃ row ∈ db.uploadSession,
      (row.id, row.organizationId) = (session.id, identity.organizationId))
    (organization : ∃ row ∈ db.organization, row.id = identity.organizationId)
    (numbered : ∀ part ∈ parts, 1 ≤ part.partNumber ∧ part.partNumber ≤ 10000)
    (fresh : ∀ part ∈ db.multipartPart, part.id < nextId)
    (goes : ∀ multipartPart nextId, Valid { db with multipartPart } →
      returns () ⟨{ db with multipartPart }, nextId⟩) :
    Tx.wp violation time (Program.forEach parts (upsertPart identity session)) returns throws
      ⟨db, nextId⟩ := by
  induction parts generalizing db nextId with
  | nil => exact goes db.multipartPart nextId valid
  | cons part rest ih =>
      have partNumbered := numbered part List.mem_cons_self
      have restNumbered := fun other otherMem => numbered other (List.mem_cons_of_mem _ otherMem)
      -- What follows is the same for a new part and for one that is there.
      have step : ∀ row : MultipartPart, row.uploadSessionId = session.id →
          row.organizationId = identity.organizationId → row.partNumber = part.partNumber →
          row.sizeBytes = some (part.sizeBytes : Int) → row.id < nextId + 1 →
          (∀ other ∈ db.multipartPart, other.uploadSessionId = row.uploadSessionId →
            other.partNumber = row.partNumber → other.id = row.id) →
          Tx.Written violation throws (State.issue ⟨db, nextId⟩) [multipartPart.put row]
            fun after => Tx.wp violation time (Program.forEach rest (upsertPart identity session))
              returns throws after := by
        intro row rowSession rowOrganization rowNumber rowSize rowId rowKey
        have validRow : Valid (db.write (.multipartPart row)) := by
          refine valid.put_multipartPart rowKey (by rwa [rowOrganization])
            (by rw [rowSession, rowOrganization]; exact member) (by omega) ?_
          rw [rowSize]
          rintro _ ⟨⟩
          exact Int.natCast_nonneg _
        refine Tx.Written.of_valid (violation_eq_none.mpr validRow) ?_
        refine ih validRow member organization restNumbered ?_ goes
        intro other otherMem
        rcases Table.mem_put.mp otherMem with rfl | ⟨inTable, _⟩
        · exact rowId
        · exact Nat.lt_succ_of_lt (fresh other inTable)
      simp only [Program.forEach, upsertPart, Program.bind_eq, Program.pure_eq, Tx.wp_bind,
        Tx.wp_randomUUID, Tx.wp_upsert, multipartPart_toRelation_table, multipartPart_created,
        multipartPart_updated, State.issue_db]
      split
      · rename_i row found
        obtain ⟨rowMem, rowKey⟩ := Table.find?_some found
        simp only [Bool.and_eq_true, beq_iff_eq] at rowKey
        have rowOrganization : row.organizationId = identity.organizationId := by
          obtain ⟨owner, ownerMem, ownerEq⟩ := valid .multipartPartUploadSession row rowMem _ rfl
          obtain ⟨own, ownMem, ownEq⟩ := member
          simp only [Prod.mk.injEq] at ownerEq ownEq
          have sameRow : owner = own := Table.eq_of_id_eq ownerMem ownMem
            (ownerEq.1.trans (rowKey.1.trans ownEq.1.symm))
          rw [← ownerEq.2, ← ownEq.2, sameRow]
        refine step _ rowKey.1 rowOrganization rowKey.2 rfl (Nat.lt_succ_of_lt (fresh row rowMem)) ?_
        intro other otherMem sessionEq numberEq
        exact valid .multipartPartNumber other otherMem row rowMem (by simp)
          (by simp only [sessionEq, numberEq])
      · rename_i absent
        split
        · rename_i other taken
          obtain ⟨otherMem, otherId⟩ := Table.get?_some.mp taken
          exact absurd otherId (Nat.ne_of_lt (fresh other otherMem))
        · refine step _ rfl rfl rfl rfl (Nat.lt_succ_self _) ?_
          intro other otherMem sessionEq numberEq
          have differs := Table.find?_none.mp absent other otherMem
          simp only [sessionEq, numberEq, beq_self_eq_true, Bool.and_self] at differs
          contradiction

/-- Without a record of the key there is nothing to lock. -/
theorem wp_lockExisting_none {state : State Db} {returns : Option RecordWithLocation → State Db → Prop}
    {throws : Failure → Prop}
    (absent : ∀ record ∈ state.db.objectRecord, ¬IsKeyOf session record)
    (goes : returns none state) :
    Tx.wp violation time (lockExisting identity session) returns throws state := by
  have notFound : (state.db.objectRecord.find? fun row =>
      row.organizationId == identity.organizationId &&
      row.namespaceId == session.namespaceId && row.logicalKey == session.logicalKey) = none := by
    refine Table.find?_none.mpr fun record member => ?_
    by_contra matches_
    simp only [Bool.not_eq_false, Bool.and_eq_true, beq_iff_eq] at matches_
    exact absent record member ⟨matches_.1.2, matches_.2⟩
  simp only [lockExisting, Program.bind_eq, Tx.wp_bind, Tx.wp_findFirst,
    objectRecord_toRelation_table, notFound]
  exact goes

/-- The counter of the namespace of an open session covers that session. -/
theorem counter_covers (valid : Valid db) (ledger : UsageLedger db)
    (member : session ∈ db.uploadSession) (initiated : session.state = .initiated) :
    ∃ counter, db.usageCounter.find?
        (isCounterOf session.organizationId session.namespaceId) = some counter ∧
      session.reservedBytes ≤ counter.reservedBytes ∧ 1 ≤ counter.activeUploadCount := by
  have measure : reservedSize session.organizationId session.namespaceId session =
      session.reservedBytes := by
    simp [reservedSize, isInitiated, initiated]
  have reservedLe : session.reservedBytes ≤
      Implied.reservedBytes db session.organizationId session.namespaceId := by
    rw [← measure]
    refine Table.le_total _ (fun other otherMem => ?_) member
    have nonempty := valid .uploadSessionNonempty other otherMem
    simp only [Bool.and_eq_true, decide_eq_true_eq] at nonempty
    unfold reservedSize
    split
    · exact nonempty.2
    · exact Int.le_refl 0
  have countLe : 1 ≤ Implied.activeUploadCount db session.organizationId session.namespaceId :=
    Table.one_le_count member (by simp [isInitiated, initiated])
  have count := (ledger session.organizationId session.namespaceId).activeUploadCount
  have reserved := (ledger session.organizationId session.namespaceId).reservedBytes
  unfold counterOf at count reserved
  cases found : db.usageCounter.find?
      (isCounterOf session.organizationId session.namespaceId) with
  | none =>
      simp only [found, Option.getD_none] at count
      omega
  | some counter =>
      simp only [found, Option.getD_some] at count reserved
      exact ⟨counter, rfl, by omega, by omega⟩

/-- Moving the bytes of the session keeps the constraints. -/
theorem wp_settleUsage_valid {state : State Db} {returns : Unit → State Db → Prop}
    {throws : Failure → Prop} {counter : UsageCounter} (valid : Valid state.db)
    (found : state.db.usageCounter.find?
      (isCounterOf identity.organizationId session.namespaceId) = some counter)
    (covered : session.reservedBytes ≤ counter.reservedBytes ∧ 1 ≤ counter.activeUploadCount)
    (size : 0 ≤ metadata.sizeBytes)
    (goes : ∀ row after, after.db = state.db.write (.usageCounter row) → Valid after.db →
      returns () after) :
    Tx.wp violation time (settleUsage identity session metadata none) returns throws state := by
  obtain ⟨member, own⟩ := Table.find?_some found
  have kept : state.db.write (.usageCounter counter) = state.db := by
    simp only [Db.write, Table.put_eq_self member]
  have nonnegative := valid .usageCounterNonnegative counter member
  have organization := valid .usageCounterOrganization counter member _ rfl
  have namespace_ := valid .usageCounterNamespace counter member _ rfl
  have key := valid .usageCounterNamespaceKey
  simp only [decide_eq_true_eq] at nonnegative
  simp only [settleUsage, lockUsageCounter, Program.bind_eq, Tx.wp_bind, Tx.wp_randomUUID,
    Tx.wp_upsert, Tx.wp_selectForUpdate, Tx.wp_update, usageCounter_toRelation_table,
    usageCounter_updated, usageCounter_put, State.issue_db, found, Program.pure_eq, Tx.wp_pure,
    isNewObject, Option.all_none, if_true]
  refine Tx.Written.of_valid (violation_eq_none.mpr (by simpa [kept] using valid)) ?_
  simp only [State.write_single, State.issue_db, Db.database_write, kept, found]
  obtain ⟨settled, settledEq⟩ : ∃ settled, settled = { counter with
      reservedBytes := counter.reservedBytes - session.reservedBytes
      usedBytes := counter.usedBytes + metadata.sizeBytes
      objectCount := counter.objectCount + 1
      activeUploadCount := counter.activeUploadCount - 1
      ingressBytes := counter.ingressBytes + metadata.sizeBytes } := ⟨_, rfl⟩
  rw [← settledEq]
  have validRow : Valid (state.db.write (.usageCounter settled)) := by
    subst settledEq
    refine valid.put_usageCounter ?_ organization namespace_ (by dsimp only; omega)
    intro other otherMem organizationEq namespaceEq
    exact key other otherMem counter member (by simp)
      (by simp only [organizationEq, namespaceEq])
  have written : ((state.issue.write [Write.usageCounter counter]).write
      [Write.usageCounter settled]).db = state.db.write (.usageCounter settled) :=
    congrArg (fun db => Db.write db (.usageCounter settled)) kept
  exact Tx.Written.of_valid (violation_eq_none.mpr (written ▸ validRow))
    (goes settled _ written (written ▸ validRow))

/-- The constraints hold after the record, its location and the pointer. -/
theorem published {db : Db} (valid : Valid db) {session : UploadSession}
    (member : session ∈ db.uploadSession) (record : ObjectRecord) (location : ObjectLocation)
    (absent : ∀ other ∈ db.objectRecord, ¬IsKeyOf session other)
    (freshRecord : ∀ other ∈ db.objectRecord, other.id ≠ record.id)
    (freshLocation : ∀ other ∈ db.objectLocation, other.id ≠ location.id)
    (recordOf : IsKeyOf session record ∧ record.organizationId = session.organizationId ∧
      record.activeObjectLocationId = none ∧ 0 ≤ record.sizeBytes)
    (locationOf : location.objectRecordId = record.id ∧
      location.organizationId = session.organizationId ∧
      location.bucketConnectionId = session.bucketConnectionId ∧ location.verifiedAt ≠ none) :
    Valid (db.write (.objectRecord record)) ∧
      Valid ((db.write (.objectRecord record)).write (.objectLocation location)) ∧
      ∀ modifiedAt, Valid (((db.write (.objectRecord record)).write
        (.objectLocation location)).write (.objectRecord { record with
          state := .available, activeObjectLocationId := some location.id, modifiedAt })) := by
  obtain ⟨⟨sameNamespace, sameKey⟩, recordOrganization, noPointer, size⟩ := recordOf
  obtain ⟨owner, locationOrganization, sameBucket, verified⟩ := locationOf
  have nonempty := valid .uploadSessionNonempty _ member
  simp only [Bool.and_eq_true, bne_iff_ne, decide_eq_true_eq] at nonempty
  have organization := valid .uploadSessionOrganization _ member _ rfl
  have namespace_ := valid .uploadSessionNamespace _ member _ rfl
  have bucket := valid .uploadSessionBucketConnection _ member _ rfl
  have pointers := valid .objectRecordActiveObjectLocation
  have locationRecords := valid .objectLocationObjectRecord
  have onlyKey : ∀ other ∈ db.objectRecord, other.namespaceId = record.namespaceId →
      other.logicalKey = record.logicalKey → other.id = record.id :=
    fun other otherMem namespaceEq keyEq =>
      absurd ⟨namespaceEq.trans sameNamespace, keyEq.trans sameKey⟩ (absent other otherMem)
  have created : Valid (db.write (.objectRecord record)) := by
    refine valid.put_objectRecord onlyKey ?_ (by rwa [recordOrganization])
      (by rwa [recordOrganization, sameNamespace]) ?_ ⟨by rw [sameKey]; exact nonempty.1.2, size⟩ ?_
    · exact fun _ _ some_ => absurd noPointer some_
    · rw [noPointer]
      rintro _ ⟨⟩
    · exact fun old oldMem sameId => absurd sameId (freshRecord old oldMem)
  have recordMem : record ∈ (db.write (.objectRecord record)).objectRecord :=
    Table.mem_put_self _ _
  have located : Valid ((db.write (.objectRecord record)).write (.objectLocation location)) := by
    refine created.put_objectLocation ?_ (by rwa [locationOrganization])
      ⟨record, recordMem, by rw [owner, locationOrganization, recordOrganization]⟩
      (by rwa [sameBucket, locationOrganization]) fun _ => verified
    intro other otherMem sameRecord
    -- Nothing refers to a record that is new.
    obtain ⟨first, firstMem, firstEq⟩ := locationRecords other otherMem _ rfl
    simp only [Prod.mk.injEq] at firstEq
    exact absurd (firstEq.1.trans (sameRecord.trans owner)) (freshRecord first firstMem)
  refine ⟨created, located, fun modifiedAt => ?_⟩
  have locationMem : location ∈
      ((db.write (.objectRecord record)).write (.objectLocation location)).objectLocation :=
    Table.mem_put_self _ _
  refine located.put_objectRecord ?_ ?_ (by simp only [recordOrganization]; exact organization)
    (by simp only [recordOrganization, sameNamespace]; exact namespace_)
    (by rintro _ ⟨⟩; exact ⟨location, locationMem, rfl⟩)
    ⟨by simp only [sameKey]; exact nonempty.1.2, size⟩ ?_
  · intro other otherMem namespaceEq keyEq
    rcases Table.mem_put.mp otherMem with rfl | ⟨inTable, _⟩
    · rfl
    · exact onlyKey other inTable namespaceEq keyEq
  · intro other otherMem _ pointerEq
    rcases Table.mem_put.mp otherMem with rfl | ⟨inTable, _⟩
    · rfl
    · obtain ⟨target, targetMem, targetEq⟩ := pointers other inTable _ pointerEq
      exact absurd targetEq (freshLocation target targetMem)
  · intro old oldMem sameId
    rcases Table.mem_put.mp oldMem with rfl | ⟨inTable, _⟩
    · rfl
    · exact absurd sameId (freshRecord old inTable)

/-- Once the object is published, the rest of the commit runs to its end. -/
theorem wp_finish {state : State Db} {claimed : UploadSession} {counter : UsageCounter}
    (valid : Valid state.db) (published : Published state.db session locationId)
    (member : claimed ∈ state.db.uploadSession) (same : claimed.id = session.id)
    (own : claimed.organizationId = identity.organizationId)
    (found : state.db.usageCounter.find?
      (isCounterOf identity.organizationId session.namespaceId) = some counter)
    (covered : session.reservedBytes ≤ counter.reservedBytes ∧ 1 ≤ counter.activeUploadCount)
    (size : 0 ≤ metadata.sizeBytes)
    (validated : ∀ parts ∈ multipartParts, ∃ input,
      validateMultipartParts session.reservedBytes input = .ok parts)
    (fresh : ∀ part ∈ state.db.multipartPart, part.id < state.nextId) :
    Tx.wp violation time (Program.forEach (multipartParts.getD []) (upsertPart identity session))
      (fun _ after => Tx.wp violation time (settleUsage identity session metadata none)
        (fun _ after => Tx.wp violation time
          (uploadSession.update (fun row => row.id == session.id) fun row =>
            { row with state := .completed, completedAt := some time } : Database.Tx UploadSession)
          (fun _ after => Committed after.db session locationId) (fun _ => False) after)
        (fun _ => False) after)
      (fun _ => False) state := by
  refine wp_upsertParts_valid session valid ⟨claimed, member, by rw [same, own]⟩
    (own ▸ valid .uploadSessionOrganization claimed member _ rfl) ?_ fresh ?_
  · intro part partMem
    cases multipartParts with
    | none => exact absurd partMem List.not_mem_nil
    | some parts =>
        obtain ⟨input, accepted⟩ := validated parts rfl
        exact validateMultipartParts_ok accepted part partMem
  · intro multipartPart later validParts
    refine wp_settleUsage_valid validParts found covered size ?_
    intro settled after afterDb validSettled
    have claimedRow : claimed ∈ after.db.uploadSession := by
      rw [afterDb]
      exact member
    refine Tx.wp_update_byId claimedRow (by simp [same])
      (fun other _ matches_ => (beq_iff_eq.mp matches_).trans same.symm) ?_
    refine Tx.Written.of_valid
      (violation_eq_none.mpr (validSettled.update_uploadSession _ claimedRow rfl)) ?_
    refine ⟨?_, _, Table.mem_put_self _ _, same, rfl⟩
    change Published after.db session locationId
    rw [afterDb]
    exact published

/-- For a key without a record the commit runs to its end. -/
theorem wp_complete_free (time : Time)
    (request : CommitRequest db nextId identity session metadata multipartParts objectRecordId
      locationId)
    (absent : ∀ record ∈ db.objectRecord, ¬IsKeyOf session record) :
    Tx.wp violation time
      (completeTransaction identity session metadata multipartParts objectRecordId locationId)
      (fun _ after => Committed after.db session locationId) (fun _ => False) ⟨db, nextId⟩ := by
  obtain ⟨valid, ledger, member, initiated, own, verified, validated, freshRecord, freshLocation,
    freshParts⟩ := request
  simp only [isVerified, Bool.and_eq_true, beq_iff_eq] at verified
  have nonempty := valid .uploadSessionNonempty _ member
  simp only [Bool.and_eq_true, bne_iff_ne, decide_eq_true_eq] at nonempty
  obtain ⟨counter, counterFound, counterCovers⟩ := counter_covers valid ledger member initiated
  rw [own] at counterFound
  simp only [completeTransaction, publish, Program.bind_eq, Program.pure_eq, Tx.wp_bind]
  refine Tx.wp_updateMany_byId session.id ?_ ?_ ?_
  · intro row matches_
    simp only [Bool.and_eq_true, beq_iff_eq] at matches_
    exact matches_.1.1
  · intro row rowMem matches_
    simp only [Bool.and_eq_true, beq_iff_eq] at matches_
    obtain rfl := Table.eq_of_id_eq rowMem member matches_.1.1
    have validClaimed := valid.update_uploadSession { row with
      state := .completing, updatedAt := time } member rfl
    refine Tx.Written.of_valid (violation_eq_none.mpr validClaimed) ?_
    refine Tx.wp_throwIf.mpr ⟨fun several => absurd rfl several, fun _ => ?_⟩
    refine wp_lockExisting_none absent ?_
    refine Tx.wp_throwIf.mpr ⟨by simp, fun _ => Tx.wp_throwIf.mpr ⟨by simp, fun _ => ?_⟩⟩
    obtain ⟨created, located, pointed⟩ := published validClaimed
      (Table.mem_put_self _ _)
      { describe row metadata
        { id := objectRecordId
          organizationId := identity.organizationId
          namespaceId := row.namespaceId
          logicalKey := row.logicalKey
          state := .pending
          sizeBytes := 0 } with modifiedAt := time }
      { id := locationId
        organizationId := identity.organizationId
        objectRecordId
        bucketConnectionId := row.bucketConnectionId
        physicalKey := row.physicalKey
        state := .active
        etag := metadata.etag
        verifiedAt := some time
        providerLastModified := metadata.lastModified
        updatedAt := time } absent freshRecord freshLocation
      ⟨⟨rfl, rfl⟩, own.symm, rfl, by simp only [describe]; omega⟩ ⟨rfl, own.symm, rfl, by simp⟩
    simp only [writeRecord, Program.bind_eq, Program.pure_eq, Tx.wp_bind, Tx.wp_now,
      Option.map_none, Option.getD_none]
    refine Tx.wp_create_new freshRecord ?_
    refine Tx.Written.of_valid (violation_eq_none.mpr created) ?_
    refine Tx.wp_create_new freshLocation ?_
    refine Tx.Written.of_valid (violation_eq_none.mpr located) ?_
    refine Tx.wp_runIf.mpr ⟨fun _ => ?_, fun known => absurd rfl known⟩
    refine Tx.wp_bind.mpr (Tx.wp_update_byId (Table.mem_put_self _ _) (by simp [describe])
      (fun other _ matches_ => beq_iff_eq.mp matches_) ?_)
    refine Tx.Written.of_valid (violation_eq_none.mpr (pointed time)) ?_
    exact wp_finish (pointed time)
      ⟨_, Table.mem_put_self _ _, _, Table.mem_put_self _ _, own.symm, rfl, rfl, rfl, rfl, rfl, rfl,
        rfl, rfl⟩
      (Table.mem_put_self _ _) rfl own counterFound counterCovers (by omega) validated freshParts
  · intro none_
    have claimable := none_ session member
    simp [own, initiated] at claimable

end NoRecord

/-! ## A key with a record -/

section Record

variable {db : Db} {identity : ApiCredentialIdentity} {session : UploadSession}
  {metadata : ProviderObjectMetadata} {multipartParts : Option (List CompletedPart)}
  {objectRecordId locationId : Id} {time : Time} {state : State Db}

/-- The record of the key is found and locked. -/
theorem wp_lockExisting_some {returns : Option RecordWithLocation → State Db → Prop}
    {record : ObjectRecord} (member : record ∈ state.db.objectRecord) (key : IsKeyOf session record)
    (own : record.organizationId = identity.organizationId)
    (goes : ∀ existing, existing.record ∈ state.db.objectRecord → returns (some existing) state) :
    Tx.wp violation time (lockExisting identity session) returns (fun _ => True) state := by
  apply wp_lockExisting
  · intro absent
    exact absurd key.2 (absent record member own key.1)
  · intro existing existingIn _ _ _
    exact goes existing existingIn.record_mem

/-- A pointer to a location that does not exist breaks the foreign key. -/
theorem violation_of_pointer {record : ObjectRecord} (member : record ∈ db.objectRecord)
    (pointer : record.activeObjectLocationId = some locationId)
    (absent : ∀ location ∈ db.objectLocation, location.id ≠ locationId) : violation db ≠ none := by
  intro none_
  obtain ⟨location, locationMem, idEq⟩ :=
    violation_eq_none.mp none_ .objectRecordActiveObjectLocation record member _ pointer
  exact absent location locationMem idEq

/-- For an existing record the pointer is written first, and that fails. -/
theorem wp_writeRecord_some {existing : RecordWithLocation}
    {returns : Option ReplacedLocation → State Db → Prop}
    (member : existing.record ∈ state.db.objectRecord)
    (freshLocation : ∀ location ∈ state.db.objectLocation, location.id ≠ locationId) :
    Tx.wp violation time
      (writeRecord identity session metadata objectRecordId locationId (some existing)) returns
      (fun _ => True) state := by
  have pointed : ∀ (after : State Db) (row : ObjectRecord) (goes : State Db → Prop),
      (∀ location ∈ after.db.objectLocation, location.id ≠ locationId) →
      row.activeObjectLocationId = some locationId →
      Tx.Written violation (fun _ => True) after [objectRecord.put row] goes := by
    intro after row goes fresh pointer
    exact Tx.Written.of_violation (List.cons_ne_nil _ _)
      (violation_of_pointer (Table.mem_put_self after.db.objectRecord row) pointer fresh)
  obtain ⟨record, activeObjectLocation⟩ := existing
  simp only [writeRecord]
  split
  · simp only [Program.bind_eq, Tx.wp_bind, Tx.wp_update]
    split
    · trivial
    · exact pointed _ _ _ freshLocation rfl
  · split
    · trivial
    · rename_i location bucket
      simp only [Program.bind_eq, Tx.wp_bind]
      refine Tx.wp_updateMany_byId location.id ?_ ?_ ?_
      · intro row matches_
        simp only [Bool.and_eq_true, beq_iff_eq] at matches_
        exact matches_.1.1
      · intro row rowMem _
        refine Tx.Written.of_goes ?_
        rw [Tx.wp_update]
        split
        · trivial
        · refine pointed _ _ _ ?_ rfl
          intro other otherMem
          rcases Table.mem_put.mp otherMem with rfl | ⟨inTable, _⟩
          · exact freshLocation row rowMem
          · exact freshLocation other inTable
      · intro _
        rw [Tx.wp_update]
        split
        · trivial
        · exact pointed _ _ _ freshLocation rfl

/-- For a key with a record the commit does not return. -/
theorem wp_complete_occupied {nextId : Id} (valid : Valid db)
    (sessionMem : session ∈ db.uploadSession)
    (own : session.organizationId = identity.organizationId)
    (freshLocation : ∀ location ∈ db.objectLocation, location.id ≠ locationId)
    {record : ObjectRecord} (member : record ∈ db.objectRecord) (key : IsKeyOf session record) :
    Tx.wp violation time
      (completeTransaction identity session metadata multipartParts objectRecordId locationId)
      (fun _ _ => False) (fun _ => True) ⟨db, nextId⟩ := by
  have recordOwn := (organizationId_eq valid member sessionMem key.1).trans own
  simp only [completeTransaction, publish, Program.bind_eq, Tx.wp_bind]
  refine Tx.wp_updateMany_byId session.id ?_ ?_ ?_
  · intro row matches_
    simp only [Bool.and_eq_true, beq_iff_eq] at matches_
    exact matches_.1.1
  · intro row _ _
    refine Tx.Written.of_goes (Tx.wp_throwIf.mpr ⟨fun _ => trivial, fun _ => ?_⟩)
    refine wp_lockExisting_some member key recordOwn fun existing existingMem => ?_
    refine Tx.wp_throwIf.mpr ⟨fun _ => trivial, fun _ => ?_⟩
    refine Tx.wp_throwIf.mpr ⟨fun _ => trivial, fun _ => ?_⟩
    exact wp_writeRecord_some existingMem freshLocation
  · exact fun _ => Tx.wp_throwIf.mpr ⟨fun _ => trivial, fun several => absurd Nat.zero_ne_one several⟩

end Record

/-! ## Which keys can be committed -/

/-- The keys that the guards of the commit accept: without a record, with an
available record that may be overwritten, or with a tombstone. -/
def Accepted (db : Db) (session : UploadSession) : Prop :=
  ∀ record ∈ db.objectRecord, IsKeyOf session record →
    (record.state = .available ∧ session.allowOverwrite = true ∧
      ∃ location ∈ db.objectLocation,
        record.activeObjectLocationId = some location.id ∧ location.state = .active) ∨
    record.state = .deleted

/-- The commit runs to its end and publishes the object. -/
def Commits (db : Db) (nextId : Id) (time : Time) (identity : ApiCredentialIdentity)
    (session : UploadSession) (metadata : ProviderObjectMetadata)
    (multipartParts : Option (List CompletedPart)) (objectRecordId locationId : Id) : Prop :=
  ∃ replaced after,
    (completeTransaction identity session metadata multipartParts objectRecordId locationId).run
      violation time ⟨db, nextId⟩ = .ok (replaced, after) ∧
    Committed after.db session locationId

/-- The commit of a verified session succeeds exactly when the key of the session
has no record. -/
theorem completeTransaction_commits_iff {db : Db} {nextId : Id} {time : Time}
    {identity : ApiCredentialIdentity} {session : UploadSession}
    {metadata : ProviderObjectMetadata} {multipartParts : Option (List CompletedPart)}
    {objectRecordId locationId : Id}
    (request : CommitRequest db nextId identity session metadata multipartParts objectRecordId
      locationId) :
    Commits db nextId time identity session metadata multipartParts objectRecordId locationId ↔
      ∀ record ∈ db.objectRecord, ¬IsKeyOf session record := by
  constructor
  · rintro ⟨replaced, after, ran, _⟩ record member key
    exact Tx.wp_of_run (wp_complete_occupied request.valid request.member request.own
      request.freshLocation member key) ran
  · intro absent
    have holds := wp_complete_free time request absent
    unfold Tx.wp at holds
    split at holds
    · rename_i replaced after ran
      exact ⟨replaced, after, ran, holds⟩
    · exact holds.elim

/-! ## An overwrite -/

namespace Overwrite

def identity : ApiCredentialIdentity :=
  { credentialId := 5, namespaceId := 3, organizationId := 1, principalId := 5 }

def metadata : ProviderObjectMetadata :=
  { sizeBytes := 10 }

def session : UploadSession :=
  { id := 8
    organizationId := 1
    namespaceId := 3
    placementTargetId := 12
    bucketConnectionId := 6
    createdByCredentialId := 5
    idempotencyKey := "second"
    logicalKey := "report"
    physicalKey := .object 3 9
    reservedBytes := 10
    allowOverwrite := true
    expiresAt := 1000 }

/-- One tenant with one bucket and one open session. -/
def base : Db :=
  { organization := .ofRows [⟨1⟩]
    providerConnection := .ofRows [⟨4, 1, .healthy⟩]
    providerCredential := .ofRows [⟨13, 4⟩]
    bucketConnection := .ofRows [⟨6, 1, 4, "bucket", .active⟩]
    virtualNamespace := .ofRows [
      { id := 3
        organizationId := 1
        name := "reports"
        slug := "reports"
        status := .active
        quotaBytes := 100 }]
    placementPolicy := .ofRows [{ id := 11, namespaceId := 3, organizationId := 1 }]
    placementTarget := .ofRows [
      { id := 12, policyId := 11, organizationId := 1, bucketConnectionId := 6 }]
    apiCredential := .ofRows [{ id := 5, organizationId := 1, namespaceId := 3 }]
    uploadSession := .ofRows [session]
    usageCounter := .ofRows [
      { id := 7, organizationId := 1, namespaceId := 3, reservedBytes := 10,
        activeUploadCount := 1 }] }

/-- The same tenant with an object under the key of the session. -/
def occupied : Db :=
  { base with
    objectRecord := .ofRows [
      { id := 20
        organizationId := 1
        namespaceId := 3
        logicalKey := "report"
        activeObjectLocationId := some 21
        state := .available
        sizeBytes := 4 }]
    objectLocation := .ofRows [
      { id := 21
        organizationId := 1
        objectRecordId := 20
        bucketConnectionId := 6
        physicalKey := .object 3 22
        state := .active
        verifiedAt := some 0 }]
    usageCounter := .ofRows [
      { id := 7
        organizationId := 1
        namespaceId := 3
        usedBytes := 4
        reservedBytes := 10
        objectCount := 1
        activeUploadCount := 1 }] }

theorem base_request : CommitRequest base 100 identity session metadata none 30 31 where
  valid := violation_eq_none.mp (by decide)
  ledger := .of_tenant 1 3 (by decide)
    ⟨by decide, by decide, by decide, by decide⟩
  member := List.mem_singleton_self _
  initiated := rfl
  own := rfl
  verified := by decide
  validated := by simp
  freshRecord := by rintro _ ⟨⟩
  freshLocation := by rintro _ ⟨⟩
  freshParts := by rintro _ ⟨⟩

theorem occupied_request : CommitRequest occupied 100 identity session metadata none 30 31 where
  valid := violation_eq_none.mp (by decide)
  ledger := .of_tenant 1 3 (by decide)
    ⟨by decide, by decide, by decide, by decide⟩
  member := List.mem_singleton_self _
  initiated := rfl
  own := rfl
  verified := by decide
  validated := by simp
  freshRecord := by simp [occupied, ← Table.mem_rows, Table.ofRows]
  freshLocation := by simp [occupied, ← Table.mem_rows, Table.ofRows]
  freshParts := by rintro _ ⟨⟩

theorem occupied_accepted : Accepted occupied session := by
  simp [Accepted, occupied, ← Table.mem_rows, Table.ofRows, session]

/-- The guards accept the overwrite, and the commit fails with a foreign key. -/
theorem occupied_not_commits :
    CommitRequest occupied 100 identity session metadata none 30 31 ∧
      Accepted occupied session ∧
      ¬Commits occupied 100 0 identity session metadata none 30 31 ∧
      (completeTransaction identity session metadata none 30 31).run violation 0 ⟨occupied, 100⟩ =
        .error (.foreignKeyConstraint "Foreign key constraint violated") := by
  have ran : (completeTransaction identity session metadata none 30 31).run violation 0
      ⟨occupied, 100⟩ = .error (.foreignKeyConstraint "Foreign key constraint violated") := by
    rfl
  refine ⟨occupied_request, occupied_accepted, ?_, ran⟩
  rintro ⟨replaced, after, ran', _⟩
  rw [ran] at ran'
  contradiction

/-- For a key without a record the commit succeeds. -/
theorem base_commits : Commits base 100 0 identity session metadata none 30 31 :=
  (completeTransaction_commits_iff base_request).mpr (by rintro _ ⟨⟩)

end Overwrite

end Mosp.Index
