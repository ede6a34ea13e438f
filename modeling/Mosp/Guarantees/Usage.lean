import Mosp.Conduct.Services
import Mosp.Index.CompletionCommit

/-!
# Usage along every run

Whatever the interleaving, the counters of a namespace say what its records and
sessions imply, and what was admitted stays within the limits of the namespace.
-/

namespace Mosp.Guarantees

open Mosp.Concurrency Mosp.Data Mosp.Sql Mosp.Database Mosp.Index Mosp.Services Mosp.Worker
open Mosp.System Mosp.Conduct

/-- A database in which a run begins: the index is consistent, and the counters
say what the rows imply. -/
structure WellKept (world : World) : Prop where
  consistent : Consistent (catalogOf world.db) world.nextId
  ledger : UsageLedger world.db

/-- A database into which nothing has been uploaded. -/
structure Fresh (db : Db) : Prop where
  records : db.objectRecord.rows = []
  locations : db.objectLocation.rows = []
  sessions : db.uploadSession.rows = []
  items : db.migrationItem.rows = []
  counters : ∀ counter ∈ db.usageCounter.rows, counter.usedBytes = 0 ∧ counter.objectCount = 0 ∧
    counter.reservedBytes = 0 ∧ counter.activeUploadCount = 0

instance (db : Db) : Decidable (Fresh db) :=
  decidable_of_iff
    (db.objectRecord.rows = [] ∧ db.objectLocation.rows = [] ∧ db.uploadSession.rows = [] ∧
      db.migrationItem.rows = [] ∧ ∀ counter ∈ db.usageCounter.rows, counter.usedBytes = 0 ∧
        counter.objectCount = 0 ∧ counter.reservedBytes = 0 ∧ counter.activeUploadCount = 0)
    ⟨fun ⟨records, locations, sessions, items, counters⟩ =>
        ⟨records, locations, sessions, items, counters⟩,
      fun ⟨records, locations, sessions, items, counters⟩ =>
        ⟨records, locations, sessions, items, counters⟩⟩

namespace Fresh

variable {db : Db}

theorem no_record (fresh : Fresh db) (record : ObjectRecord) : record ∉ db.objectRecord := by
  rw [← Table.mem_rows, fresh.records]
  exact List.not_mem_nil

theorem no_location (fresh : Fresh db) (location : ObjectLocation) :
    location ∉ db.objectLocation := by
  rw [← Table.mem_rows, fresh.locations]
  exact List.not_mem_nil

theorem no_session (fresh : Fresh db) (session : UploadSession) : session ∉ db.uploadSession := by
  rw [← Table.mem_rows, fresh.sessions]
  exact List.not_mem_nil

theorem no_item (fresh : Fresh db) (item : MigrationItem) : item ∉ db.migrationItem := by
  rw [← Table.mem_rows, fresh.items]
  exact List.not_mem_nil

/-- Nothing has been used, and nothing is implied. -/
theorem ledger (fresh : Fresh db) : UsageLedger db := by
  intro organizationId namespaceId
  have zero : (counterOf db organizationId namespaceId).usedBytes = 0 ∧
      (counterOf db organizationId namespaceId).objectCount = 0 ∧
      (counterOf db organizationId namespaceId).reservedBytes = 0 ∧
      (counterOf db organizationId namespaceId).activeUploadCount = 0 := by
    unfold counterOf
    cases found : db.usageCounter.find? (isCounterOf organizationId namespaceId) with
    | none => exact ⟨rfl, rfl, rfl, rfl⟩
    | some counter => exact fresh.counters counter (Table.find?_some found).1
  obtain ⟨used, count, reserved, active⟩ := zero
  constructor
  · exact used.trans (Table.total_zero fun row member => absurd member (fresh.no_record row)).symm
  · exact count.trans (Table.total_zero fun row member => absurd member (fresh.no_record row)).symm
  · exact reserved.trans
      (Table.total_zero fun row member => absurd member (fresh.no_session row)).symm
  · exact active.trans
      (Table.total_zero fun row member => absurd member (fresh.no_session row)).symm

theorem wellKept {world : World} (fresh : Fresh world.db) : WellKept world where
  consistent :=
    { sessionId := fun session member => absurd member (fresh.no_session session)
      sessionKey := fun session member => absurd member (fresh.no_session session)
      reserved := fun session member => absurd member (fresh.no_session session)
      size := fun record member => absurd member (fresh.no_record record)
      stored := fun record member => absurd member (fresh.no_record record)
      pointer := fun record member => absurd member (fresh.no_record record)
      locationKey := fun location member => absurd member (fresh.no_location location)
      itemKey := fun item member => absurd member (fresh.no_item item)
      target := fun item member => absurd member (fresh.no_item item)
      source := fun item member => absurd member (fresh.no_item item)
      moved := fun item member => absurd member (fresh.no_item item) }
  ledger := fresh.ledger

end Fresh

/-- The namespaces whose limits are watched, where objects are not. -/
def limitsOf (watched : Id → Id → Prop) : Mode where
  watched := watched
  careful := False
  guarded _ := False
  deletes := False

theorem upheld_start {watched : Id → Id → Prop} {start : World} (kept : WellKept start)
    (limits : ∀ organizationId namespaceId, watched organizationId namespaceId →
      WithinLimits (catalogOf start.db) organizationId namespaceId) :
    Upheld (limitsOf watched) (sceneOf ⟨[], start⟩) where
  consistent := kept.consistent
  ledger :=
    { usedBytes := fun organizationId namespaceId =>
        (kept.ledger organizationId namespaceId).usedBytes
      objectCount := fun organizationId namespaceId =>
        (kept.ledger organizationId namespaceId).objectCount
      activeUploadCount := fun organizationId namespaceId =>
        (kept.ledger organizationId namespaceId).activeUploadCount
      reservedBytes := fun organizationId namespaceId => by
        have equal := (kept.ledger organizationId namespaceId).reservedBytes
        show Implied.reservedBytes start.db organizationId namespaceId + 0 ≤
          (counterOf start.db organizationId namespaceId).reservedBytes
        rw [Int.add_zero, equal] }
  limits := limits
  tokens := by constructor <;> simp [Scene.Shows, sceneOf]
  custody careful := careful.elim

/-- Along a run of any requests the invariant holds. -/
theorem upheld_of_run {watched : Id → Id → Prop} {constraints : Db → Option Failure}
    {start : World} {calls : Calls} (kept : WellKept start)
    (limits : ∀ organizationId namespaceId, watched organizationId namespaceId →
      WithinLimits (catalogOf start.db) organizationId namespaceId)
    (reaches : Reaches constraints (fun _ => True) (fun _ _ => True) start calls) :
    Upheld (limitsOf watched) (sceneOf calls.view) := by
  apply upheld_of_reaches _ _ _ (upheld_start kept limits) reaches
  · exact fun _ _ _ careful => careful.elim
  · exact fun _ _ _ careful => careful
  · exact fun careful => careful.elim

/-! ## A run -/

namespace Upload

/-- The tenant of the overwrite, with a grant and nothing uploaded. -/
def tenant : Db :=
  { Overwrite.base with
    user := .ofRows [⟨2⟩]
    folderGrant := .ofRows [
      { id := 14
        organizationId := 1
        namespaceId := 3
        principalType := .apiCredential
        principalId := 5
        folderPrefix := ""
        actions := [.read, .write, .delete]
        createdById := 2 }]
    uploadSession := .empty
    usageCounter := .empty }

def start : World :=
  { state := ⟨tenant, 100⟩, objects := fun _ => none, clock := 0 }

/-- A request to upload ten bytes. -/
def request : Request :=
  .initiate Overwrite.identity "reports"
    { idempotencyKey := "first", key := "report", sizeBytes := 10 }

def key : PhysicalKey :=
  .object 3 101

/-- The session is opened and its object is stored. -/
def stored : List Script :=
  [.start request, .act 0 {} 17,
    .outside (.clientPut ⟨4, "bucket", key⟩ { sizeBytes := 10 })]

/-- The upload is completed, and nothing else happens. -/
def completed : List Script :=
  stored ++ [.start (.complete Overwrite.identity 100 {}), .act 1 {} 8]

/-- Another upload of twenty bytes is opened, and then the object is claimed for deletion. -/
def deleting : List Script :=
  completed ++ [
    .start (.initiate Overwrite.identity "reports"
      { idempotencyKey := "second", key := "draft", sizeBytes := 20 }), .act 2 {} 17,
    .start (.delete Overwrite.identity "reports" "report" "request"), .act 3 {} 6]

/-- The deletion goes on to its end. -/
def removed : List Script :=
  deleting ++ [.act 3 {} 4]

/-- What scripts lead to from the start. -/
def after (scripts : List Script) : Option Calls :=
  Script.run violation (fun _ _ => true) start scripts

/-- The object is uploaded. -/
def published : Option Calls :=
  after completed

/-- The quota of the namespace, the bytes and objects that its records imply, and the bytes that
its sessions reserve. -/
def amounts (calls : Calls) : Option Int × Int × Int × Int :=
  ((calls.shared.db.virtualNamespace.find? fun row => row.id == 3 && row.organizationId == 1).map
      VirtualNamespace.quotaBytes,
    Implied.usedBytes calls.shared.db 1 3, Implied.objectCount calls.shared.db 1 3,
    Implied.reservedBytes calls.shared.db 1 3)

theorem published_amounts : published.map amounts = some (some 100, 10, 1, 0) := by
  decide +kernel

theorem deleting_amounts : (after deleting).map amounts = some (some 100, 10, 1, 20) := by
  decide +kernel

theorem removed_amounts : (after removed).map amounts = some (some 100, 0, 0, 20) := by
  decide +kernel

/-- What the worker would read in deletion. -/
def inDeletion (calls : Calls) : Option (List UploadService.RecordWithLocation × State Db) :=
  match (UploadReconciliationService.findDeleting 100).run violation calls.shared.clock
      calls.shared.state with
  | .ok found => some found
  | .error _ => none

theorem deleting_inDeletion :
    ((after deleting).bind inDeletion).map (fun found => found.1.length) = some 1 := by
  decide +kernel

end Upload

/-! ## Committed usage -/

/-- The used bytes and the objects of every namespace are those of its records, and
every record that the worker reads in deletion has an active object. -/
theorem usage_matches_index {constraints : Db → Option Failure} {start : World} {calls : Calls}
    (kept : WellKept start)
    (reaches : Reaches constraints (fun _ => True) (fun _ _ => True) start calls) :
    (∀ organizationId namespaceId,
      (counterOf calls.shared.db organizationId namespaceId).usedBytes =
          Implied.usedBytes calls.shared.db organizationId namespaceId ∧
        (counterOf calls.shared.db organizationId namespaceId).objectCount =
          Implied.objectCount calls.shared.db organizationId namespaceId) ∧
    ∀ batchSize entries state,
      (UploadReconciliationService.findDeleting batchSize).run constraints calls.shared.clock
        calls.shared.state = .ok (entries, state) →
      ∀ entry ∈ entries, (activeObject (some entry)).isSome := by
  have upheld : Upheld (limitsOf fun _ _ => False) (sceneOf calls.view) :=
    upheld_of_run kept (fun _ _ impossible => impossible.elim) reaches
  constructor
  · intro organizationId namespaceId
    exact ⟨upheld.ledger.usedBytes organizationId namespaceId,
      upheld.ledger.objectCount organizationId namespaceId⟩
  · intro batchSize entries state ran
    have reads : Tx.wp constraints calls.shared.clock
        (UploadReconciliationService.findDeleting batchSize)
        (fun entries _ => ∀ entry ∈ entries, (activeObject (some entry)).isSome) (fun _ => True)
        calls.shared.state := by
      apply wp_findDeleting
      intro entries holds entry member
      obtain ⟨recordIn, taken⟩ := holds entry member
      obtain ⟨location, bucket, active, _⟩ :
          ∃ location bucket, activeObject (some entry) = some (entry.record, location, bucket) ∧ _ :=
        active_of_deleting upheld.consistent recordIn (mem_takenUp taken).2
      rw [active]
      rfl
    unfold Tx.wp at reads
    rw [ran] at reads
    exact reads

/-- The counters of an upload, with its deletion begun and at its end. -/
theorem usage_matches_index_upload : ∃ calls amid later, Upload.published = some calls ∧
    Upload.after Upload.deleting = some amid ∧ Upload.after Upload.removed = some later ∧
    (counterOf calls.shared.db 1 3).usedBytes = 10 ∧
    (counterOf calls.shared.db 1 3).objectCount = 1 ∧
    (counterOf amid.shared.db 1 3).usedBytes = 10 ∧
    (counterOf amid.shared.db 1 3).objectCount = 1 ∧
    (counterOf later.shared.db 1 3).usedBytes = 0 ∧
    (counterOf later.shared.db 1 3).objectCount = 0 ∧
    ∃ entry state, (UploadReconciliationService.findDeleting 100).run violation amid.shared.clock
      amid.shared.state = .ok ([entry], state) ∧ (activeObject (some entry)).isSome := by
  obtain ⟨calls, ran, amounts⟩ := Option.map_eq_some_iff.mp Upload.published_amounts
  obtain ⟨amid, ranAmid, amountsAmid⟩ := Option.map_eq_some_iff.mp Upload.deleting_amounts
  obtain ⟨later, ranLater, amountsLater⟩ := Option.map_eq_some_iff.mp Upload.removed_amounts
  simp only [Upload.amounts, Prod.mk.injEq] at amounts amountsAmid amountsLater
  have kept : WellKept Upload.start := Fresh.wellKept (by decide)
  obtain ⟨counts, -⟩ := usage_matches_index kept (Script.reaches_any ran)
  obtain ⟨countsAmid, active⟩ := usage_matches_index kept (Script.reaches_any ranAmid)
  obtain ⟨countsLater, -⟩ := usage_matches_index kept (Script.reaches_any ranLater)
  refine ⟨calls, amid, later, ran, ranAmid, ranLater, (counts 1 3).1.trans amounts.2.1,
    (counts 1 3).2.trans amounts.2.2.1, (countsAmid 1 3).1.trans amountsAmid.2.1,
    (countsAmid 1 3).2.trans amountsAmid.2.2.1, (countsLater 1 3).1.trans amountsLater.2.1,
    (countsLater 1 3).2.trans amountsLater.2.2.1, ?_⟩
  obtain ⟨⟨entries, state⟩, found, one⟩ := Option.map_eq_some_iff.mp Upload.deleting_inDeletion
  rw [ranAmid, Option.bind_some] at found
  obtain ⟨entry, rfl⟩ := List.length_eq_one_iff.mp one
  unfold Upload.inDeletion at found
  split at found
  · rename_i read ran
    obtain rfl := Option.some.inj found
    exact ⟨entry, state, ran, active 100 _ state ran entry (List.mem_singleton_self entry)⟩
  · contradiction

/-! ## Limits -/

/-- A namespace without objects and sessions. -/
structure IsEmpty (db : Db) (organizationId namespaceId : Id) : Prop where
  records : ∀ record ∈ db.objectRecord,
    ¬(record.organizationId = organizationId ∧ record.namespaceId = namespaceId)
  sessions : ∀ session ∈ db.uploadSession,
    ¬(session.organizationId = organizationId ∧ session.namespaceId = namespaceId)

theorem IsEmpty.implied_eq {db : Db} {organizationId namespaceId : Id}
    (empty : IsEmpty db organizationId namespaceId) :
    implied (catalogOf db) organizationId namespaceId = 0 := by
  have records : ∀ row ∈ db.objectRecord, isStored organizationId namespaceId row = false := by
    intro row member
    simpa [isStored] using fun sameOrganization sameNamespace =>
      absurd ⟨sameOrganization, sameNamespace⟩ (empty.records row member)
  have sessions : ∀ row ∈ db.uploadSession, isInitiated organizationId namespaceId row = false := by
    intro row member
    simpa [isInitiated] using fun sameOrganization sameNamespace =>
      absurd ⟨sameOrganization, sameNamespace⟩ (empty.sessions row member)
  apply Usage.ext
  · exact Table.total_zero fun row member => by simp [storedSize, records row member]
  · exact Table.total_zero fun row member => by simp [reservedSize, sessions row member]
  · exact Table.total_zero fun row member => by simp [records row member]
  · exact Table.total_zero fun row member => by simp [sessions row member]

theorem IsEmpty.withinLimits {db : Db} {organizationId namespaceId : Id}
    (empty : IsEmpty db organizationId namespaceId) (ledger : UsageLedger db)
    (quota : ∀ row ∈ db.virtualNamespace, row.id = namespaceId →
      row.organizationId = organizationId → 0 ≤ row.quotaBytes) :
    WithinLimits (catalogOf db) organizationId namespaceId := by
  have unused : (catalogOf db).usage organizationId namespaceId = 0 := by
    obtain ⟨used, count, reserved, active⟩ := ledger organizationId namespaceId
    exact (Usage.ext used reserved count active :
      _ = implied (catalogOf db) organizationId namespaceId).trans empty.implied_eq
  constructor
  · intro row member sameId sameOrganization
    rw [unused]
    exact quota row member sameId sameOrganization
  · rw [unused]
    decide
  · intro credentialId
    have none_ : credentialUploads (catalogOf db) organizationId namespaceId credentialId = 0 := by
      apply Table.total_zero
      intro row member
      have elsewhere := empty.sessions row member
      simp only [isInitiated, Bool.and_eq_true, beq_iff_eq]
      rw [if_neg fun own => elsewhere own.1.1]
    rw [none_]
    decide

/-- What a namespace has stored, reserved and in transfer stays within its quota, and
its open sessions within their limits. -/
theorem limits_kept {constraints : Db → Option Failure} {start : World} {calls : Calls}
    {organizationId namespaceId : Id} (kept : WellKept start)
    (empty : IsEmpty start.db organizationId namespaceId)
    (quota : ∀ row ∈ start.db.virtualNamespace, row.id = namespaceId →
      row.organizationId = organizationId → 0 ≤ row.quotaBytes)
    (reaches : Reaches constraints (fun _ => True) (fun _ _ => True) start calls) :
    (∀ row ∈ calls.shared.db.virtualNamespace, row.id = namespaceId →
      row.organizationId = organizationId →
      Implied.usedBytes calls.shared.db organizationId namespaceId +
          Implied.reservedBytes calls.shared.db organizationId namespaceId +
          held calls.view.phases organizationId namespaceId ≤ row.quotaBytes) ∧
      Implied.activeUploadCount calls.shared.db organizationId namespaceId ≤ 1000 ∧
      ∀ credentialId, (calls.shared.db.uploadSession.count fun session =>
        isInitiated organizationId namespaceId session &&
          session.createdByCredentialId == credentialId) ≤ 100 := by
  have upheld : Upheld
      (limitsOf fun organizationId' namespaceId' =>
        organizationId' = organizationId ∧ namespaceId' = namespaceId) (sceneOf calls.view) := by
    apply upheld_of_run kept _ reaches
    rintro _ _ ⟨rfl, rfl⟩
    exact empty.withinLimits kept.ledger quota
  have limits := upheld.limits organizationId namespaceId ⟨rfl, rfl⟩
  refine ⟨fun row member sameId sameOrganization => ?_, ?_, ?_⟩
  · have within := limits.quota row member sameId sameOrganization
    have used := upheld.ledger.usedBytes organizationId namespaceId
    have reserved := upheld.ledger.reservedBytes organizationId namespaceId
    calc
      Implied.usedBytes calls.shared.db organizationId namespaceId +
            Implied.reservedBytes calls.shared.db organizationId namespaceId +
            held calls.view.phases organizationId namespaceId
          ≤ (counterOf calls.shared.db organizationId namespaceId).usedBytes +
            (counterOf calls.shared.db organizationId namespaceId).reservedBytes := by
        rw [Int.add_assoc]
        exact Int.add_le_add (Int.le_of_eq used.symm) reserved
      _ ≤ row.quotaBytes := within
  · have active := upheld.ledger.activeUploadCount organizationId namespaceId
    exact (Int.le_of_eq active.symm).trans limits.namespaceUploads
  · exact limits.credentialUploads

/-- With an object in deletion and another upload open, and at the end of the deletion, the quota
of a hundred bytes is kept. -/
theorem limits_kept_upload : ∃ amid later, Upload.after Upload.deleting = some amid ∧
    Upload.after Upload.removed = some later ∧
    (Implied.usedBytes amid.shared.db 1 3 = 10 ∧ Implied.reservedBytes amid.shared.db 1 3 = 20 ∧
      Implied.usedBytes amid.shared.db 1 3 + Implied.reservedBytes amid.shared.db 1 3 +
        held amid.view.phases 1 3 ≤ 100) ∧
    (Implied.usedBytes later.shared.db 1 3 = 0 ∧ Implied.reservedBytes later.shared.db 1 3 = 20 ∧
      Implied.usedBytes later.shared.db 1 3 + Implied.reservedBytes later.shared.db 1 3 +
        held later.view.phases 1 3 ≤ 100) ∧
    Implied.activeUploadCount later.shared.db 1 3 ≤ 1000 := by
  obtain ⟨amid, ranAmid, amounts⟩ := Option.map_eq_some_iff.mp Upload.deleting_amounts
  obtain ⟨later, ranLater, amountsLater⟩ := Option.map_eq_some_iff.mp Upload.removed_amounts
  simp only [Upload.amounts, Prod.mk.injEq] at amounts amountsLater
  obtain ⟨row, found, hundred⟩ := Option.map_eq_some_iff.mp amounts.1
  obtain ⟨rowLater, foundLater, hundredLater⟩ := Option.map_eq_some_iff.mp amountsLater.1
  obtain ⟨member, own⟩ := Table.find?_some found
  obtain ⟨memberLater, ownLater⟩ := Table.find?_some foundLater
  simp only [Bool.and_eq_true, beq_iff_eq] at own ownLater
  have fresh : Fresh Upload.start.db := by decide
  have empty : IsEmpty Upload.start.db 1 3 :=
    ⟨fun record member => absurd member (fresh.no_record record),
      fun session member => absurd member (fresh.no_session session)⟩
  have quota : ∀ row ∈ Upload.start.db.virtualNamespace, row.id = 3 → row.organizationId = 1 →
      0 ≤ row.quotaBytes := by decide
  have limits := limits_kept fresh.wellKept empty quota (Script.reaches_any ranAmid)
  have limitsLater := limits_kept fresh.wellKept empty quota (Script.reaches_any ranLater)
  have within := limits.1 row member own.1 own.2
  have withinLater := limitsLater.1 rowLater memberLater ownLater.1 ownLater.2
  rw [hundred] at within
  rw [hundredLater] at withinLater
  exact ⟨amid, later, ranAmid, ranLater, ⟨amounts.2.1, amounts.2.2.2, within⟩,
    ⟨amountsLater.2.1, amountsLater.2.2.2, withinLater⟩, limitsLater.2.1⟩

end Mosp.Guarantees
