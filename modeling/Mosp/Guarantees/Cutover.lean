import Mosp.Index.Switching
import Mosp.System.Exchanges

/-!
# A cutover needs a verified copy

One `processItem` call on its own, on an item that was claimed.  Whatever the
providers answer, the record moves only if every check passed; otherwise the
index stays, the item is ended and a stored copy is given back.
-/

namespace Mosp.Guarantees

open Mosp.Concurrency Mosp.Data Mosp.Sql Mosp.Database Mosp.Services Mosp.Worker Mosp.Index
open Mosp.System
open MigrationReconciliationService

/-! ## What is compared -/

/-- Two checksums that do not contradict each other, where both are known. -/
def Agree (checksum reported : Option String) : Prop :=
  ∀ first ∈ checksum, ∀ second ∈ reported, first ≠ "" → second ≠ "" →
    first = second ∨ first = "sha256:" ++ second

/-- The source is what was planned. -/
structure MatchesPlan (item : MigrationItem) (metadata : ProviderObjectMetadata) : Prop where
  size : metadata.sizeBytes = item.sizeBytes
  etag : ∀ etag ∈ item.sourceEtag, etag ≠ "" → metadata.etag = some etag
  lastModified : ∀ time ∈ item.sourceLastModified, metadata.lastModified = some time
  checksum : Agree item.checksum metadata.checksumSha256

/-- The source is what it was before. -/
structure SameVersion (before after : ProviderObjectMetadata) : Prop where
  size : before.sizeBytes = after.sizeBytes
  etag : ∀ etag ∈ before.etag, etag ≠ "" → after.etag = some etag
  lastModified : ∀ time ∈ before.lastModified, after.lastModified = some time
  checksum : ∀ first ∈ before.checksumSha256, ∀ second ∈ after.checksumSha256,
    first ≠ "" → second ≠ "" → first = second

/-- The object of a key in a bucket of the organization. -/
def IsAt (db : Db) (organizationId bucketConnectionId : Id) (key : PhysicalKey)
    (address : Address) : Prop :=
  ∃ bucket ∈ db.bucketConnection, bucket.id = bucketConnectionId ∧
    bucket.organizationId = organizationId ∧
    address = ⟨bucket.providerConnectionId, bucket.bucketName, key⟩

/-- Every check on the source and on the copy has passed. -/
def Verified (item : MigrationItem) (db : Db) (exchanges : List Exchange) : Prop :=
  ∃ source target metadata afterCopy destination,
    IsAt db item.organizationId item.sourceBucketConnectionId item.sourcePhysicalKey source ∧
    IsAt db item.organizationId item.targetBucketConnectionId item.targetPhysicalKey target ∧
    exchanges = [.got source (.ok metadata), .stored target (.ok ()), .headed source (.ok afterCopy),
      .headed target (.ok destination)] ∧
    MatchesPlan item metadata ∧ SameVersion metadata afterCopy ∧
    destination.sizeBytes = item.sizeBytes ∧ Agree item.checksum destination.checksumSha256

/-- A copy that was stored was to be deleted again. -/
def GivenBack (exchanges : List Exchange) : Prop :=
  ∀ address, .stored address (.ok ()) ∈ exchanges → ∃ answer, .deleted address answer ∈ exchanges

/-- The call has not moved anything. -/
structure LeftAlone (item : MigrationItem) (before : Db) (after : Desk) : Prop where
  index : SameIndex before after.db
  ended : ItemIs item after.db .failed ∨ ItemIs item after.db .skipped
  givenBack : GivenBack after.exchanges

/-- The pointer of a record. -/
def pointerOf (db : Db) (objectRecordId : Id) : Option Id :=
  (db.objectRecord.get? objectRecordId).bind ObjectRecord.activeObjectLocationId

theorem checksumDiffers_eq_false {checksum reported : Option String} :
    checksumDiffers checksum reported = false ↔ Agree checksum reported := by
  unfold Agree
  cases checksum with
  | none => simp [checksumDiffers]
  | some first =>
      cases reported with
      | none => simp [checksumDiffers]
      | some second =>
          simp only [checksumDiffers, Option.mem_some_iff, forall_eq', ne_eq]
          by_cases firstEmpty : first = ""
          · simp [firstEmpty]
          · by_cases secondEmpty : second = ""
            · simp [firstEmpty, secondEmpty]
            · simp [firstEmpty, secondEmpty, Decidable.or_iff_not_imp_left]

theorem stays_eq_true {α : Type} [DecidableEq α] {before after : Option α} :
    stays before after = true ↔ ∀ value ∈ before, after = some value := by
  cases before <;> simp [stays]

theorem stays_knownTag {etag after : Option String} :
    stays (knownTag etag) after = true ↔ ∀ tag ∈ etag, tag ≠ "" → after = some tag := by
  rw [stays_eq_true]
  cases etag with
  | none => simp [knownTag]
  | some tag => by_cases empty : tag = "" <;> simp [knownTag, empty]

theorem assertSourceFingerprint_ok {item : MigrationItem} {metadata : ProviderObjectMetadata} :
    assertSourceFingerprint item metadata = .ok () → MatchesPlan item metadata := by
  unfold assertSourceFingerprint
  intro passed
  split at passed
  · contradiction
  split at passed
  · contradiction
  split at passed
  · contradiction
  split at passed
  · contradiction
  rename_i size etag lastModified checksum
  rw [Bool.not_eq_true', Bool.not_eq_false] at etag lastModified
  exact ⟨Decidable.not_not.mp size, stays_knownTag.mp etag, stays_eq_true.mp lastModified,
    checksumDiffers_eq_false.mp (Bool.eq_false_of_not_eq_true checksum)⟩

theorem assertSameSourceVersion_ok {before after : ProviderObjectMetadata} :
    assertSameSourceVersion before after = .ok () → SameVersion before after := by
  unfold assertSameSourceVersion
  intro passed
  split at passed
  · contradiction
  split at passed
  · contradiction
  split at passed
  · contradiction
  rename_i size etag lastModified
  rw [Bool.not_eq_true', Bool.not_eq_false] at etag lastModified
  refine ⟨Decidable.not_not.mp size, stays_knownTag.mp etag, stays_eq_true.mp lastModified, ?_⟩
  intro first firstMem second secondMem firstKnown secondKnown
  rw [Option.mem_def] at firstMem secondMem
  have knownFirst : knownTag before.checksumSha256 = some first := by
    simp [knownTag, firstMem, firstKnown]
  have knownSecond : knownTag after.checksumSha256 = some second := by
    simp [knownTag, secondMem, secondKnown]
  rw [knownFirst, knownSecond] at passed
  by_contra distinct
  simp [distinct] at passed

/-! ## Copying -/

theorem note_note (desk : Desk) (first second : List Exchange) :
    (desk.note first).note second = desk.note (first ++ second) := by
  simp [Desk.note]

theorem note_nil (desk : Desk) : desk.note [] = desk := by
  simp [Desk.note]

/-- Nothing was stored. -/
def NothingStored (exchanges : List Exchange) : Prop :=
  ∀ address, .stored address (.ok ()) ∉ exchanges

/-- A copy was made of the planned source, and is not checked yet. -/
structure Copied (item : MigrationItem) (db : Db) (source target : Endpoint)
    (metadata : ProviderObjectMetadata) (exchanges : List Exchange) : Prop where
  sourceAt : IsAt db item.organizationId item.sourceBucketConnectionId item.sourcePhysicalKey
    (source.adapter.address source.bucketName item.sourcePhysicalKey)
  targetAt : IsAt db item.organizationId item.targetBucketConnectionId item.targetPhysicalKey
    (target.adapter.address target.bucketName item.targetPhysicalKey)
  matches_ : MatchesPlan item metadata
  exchanges : exchanges =
    [.got (source.adapter.address source.bucketName item.sourcePhysicalKey) (.ok metadata),
      .stored (target.adapter.address target.bucketName item.targetPhysicalKey) (.ok ())]

section

variable {constraints : Db → Option Failure} {item : MigrationItem} {desk : Desk}

/-- The adapter of a provider, if there is one. -/
theorem among_adapterFor {organizationId providerId : Id}
    {ends : Except Failure S3ProviderAdapter → Desk → Prop}
    (found : ends (.ok ⟨providerId⟩) desk) (fails : ∀ error, ends (.error error) desk) :
    EndsAmong constraints (workerAdapterFor organizationId providerId) ends desk := by
  unfold workerAdapterFor adapterForOr
  apply EndsAmong.bind
  apply EndsAmong.query
  simp only [findProvider, Program.bind_eq, Program.pure_eq, Tx.wp_bind, Tx.wp_findFirst]
  split
  · exact fails _
  · rename_i connection present
    obtain ⟨_, matches_⟩ := Table.find?_some present
    simp only [Bool.and_eq_true, beq_iff_eq] at matches_
    rw [Tx.wp_bind, Tx.wp_findFirst]
    split
    · exact fails _
    · apply EndsAmong.provider
      intro choice
      rw [matches_.1]
      unfold respond respond.answered
      simp only [note_nil]
      cases choice.failure with
      | none => exact found
      | some failure => exact fails failure

theorem among_copyItem :
    EndsAmong constraints (copyItem item) (fun result after => ∃ exchanges,
      after = desk.note exchanges ∧ match result with
        | .ok (source, target, metadata) => Copied item desk.db source target metadata exchanges
        | .error _ => NothingStored exchanges) desk := by
  have nothing : ∃ exchanges, desk = desk.note exchanges ∧ NothingStored exchanges :=
    ⟨[], (note_nil desk).symm, fun _ => List.not_mem_nil⟩
  unfold copyItem
  apply EndsAmong.bind
  apply EndsAmong.query
  rw [findItemBucket, Tx.wp_findFirst]
  apply EndsAmong.bind
  apply EndsAmong.query
  rw [findItemBucket, Tx.wp_findFirst]
  cases sourceFound : bucketConnection.table desk.state.db |>.find? fun row =>
      row.id == item.sourceBucketConnectionId && row.organizationId == item.organizationId with
  | none => exact nothing
  | some sourceBucket =>
      cases targetFound : bucketConnection.table desk.state.db |>.find? fun row =>
          row.id == item.targetBucketConnectionId && row.organizationId == item.organizationId with
      | none => exact nothing
      | some targetBucket =>
          obtain ⟨sourceMem, sourceMatches⟩ := Table.find?_some sourceFound
          obtain ⟨targetMem, targetMatches⟩ := Table.find?_some targetFound
          simp only [Bool.and_eq_true, beq_iff_eq] at sourceMatches targetMatches
          apply EndsAmong.bind
          refine among_adapterFor ?_ fun _ => nothing
          apply EndsAmong.bind
          refine among_adapterFor ?_ fun _ => nothing
          apply EndsAmong.bind
          apply EndsAmong.getObject
          intro answer
          cases answer with
          | error error => exact ⟨_, rfl, fun address stored => by simp at stored⟩
          | ok metadata =>
              apply EndsAmong.bind
              apply EndsAmong.ofExcept
              cases planned : assertSourceFingerprint item metadata with
              | error error => exact ⟨_, rfl, fun address stored => by simp at stored⟩
              | ok checked =>
                  apply EndsAmong.bind
                  apply EndsAmong.ofExcept
                  cases safeContentLength item.sizeBytes with
                  | error error => exact ⟨_, rfl, fun address stored => by simp at stored⟩
                  | ok contentLengthBytes =>
                      apply EndsAmong.bind
                      apply EndsAmong.putObject
                      intro answer
                      rw [note_note]
                      cases answer with
                      | error error => exact ⟨_, rfl, fun address stored => by simp at stored⟩
                      | ok done =>
                          refine ⟨_, rfl, ?_, ?_, assertSourceFingerprint_ok planned, rfl⟩
                          · exact ⟨sourceBucket, sourceMem, sourceMatches.1, sourceMatches.2, rfl⟩
                          · exact ⟨targetBucket, targetMem, targetMatches.1, targetMatches.2, rfl⟩

/-! ## Checking and switching -/

/-- How the checks and the switch end after `desk`. -/
inductive SwitchedAmong (item : MigrationItem) (desk : Desk) (source target : Endpoint)
    (metadata : ProviderObjectMetadata) : Except Failure Unit → Desk → Prop where
  | moved {state : State Db} {afterCopy destination : ProviderObjectMetadata}
      (moved : Moved item desk.db state.db) (same : SameVersion metadata afterCopy)
      (size : destination.sizeBytes = item.sizeBytes)
      (checksum : Agree item.checksum destination.checksumSha256) :
      SwitchedAmong item desk source target metadata (.ok ())
        { desk with
          state
          exchanges := desk.exchanges ++
            [.headed (source.adapter.address source.bucketName item.sourcePhysicalKey)
              (.ok afterCopy),
            .headed (target.adapter.address target.bucketName item.targetPhysicalKey)
              (.ok destination)] }
  | skipped {after : Desk} {answer : Except Failure Unit} {exchanges : List Exchange}
      (index : SameIndex desk.db after.db) (ended : ItemIs item after.db .skipped)
      (nothing : NothingStored exchanges)
      (noted : after.exchanges = desk.exchanges ++ exchanges ++
        [.deleted (target.adapter.address target.bucketName item.targetPhysicalKey) answer]) :
      SwitchedAmong item desk source target metadata (.ok ()) after
  | failed {error : Failure} {exchanges : List Exchange} (nothing : NothingStored exchanges) :
      SwitchedAmong item desk source target metadata (.error error) (desk.note exchanges)

theorem among_verifyAndSwitch {previousState : MigrationItemState} {source target : Endpoint}
    {metadata : ProviderObjectMetadata} (valid : Valid desk.db)
    (claimed : ItemIs item desk.db .copying) (relocates : Relocates item desk.db) :
    EndsAmong constraints (verifyAndSwitch item previousState source target metadata)
      (SwitchedAmong item desk source target metadata) desk := by
  unfold verifyAndSwitch
  apply EndsAmong.bind
  apply EndsAmong.headObject
  intro answer
  cases answer with
  | error error => exact .failed fun address stored => by simp at stored
  | ok afterCopy =>
      apply EndsAmong.bind
      apply EndsAmong.ofExcept
      cases same : assertSameSourceVersion metadata afterCopy with
      | error error => exact .failed fun address stored => by simp at stored
      | ok checked =>
          apply EndsAmong.bind
          apply EndsAmong.headObject
          intro answer
          rw [note_note]
          cases answer with
          | error error => exact .failed fun address stored => by simp at stored
          | ok destination =>
              have failed : ∀ error, SwitchedAmong item desk source target metadata (.error error)
                  (desk.note ([.headed (source.adapter.address source.bucketName
                    item.sourcePhysicalKey) (.ok afterCopy)] ++ [.headed (target.adapter.address
                    target.bucketName item.targetPhysicalKey) (.ok destination)])) :=
                fun error => .failed fun address stored => by simp at stored
              apply EndsAmong.bind
              refine EndsAmong.throwIf (fun _ => failed _) fun size => ?_
              apply EndsAmong.bind
              refine EndsAmong.throwIf (fun _ => failed _) fun checksum => ?_
              apply EndsAmong.bind
              apply EndsAmong.noting
              apply EndsAmong.transaction
              apply Tx.wp_mono (wp_switchClaimed valid claimed relocates)
              · intro switched after ended
                cases ended with
                | moved moved =>
                    exact .moved moved (assertSameSourceVersion_ok same)
                      (Decidable.not_not.mp size)
                      (checksumDiffers_eq_false.mp (Bool.eq_false_of_not_eq_true checksum))
                | skipped index ended =>
                    apply Program.ends_swallow
                    apply EndsAmong.noting
                    apply EndsAmong.deleteObject
                    intro answer
                    exact .skipped index ended (fun address stored => by simp at stored) rfl
              · exact fun error _ => failed error

/-! ## The item -/

theorem among_markFailed {previousState : MigrationItemState} {error : Failure}
    {retryDelayMs : Nat} {ends : Except Failure Unit → Desk → Prop} (valid : Valid desk.db)
    (claimed : ItemIs item desk.db .copying)
    (holds : ∀ after : Desk, SameIndex desk.db after.db → ItemIs item after.db .failed →
      after.exchanges = desk.exchanges → ends (.ok ()) after) :
    EndsAmong violation (markFailed item previousState error retryDelayMs) ends desk := by
  unfold markFailed
  apply EndsAmong.bind
  apply EndsAmong.now
  apply EndsAmong.noting
  apply EndsAmong.transaction
  apply Tx.wp_mono (wp_markFailedClaimed valid claimed)
  · intro _ after marked
    exact holds { desk with state := after } marked.1 marked.2 rfl
  · exact fun _ never => never.elim

theorem NothingStored.givenBack {exchanges : List Exchange} (nothing : NothingStored exchanges) :
    GivenBack exchanges :=
  fun address stored => absurd stored (nothing address)

/-- The copy is the only thing that was stored. -/
theorem givenBack_copy {exchanges : List Exchange} {source target : Address}
    {metadata : ProviderObjectMetadata} {answer : Except Failure Unit}
    (nothing : NothingStored exchanges) :
    GivenBack (([.got source (.ok metadata), .stored target (.ok ())] ++ exchanges) ++
      [.deleted target answer]) := by
  intro address stored
  refine ⟨answer, ?_⟩
  simp only [List.mem_append, List.mem_cons, reduceCtorEq, List.not_mem_nil, or_false, false_or,
    Exchange.stored.injEq] at stored
  rcases stored with ⟨rfl, _⟩ | later
  · simp
  · exact absurd later (nothing address)

/-- How the work on a claimed item ends. -/
inductive Processed (item : MigrationItem) (before : Db) (after : Desk) : Prop where
  | moved (moved : Moved item before after.db) (verified : Verified item before after.exchanges)
  | leftAlone (leftAlone : LeftAlone item before after)

theorem among_processItem {previousState : MigrationItemState} {retryDelayMs : Nat}
    (valid : Valid desk.db) (claimed : ItemIs item desk.db .copying)
    (relocates : Relocates item desk.db) (start : desk.exchanges = []) :
    EndsAmong violation (processItem item previousState retryDelayMs)
      (fun result after => result = .ok () ∧ Processed item desk.db after) desk := by
  unfold processItem
  apply EndsAmong.bind
  apply EndsAmong.catchWith
  rw [Program.map_eq]
  apply EndsAmong.bind
  apply among_copyItem.mono
  rintro result _ ⟨exchanges, rfl, copied⟩
  have stillValid : Valid (desk.note exchanges).db := valid
  cases result with
  | error error =>
      apply EndsAmong.bind
      apply among_markFailed stillValid claimed
      intro after index ended unchanged
      refine ⟨rfl, .leftAlone ⟨index, .inl ended, ?_⟩⟩
      have shown : after.exchanges = exchanges := by simp [unchanged, Desk.note, start]
      rw [shown]
      exact copied.givenBack
  | ok value =>
      obtain ⟨source, target, metadata⟩ := value
      have shown : (desk.note exchanges).exchanges =
          [.got (source.adapter.address source.bucketName item.sourcePhysicalKey) (.ok metadata),
            .stored (target.adapter.address target.bucketName item.targetPhysicalKey) (.ok ())] := by
        simp [Desk.note, start, copied.exchanges]
      apply EndsAmong.catchWith
      apply (among_verifyAndSwitch stillValid claimed relocates).mono
      intro result after ended
      cases ended with
      | moved moved same size checksum =>
          refine ⟨rfl, .moved moved ⟨_, _, _, _, _, copied.sourceAt, copied.targetAt, ?_,
            copied.matches_, same, size, checksum⟩⟩
          rw [shown]
          rfl
      | skipped index ended nothing noted =>
          refine ⟨rfl, .leftAlone ⟨index, .inr ended, ?_⟩⟩
          rw [noted, shown]
          exact givenBack_copy nothing
      | @failed error later nothing =>
          apply EndsAmong.bind
          apply Program.ends_swallow
          apply EndsAmong.deleteObject
          intro answer
          have validToTheEnd : Valid (((desk.note exchanges).note later).note [.deleted
              (target.adapter.address target.bucketName item.targetPhysicalKey) answer]).db := valid
          apply among_markFailed validToTheEnd claimed
          intro last index ended unchanged
          refine ⟨rfl, .leftAlone ⟨index, .inl ended, ?_⟩⟩
          have all : last.exchanges = (desk.note exchanges).exchanges ++ later ++ [.deleted
              (target.adapter.address target.bucketName item.targetPhysicalKey) answer] := unchanged
          rw [all, shown]
          exact givenBack_copy nothing

/-- A moved record points somewhere else. -/
theorem Moved.pointer_ne {before after : Db} (moved : Moved item before after) :
    pointerOf after item.objectRecordId ≠ pointerOf before item.objectRecordId := by
  obtain ⟨record, recordMem, copied, copiedMem, target, _, own, _, _, pointer, sameId, newPointer,
    other, _⟩ := moved.pointer
  have was : before.objectRecord.get? item.objectRecordId = some record :=
    Table.get?_some.mpr ⟨recordMem, own⟩
  have is : after.objectRecord.get? item.objectRecordId = some copied :=
    Table.get?_some.mpr ⟨copiedMem, sameId.trans own⟩
  rw [pointerOf, pointerOf, was, is, Option.bind_some, Option.bind_some, pointer, newPointer]
  exact fun same => other (Option.some.inj same)

/-- The pointer of the record changes only by a switch to a verified copy; every other way out
leaves the index alone, ends the item and gives the copy back. -/
theorem cutover_verified {state : State Db} {clock : Time} {previousState : MigrationItemState}
    {retryDelayMs : Nat} (valid : violation state.db = none)
    (claimed : ItemIs item state.db .copying) (relocates : Relocates item state.db) :
    EndsAmong violation (processItem item previousState retryDelayMs)
      (fun result after => result = .ok () ∧
        (pointerOf after.db item.objectRecordId ≠ pointerOf state.db item.objectRecordId →
          Moved item state.db after.db ∧ Verified item state.db after.exchanges) ∧
        (pointerOf after.db item.objectRecordId = pointerOf state.db item.objectRecordId →
          LeftAlone item state.db after))
      ⟨state, clock, []⟩ := by
  have allowed : Valid (⟨state, clock, []⟩ : Desk).db := violation_eq_none.mp valid
  apply (among_processItem allowed claimed relocates rfl).mono
  rintro result after ⟨returned, moved | leftAlone⟩
  · refine ⟨returned, fun _ => ⟨‹_›, ‹_›⟩, fun same => ?_⟩
    exact absurd same (Moved.pointer_ne ‹_›)
  · refine ⟨returned, fun changed => ?_, fun _ => leftAlone⟩
    unfold pointerOf at changed
    rw [leftAlone.index.objectRecord] at changed
    contradiction

end

/-! ## A source without a checksum -/

namespace Unreported

/-- A claimed item with a planned checksum. -/
def item : MigrationItem where
  id := 60
  organizationId := 1
  migrationRunId := 50
  objectRecordId := 30
  sourceLocationId := 40
  sourceBucketConnectionId := 10
  targetBucketConnectionId := 11
  sourcePhysicalKey := .object 2 41
  targetPhysicalKey := .migration 2 50 61
  sizeBytes := 5
  checksum := some "sha256:expected"
  state := .copying

def tenant : Organization where
  id := 1

/-- A running migration of one object. -/
def db : Db where
  organization := .ofRows [tenant]
  user := .ofRows [⟨3⟩]
  providerConnection := .ofRows [⟨20, 1, .healthy⟩]
  providerCredential := .ofRows [⟨21, 20⟩]
  bucketConnection := .ofRows [⟨10, 1, 20, "old", .active⟩, ⟨11, 1, 20, "new", .active⟩]
  virtualNamespace := .ofRows
    [{ id := 2, organizationId := 1, name := "Files", slug := "files", status := .active,
       quotaBytes := 1000 }]
  objectRecord := .ofRows
    [{ id := 30, organizationId := 1, namespaceId := 2, logicalKey := "report",
       activeObjectLocationId := some 40, state := .available, sizeBytes := 5,
       checksum := some "sha256:expected" }]
  objectLocation := .ofRows
    [{ id := 40, organizationId := 1, objectRecordId := 30, bucketConnectionId := 10,
       physicalKey := .object 2 41, state := .active, verifiedAt := some 0 }]
  migrationRun := .ofRows
    [{ id := 50, organizationId := 1, namespaceId := 2, sourceBucketConnectionId := 10,
       targetBucketConnectionId := 11, initiatedById := 3, state := .running, totalItems := 1 }]
  migrationItem := .ofRows [item]

def start : Desk where
  state := ⟨db, 100⟩
  clock := 1000

/-- A source of the right size about which the provider says nothing else. -/
def metadata : ProviderObjectMetadata where
  sizeBytes := 5

/-- What a provider said about an object that was read. -/
def reported : Exchange → Option ProviderObjectMetadata
  | .got _ (.ok metadata) => some metadata
  | _ => none

def run : Option (Except Failure Unit × Desk) :=
  (processItem item .pending 60000).follow (correspondence violation) 0
    (List.replicate 20 { metadata }) start

theorem valid : violation db = none := by
  decide +kernel

theorem claimed : ItemIs item db .copying :=
  ⟨item, List.mem_singleton.mpr rfl, rfl, rfl, rfl⟩

theorem relocates : Relocates item db := by
  intro location member same
  obtain rfl := List.mem_singleton.mp member
  exact fun both => absurd both.1 (by decide)

end Unreported

theorem cutover_verified_unreported :
    EndsAmong violation (processItem Unreported.item .pending 60000)
      (fun result after => result = .ok () ∧
        (pointerOf after.db 30 ≠ some 40 → Moved Unreported.item Unreported.db after.db ∧
          Verified Unreported.item Unreported.db after.exchanges) ∧
        (pointerOf after.db 30 = some 40 → LeftAlone Unreported.item Unreported.db after))
      Unreported.start :=
  cutover_verified Unreported.valid Unreported.claimed Unreported.relocates

/-- The record moves although nobody knows whether the source has the planned checksum. -/
theorem cutover_unverified : ∃ after,
    Unreported.run = some (.ok (), after) ∧
      pointerOf after.db 30 ≠ pointerOf Unreported.db 30 ∧
      Unreported.item.checksum = some "sha256:expected" ∧
      ∃ metadata, after.exchanges.head?.bind Unreported.reported = some metadata ∧
        metadata.checksumSha256 = none := by
  have shown : Unreported.run.map (fun ended => (ended.1.toOption, pointerOf ended.2.db 30,
      ended.2.exchanges.head?.bind Unreported.reported)) =
        some (some (), some 100, some Unreported.metadata) := by
    decide +kernel
  obtain ⟨⟨result, after⟩, ran, seen⟩ := Option.map_eq_some_iff.mp shown
  simp only [Prod.mk.injEq] at seen
  obtain ⟨returned, pointer, answer⟩ := seen
  have before : pointerOf Unreported.db 30 = some 40 := by decide +kernel
  cases result with
  | error error => contradiction
  | ok value =>
      refine ⟨after, ran, ?_, rfl, Unreported.metadata, answer, rfl⟩
      rw [pointer, before]
      decide

end Mosp.Guarantees
