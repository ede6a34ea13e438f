import Mosp.Access.Listing
import Mosp.System.Outcomes
import Mosp.Index.ObjectTransactions
import Mathlib.Data.String.Basic

/-!
# Folders

What creating a folder leaves in the database, and which folders a listing finds.
-/

namespace Mosp.Access

open Mosp.Concurrency Mosp.Data Mosp.Database Mosp.Sql Mosp.Services Mosp.System Mosp.Index
open ObjectExplorerService

/-- The record is the available marker of a folder in a namespace. -/
structure IsMarker (organizationId namespaceId : Id) (folder : String) (record : ObjectRecord) :
    Prop where
  organization : record.organizationId = organizationId
  inNamespace : record.namespaceId = namespaceId
  key : record.logicalKey = folder ++ folderMarker
  available : record.state = .available

/-- A folder has a marker that is stored at an active location. -/
def HasFolder (db : Db) (organizationId namespaceId : Id) (folder : String) : Prop :=
  ∃ record ∈ db.objectRecord, IsMarker organizationId namespaceId folder record ∧
    ∃ location ∈ db.objectLocation, record.activeObjectLocationId = some location.id ∧
      location.state = .active

/-- How many available records of a namespace come before a key. -/
def recordsBefore (db : Db) (organizationId namespaceId : Id) (key : String) : Nat :=
  (db.objectRecord.filter fun row => row.organizationId == organizationId &&
    row.namespaceId == namespaceId && row.state == .available &&
      decide (row.logicalKey < key)).length

/-- The folder that a prefix stands for. -/
def folderOf (folderPrefix : String) : String :=
  if endsWith folderPrefix "/" then folderPrefix else folderPrefix ++ "/"

/-- What a listing of folders returns. -/
def folderPage (db : Db) (organizationId namespaceId : Id) (keyPrefix : String) : List String :=
  ((((matchingRecords db organizationId namespaceId (some keyPrefix)).take 1000).filter
      fun entry => isActive entry && isFolderMarker entry.1.logicalKey).map fun entry =>
        sliceEnd entry.1.logicalKey folderMarker.length).filter fun folder =>
          startsWith folder keyPrefix

variable {constraints : Db → Option Failure} {organizationId namespaceId : Id}
  {namespaceSlug keyPrefix folder : String} {found : VirtualNamespace} {world : World} {db : Db}

theorem ends_listFolders {may : {β : Type} → Command β → Choice → Prop} (answers : Answers may)
    (named : namespaceOf world.db organizationId namespaceSlug = some found)
    (active : found.status = .active) {ends : Except Failure (List String) → World → Prop}
    (holds : ends (.ok (folderPage world.db organizationId found.id keyPrefix)) world) :
    EndsAlone constraints may (listFolders organizationId namespaceSlug keyPrefix) ends world := by
  apply ends_resolveNamespace answers named active
  apply EndsAlone.query (answers _)
  rw [wp_findRecords]
  exact .pure holds

/-! ## The folders of a page -/

/-- A folder ends with a slash. -/
theorem endsWith_folderOf (folderPrefix : String) :
    endsWith (folderOf folderPrefix) "/" = true := by
  unfold folderOf
  split
  · assumption
  · rw [endsWith, List.isSuffixOf_iff_suffix, String.toList_append]
    exact List.suffix_append _ _

theorem plain_folderOf {folderPrefix : String} (plain : '\\' ∉ folderPrefix.toList) :
    '\\' ∉ (folderOf folderPrefix).toList := by
  unfold folderOf
  split
  · exact plain
  · simpa using plain

theorem isFolderMarker_marker (ends : endsWith folder "/" = true) :
    isFolderMarker (folder ++ folderMarker) = true := by
  rw [endsWith, List.isSuffixOf_iff_suffix] at ends
  rw [isFolderMarker, endsWith, List.isSuffixOf_iff_suffix, String.toList_append,
    String.toList_append]
  obtain ⟨parent, whole⟩ := ends
  exact ⟨parent, by rw [← whole, List.append_assoc]⟩

theorem sliceEnd_marker (folder : String) :
    sliceEnd (folder ++ folderMarker) folderMarker.length = folder := by
  rw [sliceEnd, String.toList_append, List.length_append, ← String.length_toList,
    Nat.add_sub_cancel, List.take_left, String.ofList_toList]

theorem marker_of_isFolderMarker {key : String} (marker : isFolderMarker key = true) :
    key = sliceEnd key folderMarker.length ++ folderMarker := by
  rw [isFolderMarker, endsWith, List.isSuffixOf_iff_suffix, String.toList_append] at marker
  obtain ⟨parent, whole⟩ := marker
  have split : key = String.ofList (parent ++ ['/']) ++ folderMarker := by
    rw [← String.toList_inj, String.toList_append, String.toList_ofList, ← whole]
    simp
  rw [split, sliceEnd_marker]

theorem mem_matchingRecords {entry : ObjectRecord × Option ObjectLocation} :
    entry ∈ matchingRecords db organizationId namespaceId (some keyPrefix) ↔
      entry.1 ∈ db.objectRecord ∧ entry.1.organizationId = organizationId ∧
        entry.1.namespaceId = namespaceId ∧ entry.1.state = .available ∧
        startsWithFilter entry.1.logicalKey keyPrefix = true ∧
        entry.2 = db.objectLocation.find? fun location =>
          entry.1.activeObjectLocationId == some location.id := by
  obtain ⟨record, location⟩ := entry
  simp only [matchingRecords, availableRecords, List.mem_map, Relation.select,
    List.mem_insertionSort, Table.mem_filter, Bool.and_eq_true, beq_iff_eq, Option.all_some, Prod.mk.injEq]
  constructor
  · rintro ⟨row, ⟨member, ⟨⟨own, inNamespace⟩, available⟩, starts⟩, rfl, rfl⟩
    exact ⟨member, own, inNamespace, available, starts, rfl⟩
  · rintro ⟨member, own, inNamespace, available, starts, rfl⟩
    exact ⟨record, ⟨member, ⟨⟨own, inNamespace⟩, available⟩, starts⟩, rfl, rfl⟩

/-- Every folder that is listed has a marker. -/
theorem hasFolder_of_mem (listed : folder ∈ folderPage db organizationId namespaceId keyPrefix) :
    HasFolder db organizationId namespaceId folder := by
  obtain ⟨inPage, -⟩ := List.mem_filter.mp listed
  obtain ⟨entry, kept, rfl⟩ := List.mem_map.mp inPage
  obtain ⟨taken, checks⟩ := List.mem_filter.mp kept
  rw [Bool.and_eq_true] at checks
  obtain ⟨member, own, inNamespace, available, -, located⟩ :=
    mem_matchingRecords.mp (List.mem_of_mem_take taken)
  refine ⟨entry.1, member, ⟨own, inNamespace, marker_of_isFolderMarker checks.2, available⟩, ?_⟩
  obtain ⟨location, stored, active⟩ := (Option.any_eq_true _ _).mp checks.1
  rw [located] at stored
  obtain ⟨locationMem, pointer⟩ := Table.find?_some stored
  exact ⟨location, locationMem, beq_iff_eq.mp pointer, beq_iff_eq.mp active⟩

/-- The records of a listing that come before a key. -/
theorem countP_matchingRecords (key : String) :
    (matchingRecords db organizationId namespaceId (some keyPrefix)).countP
        (fun entry => decide (entry.1.logicalKey < key)) =
      (db.objectRecord.filter fun row => row.organizationId == organizationId &&
        row.namespaceId == namespaceId && row.state == .available &&
          startsWithFilter row.logicalKey keyPrefix && decide (row.logicalKey < key)).length := by
  rw [matchingRecords, availableRecords, List.countP_map, Relation.select,
    (List.perm_insertionSort _ _).countP_eq, Table.filter, List.countP_filter, Table.filter,
    ← List.countP_eq_length_filter]
  apply List.countP_congr
  intro row _
  simp only [Option.all_some, Function.comp_apply, Bool.and_eq_true]
  tauto

theorem startsWith_empty (text : String) : startsWith text "" = true := by
  simp [startsWith]

theorem startsWithFilter_empty (text : String) : startsWithFilter text "" = true :=
  startsWithFilter_of_startsWith (by simp) (startsWith_empty text)

/-- A listing without a prefix counts all records before a key. -/
theorem countP_matchingRecords_all (key : String) :
    (matchingRecords db organizationId namespaceId (some "")).countP
        (fun entry => decide (entry.1.logicalKey < key)) =
      recordsBefore db organizationId namespaceId key := by
  rw [countP_matchingRecords, recordsBefore]
  simp only [startsWithFilter_empty, Bool.and_true]

theorem countP_matchingRecords_le (key : String) :
    (matchingRecords db organizationId namespaceId (some keyPrefix)).countP
        (fun entry => decide (entry.1.logicalKey < key)) ≤
      recordsBefore db organizationId namespaceId key := by
  rw [countP_matchingRecords, recordsBefore, Table.filter, Table.filter]
  apply List.Sublist.length_le
  apply List.monotone_filter_right
  intro row holds
  simp only [Bool.and_eq_true] at holds ⊢
  tauto

theorem matchingRecords_sorted :
    (matchingRecords db organizationId namespaceId (some keyPrefix)).Pairwise
      fun first second => first.1.logicalKey ≤ second.1.logicalKey := by
  have total := total_byKey
  have transitive := isTrans_byKey
  rw [matchingRecords, availableRecords, List.pairwise_map, Relation.select]
  apply (List.pairwise_insertionSort _ _).imp
  exact fun before => of_decide_eq_true before

/-- A folder with one marker is listed if few enough records come before its marker. -/
theorem mem_folderPage_iff (ends : endsWith folder "/" = true)
    (within : startsWith folder keyPrefix = true) (plain : '\\' ∉ keyPrefix.toList)
    (has : HasFolder db organizationId namespaceId folder)
    (one : ∀ first ∈ db.objectRecord, ∀ second ∈ db.objectRecord,
      IsMarker organizationId namespaceId folder first →
      IsMarker organizationId namespaceId folder second → first = second) :
    folder ∈ folderPage db organizationId namespaceId keyPrefix ↔
      (matchingRecords db organizationId namespaceId (some keyPrefix)).countP
        (fun entry => decide (entry.1.logicalKey < folder ++ folderMarker)) < 1000 := by
  obtain ⟨record, member, marker, location, locationMem, pointer, active⟩ := has
  have located : (db.objectLocation.find? fun location =>
      record.activeObjectLocationId == some location.id) = some location := by
    apply Table.find?_eq_some_of_id locationMem
    · exact beq_iff_eq.mpr pointer
    · intro other _ same
      exact (Option.some.inj (pointer.symm.trans (beq_iff_eq.mp same))).symm
  have starts : startsWithFilter record.logicalKey keyPrefix = true := by
    apply startsWithFilter_of_startsWith plain
    rw [startsWith, List.isPrefixOf_iff_prefix] at within ⊢
    rw [marker.key, String.toList_append]
    exact within.trans (List.prefix_append _ _)
  have matching : (record, some location) ∈
      matchingRecords db organizationId namespaceId (some keyPrefix) := by
    rw [mem_matchingRecords]
    exact ⟨member, marker.organization, marker.inNamespace, marker.available, starts, located.symm⟩
  have distinct : ∀ other ∈ matchingRecords db organizationId namespaceId (some keyPrefix),
      other.1.logicalKey = (record, some location).1.logicalKey → other = (record, some location) := by
    rintro ⟨other, otherLocation⟩ otherMem same
    rw [mem_matchingRecords] at otherMem
    obtain ⟨otherRow, own, inNamespace, available, -, otherLocated⟩ := otherMem
    obtain rfl := one other otherRow record member
      ⟨own, inNamespace, same.trans marker.key, available⟩ marker
    exact Prod.ext rfl (otherLocated.trans located)
  have page := mem_take_iff_of_sorted matchingRecords_sorted distinct 1000
  rw [marker.key] at page
  constructor
  · intro listed
    obtain ⟨inPage, -⟩ := List.mem_filter.mp listed
    obtain ⟨entry, kept, folderEq⟩ := List.mem_map.mp inPage
    obtain ⟨taken, checks⟩ := List.mem_filter.mp kept
    rw [Bool.and_eq_true] at checks
    have keyEq := marker_of_isFolderMarker checks.2
    rw [folderEq] at keyEq
    rw [distinct entry (List.mem_of_mem_take taken) (keyEq.trans marker.key.symm)] at taken
    exact (page.mp taken).2
  · intro few
    have taken := page.mpr ⟨matching, few⟩
    apply List.mem_filter.mpr
    constructor
    · apply List.mem_map.mpr
      refine ⟨(record, some location), List.mem_filter.mpr ⟨taken, ?_⟩, ?_⟩
      · rw [Bool.and_eq_true]
        constructor
        · simpa [isActive] using active
        · rw [marker.key]
          exact isFolderMarker_marker ends
      · rw [marker.key]
        exact sliceEnd_marker folder
    · exact within

/-! ## Uploading a marker -/

/-- A record with an active location is added, and no other record or namespace changes. -/
structure Adds (before after : Db) (record : ObjectRecord) (location : ObjectLocation) : Prop where
  fresh : ∀ other ∈ before.objectRecord, other.id ≠ record.id
  records : after.objectRecord = before.objectRecord.put record
  locations : after.objectLocation = before.objectLocation.put location
  namespaces : after.virtualNamespace = before.virtualNamespace
  pointer : record.activeObjectLocationId = some location.id
  active : location.state = .active

theorem wp_commit_adds {check : Db → Option Failure} {time : Time} {state : State Db} {key : String}
    {target : PlacementTargetSelection} {physicalKey : PhysicalKey} {sizeBytes : Int}
    {contentType : Option String} {metadata : ProviderObjectMetadata}
    {objectRecordId locationId : Id} {actor : DeleteActor} :
    Tx.wp check time
      (commitTransaction organizationId namespaceId key target physicalKey sizeBytes contentType
        metadata objectRecordId locationId actor)
      (fun _ after => ∃ record location, Adds state.db after.db record location ∧
        record.organizationId = organizationId ∧ record.namespaceId = namespaceId ∧
        record.logicalKey = key ∧ record.state = .available)
      (fun _ => True) state := by
  simp only [commitTransaction, Program.bind_eq, Tx.wp_bind, Tx.wp_now]
  rw [Tx.wp_create]
  split
  · trivial
  · rename_i free
    apply Tx.Written.of_goes
    apply wp_createLocation
    intro freshLocation
    let row : ObjectRecord :=
      { id := objectRecordId
        organizationId
        namespaceId
        logicalKey := key
        state := .pending
        sizeBytes := metadata.sizeBytes
        contentType := contentType.or metadata.contentType
        checksum := reportedChecksum metadata
        modifiedAt := time }
    let record : ObjectRecord :=
      { row with state := .available, activeObjectLocationId := some locationId }
    let location : ObjectLocation :=
      { id := locationId
        organizationId
        objectRecordId
        bucketConnectionId := target.bucketConnection.id
        physicalKey
        state := .active
        etag := metadata.etag
        providerLastModified := metadata.lastModified
        verifiedAt := some time
        updatedAt := time }
    apply wp_updateRecord row
    · exact Table.mem_put_self _ _
    · rfl
    apply wp_lockUsageCounter
    intro locked _ lockedCatalog
    apply wp_updateCounter
      { usedBytes := metadata.sizeBytes, reservedBytes := -sizeBytes, objectCount := 1 }
    · exact fun _ => rfl
    · exact fun _ => ⟨rfl, rfl⟩
    · intro counter
      ext <;> simp [usageOf, sub_eq_add_neg]
    · intro _ charged _ chargedCatalog
      apply wp_logActivity
      intro after _ afterCatalog
      have catalog := afterCatalog.trans (chargedCatalog.trans (congrArg (fun catalog =>
        Catalog.charge catalog organizationId namespaceId _) lockedCatalog))
      refine ⟨record, location, ⟨Table.get?_none.mp free, ?_, ?_, ?_, rfl, rfl⟩, rfl, rfl, rfl, rfl⟩
      · have records := congrArg Catalog.records catalog
        exact records.trans (Table.put_put rfl)
      · exact congrArg Catalog.locations catalog
      · exact congrArg Catalog.namespaces catalog

/-- Records, locations and namespaces are the same. -/
structure SameObjects (before after : Db) : Prop where
  records : after.objectRecord = before.objectRecord
  locations : after.objectLocation = before.objectLocation
  namespaces : after.virtualNamespace = before.virtualNamespace

theorem SameObjects.adds {before middle after : Db} {record : ObjectRecord}
    {location : ObjectLocation} (same : SameObjects before middle)
    (adds : Adds middle after record location) : Adds before after record location where
  fresh := same.records ▸ adds.fresh
  records := same.records ▸ adds.records
  locations := same.locations ▸ adds.locations
  namespaces := adds.namespaces.trans same.namespaces
  pointer := adds.pointer
  active := adds.active

theorem wp_reserve_same {check : Db → Option Failure} {time : Time} {state : State Db}
    {target : PlacementTargetSelection} {sizeBytes : Int} :
    Tx.wp check time (reserveTransaction organizationId found target sizeBytes)
      (fun _ after => SameObjects state.db after.db) (fun _ => True) state := by
  simp only [reserveTransaction, Program.bind_eq, Program.pure_eq, Tx.wp_bind, Tx.wp_throwIf,
    Tx.wp_pure]
  apply wp_lockUsageCounter
  intro locked _ lockedCatalog
  rw [Tx.wp_findFirstOrThrow]
  split
  · trivial
  · refine ⟨fun _ => trivial, fun _ => ?_⟩
    apply wp_assertTargetCapacity
    intro fits
    refine ⟨fun _ => trivial, fun _ => ?_⟩
    apply wp_updateCounter { reservedBytes := sizeBytes }
    · exact fun _ => rfl
    · exact fun _ => ⟨rfl, rfl⟩
    · intro row
      ext <;> simp [usageOf]
    · intro _ after _ afterCatalog
      have catalog := afterCatalog.trans (congrArg (fun catalog =>
        Catalog.charge catalog organizationId found.id _) lockedCatalog)
      exact ⟨congrArg Catalog.records catalog, congrArg Catalog.locations catalog,
        congrArg Catalog.namespaces catalog⟩

theorem returns_eligible {sizeBytes : Int} (targets : List (PlacementTarget × BucketConnection)) :
    Returns constraints (PlacementService.eligible organizationId sizeBytes targets)
      (fun _ after => after = world) world := by
  induction targets with
  | nil => exact .pure rfl
  | cons entry rest ih =>
      obtain ⟨target, bucket⟩ := entry
      unfold PlacementService.eligible
      apply Returns.bind
      apply Returns.query
      unfold PlacementService.targetUsedBytes
      rw [Tx.wp_read]
      apply Returns.bind
      apply ih.mono
      rintro others _ rfl
      split
      · split
        · exact .pure rfl
        · exact .pure rfl
      · exact .pure rfl

/-- Selecting a target only reads. -/
theorem returns_selectTarget {sizeBytes : Int} :
    Returns constraints (PlacementService.selectTarget organizationId namespaceId sizeBytes)
      (fun _ after => after = world) world := by
  apply Returns.bind
  apply Returns.query
  simp only [PlacementService.candidates, Program.bind_eq, Program.pure_eq, Tx.wp_bind, Tx.wp_read]
  rw [Tx.wp_findMany, Tx.wp_pure]
  apply Returns.bind
  apply (returns_eligible _).mono
  rintro fitting _ rfl
  split
  · exact .pure rfl
  · apply Returns.bind
    apply Returns.randomInt
    exact fun _ => .pure rfl

theorem find?_and {α : Type} {items : List α} {first second : α → Bool} {item : α}
    (found : items.find? first = some item) (holds : second item = true) :
    (items.find? fun other => first other && second other) = some item := by
  induction items with
  | nil => cases found
  | cons head rest ih =>
      rw [List.find?_cons] at found ⊢
      cases matches_ : first head with
      | true =>
          rw [matches_] at found
          obtain rfl := Option.some.inj found
          rw [holds, Bool.and_self]
      | false =>
          rw [matches_] at found
          exact ih found

/-- A namespace whose name stands for an active one is found by it. -/
theorem find?_activeNamespace (named : namespaceOf db organizationId namespaceSlug = some found)
    (active : found.status = .active) :
    (db.virtualNamespace.find? fun row => row.organizationId == organizationId &&
      row.slug == namespaceSlug && row.status == .active) = some found :=
  find?_and named (beq_iff_eq.mpr active)

theorem returns_store {adapter : S3ProviderAdapter} {bucketName : String}
    {physicalKey : PhysicalKey} {contentType : Option String} {sizeBytes : Int} :
    Returns constraints (store adapter bucketName physicalKey contentType sizeBytes)
      (fun _ after => after.state = world.state) world := by
  apply Returns.bind
  apply Returns.provider
  intro _ stored
  apply Returns.bind
  apply Returns.provider
  intro metadata seen
  apply Returns.bind
  apply Returns.throwIf
  exact fun _ => .pure rfl

theorem returns_lastModifiedOrNow {metadata : ProviderObjectMetadata} :
    Returns constraints (lastModifiedOrNow metadata) (fun _ after => after = world) world := by
  unfold lastModifiedOrNow
  split
  · exact .pure rfl
  · exact Returns.now fun _ => rfl

theorem returns_adapterFor {providerId : Id} :
    Returns constraints (adapterFor organizationId providerId)
      (fun _ after => after.state = world.state) world := by
  apply Returns.bind
  apply Returns.query
  unfold findProvider
  rw [Program.bind_eq, Tx.wp_bind, Tx.wp_findFirst]
  split
  · exact nofun
  · rw [Program.bind_eq, Tx.wp_bind, Tx.wp_findFirst]
    split
    · exact nofun
    · apply Returns.provider
      exact fun _ _ => rfl

/-- What an upload that returns has added. -/
theorem returns_uploadAt {key : String} {sizeBytes : Int} {contentType : Option String}
    {actor : DeleteActor} {target : PlacementTargetSelection} :
    Returns constraints (uploadAt organizationId found key sizeBytes contentType actor target)
      (fun _ after => ∃ record location, Adds world.db after.db record location ∧
        record.organizationId = organizationId ∧ record.namespaceId = found.id ∧
        record.logicalKey = key ∧ record.state = .available) world := by
  apply Returns.bind
  apply Returns.randomUUID
  apply Returns.bind
  apply Returns.noting
  apply Returns.transaction
  apply Tx.wp_mono wp_reserve_same _ fun _ _ => trivial
  intro _ reserved same
  apply Returns.bind
  apply Returns.catchWith
  · apply returns_adapterFor.mono
    intro adapter connected connectedState
    apply Returns.bind
    apply Returns.catchWith
    · apply returns_store.mono
      intro metadata stored storedState
      apply Returns.bind
      apply Returns.randomUUID
      apply Returns.bind
      apply Returns.randomUUID
      apply Returns.bind
      apply Returns.catchWith
      · apply Returns.noting
        apply Returns.transaction
        apply Tx.wp_mono wp_commit_adds _ fun _ _ => trivial
        rintro _ committed ⟨record, location, adds, terms⟩
        have state : stored.state = reserved := storedState.trans connectedState
        have unchanged : SameObjects world.state.db stored.state.db := state ▸ same
        apply Returns.bind
        apply returns_lastModifiedOrNow.mono
        rintro _ _ rfl
        exact .pure ⟨record, location, unchanged.adds adds, terms⟩
      · exact fun _ => Throws.after fun _ => Throws.after fun _ => Throws.throw
    · exact fun _ => Throws.after fun _ => Throws.after fun _ => Throws.throw
  · exact fun _ => Throws.after fun _ => Throws.throw

/-- What an upload that returns has added. -/
theorem returns_upload {config : ProxyTransferConfig} {key : String} {sizeBytes : Int}
    {contentType : Option String} {actor : DeleteActor}
    (named : namespaceOf world.db organizationId namespaceSlug = some found)
    (active : found.status = .active) :
    Returns constraints (upload config organizationId namespaceSlug key sizeBytes contentType actor)
      (fun _ after => ∃ record location, Adds world.db after.db record location ∧
        record.organizationId = organizationId ∧ record.namespaceId = found.id ∧
        record.logicalKey = key ∧ record.state = .available) world := by
  apply Returns.bind
  apply Returns.throwIf
  intro _
  apply Returns.bind
  apply Returns.query
  rw [Tx.wp_findFirst]
  have here : (virtualNamespace.table world.state.db).find? (fun row =>
      row.organizationId == organizationId && row.slug == namespaceSlug &&
        row.status == .active) = some found := find?_activeNamespace named active
  simp only [here]
  apply Returns.bind
  apply Returns.throwIf
  intro _
  apply Returns.bind
  apply Returns.query
  rw [Tx.wp_findFirst]
  apply Returns.bind
  apply Returns.throwIf
  intro _
  apply Returns.bind
  apply returns_selectTarget.mono
  rintro selection _ rfl
  split
  · exact Returns.throw
  · exact returns_uploadAt

/-- There is an available marker in some namespace of the organization. -/
def AnyMarker (db : Db) (organizationId : Id) (folder : String) : Prop :=
  ∃ record ∈ db.objectRecord, record.organizationId = organizationId ∧
    record.logicalKey = folder ++ folderMarker ∧ record.state = .available

/-- Creating a folder that returns adds a marker, unless there is one in some namespace. -/
theorem returns_createFolder {config : ProxyTransferConfig} {folderPrefix : String}
    {actor : DeleteActor}
    (named : namespaceOf world.db organizationId namespaceSlug = some found)
    (active : found.status = .active) :
    Returns constraints (createFolder config organizationId namespaceSlug folderPrefix actor)
      (fun result after => result = folderOf folderPrefix ∧
        (AnyMarker world.db organizationId (folderOf folderPrefix) ∧ after.db = world.db ∨
          ¬AnyMarker world.db organizationId (folderOf folderPrefix) ∧
            ∃ record location, Adds world.db after.db record location ∧
              IsMarker organizationId found.id (folderOf folderPrefix) record)) world := by
  have whole : createFolder config organizationId namespaceSlug folderPrefix actor = (do
      let existing ← query (objectRecord.findFirst fun row =>
        row.organizationId == organizationId &&
          row.logicalKey == folderOf folderPrefix ++ folderMarker && row.state == .available)
      if existing.isSome then
        return folderOf folderPrefix
      else
        let _ ← upload config organizationId namespaceSlug (folderOf folderPrefix ++ folderMarker)
          0 (some "application/x-mosp-folder") actor
        return folderOf folderPrefix) := rfl
  rw [whole]
  apply Returns.bind
  apply Returns.query
  rw [Tx.wp_findFirst]
  have anyMarker : ((objectRecord.table world.state.db).find? fun row =>
      row.organizationId == organizationId &&
        row.logicalKey == folderOf folderPrefix ++ folderMarker &&
        row.state == .available).isSome = true ↔
      AnyMarker world.db organizationId (folderOf folderPrefix) := by
    rw [Table.isSome_find?]
    simp only [Bool.and_eq_true, beq_iff_eq, and_assoc]
    rfl
  split
  · rename_i marked
    exact .pure ⟨rfl, .inl ⟨anyMarker.mp marked, rfl⟩⟩
  · rename_i unmarked
    apply Returns.bind
    apply (returns_upload named active).mono
    rintro _ after ⟨record, location, adds, own, inNamespace, key, available⟩
    apply Returns.pure
    refine ⟨rfl, .inr ⟨fun marked => unmarked (anyMarker.mpr marked), record, location, adds, ?_⟩⟩
    exact ⟨own, inNamespace, key, available⟩

/-- What a listing that returns has found. -/
theorem returns_listFolders
    (named : namespaceOf world.db organizationId namespaceSlug = some found)
    (active : found.status = .active) :
    Returns constraints (listFolders organizationId namespaceSlug keyPrefix)
      (fun folders after => after = world ∧
        folders = folderPage world.db organizationId found.id keyPrefix) world := by
  apply Returns.bind
  apply Returns.bind
  apply Returns.query
  rw [Tx.wp_findFirst]
  have here : (virtualNamespace.table world.state.db).find? (fun row =>
      row.organizationId == organizationId && row.slug == namespaceSlug) = some found := named
  simp only [here]
  rw [if_neg (not_not.mpr active)]
  apply Returns.pure
  apply Returns.bind
  apply Returns.query
  rw [wp_findRecords]
  exact .pure ⟨rfl, rfl⟩

end Mosp.Access
