import Mosp.Access.Folders
import Mosp.Guarantees.Access

/-!
# Guarantees about folders

When a folder that was created is listed.
-/

namespace Mosp.Guarantees

open Mosp.Concurrency Mosp.Data Mosp.Database Mosp.Sql Mosp.Services Mosp.System Mosp.Access
open ObjectExplorerService

/-- The prefixes that the route accepts. -/
def folderPrefixSchema (value : String) : Bool :=
  let chars := value.toList
  1 ≤ utf16Length value && utf16Length value ≤ 2047 &&
    chars.all (fun char => 0x1f < char.toNat && char.toNat != 0x7f) &&
    !chars.contains '\\' && !(chars.zip chars.tail).contains ( '/', '/') && !startsWith value "/" &&
    !(segments chars).any fun segment => segment == ['.'] || segment == ['.', '.']

example : ["docs/", "a b/c"].all folderPrefixSchema = true ∧
    ["", "/docs", "a//b", "a/../b"].any folderPrefixSchema = false := by
  decide +kernel

/-- An accepted prefix has no backslash. -/
theorem plain_of_folderPrefixSchema {folderPrefix : String}
    (accepted : folderPrefixSchema folderPrefix = true) : '\\' ∉ folderPrefix.toList := by
  simp only [folderPrefixSchema, Bool.and_eq_true] at accepted
  simpa using accepted.1.1.1.2

/-- A created folder is stored in its namespace, other namespaces keep their records, and every
listing by a prefix of the folder finds it. -/
structure FolderCreated (organizationId : Id) (found : VirtualNamespace) (folder : String)
    (before after : World) : Prop where
  stored : HasFolder after.db organizationId found.id folder
  others : ∀ record : ObjectRecord, record.namespaceId ≠ found.id →
    (record ∈ after.db.objectRecord ↔ record ∈ before.db.objectRecord)
  listed : ∀ keyPrefix, startsWith folder keyPrefix = true →
    EndsAlone violation Calm (listFolders organizationId found.slug keyPrefix)
      (fun result _ => ∃ folders, result = .ok folders ∧ folder ∈ folders) after

/-- A marker in any namespace of the organization comes with one in the folder's own, and fewer
than a thousand records of the namespace come before the marker. -/
def Creatable (db : Db) (organizationId namespaceId : Id) (folder : String) : Prop :=
  (AnyMarker db organizationId folder → HasFolder db organizationId namespaceId folder) ∧
    recordsBefore db organizationId namespaceId (folder ++ folderMarker) < 1000

section

variable {organizationId : Id} {found : VirtualNamespace} {folder keyPrefix : String}
  {before after : World}

/-- What a listing returns is determined. -/
theorem lists_iff (named : namespaceOf after.db organizationId found.slug = some found)
    (active : found.status = .active) :
    EndsAlone violation Calm (listFolders organizationId found.slug keyPrefix)
        (fun result _ => ∃ folders, result = .ok folders ∧ folder ∈ folders) after ↔
      folder ∈ folderPage after.db organizationId found.id keyPrefix := by
  constructor
  · intro lists
    have page : EndsAlone violation Calm (listFolders organizationId found.slug keyPrefix)
        (fun result _ => result = .ok (folderPage after.db organizationId found.id keyPrefix))
        after := ends_listFolders answers_calm named active rfl
    obtain ⟨result, _, first, folders, second, member⟩ :=
      (Program.Ends.both page lists).exists calm_possible
    rw [first, Except.ok.injEq] at second
    exact second ▸ member
  · intro member
    exact ends_listFolders answers_calm named active ⟨_, rfl, member⟩

/-- The folder is listed under all its prefixes if it is within the bound of the widest. -/
theorem listed_iff (named : namespaceOf after.db organizationId found.slug = some found)
    (active : found.status = .active) (ends : endsWith folder "/" = true)
    (plain : '\\' ∉ folder.toList) (has : HasFolder after.db organizationId found.id folder)
    (one : ∀ first ∈ after.db.objectRecord, ∀ second ∈ after.db.objectRecord,
      IsMarker organizationId found.id folder first →
      IsMarker organizationId found.id folder second → first = second) :
    (∀ keyPrefix, startsWith folder keyPrefix = true →
        EndsAlone violation Calm (listFolders organizationId found.slug keyPrefix)
          (fun result _ => ∃ folders, result = .ok folders ∧ folder ∈ folders) after) ↔
      recordsBefore after.db organizationId found.id (folder ++ folderMarker) < 1000 := by
  constructor
  · intro listed
    have widest := (lists_iff named active).mp (listed "" (startsWith_empty folder))
    rw [mem_folderPage_iff ends (startsWith_empty folder) (by simp) has one,
      countP_matchingRecords_all] at widest
    exact widest
  · intro few keyPrefix within
    have part : keyPrefix.toList <+: folder.toList := List.isPrefixOf_iff_prefix.mp within
    have plainPart : '\\' ∉ keyPrefix.toList := fun member => plain (part.subset member)
    rw [lists_iff named active, mem_folderPage_iff ends within plainPart has one]
    exact Nat.lt_of_le_of_lt (countP_matchingRecords_le _) few

/-- What adding a marker leaves behind. -/
theorem created_of_adds {record : ObjectRecord} {location : ObjectLocation}
    (adds : Adds before.db after.db record location)
    (marker : IsMarker organizationId found.id folder record)
    (unmarked : ¬AnyMarker before.db organizationId folder) :
    HasFolder after.db organizationId found.id folder ∧
      (∀ other : ObjectRecord, other.namespaceId ≠ found.id →
        (other ∈ after.db.objectRecord ↔ other ∈ before.db.objectRecord)) ∧
      (∀ first ∈ after.db.objectRecord, ∀ second ∈ after.db.objectRecord,
        IsMarker organizationId found.id folder first →
        IsMarker organizationId found.id folder second → first = second) ∧
      recordsBefore after.db organizationId found.id (folder ++ folderMarker) =
        recordsBefore before.db organizationId found.id (folder ++ folderMarker) := by
  have only : ∀ other ∈ after.db.objectRecord, IsMarker organizationId found.id folder other →
      other = record := by
    intro other member isMarker
    rw [adds.records, Table.mem_put] at member
    rcases member with same | ⟨member, -⟩
    · exact same
    · exact absurd ⟨other, member, isMarker.organization, isMarker.key, isMarker.available⟩
        unmarked
  refine ⟨⟨record, ?_, marker, location, ?_, adds.pointer, adds.active⟩, ?_, ?_, ?_⟩
  · rw [adds.records]
    exact Table.mem_put_self _ _
  · rw [adds.locations]
    exact Table.mem_put_self _ _
  · intro other elsewhere
    rw [adds.records, Table.mem_put]
    constructor
    · rintro (rfl | ⟨member, -⟩)
      · exact absurd marker.inNamespace elsewhere
      · exact member
    · exact fun member => .inr ⟨member, adds.fresh other member⟩
  · intro first firstMem second secondMem isFirst isSecond
    rw [only first firstMem isFirst, only second secondMem isSecond]
  · have added := Table.total_put_new (fun row => if row.organizationId == organizationId &&
      row.namespaceId == found.id && row.state == .available &&
        decide (row.logicalKey < folder ++ folderMarker) then 1 else 0) adds.fresh
    have own : (if record.organizationId == organizationId && record.namespaceId == found.id &&
        record.state == .available && decide (record.logicalKey < folder ++ folderMarker) then 1
          else 0 : Int) = 0 := by
      rw [marker.key]
      simp
    rw [own, Int.add_zero, ← adds.records] at added
    have counted := added
    change after.db.objectRecord.count _ = before.db.objectRecord.count _ at counted
    rw [Table.count_eq_length, Table.count_eq_length] at counted
    exact Int.ofNat.inj counted

end

/-- A folder whose creation returns is created exactly if it was creatable, and every folder
that is listed has a marker in the namespace.  In the pattern of a listing a backslash would
escape the next character; no accepted prefix has one. -/
theorem created_folders_listed_iff {config : ProxyTransferConfig} {organizationId : Id}
    {found : VirtualNamespace} {folderPrefix : String} {actor : DeleteActor} {world : World}
    (valid : Valid world.db)
    (named : namespaceOf world.db organizationId found.slug = some found)
    (active : found.status = .active) (plain : '\\' ∉ folderPrefix.toList) :
    Returns violation (createFolder config organizationId found.slug folderPrefix actor)
      (fun folder after => FolderCreated organizationId found folder world after ↔
        Creatable world.db organizationId found.id (folderOf folderPrefix)) world ∧
    ∀ keyPrefix, Returns violation (listFolders organizationId found.slug keyPrefix)
      (fun folders after => after = world ∧
        ∀ folder ∈ folders, HasFolder world.db organizationId found.id folder) world := by
  constructor
  · apply (returns_createFolder named active).mono
    rintro _ after ⟨rfl, outcome⟩
    have ends := endsWith_folderOf folderPrefix
    have plain := plain_folderOf plain
    generalize folderOf folderPrefix = folder at outcome ends plain ⊢
    rcases outcome with ⟨marked, same⟩ | ⟨unmarked, record, location, adds, marker⟩
    · have namedAfter : namespaceOf after.db organizationId found.slug = some found :=
        same ▸ named
      have one : ∀ first ∈ after.db.objectRecord, ∀ second ∈ after.db.objectRecord,
          IsMarker organizationId found.id folder first →
          IsMarker organizationId found.id folder second → first = second := by
        rw [same]
        intro first firstMem second secondMem isFirst isSecond
        have unique : Unique world.db.objectRecord fun row =>
            some (row.namespaceId, row.logicalKey) := valid .objectRecordLogicalKey
        have key : ∀ record, IsMarker organizationId found.id folder record →
            some (record.namespaceId, record.logicalKey) =
              some (found.id, folder ++ folderMarker) := by
          intro record marker
          rw [marker.inNamespace, marker.key]
        exact Table.eq_of_id_eq firstMem secondMem (unique first firstMem second secondMem nofun
          ((key first isFirst).trans (key second isSecond).symm))
      constructor
      · rintro ⟨stored, -, listed⟩
        exact ⟨fun _ => same ▸ stored,
          same ▸ (listed_iff namedAfter active ends plain stored one).mp listed⟩
      · rintro ⟨has, few⟩
        have stored : HasFolder after.db organizationId found.id folder := same ▸ has marked
        refine ⟨stored, fun _ _ => by rw [same], ?_⟩
        exact (listed_iff namedAfter active ends plain stored one).mpr (same ▸ few)
    · obtain ⟨stored, others, one, count⟩ := created_of_adds adds marker unmarked
      have namedAfter : namespaceOf after.db organizationId found.slug = some found := by
        rw [namespaceOf, adds.namespaces]
        exact named
      constructor
      · rintro ⟨-, -, listed⟩
        exact ⟨fun marked => absurd marked unmarked,
          count ▸ (listed_iff namedAfter active ends plain stored one).mp listed⟩
      · rintro ⟨-, few⟩
        refine ⟨stored, others, ?_⟩
        exact (listed_iff namedAfter active ends plain stored one).mpr (count ▸ few)
  · intro keyPrefix
    apply (returns_listFolders named active).mono
    rintro _ after ⟨same, rfl⟩
    exact ⟨same, fun folder listed => hasFolder_of_mem listed⟩

namespace Folder

/-- A second namespace, which has no objects. -/
def archive : VirtualNamespace :=
  { id := 30
    organizationId := 1
    name := "archive"
    slug := "archive"
    status := .active
    quotaBytes := 100 }

/-- Two namespaces, one of them with a folder. -/
def divided : World :=
  { state := ⟨{ Index.Overwrite.base with
      virtualNamespace := .ofRows [found, archive]
      uploadSession := .empty
      objectRecord := .ofRows [
        { id := 20
          organizationId := 1
          namespaceId := 3
          logicalKey := "b/.mosp-folder"
          activeObjectLocationId := some 21
          state := .available
          sizeBytes := 0 }]
      objectLocation := .ofRows [
        { id := 21
          organizationId := 1
          objectRecordId := 20
          bucketConnectionId := 6
          physicalKey := .object 3 31
          state := .active
          verifiedAt := some 0 }] }, 50⟩
    objects := fun _ => none
    clock := 0 }

end Folder

/-- In a namespace that other namespaces do not share the folder with, it is created. -/
theorem created_folders_listed_iff_example :
    Returns violation
      (createFolder { maxObjectBytes := 100 } 1 "reports" "c/" { actorId := none, requestId := "" })
      (fun folder after => FolderCreated 1 Folder.found folder Folder.divided after)
      Folder.divided := by
  have valid : Valid Folder.divided.db := violation_eq_none.mp (by decide +kernel)
  have creatable : Creatable Folder.divided.db 1 3 (folderOf "c/") := by
    constructor
    · rintro ⟨record, member, -, key, -⟩
      have other : (Folder.divided.db.objectRecord.rows.all fun row =>
          row.logicalKey != folderOf "c/" ++ folderMarker) = true := by
        decide +kernel
      exact absurd key (bne_iff_ne.mp (List.all_eq_true.mp other record member))
    · decide +kernel
  have created := (@created_folders_listed_iff { maxObjectBytes := 100 } 1 Folder.found "c/"
    { actorId := none, requestId := "" } Folder.divided valid rfl rfl
    (plain_of_folderPrefixSchema (by decide +kernel))).1
  exact created.mono fun folder after equivalent => equivalent.mpr creatable

/-- A marker in another namespace keeps the folder from being created. -/
theorem folder_not_created :
    folderPrefixSchema "b/" = true ∧ Valid Folder.divided.db ∧
      namespaceOf Folder.divided.db 1 "archive" = some Folder.archive ∧
      EndsAlone violation Calm
        (createFolder { maxObjectBytes := 100 } 1 "archive" "b/" { actorId := none, requestId := "" })
        (fun result after => result = .ok "b/" ∧
          ¬FolderCreated 1 Folder.archive "b/" Folder.divided after) Folder.divided := by
  refine ⟨by decide +kernel, violation_eq_none.mp (by decide +kernel), rfl, ?_⟩
  apply EndsAlone.query (answers_calm _)
  rw [Tx.wp_findFirst]
  have marked : ((objectRecord.table Folder.divided.state.db).find? fun row =>
      row.organizationId == 1 && row.logicalKey == folderOf "b/" ++ folderMarker &&
        row.state == .available).isSome = true := by
    decide +kernel
  have same : folderOf "b/" = "b/" := by decide +kernel
  unfold folderOf at marked same
  rw [if_pos marked]
  apply EndsAlone.pure
  refine ⟨congrArg Except.ok same, ?_⟩
  rintro ⟨⟨record, member, marker, -⟩, -, -⟩
  have elsewhere : (Folder.divided.db.objectRecord.rows.all fun row =>
      row.namespaceId != 30) = true := by
    decide
  exact bne_iff_ne.mp (List.all_eq_true.mp elsewhere record member) marker.inNamespace

end Mosp.Guarantees
