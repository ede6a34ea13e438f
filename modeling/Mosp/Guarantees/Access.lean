import Mosp.Access.Listing
import Mosp.Index.CompletionCommit

/-!
# Access to folders

What a folder grant covers, and what a listing shows of it.
-/

namespace Mosp.Guarantees

open Mosp.Concurrency Mosp.Data Mosp.Database Mosp.Sql Mosp.Services Mosp.System Mosp.Access

/-- A folder covers a longer key if that goes on with a slash. -/
theorem covers_longer_iff (folderPrefix : String) (char : Char) (rest : List Char) :
    FolderGrantService.prefixMatches folderPrefix
        (folderPrefix ++ String.ofList (char :: rest)) = true ↔
      folderPrefix = "" ∨ char = '/' := by
  rw [prefixMatches_iff, segments_prefix_iff]
  simp [List.prefix_append_right_inj, List.cons_prefix_cons, eq_comm]

/-- A normalized prefix is not changed by normalizing it, slashes around a prefix do not
matter, a prefix covers the keys whose segments begin with its own, and `canAccess` grants
what a valid principal has such a grant for. -/
theorem folder_grants_are_segment_prefixes (constraints : Db → Option Failure) (world : World)
    (input : FolderAccessCheck) :
    (∀ folderPrefix, (normalizeFolderPrefix folderPrefix).bind normalizeFolderPrefix =
      normalizeFolderPrefix folderPrefix) ∧
    (∀ folderPrefix before after, normalizeFolderPrefix (String.ofList
      (List.replicate before '/' ++ folderPrefix.toList ++ List.replicate after '/')) =
      normalizeFolderPrefix folderPrefix) ∧
    (∀ folderPrefix key, FolderGrantService.prefixMatches folderPrefix key = true ↔
      folderPrefix = "" ∨ segments folderPrefix.toList <+: segments key.toList) ∧
    (∀ folderPrefix char rest, FolderGrantService.prefixMatches folderPrefix
        (folderPrefix ++ String.ofList (char :: rest)) = true ↔
      folderPrefix = "" ∨ char = '/') ∧
    EndsAlone constraints Calm (FolderGrantService.canAccess input) (fun result after =>
      after = world ∧ ∃ allowed, result = .ok allowed ∧
        (allowed = true ↔ MayAccess world.db world.clock input)) world := by
  refine ⟨normalizeFolderPrefix_idempotent, normalizeFolderPrefix_surrounded, prefixMatches_iff,
    covers_longer_iff, ?_⟩
  rw [← Program.bind_pure (FolderGrantService.canAccess input)]
  exact ends_canAccess answers_calm fun allowed may => .pure ⟨rfl, allowed, rfl, may⟩

/-! ## The first page -/

namespace Folder

/-- A folder with one object, and a grant on it. -/
def db : Db :=
  { Index.Overwrite.base with
    folderGrant := .ofRows [
      { id := 40
        organizationId := 1
        namespaceId := 3
        principalType := .apiCredential
        principalId := 5
        folderPrefix := "b"
        actions := [.list]
        createdById := 2 }]
    objectRecord := .ofRows [
      { id := 20
        organizationId := 1
        namespaceId := 3
        logicalKey := "b/.mosp-folder"
        activeObjectLocationId := some 21
        state := .available
        sizeBytes := 0 },
      { id := 22
        organizationId := 1
        namespaceId := 3
        logicalKey := "b/1"
        activeObjectLocationId := some 23
        state := .available
        sizeBytes := 4 },
      { id := 24
        organizationId := 1
        namespaceId := 3
        logicalKey := "a"
        activeObjectLocationId := some 25
        state := .available
        sizeBytes := 4 }]
    objectLocation := .ofRows [
      { id := 21
        organizationId := 1
        objectRecordId := 20
        bucketConnectionId := 6
        physicalKey := .object 3 31
        state := .active },
      { id := 23
        organizationId := 1
        objectRecordId := 22
        bucketConnectionId := 6
        physicalKey := .object 3 32
        state := .active },
      { id := 25
        organizationId := 1
        objectRecordId := 24
        bucketConnectionId := 6
        physicalKey := .object 3 33
        state := .active }] }

def world : World :=
  { state := ⟨db, 50⟩, objects := fun _ => none, clock := 0 }

def found : VirtualNamespace :=
  { id := 3
    organizationId := 1
    name := "reports"
    slug := "reports"
    status := .active
    quotaBytes := 100 }

theorem named : namespaceOf world.db 1 "reports" = some found :=
  rfl

end Folder

/-- The first records under the prefix that the credential may list. -/
def firstListed (db : Db) (now : Time) (identity : ApiCredentialIdentity) (namespaceId : Id)
    (filter : ObjectListQuery) : List ObjectSummary :=
  (((recordsUnder db identity.organizationId namespaceId filter.keyPrefix).filter fun entry =>
      decide (MayList db now identity namespaceId entry)).take filter.limit).map fun entry =>
        toObjectSummary entry.1 entry.2

/-- The first records under the prefix that are no folder markers. -/
def firstShown (db : Db) (organizationId namespaceId : Id) (filter : ObjectListQuery) :
    List ObjectSummary :=
  (((recordsUnder db organizationId namespaceId filter.keyPrefix).filter isShown).take
    filter.limit).map fun entry => toObjectSummary entry.1 entry.2

/-- The record is visible, and its key does start with the prefix. -/
def Wanted (filter : ObjectListQuery) (Visible : ObjectRecord × Option ObjectLocation → Prop)
    (entry : ObjectRecord × Option ObjectLocation) : Prop :=
  Visible entry ∧ filter.keyPrefix.all (startsWith entry.1.logicalKey) = true

/-- Of the records that a query takes to have the prefix, all visible ones within the limit are
wanted, and either all records within the limit are or none beyond it is. -/
def HasFirstPage (records : List (ObjectRecord × Option ObjectLocation))
    (filter : ObjectListQuery) (Visible : ObjectRecord × Option ObjectLocation → Prop) : Prop :=
  (∀ entry ∈ records.take filter.limit, Visible entry → Wanted filter Visible entry) ∧
    ((∀ entry ∈ records.take filter.limit, Wanted filter Visible entry) ∨
      ∀ entry ∈ records.drop filter.limit, ¬Wanted filter Visible entry)

instance (filter : ObjectListQuery) (Visible : ObjectRecord × Option ObjectLocation → Prop)
    [DecidablePred Visible] : DecidablePred (Wanted filter Visible) :=
  fun _ => inferInstanceAs (Decidable (_ ∧ _))

instance (records : List (ObjectRecord × Option ObjectLocation)) (filter : ObjectListQuery)
    (Visible : ObjectRecord × Option ObjectLocation → Prop) [DecidablePred Visible] :
    Decidable (HasFirstPage records filter Visible) :=
  inferInstanceAs (Decidable (_ ∧ _))

/-- When bounding and then filtering what a query finds gives the first page of what is wanted. -/
theorem page_eq_iff {db : Db} {organizationId namespaceId : Id} {filter : ObjectListQuery}
    (parsed : filter.keyPrefix.all objectListPrefixSchema = true)
    (visible : ObjectRecord × Option ObjectLocation → Bool) :
    (((matchingRecords db organizationId namespaceId filter.keyPrefix).take filter.limit).filter
          visible).map (fun entry => toObjectSummary entry.1 entry.2) =
        (((recordsUnder db organizationId namespaceId filter.keyPrefix).filter visible).take
          filter.limit).map (fun entry => toObjectSummary entry.1 entry.2) ↔
      HasFirstPage (matchingRecords db organizationId namespaceId filter.keyPrefix) filter
        fun entry => visible entry = true := by
  have plain : ∀ start, filter.keyPrefix = some start → '\\' ∉ start.toList := by
    intro start given
    rw [given] at parsed
    exact plain_of_objectListPrefixSchema parsed
  rw [recordsUnder_eq plain, List.filter_filter]
  -- a summary holds the key, and so tells whether the record has the prefix
  refine (map_filter_take_eq_wanted_iff _ visible filter.limit _
    fun summary : ObjectSummary => filter.keyPrefix.all (startsWith summary.key)).trans ?_
  refine and_congr_left' (forall_congr' fun entry => imp_congr_right fun _ => ?_)
  exact ⟨fun starts shown => ⟨shown, starts shown⟩, fun wanted shown => (wanted shown).2⟩

/-- For an accepted prefix the listings return the first page of what the caller may see, exactly
when it is the first page of what the query finds. -/
theorem listing_first_page_iff {constraints : Db → Option Failure} {world : World}
    {identity : ApiCredentialIdentity} {namespaceSlug : String} {filter : ObjectListQuery}
    {found : VirtualNamespace} (parsed : filter.keyPrefix.all objectListPrefixSchema = true)
    (named : namespaceOf world.db identity.organizationId namespaceSlug = some found)
    (own : found.id = identity.namespaceId) (active : found.status = .active)
    (allowed : ∀ keyPrefix, filter.keyPrefix = some keyPrefix →
      MayAccess world.db world.clock (listCheck identity found.id keyPrefix)) :
    (EndsAlone constraints Calm (ObjectIndexService.list identity namespaceSlug filter)
        (fun result _ => result =
          .ok (firstListed world.db world.clock identity found.id filter)) world ↔
      HasFirstPage (matchingRecords world.db identity.organizationId found.id filter.keyPrefix)
        filter (MayList world.db world.clock identity found.id)) ∧
    (EndsAlone constraints Calm
        (ObjectExplorerService.list identity.organizationId namespaceSlug filter)
        (fun result _ => result =
          .ok (firstShown world.db identity.organizationId found.id filter)) world ↔
      HasFirstPage (matchingRecords world.db identity.organizationId found.id filter.keyPrefix)
        filter fun entry => isShown entry = true) := by
  constructor
  · rw [EndsAlone.returns_iff (ends_list answers_calm named own active allowed rfl)]
    refine (page_eq_iff parsed _).trans ?_
    simp only [decide_eq_true_eq]
  · rw [EndsAlone.returns_iff (ends_explorerList answers_calm named active rfl)]
    exact page_eq_iff parsed isShown

/-- Under the prefix of the grant the first page is complete. -/
theorem listing_first_page_iff_example :
    EndsAlone violation Calm
      (ObjectIndexService.list Index.Overwrite.identity "reports"
        { keyPrefix := some "b/", limit := 1 })
      (fun result _ => result = .ok (firstListed Folder.world.db 0 Index.Overwrite.identity 3
        { keyPrefix := some "b/", limit := 1 })) Folder.world := by
  have allowed : ∀ keyPrefix,
      ObjectListQuery.keyPrefix { keyPrefix := some "b/", limit := 1 } = some keyPrefix →
      MayAccess Folder.world.db 0 (listCheck Index.Overwrite.identity 3 keyPrefix) := by
    rintro _ ⟨⟩
    decide +kernel
  obtain ⟨index, _⟩ := @listing_first_page_iff violation Folder.world Index.Overwrite.identity
    "reports" { keyPrefix := some "b/", limit := 1 } Folder.found (by decide +kernel) Folder.named
    rfl rfl allowed
  refine index.mpr ?_
  decide +kernel

/-- With room for one object, an object that the credential may not list hides one that it
may list, and a folder marker hides an object from the explorer; an underscore in the prefix
shows an object that does not start with it. -/
theorem listing_hides_visible :
    EndsAlone violation Calm
        (ObjectIndexService.list Index.Overwrite.identity "reports" { limit := 1 })
        (fun result _ => result = .ok []) Folder.world ∧
      (firstListed Folder.world.db 0 Index.Overwrite.identity 3 { limit := 1 }).map
        ObjectSummary.key = ["b/.mosp-folder"] ∧
      EndsAlone violation Calm
        (ObjectExplorerService.list 1 "reports" { keyPrefix := some "b", limit := 1 })
        (fun result _ => result = .ok []) Folder.world ∧
      (firstShown Folder.world.db 1 3 { keyPrefix := some "b", limit := 1 }).map
        ObjectSummary.key = ["b/1"] ∧
      objectListPrefixSchema "b_" = true ∧
      EndsAlone violation Calm
        (ObjectExplorerService.list 1 "reports" { keyPrefix := some "b_", limit := 2 })
        (fun result _ => ∃ page, result = .ok page ∧ page.map ObjectSummary.key = ["b/1"])
        Folder.world ∧
      firstShown Folder.world.db 1 3 { keyPrefix := some "b_", limit := 2 } = [] := by
  refine ⟨?_, by decide +kernel, ?_, by decide +kernel, by decide +kernel, ?_, ?_⟩
  · have anywhere : ∀ keyPrefix, ObjectListQuery.keyPrefix { limit := 1 } = some keyPrefix →
        MayAccess Folder.world.db 0 (listCheck Index.Overwrite.identity 3 keyPrefix) := nofun
    refine ends_list answers_calm Folder.named rfl rfl anywhere ?_
    have empty : (indexPage Folder.world.db 0 Index.Overwrite.identity 3 { limit := 1 }).length =
        0 := by
      decide +kernel
    exact congrArg Except.ok (List.length_eq_zero_iff.mp empty)
  · refine ends_explorerList answers_calm Folder.named rfl ?_
    have empty : (explorerPage Folder.world.db 1 3 { keyPrefix := some "b", limit := 1 }).length =
        0 := by
      decide +kernel
    exact congrArg Except.ok (List.length_eq_zero_iff.mp empty)
  · refine ends_explorerList answers_calm Folder.named rfl ⟨_, rfl, ?_⟩
    decide +kernel
  · have empty : (firstShown Folder.world.db 1 3 { keyPrefix := some "b_", limit := 2 }).length =
        0 := by
      decide +kernel
    exact List.length_eq_zero_iff.mp empty

end Mosp.Guarantees
