import Mosp.Conduct.Quiet

/-!
# Reading objects and granting folders

Listing and downloading leave the catalog as it is, and so do the grants of folders: a
download adds to the egress of a counter, of which the catalog says nothing, and a grant is
a row of a table of its own.
-/

namespace Mosp.Conduct

open Mosp.Concurrency Mosp.Data Mosp.Sql Mosp.Database Mosp.Index Mosp.Services
open Mosp.System hiding Action

namespace ReadOnly

variable {α β R : Type} [Row R]

theorem randomUUID : ReadOnly (Tx.randomUUID : Database.Tx Id) fun _ => True := by
  intro check time state
  rw [Tx.wp_randomUUID]
  exact ⟨.rest (Nat.le_succ _) rfl, trivial⟩

theorem mapM {items : List α} {body : α → Database.Tx β}
    (each : ∀ item, ReadOnly (body item) fun _ => True) :
    ReadOnly (items.mapM' body) fun _ => True := by
  induction items with
  | nil => exact .pure trivial
  | cons item rest ih =>
      apply bind (each item)
      intro value _
      apply bind ih
      exact fun _ _ => .pure trivial

/-- A row of a table that the catalog does not show. -/
theorem create {model : Model Db Write Lock R} {row : R}
    (hidden : ∀ db row, catalogOf (Db.write db (model.put row)) = catalogOf db) :
    ReadOnly (model.create row : Database.Tx R) fun _ => True := by
  intro check time state
  rw [Tx.wp_create]
  split
  · trivial
  · apply Tx.Written.of_goes
    exact ⟨.rest (Nat.le_refl _) (hidden _ _), trivial⟩

theorem delete {model : ErasableModel Db Write Lock R} {condition : R → Bool}
    (hidden : ∀ db id, catalogOf (Db.write db (model.erase id)) = catalogOf db) :
    ReadOnly (model.delete condition : Database.Tx Unit) fun _ => True := by
  intro check time state
  rw [Tx.wp_delete]
  split
  · trivial
  · apply Tx.Written.of_goes
    exact ⟨.rest (Nat.le_refl _) (hidden _ _), trivial⟩

end ReadOnly

/-! ## Objects -/

theorem readOnly_findRecords {organizationId namespaceId : Id} {keyPrefix : Option String}
    {limit : Nat} :
    ReadOnly (findRecords organizationId namespaceId keyPrefix limit) fun _ => True := by
  apply ReadOnly.bind .findMany
  intro records _
  apply ReadOnly.bind .findMany
  exact fun _ _ => .pure trivial

theorem readOnly_includeActiveLocation {record : ObjectRecord} :
    ReadOnly (UploadService.includeActiveLocation record) fun _ => True := by
  unfold UploadService.includeActiveLocation
  split
  · exact .pure trivial
  · apply ReadOnly.bind .findFirst
    intro location _
    cases location with
    | none => exact .pure trivial
    | some location =>
        apply ReadOnly.bind .findFirstOrThrow
        exact fun _ _ => .pure trivial

theorem readOnly_findRecord {organizationId namespaceId : Id} {key : String} :
    ReadOnly (findRecord organizationId namespaceId key) fun _ => True := by
  apply ReadOnly.bind .findFirst
  intro record _
  cases record with
  | none => exact .pure trivial
  | some record =>
      apply ReadOnly.bind readOnly_includeActiveLocation
      exact fun _ _ => .pure trivial

theorem add_nothing (usage : Usage) : usage + 0 = usage :=
  Usage.ext (Int.add_zero _) (Int.add_zero _) (Int.add_zero _) (Int.add_zero _)

theorem charge_nothing {catalog : Catalog} {organizationId namespaceId : Id} :
    catalog.charge organizationId namespaceId 0 = catalog := by
  unfold Catalog.charge
  simp only [add_nothing, ite_self]

/-- Writing over a counter without a change of the usage. -/
theorem catalogOf_sameUsage {db : Db} {organizationId namespaceId : Id} {counter row : UsageCounter}
    (found : db.usageCounter.find? (isCounterOf organizationId namespaceId) = some counter)
    (sameId : row.id = counter.id) (own : isCounterOf organizationId namespaceId row = true)
    (same : usageOf row = usageOf counter) :
    catalogOf (db.write (.usageCounter row)) = catalogOf db := by
  have adds : usageOf row = usageOf counter + 0 := same.trans (add_nothing _).symm
  rw [catalogOf_usageCounter found sameId own adds, charge_nothing]

/-- Egress is no part of the usage that the catalog shows. -/
theorem readOnly_addEgress {organizationId namespaceId id : Id} {sizeBytes : Int} :
    ReadOnly (usageCounter.upsert (isCounterOf organizationId namespaceId)
        { id, organizationId, namespaceId, egressBytes := sizeBytes }
        fun row => { row with egressBytes := row.egressBytes + sizeBytes } : Database.Tx UsageCounter)
      fun _ => True := by
  intro check time state
  simp only [Tx.wp_upsert, usageCounter_toRelation_table, usageCounter_updated,
    usageCounter_created, usageCounter_put]
  split
  · rename_i counter found
    apply Tx.Written.of_goes
    refine ⟨.rest (Nat.le_refl _) ?_, trivial⟩
    apply catalogOf_sameUsage found
    · rfl
    · exact (Table.find?_some found).2
    · rfl
  · rename_i absent
    split
    · trivial
    · rename_i free
      apply Tx.Written.of_goes
      refine ⟨.rest (Nat.le_refl _) ?_, trivial⟩
      exact catalogOf_newCounter absent (Table.get?_none.mp free) (by simp [isCounterOf]) rfl

theorem quiet_recordEgress {organizationId namespaceId : Id} {sizeBytes : Int} :
    Quiet (fun _ => True) (recordEgress organizationId namespaceId sizeBytes) := by
  unfold recordEgress
  split
  · exact .throw
  · apply Quiet.randomUUID
    intro id
    apply Quiet.bind (.query readOnly_addEgress)
    exact fun _ _ => .pure trivial

/-- Both services sign a download in this way, each with its own error. -/
theorem quiet_signDownload {organizationId namespaceId providerConnectionId : Id}
    {bucketName : String} {physicalKey : PhysicalKey} {sizeBytes : Int} {unavailable : Failure} :
    Quiet (fun _ => True) (tryCatch
      (do
        let adapter ← adapterFor organizationId providerConnectionId
        let transfer ← adapter.createPresignedDownload bucketName physicalKey
        recordEgress organizationId namespaceId sizeBytes
        return transfer)
      fun _ => throw unavailable : Service PresignedTransfer) := by
  apply Quiet.catchWith
  · apply Quiet.bind quiet_adapterFor
    intro adapter _
    apply Quiet.bind (.call (harmless_of_same fun _ _ _ => rfl))
    intro transfer _
    apply Quiet.bind quiet_recordEgress
    exact fun _ _ => .pure trivial
  · exact fun _ => .throw

/-! ## Under an API credential -/

section

variable {identity : ApiCredentialIdentity} {namespaceId : Id} {namespaceSlug key : String}

theorem quiet_ownNamespace :
    Quiet (fun _ => True) (ObjectIndexService.ownNamespace identity namespaceSlug) := by
  apply Quiet.bind (.query .findFirst)
  intro found _
  cases found with
  | none => exact .throw
  | some found =>
      dsimp only
      split
      · exact .throw
      · exact .pure trivial

theorem quiet_accessibleObject {action : FolderGrantAction} :
    Quiet (fun _ => True) (ObjectIndexService.accessibleObject identity namespaceId action key) := by
  apply Quiet.bind (.query readOnly_findRecord)
  intro found _
  split
  · exact .throw
  · apply Quiet.bind quiet_canAccess
    intro allowed _
    split
    · exact .pure trivial
    · exact .throw

theorem quiet_listAllowed {records : List (ObjectRecord × Option ObjectLocation)} :
    Quiet (fun _ => True) (ObjectIndexService.listAllowed identity namespaceId records) := by
  induction records with
  | nil => exact .pure trivial
  | cons entry rest ih =>
      unfold ObjectIndexService.listAllowed
      split
      · apply Quiet.bind quiet_canAccess
        intro canList _
        apply Quiet.bind ih
        exact fun _ _ => .pure trivial
      · exact ih

theorem quiet_canListPrefix {keyPrefix : Option String} :
    Quiet (fun _ => True) (ObjectIndexService.canListPrefix identity namespaceId keyPrefix) := by
  cases keyPrefix with
  | none => exact .pure trivial
  | some keyPrefix => exact quiet_canAccess

theorem quiet_list {filter : ObjectListQuery} :
    Quiet (fun _ => True) (ObjectIndexService.list identity namespaceSlug filter) := by
  apply Quiet.bind quiet_ownNamespace
  intro found _
  apply Quiet.bind quiet_canListPrefix
  intro visible _
  split
  · apply Quiet.bind (.query readOnly_findRecords)
    exact fun _ _ => quiet_listAllowed
  · exact .pure trivial

theorem quiet_head :
    Quiet (fun _ => True) (ObjectIndexService.head identity namespaceSlug key) := by
  apply Quiet.bind quiet_ownNamespace
  intro found _
  apply Quiet.bind quiet_accessibleObject
  exact fun _ _ => .pure trivial

theorem quiet_getTransferMode :
    Quiet (fun _ => True) (ObjectIndexService.getTransferMode identity namespaceSlug) := by
  apply Quiet.bind quiet_ownNamespace
  exact fun _ _ => .pure trivial

theorem quiet_presignDownload :
    Quiet (fun _ => True) (ObjectIndexService.presignDownload identity namespaceSlug key) := by
  apply Quiet.bind quiet_ownNamespace
  intro found _
  apply Quiet.bind quiet_accessibleObject
  exact fun _ _ => quiet_signDownload

theorem quiet_proxyDownload :
    Quiet (fun _ => True) (ObjectIndexService.proxyDownload identity namespaceSlug key) := by
  apply Quiet.bind quiet_ownNamespace
  intro found _
  apply Quiet.bind quiet_accessibleObject
  rintro ⟨record, location, bucket⟩ _
  apply Quiet.catchWith
  · apply Quiet.bind quiet_adapterFor
    intro adapter _
    apply Quiet.bind (.call (harmless_of_same fun _ _ _ => rfl))
    intro metadata _
    apply Quiet.bind .throwIf
    exact fun _ _ => .pure trivial
  · exact fun _ => .throw

end

/-! ## In the explorer -/

section

variable {organizationId namespaceId : Id} {namespaceSlug key : String}

theorem quiet_listNamespaces :
    Quiet (fun _ => True) (ObjectExplorerService.listNamespaces organizationId) := by
  apply Quiet.bind (.query .findMany)
  exact fun _ _ => .pure trivial

theorem quiet_resolveNamespace :
    Quiet (fun _ => True) (ObjectExplorerService.resolveNamespace organizationId namespaceSlug) := by
  apply Quiet.bind (.query .findFirst)
  intro found _
  cases found with
  | none => exact .throw
  | some found =>
      dsimp only
      split
      · exact .throw
      · exact .pure trivial

theorem quiet_explorerList {filter : ObjectListQuery} :
    Quiet (fun _ => True) (ObjectExplorerService.list organizationId namespaceSlug filter) := by
  apply Quiet.bind quiet_resolveNamespace
  intro found _
  apply Quiet.bind (.query readOnly_findRecords)
  exact fun _ _ => .pure trivial

theorem quiet_listFolders {keyPrefix : String} :
    Quiet (fun _ => True)
      (ObjectExplorerService.listFolders organizationId namespaceSlug keyPrefix) := by
  apply Quiet.bind quiet_resolveNamespace
  intro found _
  apply Quiet.bind (.query readOnly_findRecords)
  exact fun _ _ => .pure trivial

theorem quiet_findActive :
    Quiet (fun _ => True) (ObjectExplorerService.findActive organizationId namespaceId key) := by
  apply Quiet.bind (.query readOnly_findRecord)
  intro found _
  split
  · exact .throw
  · exact .pure trivial

theorem quiet_explorerPresignDownload :
    Quiet (fun _ => True)
      (ObjectExplorerService.presignDownload organizationId namespaceSlug key) := by
  apply Quiet.bind quiet_resolveNamespace
  intro found _
  apply Quiet.bind quiet_findActive
  exact fun _ _ => quiet_signDownload

end

/-! ## Folder grants -/

section

variable {organizationId : Id} {metadata : FolderGrantActionMetadata}

theorem readOnly_includeNamespace {grant : FolderGrant} :
    ReadOnly (FolderGrantService.includeNamespace grant) fun _ => True := by
  apply ReadOnly.bind .findFirstOrThrow
  exact fun _ _ => .pure trivial

theorem quiet_listGrants {filter : FolderGrantQuery} :
    Quiet (fun _ => True) (FolderGrantService.list organizationId filter) := by
  apply Quiet.bind (.query (.bind .findMany fun _ _ => .mapM fun _ => readOnly_includeNamespace))
  exact fun _ _ => .pure trivial

theorem readOnly_assertPrincipal {namespaceId principalId : Id}
    {principalType : FolderGrantPrincipalType} {now : Time} :
    ReadOnly (FolderGrantService.assertPrincipal organizationId namespaceId principalType
      principalId now) fun _ => True := by
  cases principalType with
  | role =>
      apply ReadOnly.bind .findFirst
      intro found _
      cases found with
      | none => exact .throw
      | some _ => exact .pure trivial
  | apiCredential =>
      apply ReadOnly.bind .findFirst
      intro found _
      cases found with
      | none => exact .throw
      | some _ =>
          dsimp only
          split
          · exact .throw
          · exact .pure trivial

theorem readOnly_writeActivity {action : String} {entityId : Id} :
    ReadOnly (FolderGrantService.writeActivity organizationId metadata action entityId)
      fun _ => True := by
  apply ReadOnly.bind .randomUUID
  intro id _
  apply ReadOnly.bind (.create fun _ _ => rfl)
  exact fun _ _ => .pure trivial

theorem readOnly_createGrant {input : FolderGrantCreateRequest} {folderPrefix : String}
    {expiresAt : Option Time} {now : Time} :
    ReadOnly (FolderGrantService.createTransaction organizationId input folderPrefix expiresAt now
      metadata) fun _ => True := by
  apply ReadOnly.bind .findFirst
  intro found _
  cases found with
  | none => exact .throw
  | some _ =>
      apply ReadOnly.bind readOnly_assertPrincipal
      intro _ _
      apply ReadOnly.bind .randomUUID
      intro id _
      apply ReadOnly.bind (.create fun _ _ => rfl)
      intro created _
      apply ReadOnly.bind readOnly_includeNamespace
      intro included _
      apply ReadOnly.bind readOnly_writeActivity
      exact fun _ _ => .pure trivial

theorem quiet_createGrant {input : FolderGrantCreateRequest} :
    Quiet (fun _ => True) (FolderGrantService.create organizationId input metadata) := by
  apply Quiet.bind .currentTime
  intro now _
  apply Quiet.bind (.ofExcept fun _ _ => trivial)
  intro expiresAt _
  split
  · exact .throw
  · apply Quiet.bind (.transaction readOnly_createGrant)
    exact fun _ _ => .pure trivial

theorem quiet_deleteGrant {grantId : Id} :
    Quiet (fun _ => True) (FolderGrantService.delete organizationId grantId metadata) := by
  apply Quiet.transaction
  apply ReadOnly.bind .findFirst
  intro found _
  cases found with
  | none => exact .throw
  | some _ =>
      apply ReadOnly.bind (.delete fun _ _ => rfl)
      exact fun _ _ => readOnly_writeActivity

end

end Mosp.Conduct
