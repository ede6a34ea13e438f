import Mosp.Database.Schema
import Mosp.Sql.Constraint

/-!
# The constraints of the schema

The unique indexes, foreign keys and CHECKs of the migrations, apart from those
that hold by the types here (primary keys, enumerations, the pairs of a primary
key and an organization).  None of them is deferrable, so PostgreSQL checks
them at the end of every statement.
-/

namespace Mosp.Database

open Mosp.Data Mosp.Sql

inductive Constraint where
  | roleOrganization
  | roleScopeOrganization
  | providerConnectionOrganization
  | providerCredentialProvider
  | providerCredentialProviderConnection
  | bucketConnectionName
  | bucketConnectionOrganization
  | bucketConnectionProviderConnection
  | virtualNamespaceSlug
  | virtualNamespaceOrganization
  | virtualNamespaceQuotaBytes
  | virtualNamespaceMaxObjectSizeBytes
  | placementPolicyNamespaceKey
  | placementPolicyNamespace
  | placementTargetBucket
  | placementTargetPolicy
  | placementTargetBucketConnection
  | placementTargetRanges
  | apiCredentialOrganization
  | apiCredentialNamespace
  | folderGrantPrincipalPrefix
  | folderGrantOrganization
  | folderGrantNamespace
  | folderGrantCreatedBy
  | folderGrantActions
  | objectRecordLogicalKey
  | objectRecordActiveObjectLocationKey
  | objectRecordOrganization
  | objectRecordNamespace
  | objectRecordActiveObjectLocation
  | objectRecordLogicalKeyNonempty
  | objectRecordSizeBytes
  | objectLocationKey
  | objectLocationOrganization
  | objectLocationObjectRecord
  | objectLocationBucketConnection
  | objectLocationActiveVerified
  | usageCounterNamespaceKey
  | usageCounterOrganization
  | usageCounterNamespace
  | usageCounterNonnegative
  | uploadSessionIdempotencyKey
  | uploadSessionOrganization
  | uploadSessionNamespace
  | uploadSessionPlacementTarget
  | uploadSessionBucketConnection
  | uploadSessionCreatedByCredential
  | uploadSessionNonempty
  | multipartPartNumber
  | multipartPartOrganization
  | multipartPartUploadSession
  | multipartPartValues
  | migrationRunActiveNamespace
  | migrationRunOrganization
  | migrationRunNamespace
  | migrationRunSourceBucketConnection
  | migrationRunTargetBucketConnection
  | migrationRunInitiatedBy
  | migrationItemObjectRecordKey
  | migrationItemOrganization
  | migrationItemMigrationRun
  | migrationItemObjectRecord
  | activityLogOrganization
  | activityLogActor
  deriving DecidableEq

namespace Constraint

/-- What a constraint says about the database. -/
@[reducible]
def Holds (db : Db) : Constraint → Prop
  | .roleOrganization => References db.role Role.organizationId db.organization Organization.id
  | .roleScopeOrganization =>
      Checked db.role fun row => row.organizationId.isSome == (row.scope == .organization)
  | .providerConnectionOrganization =>
      References db.providerConnection (fun row => some row.organizationId)
        db.organization Organization.id
  | .providerCredentialProvider =>
      Unique db.providerCredential fun row => some row.providerConnectionId
  | .providerCredentialProviderConnection =>
      References db.providerCredential (fun row => some row.providerConnectionId)
        db.providerConnection ProviderConnection.id
  | .bucketConnectionName =>
      Unique db.bucketConnection fun row => some (row.providerConnectionId, row.bucketName)
  | .bucketConnectionOrganization =>
      References db.bucketConnection (fun row => some row.organizationId)
        db.organization Organization.id
  | .bucketConnectionProviderConnection =>
      References db.bucketConnection
        (fun row => some (row.providerConnectionId, row.organizationId))
        db.providerConnection fun row => (row.id, row.organizationId)
  | .virtualNamespaceSlug =>
      Unique db.virtualNamespace fun row => some (row.organizationId, row.slug)
  | .virtualNamespaceOrganization =>
      References db.virtualNamespace (fun row => some row.organizationId)
        db.organization Organization.id
  | .virtualNamespaceQuotaBytes =>
      Checked db.virtualNamespace fun row => decide (0 ≤ row.quotaBytes)
  | .virtualNamespaceMaxObjectSizeBytes =>
      Checked db.virtualNamespace fun row => row.maxObjectSizeBytes.all (0 ≤ ·)
  | .placementPolicyNamespaceKey => Unique db.placementPolicy fun row => some row.namespaceId
  | .placementPolicyNamespace =>
      References db.placementPolicy (fun row => some (row.namespaceId, row.organizationId))
        db.virtualNamespace fun row => (row.id, row.organizationId)
  | .placementTargetBucket =>
      Unique db.placementTarget fun row => some (row.policyId, row.bucketConnectionId)
  | .placementTargetPolicy =>
      References db.placementTarget (fun row => some (row.policyId, row.organizationId))
        db.placementPolicy fun row => (row.id, row.organizationId)
  | .placementTargetBucketConnection =>
      References db.placementTarget (fun row => some (row.bucketConnectionId, row.organizationId))
        db.bucketConnection fun row => (row.id, row.organizationId)
  | .placementTargetRanges =>
      Checked db.placementTarget fun row =>
        decide (0 ≤ row.priorityTier ∧ 0 < row.weight ∧ 0 ≤ row.thresholdPercent ∧
          row.thresholdPercent ≤ 100) && row.configuredCapacityBytes.all (0 ≤ ·)
  | .apiCredentialOrganization =>
      References db.apiCredential (fun row => some row.organizationId)
        db.organization Organization.id
  | .apiCredentialNamespace =>
      References db.apiCredential (fun row => some (row.namespaceId, row.organizationId))
        db.virtualNamespace fun row => (row.id, row.organizationId)
  | .folderGrantPrincipalPrefix =>
      Unique db.folderGrant fun row =>
        some (row.organizationId, row.namespaceId, row.principalType, row.principalId,
          row.folderPrefix)
  | .folderGrantOrganization =>
      References db.folderGrant (fun row => some row.organizationId) db.organization Organization.id
  | .folderGrantNamespace =>
      References db.folderGrant (fun row => some (row.namespaceId, row.organizationId))
        db.virtualNamespace fun row => (row.id, row.organizationId)
  | .folderGrantCreatedBy =>
      References db.folderGrant (fun row => some row.createdById) db.user User.id
  | .folderGrantActions => Checked db.folderGrant fun row => !row.actions.isEmpty
  | .objectRecordLogicalKey =>
      Unique db.objectRecord fun row => some (row.namespaceId, row.logicalKey)
  | .objectRecordActiveObjectLocationKey =>
      Unique db.objectRecord ObjectRecord.activeObjectLocationId
  | .objectRecordOrganization =>
      References db.objectRecord (fun row => some row.organizationId)
        db.organization Organization.id
  | .objectRecordNamespace =>
      References db.objectRecord (fun row => some (row.namespaceId, row.organizationId))
        db.virtualNamespace fun row => (row.id, row.organizationId)
  | .objectRecordActiveObjectLocation =>
      References db.objectRecord ObjectRecord.activeObjectLocationId
        db.objectLocation ObjectLocation.id
  | .objectRecordLogicalKeyNonempty => Checked db.objectRecord fun row => row.logicalKey != ""
  | .objectRecordSizeBytes => Checked db.objectRecord fun row => decide (0 ≤ row.sizeBytes)
  | .objectLocationKey =>
      Unique db.objectLocation fun row =>
        some (row.objectRecordId, row.bucketConnectionId, row.physicalKey)
  | .objectLocationOrganization =>
      References db.objectLocation (fun row => some row.organizationId)
        db.organization Organization.id
  | .objectLocationObjectRecord =>
      References db.objectLocation (fun row => some (row.objectRecordId, row.organizationId))
        db.objectRecord fun row => (row.id, row.organizationId)
  | .objectLocationBucketConnection =>
      References db.objectLocation (fun row => some (row.bucketConnectionId, row.organizationId))
        db.bucketConnection fun row => (row.id, row.organizationId)
  | .objectLocationActiveVerified =>
      Checked db.objectLocation fun row => row.state != .active || row.verifiedAt.isSome
  | .usageCounterNamespaceKey =>
      Unique db.usageCounter fun row => some (row.organizationId, row.namespaceId)
  | .usageCounterOrganization =>
      References db.usageCounter (fun row => some row.organizationId)
        db.organization Organization.id
  | .usageCounterNamespace =>
      References db.usageCounter (fun row => some (row.namespaceId, row.organizationId))
        db.virtualNamespace fun row => (row.id, row.organizationId)
  | .usageCounterNonnegative =>
      Checked db.usageCounter fun row =>
        decide (0 ≤ row.usedBytes ∧ 0 ≤ row.reservedBytes ∧ 0 ≤ row.objectCount ∧
          0 ≤ row.activeUploadCount ∧ 0 ≤ row.requestCount ∧ 0 ≤ row.ingressBytes ∧
          0 ≤ row.egressBytes)
  | .uploadSessionIdempotencyKey =>
      Unique db.uploadSession fun row =>
        some (row.organizationId, row.namespaceId, row.idempotencyKey)
  | .uploadSessionOrganization =>
      References db.uploadSession (fun row => some row.organizationId)
        db.organization Organization.id
  | .uploadSessionNamespace =>
      References db.uploadSession (fun row => some (row.namespaceId, row.organizationId))
        db.virtualNamespace fun row => (row.id, row.organizationId)
  | .uploadSessionPlacementTarget =>
      References db.uploadSession (fun row => some (row.placementTargetId, row.organizationId))
        db.placementTarget fun row => (row.id, row.organizationId)
  | .uploadSessionBucketConnection =>
      References db.uploadSession (fun row => some (row.bucketConnectionId, row.organizationId))
        db.bucketConnection fun row => (row.id, row.organizationId)
  | .uploadSessionCreatedByCredential =>
      References db.uploadSession (fun row => some (row.createdByCredentialId, row.organizationId))
        db.apiCredential fun row => (row.id, row.organizationId)
  | .uploadSessionNonempty =>
      Checked db.uploadSession fun row =>
        row.idempotencyKey != "" && row.logicalKey != "" && decide (0 ≤ row.reservedBytes)
  | .multipartPartNumber =>
      Unique db.multipartPart fun row => some (row.uploadSessionId, row.partNumber)
  | .multipartPartOrganization =>
      References db.multipartPart (fun row => some row.organizationId)
        db.organization Organization.id
  | .multipartPartUploadSession =>
      References db.multipartPart (fun row => some (row.uploadSessionId, row.organizationId))
        db.uploadSession fun row => (row.id, row.organizationId)
  | .multipartPartValues =>
      Checked db.multipartPart fun row =>
        decide (1 ≤ row.partNumber ∧ row.partNumber ≤ 10000) && row.sizeBytes.all (0 ≤ ·)
  | .migrationRunActiveNamespace =>
      Unique db.migrationRun fun row =>
        if row.state = .created ∨ row.state = .running ∨ row.state = .paused then some
          (row.organizationId, row.namespaceId) else none
  | .migrationRunOrganization =>
      References db.migrationRun (fun row => some row.organizationId)
        db.organization Organization.id
  | .migrationRunNamespace =>
      References db.migrationRun (fun row => some (row.namespaceId, row.organizationId))
        db.virtualNamespace fun row => (row.id, row.organizationId)
  | .migrationRunSourceBucketConnection =>
      References db.migrationRun
        (fun row => some (row.sourceBucketConnectionId, row.organizationId))
        db.bucketConnection fun row => (row.id, row.organizationId)
  | .migrationRunTargetBucketConnection =>
      References db.migrationRun
        (fun row => some (row.targetBucketConnectionId, row.organizationId))
        db.bucketConnection fun row => (row.id, row.organizationId)
  | .migrationRunInitiatedBy =>
      References db.migrationRun (fun row => some row.initiatedById) db.user User.id
  | .migrationItemObjectRecordKey =>
      Unique db.migrationItem fun row => some (row.migrationRunId, row.objectRecordId)
  | .migrationItemOrganization =>
      References db.migrationItem (fun row => some row.organizationId)
        db.organization Organization.id
  | .migrationItemMigrationRun =>
      References db.migrationItem (fun row => some (row.migrationRunId, row.organizationId))
        db.migrationRun fun row => (row.id, row.organizationId)
  | .migrationItemObjectRecord =>
      References db.migrationItem (fun row => some (row.objectRecordId, row.organizationId))
        db.objectRecord fun row => (row.id, row.organizationId)
  | .activityLogOrganization =>
      References db.activityLog ActivityLog.organizationId db.organization Organization.id
  | .activityLogActor => References db.activityLog ActivityLog.actorId db.user User.id

instance (db : Db) (constraint : Constraint) : Decidable (constraint.Holds db) := by
  cases constraint <;> infer_instance

/-- The error that the client reports for a violation. -/
def failure : Constraint → Failure
  | .providerCredentialProvider | .bucketConnectionName | .virtualNamespaceSlug
  | .placementPolicyNamespaceKey | .placementTargetBucket | .folderGrantPrincipalPrefix
  | .objectRecordLogicalKey | .objectRecordActiveObjectLocationKey | .objectLocationKey
  | .usageCounterNamespaceKey | .uploadSessionIdempotencyKey | .multipartPartNumber
  | .migrationRunActiveNamespace | .migrationItemObjectRecordKey =>
      .uniqueConstraint "Unique constraint failed"
  | .roleOrganization | .providerConnectionOrganization | .providerCredentialProviderConnection
  | .bucketConnectionOrganization | .bucketConnectionProviderConnection
  | .virtualNamespaceOrganization | .placementPolicyNamespace | .placementTargetPolicy
  | .placementTargetBucketConnection | .apiCredentialOrganization | .apiCredentialNamespace
  | .folderGrantOrganization | .folderGrantNamespace | .folderGrantCreatedBy
  | .objectRecordOrganization | .objectRecordNamespace | .objectRecordActiveObjectLocation
  | .objectLocationOrganization | .objectLocationObjectRecord | .objectLocationBucketConnection
  | .usageCounterOrganization | .usageCounterNamespace | .uploadSessionOrganization
  | .uploadSessionNamespace | .uploadSessionPlacementTarget | .uploadSessionBucketConnection
  | .uploadSessionCreatedByCredential | .multipartPartOrganization
  | .multipartPartUploadSession | .migrationRunOrganization | .migrationRunNamespace
  | .migrationRunSourceBucketConnection | .migrationRunTargetBucketConnection
  | .migrationRunInitiatedBy | .migrationItemOrganization | .migrationItemMigrationRun
  | .migrationItemObjectRecord | .activityLogOrganization | .activityLogActor =>
      .foreignKeyConstraint "Foreign key constraint violated"
  | _ => .checkConstraint "Check constraint violated"

def all : List Constraint :=
  [.roleOrganization, .roleScopeOrganization, .providerConnectionOrganization,
    .providerCredentialProvider, .providerCredentialProviderConnection, .bucketConnectionName,
    .bucketConnectionOrganization, .bucketConnectionProviderConnection, .virtualNamespaceSlug,
    .virtualNamespaceOrganization, .virtualNamespaceQuotaBytes,
    .virtualNamespaceMaxObjectSizeBytes, .placementPolicyNamespaceKey,
    .placementPolicyNamespace, .placementTargetBucket, .placementTargetPolicy,
    .placementTargetBucketConnection, .placementTargetRanges, .apiCredentialOrganization,
    .apiCredentialNamespace, .folderGrantPrincipalPrefix, .folderGrantOrganization,
    .folderGrantNamespace, .folderGrantCreatedBy, .folderGrantActions, .objectRecordLogicalKey,
    .objectRecordActiveObjectLocationKey, .objectRecordOrganization, .objectRecordNamespace,
    .objectRecordActiveObjectLocation, .objectRecordLogicalKeyNonempty, .objectRecordSizeBytes,
    .objectLocationKey, .objectLocationOrganization, .objectLocationObjectRecord,
    .objectLocationBucketConnection, .objectLocationActiveVerified, .usageCounterNamespaceKey,
    .usageCounterOrganization, .usageCounterNamespace, .usageCounterNonnegative,
    .uploadSessionIdempotencyKey, .uploadSessionOrganization, .uploadSessionNamespace,
    .uploadSessionPlacementTarget, .uploadSessionBucketConnection,
    .uploadSessionCreatedByCredential, .uploadSessionNonempty, .multipartPartNumber,
    .multipartPartOrganization, .multipartPartUploadSession, .multipartPartValues,
    .migrationRunActiveNamespace, .migrationRunOrganization, .migrationRunNamespace,
    .migrationRunSourceBucketConnection, .migrationRunTargetBucketConnection,
    .migrationRunInitiatedBy, .migrationItemObjectRecordKey, .migrationItemOrganization,
    .migrationItemMigrationRun, .migrationItemObjectRecord, .activityLogOrganization,
    .activityLogActor]

theorem mem_all (constraint : Constraint) : constraint ∈ all := by
  cases constraint <;> decide

end Constraint

/-- A database in which every constraint holds. -/
def Valid (db : Db) : Prop :=
  ∀ constraint : Constraint, constraint.Holds db

/-- The error of a violated constraint, if there is one. -/
def violation (db : Db) : Option Failure :=
  (Constraint.all.find? fun constraint => !decide (constraint.Holds db)).map Constraint.failure

theorem violation_eq_none {db : Db} : violation db = none ↔ Valid db :=
  violated_eq_none Constraint.mem_all

namespace Valid

variable {db : Db}

/-! ## What a written row has to meet -/

theorem put_uploadSession (valid : Valid db) {row : UploadSession}
    (idempotency : ∀ other ∈ db.uploadSession, other.organizationId = row.organizationId →
      other.namespaceId = row.namespaceId → other.idempotencyKey = row.idempotencyKey →
      other.id = row.id)
    (organization : ∃ other ∈ db.organization, other.id = row.organizationId)
    (namespace_ : ∃ other ∈ db.virtualNamespace,
      (other.id, other.organizationId) = (row.namespaceId, row.organizationId))
    (target : ∃ other ∈ db.placementTarget,
      (other.id, other.organizationId) = (row.placementTargetId, row.organizationId))
    (bucket : ∃ other ∈ db.bucketConnection,
      (other.id, other.organizationId) = (row.bucketConnectionId, row.organizationId))
    (credential : ∃ other ∈ db.apiCredential,
      (other.id, other.organizationId) = (row.createdByCredentialId, row.organizationId))
    (nonempty : row.idempotencyKey ≠ "" ∧ row.logicalKey ≠ "" ∧ 0 ≤ row.reservedBytes)
    (kept : ∀ old ∈ db.uploadSession, old.id = row.id → old.organizationId = row.organizationId) :
    Valid (db.write (.uploadSession row)) := by
  intro constraint
  have before := valid constraint
  cases constraint
  case uploadSessionIdempotencyKey =>
    refine Unique.put before ?_
    intro other otherMem _ same
    simp only [Option.some.injEq, Prod.mk.injEq] at same
    exact idempotency other otherMem same.1 same.2.1 same.2.2
  case uploadSessionOrganization =>
    exact References.put before (by rintro _ ⟨⟩; exact organization)
  case uploadSessionNamespace =>
    exact References.put before (by rintro _ ⟨⟩; exact namespace_)
  case uploadSessionPlacementTarget =>
    exact References.put before (by rintro _ ⟨⟩; exact target)
  case uploadSessionBucketConnection =>
    exact References.put before (by rintro _ ⟨⟩; exact bucket)
  case uploadSessionCreatedByCredential =>
    exact References.put before
      (by rintro _ ⟨⟩; exact credential)
  case uploadSessionNonempty =>
    exact Checked.put before (by simp [nonempty])
  case multipartPartUploadSession =>
    refine References.put_referenced before ?_
    intro old oldMem sameId
    exact Prod.ext sameId (kept old oldMem sameId)
  all_goals exact before

/-- A session may change its progress. -/
theorem update_uploadSession (valid : Valid db) {old : UploadSession} (row : UploadSession)
    (oldMem : old ∈ db.uploadSession)
    (same : row = { old with
      providerUploadFinalized := row.providerUploadFinalized
      state := row.state
      completedAt := row.completedAt
      updatedAt := row.updatedAt }) :
    Valid (db.write (.uploadSession row)) := by
  have idempotency := valid .uploadSessionIdempotencyKey
  have nonempty := valid .uploadSessionNonempty old oldMem
  simp only [Bool.and_eq_true, bne_iff_ne, decide_eq_true_eq] at nonempty
  rw [same]
  refine valid.put_uploadSession ?_ (valid .uploadSessionOrganization old oldMem _ rfl)
    (valid .uploadSessionNamespace old oldMem _ rfl)
    (valid .uploadSessionPlacementTarget old oldMem _ rfl)
    (valid .uploadSessionBucketConnection old oldMem _ rfl)
    (valid .uploadSessionCreatedByCredential old oldMem _ rfl)
    ⟨nonempty.1.1, nonempty.1.2, nonempty.2⟩ ?_
  · intro other otherMem organizationEq namespaceEq keyEq
    exact idempotency other otherMem old oldMem (by simp)
      (by simp only [organizationEq, namespaceEq, keyEq])
  · intro other otherMem sameId
    rw [Table.eq_of_id_eq otherMem oldMem sameId]

theorem put_objectRecord (valid : Valid db) {row : ObjectRecord}
    (logicalKey : ∀ other ∈ db.objectRecord, other.namespaceId = row.namespaceId →
      other.logicalKey = row.logicalKey → other.id = row.id)
    (pointerKey : ∀ other ∈ db.objectRecord, row.activeObjectLocationId ≠ none →
      other.activeObjectLocationId = row.activeObjectLocationId → other.id = row.id)
    (organization : ∃ other ∈ db.organization, other.id = row.organizationId)
    (namespace_ : ∃ other ∈ db.virtualNamespace,
      (other.id, other.organizationId) = (row.namespaceId, row.organizationId))
    (pointer : ∀ locationId ∈ row.activeObjectLocationId,
      ∃ other ∈ db.objectLocation, other.id = locationId)
    (checks : row.logicalKey ≠ "" ∧ 0 ≤ row.sizeBytes)
    (kept : ∀ old ∈ db.objectRecord, old.id = row.id → old.organizationId = row.organizationId) :
    Valid (db.write (.objectRecord row)) := by
  have tenantKept : ∀ old ∈ db.objectRecord, Row.id old = Row.id row →
      (old.id, old.organizationId) = (row.id, row.organizationId) :=
    fun old oldMem sameId => Prod.ext sameId (kept old oldMem sameId)
  intro constraint
  have before := valid constraint
  cases constraint
  case objectRecordLogicalKey =>
    refine Unique.put before ?_
    intro other otherMem _ same
    simp only [Option.some.injEq, Prod.mk.injEq] at same
    exact logicalKey other otherMem same.1 same.2
  case objectRecordActiveObjectLocationKey =>
    exact Unique.put before pointerKey
  case objectRecordOrganization =>
    exact References.put before (by rintro _ ⟨⟩; exact organization)
  case objectRecordNamespace =>
    exact References.put before (by rintro _ ⟨⟩; exact namespace_)
  case objectRecordActiveObjectLocation =>
    exact References.put before pointer
  case objectRecordLogicalKeyNonempty =>
    exact Checked.put before (by simp [checks])
  case objectRecordSizeBytes =>
    exact Checked.put before (by simp [checks])
  case objectLocationObjectRecord =>
    exact References.put_referenced before tenantKept
  case migrationItemObjectRecord =>
    exact References.put_referenced before tenantKept
  all_goals exact before

theorem put_objectLocation (valid : Valid db) {row : ObjectLocation}
    (key : ∀ other ∈ db.objectLocation, other.objectRecordId = row.objectRecordId →
      other.bucketConnectionId = row.bucketConnectionId → other.physicalKey = row.physicalKey →
      other.id = row.id)
    (organization : ∃ other ∈ db.organization, other.id = row.organizationId)
    (record : ∃ other ∈ db.objectRecord,
      (other.id, other.organizationId) = (row.objectRecordId, row.organizationId))
    (bucket : ∃ other ∈ db.bucketConnection,
      (other.id, other.organizationId) = (row.bucketConnectionId, row.organizationId))
    (verified : row.state = .active → row.verifiedAt ≠ none) :
    Valid (db.write (.objectLocation row)) := by
  intro constraint
  have before := valid constraint
  cases constraint
  case objectLocationKey =>
    refine Unique.put before ?_
    intro other otherMem _ same
    simp only [Option.some.injEq, Prod.mk.injEq] at same
    exact key other otherMem same.1 same.2.1 same.2.2
  case objectLocationOrganization =>
    exact References.put before (by rintro _ ⟨⟩; exact organization)
  case objectLocationObjectRecord =>
    exact References.put before (by rintro _ ⟨⟩; exact record)
  case objectLocationBucketConnection =>
    exact References.put before (by rintro _ ⟨⟩; exact bucket)
  case objectLocationActiveVerified =>
    refine Checked.put before ?_
    by_cases active : row.state = .active
    · simpa [active] using Option.isSome_iff_ne_none.mpr (verified active)
    · simp [active]
  case objectRecordActiveObjectLocation =>
    exact References.put_referenced before
      fun _ _ sameId => sameId
  all_goals exact before

theorem put_usageCounter (valid : Valid db) {row : UsageCounter}
    (key : ∀ other ∈ db.usageCounter, other.organizationId = row.organizationId →
      other.namespaceId = row.namespaceId → other.id = row.id)
    (organization : ∃ other ∈ db.organization, other.id = row.organizationId)
    (namespace_ : ∃ other ∈ db.virtualNamespace,
      (other.id, other.organizationId) = (row.namespaceId, row.organizationId))
    (nonnegative : 0 ≤ row.usedBytes ∧ 0 ≤ row.reservedBytes ∧ 0 ≤ row.objectCount ∧
      0 ≤ row.activeUploadCount ∧ 0 ≤ row.requestCount ∧ 0 ≤ row.ingressBytes ∧
      0 ≤ row.egressBytes) :
    Valid (db.write (.usageCounter row)) := by
  intro constraint
  have before := valid constraint
  cases constraint
  case usageCounterNamespaceKey =>
    refine Unique.put before ?_
    intro other otherMem _ same
    simp only [Option.some.injEq, Prod.mk.injEq] at same
    exact key other otherMem same.1 same.2
  case usageCounterOrganization =>
    exact References.put before (by rintro _ ⟨⟩; exact organization)
  case usageCounterNamespace =>
    exact References.put before (by rintro _ ⟨⟩; exact namespace_)
  case usageCounterNonnegative =>
    exact Checked.put before (by simpa using nonnegative)
  all_goals exact before

theorem put_multipartPart (valid : Valid db) {row : MultipartPart}
    (number : ∀ other ∈ db.multipartPart, other.uploadSessionId = row.uploadSessionId →
      other.partNumber = row.partNumber → other.id = row.id)
    (organization : ∃ other ∈ db.organization, other.id = row.organizationId)
    (session : ∃ other ∈ db.uploadSession,
      (other.id, other.organizationId) = (row.uploadSessionId, row.organizationId))
    (values : 1 ≤ row.partNumber ∧ row.partNumber ≤ 10000)
    (size : ∀ sizeBytes ∈ row.sizeBytes, 0 ≤ sizeBytes) :
    Valid (db.write (.multipartPart row)) := by
  intro constraint
  have before := valid constraint
  cases constraint
  case multipartPartNumber =>
    refine Unique.put before ?_
    intro other otherMem _ same
    simp only [Option.some.injEq, Prod.mk.injEq] at same
    exact number other otherMem same.1 same.2
  case multipartPartOrganization =>
    exact References.put before (by rintro _ ⟨⟩; exact organization)
  case multipartPartUploadSession =>
    exact References.put before (by rintro _ ⟨⟩; exact session)
  case multipartPartValues =>
    refine Checked.put before ?_
    simp only [values, and_self, decide_true, Bool.true_and, Option.all_eq_true,
      decide_eq_true_eq]
    exact size
  all_goals exact before

end Valid

end Mosp.Database
