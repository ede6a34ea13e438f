import Mosp.Data.Batch
import Mosp.Policies.Namespaces

/-!
# What the statements of an update do

One specification for each part of the transaction.  The constraints hold after
every statement, except after the targets of a policy were deleted while an
upload session refers to one of them.
-/

namespace Mosp.Policies

open Mosp.Concurrency Mosp.Data Mosp.Sql Mosp.Policies.NamespaceService
open Mosp.Database (Id Time BucketConnection UploadSession)

/-- The constraints hold, and identifiers that are handed out later are new. -/
structure Settled (state : State Db) : Prop where
  valid : Valid state.db
  policies : ∀ row ∈ state.db.placementPolicy, row.id < state.nextId
  targets : ∀ row ∈ state.db.placementTarget, row.id < state.nextId
  activities : ∀ row ∈ state.db.activityLog, row.id < state.nextId

instance (db : Db) : Decidable (Valid db) :=
  decidable_of_iff _ violation_eq_none

/-- The targets of a namespace's policy. -/
def policyTargets (db : Db) (organizationId namespaceId : Id) : List PlacementTarget :=
  db.placementTarget.filter fun target => db.placementPolicy.rows.any fun policy =>
    policy.id == target.policyId && policy.namespaceId == namespaceId &&
      policy.organizationId == organizationId

theorem mem_policyTargets {db : Db} {organizationId namespaceId : Id} {target : PlacementTarget} :
    target ∈ policyTargets db organizationId namespaceId ↔
      target ∈ db.placementTarget ∧ ∃ policy ∈ db.placementPolicy,
        policy.id = target.policyId ∧ policy.namespaceId = namespaceId ∧
          policy.organizationId = organizationId := by
  simp [policyTargets, Table.mem_filter, Table.mem_rows, and_assoc]

/-! ## Constraints after a write -/

section

variable {db : Db}

theorem Valid.activityLog (valid : Valid db) (row : ActivityLog) :
    Valid (db.write (.activityLog row)) := by
  intro constraint
  have held := valid constraint
  cases constraint <;> exact held

/-- Writing over a policy without changing what it belongs to. -/
theorem Valid.updatePolicy (valid : Valid db) {row old : PlacementPolicy}
    (member : old ∈ db.placementPolicy) (sameId : old.id = row.id)
    (sameNamespace : old.namespaceId = row.namespaceId)
    (sameOrganization : old.organizationId = row.organizationId) :
    Valid (db.write (.placementPolicy row)) := by
  intro constraint
  have held := valid constraint
  cases constraint with
  | placementPolicyNamespace =>
      exact Unique.put_same held member sameId (by rw [sameNamespace])
  | placementPolicyNamespaceReference =>
      exact References.put_same held member
        (by rw [sameNamespace, sameOrganization])
  | placementTargetPolicyReference =>
      apply References.put_referenced held
      intro other otherMem otherId
      rw [Table.eq_of_id_eq otherMem member (otherId.trans sameId.symm), sameId, sameOrganization]
  | _ => exact held

/-- A policy for a namespace that has none. -/
theorem Valid.createPolicy (valid : Valid db) {row : PlacementPolicy}
    (fresh : ∀ other ∈ db.placementPolicy, other.id ≠ row.id)
    (none_ : ∀ other ∈ db.placementPolicy, other.namespaceId ≠ row.namespaceId)
    (found : ∃ other ∈ db.virtualNamespace,
      other.id = row.namespaceId ∧ other.organizationId = row.organizationId) :
    Valid (db.write (.placementPolicy row)) := by
  intro constraint
  have held := valid constraint
  cases constraint with
  | placementPolicyNamespace =>
      apply Unique.put held
      intro other otherMem _ same
      exact absurd (Option.some.inj same) (none_ other otherMem)
  | placementPolicyNamespaceReference =>
      apply References.put held
      intro value columns
      obtain rfl := Option.some.inj columns
      obtain ⟨other, member, id, organization⟩ := found
      exact ⟨other, member, by rw [id, organization]⟩
  | placementTargetPolicyReference =>
      apply References.put_referenced held
      exact fun other otherMem sameId => absurd sameId (fresh other otherMem)
  | _ => exact held

/-- Another table of targets. -/
theorem Valid.targets (valid : Valid db) {table : Table PlacementTarget}
    (key : Unique table fun row => some (row.policyId, row.bucketConnectionId))
    (policies : ∀ row ∈ table, ∃ policy ∈ db.placementPolicy,
      policy.id = row.policyId ∧ policy.organizationId = row.organizationId)
    (buckets : ∀ row ∈ table, ∃ bucket ∈ db.bucketConnection,
      bucket.id = row.bucketConnectionId ∧ bucket.organizationId = row.organizationId)
    (sessions : ∀ session ∈ db.uploadSession, ∃ row ∈ table,
      row.id = session.placementTargetId ∧ row.organizationId = session.organizationId)
    (checks : ∀ row ∈ table, admitted row.toTargetConfiguration = true) :
    Valid { db with placementTarget := table } := by
  intro constraint
  have held := valid constraint
  cases constraint with
  | placementTargetKey => exact key
  | placementTargetPolicyReference =>
      intro row member value columns
      obtain rfl := Option.some.inj columns
      obtain ⟨policy, found, id, organization⟩ := policies row member
      exact ⟨policy, found, Prod.ext id organization⟩
  | placementTargetBucketReference =>
      intro row member value columns
      obtain rfl := Option.some.inj columns
      obtain ⟨bucket, found, id, organization⟩ := buckets row member
      exact ⟨bucket, found, Prod.ext id organization⟩
  | uploadSessionTargetReference =>
      intro session member value columns
      obtain rfl := Option.some.inj columns
      obtain ⟨row, found, id, organization⟩ := sessions session member
      exact ⟨row, found, Prod.ext id organization⟩
  | placementTargetChecks => exact checks
  | _ => exact held

/-! What the constraints say about a target and a session. -/

variable {target : PlacementTarget} {session : UploadSession}

theorem Valid.policy_of_target (valid : Valid db) (member : target ∈ db.placementTarget) :
    ∃ policy ∈ db.placementPolicy,
      policy.id = target.policyId ∧ policy.organizationId = target.organizationId := by
  obtain ⟨policy, found, same⟩ := valid .placementTargetPolicyReference target member _ rfl
  exact ⟨policy, found, (Prod.mk.inj same).1, (Prod.mk.inj same).2⟩

theorem Valid.bucket_of_target (valid : Valid db) (member : target ∈ db.placementTarget) :
    ∃ bucket ∈ db.bucketConnection,
      bucket.id = target.bucketConnectionId ∧ bucket.organizationId = target.organizationId := by
  obtain ⟨bucket, found, same⟩ := valid .placementTargetBucketReference target member _ rfl
  exact ⟨bucket, found, (Prod.mk.inj same).1, (Prod.mk.inj same).2⟩

/-- A policy is of the same organization as its namespace. -/
theorem Valid.organization_of_policy (valid : Valid db) {policy : PlacementPolicy}
    {namespaceId organizationId : Id} (member : policy ∈ db.placementPolicy)
    (found : ∃ row ∈ db.virtualNamespace, row.id = namespaceId ∧ row.organizationId = organizationId)
    (sameNamespace : policy.namespaceId = namespaceId) : policy.organizationId = organizationId := by
  obtain ⟨owner, ownerMem, same⟩ := valid .placementPolicyNamespaceReference policy member _ rfl
  obtain ⟨row, rowMem, rowId, rfl⟩ := found
  have sameRow : owner = row := Table.eq_of_id_eq ownerMem rowMem
    ((Prod.mk.inj same).1.trans (sameNamespace.trans rowId.symm))
  exact (Prod.mk.inj same).2.symm.trans (sameRow ▸ rfl)

theorem Valid.target_of_session (valid : Valid db) (member : session ∈ db.uploadSession) :
    ∃ row ∈ db.placementTarget,
      row.id = session.placementTargetId ∧ row.organizationId = session.organizationId := by
  obtain ⟨row, found, same⟩ := valid .uploadSessionTargetReference session member _ rfl
  exact ⟨row, found, (Prod.mk.inj same).1, (Prod.mk.inj same).2⟩

end

/-! ## The parts of the transaction -/

section

variable {time : Time} {state : State Db} {organizationId namespaceId policyId : Id}
  {input : PlacementPolicyUpdateRequest} {throws : Failure → Prop}

/-- A bucket of the organization. -/
def HasBucket (db : Db) (organizationId id : Id) : Prop :=
  ∃ bucket ∈ db.bucketConnection, bucket.id = id ∧ bucket.organizationId = organizationId

theorem wp_checkBuckets {ids : List Id} {returns : Unit → State Db → Prop} (nodup : ids.Nodup)
    (known : (∀ id ∈ ids, HasBucket state.db organizationId id) → returns () state)
    (unknown : ¬(∀ id ∈ ids, HasBucket state.db organizationId id) →
      throws .placementBucketNotFound) :
    Tx.wp violation time (checkBuckets organizationId ids) returns throws state := by
  have found : (state.db.bucketConnection.filter fun row =>
      row.organizationId == organizationId && ids.contains row.id).length = ids.length ↔
      ∀ id ∈ ids, HasBucket state.db organizationId id := by
    apply (Table.length_filter_ids nodup).trans
    simp only [HasBucket, beq_iff_eq, rowId_bucketConnection]
  simp only [checkBuckets, Program.bind_eq, Tx.wp_runIf, Tx.wp_bind, Tx.wp_findMany, Option.elim,
    Tx.wp_throwIf, Relation.select, List.length_insertionSort, bucketConnection_table]
  constructor
  · intro _
    exact ⟨fun differ => unknown fun all => differ (found.mpr all),
      fun same => known (found.mp (not_not.mp same))⟩
  · intro empty
    apply known
    intro id listed
    rw [List.length_eq_zero_iff.mp (Nat.eq_zero_of_not_pos empty)] at listed
    exact absurd listed List.not_mem_nil

/-- What `ensurePolicy` leaves behind when it has found or created the policy. -/
structure Ensured (organizationId namespaceId policyId : Id) (before after : State Db) : Prop where
  settled : Settled after
  later : before.nextId ≤ after.nextId
  others : after.db = { before.db with placementPolicy := after.db.placementPolicy }
  policy : ∃ row ∈ after.db.placementPolicy,
    row.id = policyId ∧ row.namespaceId = namespaceId ∧ row.organizationId = organizationId
  targets : ∀ target ∈ before.db.placementTarget,
    target.policyId = policyId ↔ target ∈ policyTargets before.db organizationId namespaceId

/-- The targets of the namespace's policy are those that name it. -/
theorem names_policy_iff (valid : Valid state.db) {policy : PlacementPolicy}
    (member : policy ∈ state.db.placementPolicy) (own : policy.namespaceId = namespaceId)
    (organization : policy.organizationId = organizationId) {target : PlacementTarget}
    (targetMem : target ∈ state.db.placementTarget) :
    target.policyId = policy.id ↔ target ∈ policyTargets state.db organizationId namespaceId := by
  rw [mem_policyTargets]
  constructor
  · intro named
    exact ⟨targetMem, policy, member, named.symm, own, organization⟩
  · rintro ⟨_, other, otherMem, named, sameNamespace, _⟩
    rw [← named]
    exact valid .placementPolicyNamespace other otherMem policy member nofun
      (congrArg some (sameNamespace.trans own.symm))

theorem Settled.issue (settled : Settled state) : Settled state.issue where
  valid := settled.valid
  policies row member := Nat.lt_succ_of_lt (settled.policies row member)
  targets row member := Nat.lt_succ_of_lt (settled.targets row member)
  activities row member := Nat.lt_succ_of_lt (settled.activities row member)

theorem wp_ensurePolicy {appendTarget : Bool} {returns : Id → State Db → Prop} (settled : Settled state)
    (found : ∃ row ∈ state.db.virtualNamespace,
      row.id = namespaceId ∧ row.organizationId = organizationId)
    (goes : ∀ policyId after, Ensured organizationId namespaceId policyId state after →
      returns policyId after) :
    Tx.wp violation time (ensurePolicy organizationId namespaceId input appendTarget) returns throws
      state := by
  simp only [ensurePolicy, Program.bind_eq, Program.pure_eq, Tx.wp_bind, Tx.wp_findFirst,
    placementPolicy_toRelation_table]
  cases stored : state.db.placementPolicy.find? fun row =>
      row.namespaceId == namespaceId && row.organizationId == organizationId with
  | none =>
      simp only [Tx.wp_bind, Tx.wp_randomUUID, Tx.wp_pure]
      have absent : ∀ other ∈ state.db.placementPolicy, other.namespaceId ≠ namespaceId := by
        intro other member sameNamespace
        have unlike := Table.find?_none.mp stored other member
        simp only [sameNamespace, beq_self_eq_true, Bool.true_and, beq_eq_false_iff_ne] at unlike
        exact unlike (settled.valid.organization_of_policy member found sameNamespace)
      have fresh : ∀ other ∈ state.db.placementPolicy, other.id ≠ state.nextId := fun other member =>
        Nat.ne_of_lt (settled.policies other member)
      apply Tx.wp_create_new fresh
      have valid : Valid (state.db.write (.placementPolicy (placementPolicy.created time
          { id := state.nextId, namespaceId, organizationId, strategy := input.strategy
            status := input.status }))) :=
        settled.valid.createPolicy fresh absent found
      apply Tx.Written.of_valid
      · exact violation_eq_none.mpr valid
      apply goes
      exact
        { settled :=
            { valid
              policies := by
                intro row member
                rcases Table.mem_put.mp member with rfl | ⟨old, _⟩
                · exact Nat.lt_succ_self _
                · exact Nat.lt_succ_of_lt (settled.policies row old)
              targets := settled.issue.targets
              activities := settled.issue.activities }
          later := Nat.le_succ _
          others := rfl
          policy := ⟨_, Table.mem_put_self _ _, rfl, rfl, rfl⟩
          targets := by
            intro target member
            obtain ⟨policy, policyMem, policyId, _⟩ := settled.valid.policy_of_target member
            constructor
            · intro created
              exact absurd (policyId.trans created) (fresh policy policyMem)
            · intro listed
              obtain ⟨_, other, otherMem, _, sameNamespace, _⟩ := mem_policyTargets.mp listed
              exact absurd sameNamespace (absent other otherMem) }
  | some policy =>
      obtain ⟨member, holds⟩ := Table.find?_some stored
      simp only [Bool.and_eq_true, beq_iff_eq] at holds
      have named : ∀ target ∈ state.db.placementTarget, target.policyId = policy.id ↔
          target ∈ policyTargets state.db organizationId namespaceId :=
        fun _ => names_policy_iff settled.valid member holds.1 holds.2
      cases appendTarget with
      | true =>
          apply goes
          exact
            { settled
              later := Nat.le_refl _
              others := rfl
              policy := ⟨policy, member, rfl, holds.1, holds.2⟩
              targets := named }
      | false =>
          simp only [Bool.false_eq_true, if_false, Tx.wp_bind, Tx.wp_pure]
          apply Tx.wp_update_byId member
          · exact beq_self_eq_true policy.id
          · exact fun other _ same => beq_iff_eq.mp same
          have valid : Valid (state.db.write (.placementPolicy (placementPolicy.updated time
              { policy with strategy := input.strategy, status := input.status }))) :=
            settled.valid.updatePolicy member rfl rfl rfl
          apply Tx.Written.of_valid
          · exact violation_eq_none.mpr valid
          apply goes
          exact
            { settled :=
                { valid
                  policies := by
                    intro row written
                    rcases Table.mem_put.mp written with rfl | ⟨old, _⟩
                    · exact settled.policies policy member
                    · exact settled.policies row old
                  targets := settled.targets
                  activities := settled.activities }
              later := Nat.le_refl _
              others := rfl
              policy := ⟨_, Table.mem_put_self _ _, rfl, holds.1, holds.2⟩
              targets := named }

/-- New rows for the requested targets. -/
structure Drawn (policyId organizationId : Id) (targets : List PlacementTargetCreateRequest)
    (before after : State Db) (rows : List PlacementTarget) : Prop where
  configurations : rows.map PlacementTarget.toTargetConfiguration = targets.map configurationOf
  owned : ∀ row ∈ rows, row.policyId = policyId ∧ row.organizationId = organizationId
  issued : ∀ row ∈ rows, before.nextId ≤ row.id ∧ row.id < after.nextId
  ids : (rows.map PlacementTarget.id).Nodup
  later : before.nextId ≤ after.nextId
  db : after.db = before.db

theorem wp_targetsData {targets : List PlacementTargetCreateRequest}
    {returns : List PlacementTarget → State Db → Prop}
    (goes : ∀ rows after, Drawn policyId organizationId targets state after rows →
      returns rows after) :
    Tx.wp violation time (targetsData policyId organizationId targets) returns throws state := by
  induction targets generalizing state returns with
  | nil =>
      apply goes [] state
      exact ⟨rfl, nofun, nofun, List.nodup_nil, Nat.le_refl _, rfl⟩
  | cons target rest ih =>
      simp only [targetsData, targetData, Program.bind_eq, Program.pure_eq, Tx.wp_bind,
        Tx.wp_randomUUID, Tx.wp_pure]
      apply ih
      intro rows after drawn
      apply goes
      have later : state.nextId < after.nextId := drawn.later
      exact
        { configurations := congrArg (configurationOf target :: ·) drawn.configurations
          owned := by
            intro row member
            rcases List.mem_cons.mp member with rfl | inRows
            · exact ⟨rfl, rfl⟩
            · exact drawn.owned row inRows
          issued := by
            intro row member
            rcases List.mem_cons.mp member with rfl | inRows
            · exact ⟨Nat.le_refl _, later⟩
            · exact ⟨Nat.le_of_succ_le (drawn.issued row inRows).1, (drawn.issued row inRows).2⟩
          ids := by
            rw [List.map_cons, List.nodup_cons]
            refine ⟨fun listed => ?_, drawn.ids⟩
            obtain ⟨row, inRows, sameId⟩ := List.mem_map.mp listed
            have issued : state.nextId < row.id := (drawn.issued row inRows).1
            exact absurd sameId.symm (Nat.ne_of_lt issued)
          later := Nat.le_of_lt later
          db := drawn.db }

theorem wp_writeActivity {metadata : NamespaceActionMetadata} {action : String} {entityId : Id}
    {recorded : ActivityMetadata} {returns : Unit → State Db → Prop} (settled : Settled state)
    (goes : ∀ after : State Db, Settled after →
      after.db = { state.db with activityLog := after.db.activityLog } → returns () after) :
    Tx.wp violation time (writeActivity organizationId metadata action entityId recorded) returns
      throws state := by
  simp only [writeActivity, Program.bind_eq, Program.pure_eq, Tx.wp_bind, Tx.wp_randomUUID,
    Tx.wp_pure]
  apply Tx.wp_create_new
  · exact fun other member => Nat.ne_of_lt (settled.activities other member)
  apply Tx.Written.of_valid
  · exact violation_eq_none.mpr (settled.valid.activityLog _)
  apply goes
  · exact
      { valid := settled.valid.activityLog _
        policies := settled.issue.policies
        targets := settled.issue.targets
        activities := by
          intro row member
          rcases Table.mem_put.mp member with rfl | ⟨old, _⟩
          · exact Nat.lt_succ_self _
          · exact Nat.lt_succ_of_lt (settled.activities row old) }
  · rfl

/-! ## Deleting and creating targets -/

theorem foldl_erase (rows : List PlacementTarget) (db : Db) :
    (rows.map fun row => placementTarget.erase (Row.id row)).foldl Database.write db =
      { db with placementTarget := db.placementTarget.eraseAll rows } := by
  induction rows generalizing db with
  | nil => rfl
  | cons row rest ih => exact ih (db.write (.erasePlacementTarget row.id))

theorem foldl_put (rows : List PlacementTarget) (db : Db) :
    (rows.map placementTarget.put).foldl Database.write db =
      { db with placementTarget := db.placementTarget.putAll rows } := by
  induction rows generalizing db with
  | nil => rfl
  | cons row rest ih => exact ih (db.write (.placementTarget row))

section

variable {db : Db} {condition : PlacementTarget → Bool} {rows : List PlacementTarget}

/-- The targets that satisfy a condition may be deleted when no session refers to them. -/
theorem Valid.deleteTargets (valid : Valid db)
    (free : ∀ session ∈ db.uploadSession, ∀ target ∈ db.placementTarget,
      condition target = true → session.placementTargetId ≠ target.id) :
    Valid { db with
      placementTarget := db.placementTarget.eraseAll (db.placementTarget.filter condition) } := by
  have kept : ∀ row ∈ db.placementTarget.eraseAll (db.placementTarget.filter condition),
      row ∈ db.placementTarget := fun row member => (Table.mem_eraseAll_filter.mp member).1
  apply valid.targets
  · intro first firstMem second secondMem
    exact valid .placementTargetKey first (kept first firstMem) second (kept second secondMem)
  · exact fun row member => valid.policy_of_target (kept row member)
  · exact fun row member => valid.bucket_of_target (kept row member)
  · intro session member
    obtain ⟨row, rowMem, id, organization⟩ := valid.target_of_session member
    refine ⟨row, Table.mem_eraseAll_filter.mpr ⟨rowMem, ?_⟩, id, organization⟩
    rw [Bool.eq_false_iff]
    exact fun holds => free session member row rowMem holds id.symm
  · exact fun row member => valid .placementTargetChecks row (kept row member)

/-- A target that a session refers to may not be deleted. -/
theorem not_valid_deleteTargets {session : UploadSession} {target : PlacementTarget}
    (sessionMem : session ∈ db.uploadSession) (member : target ∈ db.placementTarget)
    (holds : condition target = true) (refers : session.placementTargetId = target.id) :
    ¬Valid { db with
      placementTarget := db.placementTarget.eraseAll (db.placementTarget.filter condition) } := by
  intro valid
  obtain ⟨row, rowMem, id, _⟩ := valid.target_of_session sessionMem
  obtain ⟨inTable, fails⟩ := Table.mem_eraseAll_filter.mp rowMem
  rw [Table.eq_of_id_eq inTable member (id.trans refers), holds] at fails
  contradiction

theorem admitted_configurationOf (target : PlacementTargetCreateRequest) :
    admitted (configurationOf target) = true := by
  have capacity : (configurationOf target).configuredCapacityBytes.all (fun bytes =>
      0 ≤ bytes && bytes ≤ 9223372036854775807) = true := by
    cases given : target.configuredCapacityBytes.join with
    | none => simp [configurationOf, given]
    | some bytes =>
        have bound : bytes ≤ 9223372036854775807 :=
          target.configuredCapacityBytes_le _ (Option.join_eq_some_iff.mp given) bytes rfl
        simp only [configurationOf, given, Option.map_some, Option.all_some, Bool.and_eq_true,
          decide_eq_true_eq]
        omega
  have tier := target.priorityTier_le
  have positive := target.one_le_weight
  have weight := target.weight_le
  have threshold := target.thresholdPercent_le
  simp only [admitted, capacity, Bool.and_true, Bool.and_eq_true, decide_eq_true_eq]
  simp only [configurationOf]
  omega

/-- Targets for a policy that has none for their buckets. -/
theorem Valid.createTargets (valid : Valid db) (ids : (rows.map PlacementTarget.id).Nodup)
    (fresh : ∀ row ∈ rows, ∀ old ∈ db.placementTarget, old.id ≠ row.id)
    (absent : ∀ row ∈ rows, ∀ old ∈ db.placementTarget, old.policyId = policyId →
      old.bucketConnectionId ≠ row.bucketConnectionId)
    (owned : ∀ row ∈ rows, row.policyId = policyId ∧ row.organizationId = organizationId)
    (policy : ∃ policy ∈ db.placementPolicy,
      policy.id = policyId ∧ policy.organizationId = organizationId)
    (distinct : (rows.map fun row => row.bucketConnectionId).Nodup)
    (buckets : ∀ row ∈ rows, HasBucket db organizationId row.bucketConnectionId)
    (checks : ∀ row ∈ rows, admitted row.toTargetConfiguration = true) :
    Valid { db with placementTarget := db.placementTarget.putAll rows } := by
  have among : ∀ row ∈ db.placementTarget.putAll rows, row ∈ rows ∨ row ∈ db.placementTarget :=
    fun row member => (Table.mem_putAll_new ids fresh).mp member
  apply valid.targets
  · intro first firstMem second secondMem _ same
    obtain ⟨samePolicy, sameBucket⟩ := Prod.mk.inj (Option.some.inj same)
    rcases among first firstMem with firstNew | firstOld <;>
      rcases among second secondMem with secondNew | secondOld
    · rw [List.inj_on_of_nodup_map distinct firstNew secondNew sameBucket]
    · exact absurd sameBucket.symm (absent first firstNew second secondOld
        (samePolicy.symm.trans (owned first firstNew).1))
    · exact absurd sameBucket (absent second secondNew first firstOld
        (samePolicy.trans (owned second secondNew).1))
    · exact valid .placementTargetKey first firstOld second secondOld nofun same
  · intro row member
    rcases among row member with new | old
    · rw [(owned row new).1, (owned row new).2]
      exact policy
    · exact valid.policy_of_target old
  · intro row member
    rcases among row member with new | old
    · rw [(owned row new).2]
      exact buckets row new
    · exact valid.bucket_of_target old
  · intro session member
    obtain ⟨row, rowMem, refers⟩ := valid.target_of_session member
    exact ⟨row, (Table.mem_putAll_new ids fresh).mpr (.inr rowMem), refers⟩
  · intro row member
    rcases among row member with new | old
    · exact checks row new
    · exact valid .placementTargetChecks row old

end

theorem Drawn.created {targets : List PlacementTargetCreateRequest} {before after : State Db}
    {rows : List PlacementTarget} (drawn : Drawn policyId organizationId targets before after rows)
    (time : Time) : Drawn policyId organizationId targets before after
      (rows.map (placementTarget.created time)) where
  configurations := by
    rw [← drawn.configurations, List.map_map]
    rfl
  owned row member := by
    obtain ⟨old, oldMem, rfl⟩ := List.mem_map.mp member
    exact drawn.owned old oldMem
  issued row member := by
    obtain ⟨old, oldMem, rfl⟩ := List.mem_map.mp member
    exact drawn.issued old oldMem
  ids := by
    rw [List.map_map]
    exact drawn.ids
  later := drawn.later
  db := drawn.db

/-- The targets of a policy after they were replaced, and those of other policies. -/
structure Replaced (policyId : Id) (targets : List PlacementTargetCreateRequest) (before after : Db) :
    Prop where
  targets : ((after.placementTarget.filter fun row => row.policyId == policyId).map
    PlacementTarget.toTargetConfiguration).Perm (targets.map configurationOf)
  others : ∀ row : PlacementTarget, row.policyId ≠ policyId →
    (row ∈ after.placementTarget ↔ row ∈ before.placementTarget)
  rest : after = { before with placementTarget := after.placementTarget }

/-- The targets that `replaceTargets` deletes. -/
def ownedBy (policyId organizationId : Id) (row : PlacementTarget) : Bool :=
  row.policyId == policyId && row.organizationId == organizationId

theorem ownedBy_iff {target : PlacementTarget} (valid : Valid state.db)
    (policy : ∃ row ∈ state.db.placementPolicy,
      row.id = policyId ∧ row.organizationId = organizationId)
    (member : target ∈ state.db.placementTarget) :
    ownedBy policyId organizationId target = true ↔ target.policyId = policyId := by
  simp only [ownedBy, Bool.and_eq_true, beq_iff_eq, and_iff_left_iff_imp]
  intro own
  obtain ⟨row, rowMem, id, organization⟩ := policy
  obtain ⟨other, otherMem, otherId, otherOrganization⟩ := valid.policy_of_target member
  rw [← otherOrganization, ← organization,
    Table.eq_of_id_eq otherMem rowMem (otherId.trans (own.trans id.symm))]

/-- What deleting the targets that satisfy a condition leaves. -/
def deleting (condition : PlacementTarget → Bool) (state : State Db) : State Db :=
  { state with
    db := { state.db with
      placementTarget :=
        state.db.placementTarget.eraseAll (state.db.placementTarget.filter condition) } }

theorem write_deleting (condition : PlacementTarget → Bool) (state : State Db) :
    state.write ((state.db.placementTarget.filter condition).map fun row =>
      placementTarget.erase (Row.id row)) = deleting condition state := by
  simp only [State.write, foldl_erase, deleting]

/-- What creating targets leaves. -/
def creating (rows : List PlacementTarget) (state : State Db) : State Db :=
  { state with
    db := { state.db with placementTarget := state.db.placementTarget.putAll rows } }

theorem write_creating (rows : List PlacementTarget) (state : State Db) :
    state.write (rows.map placementTarget.put) = creating rows state := by
  simp only [State.write, foldl_put, creating]

theorem wp_deleteTargets {condition : PlacementTarget → Bool} {returns : Nat → State Db → Prop}
    (valid : Valid (deleting condition state).db)
    (goes : ∀ count, returns count (deleting condition state)) :
    Tx.wp violation time (placementTarget.deleteMany condition : Tx Nat) returns throws state := by
  rw [Tx.wp_deleteMany]
  apply Tx.Written.of_valid
  · rw [placementTarget_toModel_toRelation_table, write_deleting, violation_eq_none]
    exact valid
  · rw [placementTarget_toModel_toRelation_table, write_deleting]
    exact goes _

theorem Settled.deleting {condition : PlacementTarget → Bool} (settled : Settled state)
    (valid : Valid (deleting condition state).db) : Settled (deleting condition state) where
  valid := valid
  policies := settled.policies
  targets row member := settled.targets row (Table.mem_eraseAll_filter.mp member).1
  activities := settled.activities

theorem replaced_creating {targets : List PlacementTargetCreateRequest} {before : State Db}
    {rows : List PlacementTarget} (drawn : Drawn policyId organizationId targets before state rows)
    (fresh : ∀ row ∈ rows, ∀ old ∈ state.db.placementTarget, old.id ≠ row.id)
    (absent : ∀ old ∈ state.db.placementTarget, old.policyId ≠ policyId) :
    Replaced policyId targets state.db (creating rows state).db where
  targets := by
    rw [← drawn.configurations]
    apply List.Perm.map
    apply (List.perm_ext_iff_of_nodup
      ((List.Nodup.of_map _ (Table.nodup _)).filter _) (List.Nodup.of_map _ drawn.ids)).mpr
    intro row
    apply Table.mem_filter.trans
    rw [creating, Table.mem_putAll_new drawn.ids fresh, beq_iff_eq]
    constructor
    · rintro ⟨new | old, own⟩
      · exact new
      · exact absurd own (absent row old)
    · intro new
      exact ⟨.inl new, (drawn.owned row new).1⟩
  others row differs := by
    rw [creating, Table.mem_putAll_new drawn.ids fresh]
    constructor
    · rintro (new | old)
      · exact absurd (drawn.owned row new).1 differs
      · exact old
    · exact Or.inr
  rest := rfl

/-- Creating the requested targets of a policy that has none. -/
theorem wp_createTargets {targets : List PlacementTargetCreateRequest}
    {returns : Unit → State Db → Prop} (settled : Settled state)
    (policy : ∃ row ∈ state.db.placementPolicy,
      row.id = policyId ∧ row.organizationId = organizationId)
    (absent : ∀ old ∈ state.db.placementTarget, old.policyId ≠ policyId)
    (distinct : (targets.map PlacementTargetCreateRequest.bucketConnectionId).Nodup)
    (buckets : ∀ target ∈ targets, HasBucket state.db organizationId target.bucketConnectionId)
    (goes : ∀ after, Settled after → Replaced policyId targets state.db after.db →
      returns () after) :
    Tx.wp violation time ((targetsData policyId organizationId targets).bind placementTarget.createMany)
      returns throws state := by
  rw [Tx.wp_bind]
  apply wp_targetsData
  intro drawnRows middle drawn
  have stamped := drawn.created time
  generalize rowsEq : drawnRows.map (placementTarget.created time) = rows at stamped
  have fresh : ∀ row ∈ rows, ∀ old ∈ middle.db.placementTarget, old.id ≠ row.id := by
    intro row new old member
    rw [drawn.db] at member
    exact Nat.ne_of_lt (Nat.lt_of_lt_of_le (settled.targets old member) (stamped.issued row new).1)
  have configured : rows.map (fun row => row.bucketConnectionId) =
      targets.map PlacementTargetCreateRequest.bucketConnectionId := by
    have same := congrArg (List.map TargetConfiguration.bucketConnectionId) stamped.configurations
    rw [List.map_map, List.map_map] at same
    exact same
  have requested : ∀ row ∈ rows, ∃ target ∈ targets, configurationOf target =
      row.toTargetConfiguration := by
    intro row new
    have listed : row.toTargetConfiguration ∈ targets.map configurationOf :=
      stamped.configurations ▸ List.mem_map_of_mem new
    exact List.mem_map.mp listed
  have valid : Valid (creating rows middle).db := by
    have unused : ∀ row ∈ rows, ∀ old ∈ middle.db.placementTarget, old.policyId = policyId →
        old.bucketConnectionId ≠ row.bucketConnectionId := by
      rw [drawn.db]
      exact fun _ _ old member own => absurd own (absent old member)
    apply Valid.createTargets (drawn.db ▸ settled.valid) stamped.ids fresh unused stamped.owned
      (drawn.db ▸ policy)
    · rw [configured]
      exact distinct
    · intro row new
      obtain ⟨target, listed, same⟩ := requested row new
      rw [drawn.db, ← same]
      exact buckets target listed
    · intro row new
      obtain ⟨target, _, same⟩ := requested row new
      rw [← same]
      exact admitted_configurationOf target
  apply Tx.wp_createMany_new
  · exact rowsEq ▸ fresh
  · exact rowsEq ▸ stamped.ids
  rw [rowsEq]
  apply Tx.Written.of_valid
  · rw [write_creating, violation_eq_none]
    exact valid
  rw [write_creating]
  apply goes
  · exact
      { valid
        policies := by
          intro row member
          rw [creating, drawn.db] at member
          exact Nat.lt_of_lt_of_le (settled.policies row member) drawn.later
        targets := by
          intro row member
          rcases (Table.mem_putAll_new stamped.ids fresh).mp member with new | old
          · exact (stamped.issued row new).2
          · rw [drawn.db] at old
            exact Nat.lt_of_lt_of_le (settled.targets row old) drawn.later
        activities := by
          intro row member
          rw [creating, drawn.db] at member
          exact Nat.lt_of_lt_of_le (settled.activities row member) drawn.later }
  · rw [← drawn.db]
    exact replaced_creating stamped fresh (drawn.db ▸ absent)

theorem wp_replaceTargets {targets : List PlacementTargetCreateRequest}
    {returns : Unit → State Db → Prop} (settled : Settled state)
    (policy : ∃ row ∈ state.db.placementPolicy,
      row.id = policyId ∧ row.organizationId = organizationId)
    (distinct : (targets.map PlacementTargetCreateRequest.bucketConnectionId).Nodup)
    (buckets : ∀ target ∈ targets, HasBucket state.db organizationId target.bucketConnectionId)
    (free : ∀ session ∈ state.db.uploadSession, ∀ target ∈ state.db.placementTarget,
      target.policyId = policyId → session.placementTargetId ≠ target.id)
    (goes : ∀ after, Settled after → Replaced policyId targets state.db after.db →
      returns () after) :
    Tx.wp violation time (replaceTargets organizationId policyId targets) returns throws state := by
  have own {target : PlacementTarget} (member : target ∈ state.db.placementTarget) :=
    ownedBy_iff settled.valid policy member
  have cleared : Valid (deleting (ownedBy policyId organizationId) state).db :=
    settled.valid.deleteTargets fun session sessionMem target member holds =>
      free session sessionMem target member ((own member).mp holds)
  have left (row : PlacementTarget) :
      row ∈ (deleting (ownedBy policyId organizationId) state).db.placementTarget ↔
        row ∈ state.db.placementTarget ∧ row.policyId ≠ policyId := by
    apply Table.mem_eraseAll_filter.trans
    constructor
    · rintro ⟨member, fails⟩
      exact ⟨member, fun same => by simp [(own member).mpr same] at fails⟩
    · rintro ⟨member, differs⟩
      exact ⟨member, Bool.eq_false_iff.mpr fun holds => differs ((own member).mp holds)⟩
  rw [replaceTargets, Program.bind_eq, Tx.wp_bind]
  apply wp_deleteTargets cleared
  intro _
  have none_ : ∀ row ∈ (deleting (ownedBy policyId organizationId) state).db.placementTarget,
      row.policyId ≠ policyId := fun row member => ((left row).mp member).2
  rw [Tx.wp_runIf]
  constructor
  · intro _
    apply wp_createTargets (settled.deleting cleared) policy none_ distinct buckets
    intro after settledAfter replaced
    apply goes after settledAfter
    exact
      { targets := replaced.targets
        others := by
          intro row differs
          rw [replaced.others row differs, left]
          exact and_iff_left differs
        rest := by
          rw [replaced.rest]
          rfl }
  · intro empty
    apply goes _ (settled.deleting cleared)
    rw [List.length_eq_zero_iff.mp (Nat.eq_zero_of_not_pos empty)]
    exact
      { targets := by
          have nothing : (deleting (ownedBy policyId organizationId) state).db.placementTarget.filter
              (fun row => row.policyId == policyId) = [] := by
            rw [List.eq_nil_iff_forall_not_mem]
            intro row selected
            obtain ⟨member, own⟩ := Table.mem_filter.mp selected
            exact none_ row member (beq_iff_eq.mp own)
          rw [nothing]
          exact List.Perm.refl _
        others := by
          intro row differs
          rw [left]
          exact and_iff_left differs
        rest := rfl }

/-- A further target for a policy that has none for its bucket. -/
theorem wp_createTarget {target : PlacementTargetCreateRequest} {returns : Unit → State Db → Prop}
    (settled : Settled state)
    (policy : ∃ row ∈ state.db.placementPolicy,
      row.id = policyId ∧ row.organizationId = organizationId)
    (bucket : HasBucket state.db organizationId target.bucketConnectionId)
    (absent : ∀ old ∈ state.db.placementTarget, old.policyId = policyId →
      old.bucketConnectionId ≠ target.bucketConnectionId)
    (goes : ∀ row after, Settled after → row.policyId = policyId →
      row.toTargetConfiguration = configurationOf target →
      (∀ old ∈ state.db.placementTarget, old.id ≠ row.id) →
      after.db = { state.db with placementTarget := state.db.placementTarget.put row } →
      returns () after) :
    Tx.wp violation time (createTarget organizationId policyId [target]) returns throws state := by
  simp only [createTarget, targetData, Program.bind_eq, Program.pure_eq, Tx.wp_bind,
    Tx.wp_randomUUID, Tx.wp_pure]
  have fresh : ∀ old ∈ state.db.placementTarget, old.id ≠ state.nextId :=
    fun old member => Nat.ne_of_lt (settled.targets old member)
  apply Tx.wp_create_new fresh
  generalize made : placementTarget.created time _ = row
  have id : row.id = state.nextId := by rw [← made]; rfl
  have owned : row.policyId = policyId ∧ row.organizationId = organizationId := by
    rw [← made]
    exact ⟨rfl, rfl⟩
  have configured : row.toTargetConfiguration = configurationOf target := by rw [← made]; rfl
  have bucketId : row.bucketConnectionId = target.bucketConnectionId :=
    congrArg TargetConfiguration.bucketConnectionId configured
  have valid : Valid { state.db with placementTarget := state.db.placementTarget.putAll [row] } := by
    apply settled.valid.createTargets
    · exact List.nodup_singleton row.id
    · simpa [id] using fresh
    · simpa [bucketId] using absent
    · simpa using owned
    · exact policy
    · exact List.nodup_singleton _
    · simpa [bucketId] using bucket
    · simpa [configured] using admitted_configurationOf target
  apply Tx.Written.of_valid
  · exact violation_eq_none.mpr valid
  apply goes row _ _ owned.1 configured (fun old member => id ▸ fresh old member) rfl
  exact
    { valid
      policies := settled.issue.policies
      targets := by
        intro other member
        rcases Table.mem_put.mp member with rfl | ⟨old, _⟩
        · exact id ▸ Nat.lt_succ_self _
        · exact settled.issue.targets other old
      activities := settled.issue.activities }

/-- Targets that a session refers to are not replaced. -/
theorem wp_replaceTargets_referenced {targets : List PlacementTargetCreateRequest}
    {returns : Unit → State Db → Prop} {session : UploadSession} {target : PlacementTarget}
    (sessionMem : session ∈ state.db.uploadSession) (member : target ∈ state.db.placementTarget)
    (own : ownedBy policyId organizationId target = true)
    (refers : session.placementTargetId = target.id) :
    Tx.wp violation time (replaceTargets organizationId policyId targets) returns (fun _ => True)
      state := by
  rw [replaceTargets, Program.bind_eq, Tx.wp_bind, Tx.wp_deleteMany,
    placementTarget_toModel_toRelation_table]
  apply Tx.Written.of_violation
  · rw [ne_eq, List.map_eq_nil_iff]
    exact List.ne_nil_of_mem (Table.mem_filter.mpr ⟨member, own⟩)
  · have written := write_deleting (ownedBy policyId organizationId) state
    have invalid := not_valid_deleteTargets sessionMem member own refers
    intro holds
    rw [violation_eq_none] at holds
    exact invalid ((congrArg (fun after => Valid after.db) written).mp holds)

end

/-! ## The policy of a namespace -/

theorem policyTargets_eq {db : Db} {organizationId namespaceId policyId : Id} (valid : Valid db)
    (policy : ∃ row ∈ db.placementPolicy,
      row.id = policyId ∧ row.namespaceId = namespaceId ∧ row.organizationId = organizationId) :
    policyTargets db organizationId namespaceId =
      db.placementTarget.filter fun row => row.policyId == policyId := by
  obtain ⟨row, member, id, namespaceEq, organization⟩ := policy
  apply List.filter_congr
  intro target _
  rw [Bool.eq_iff_iff]
  simp only [List.any_eq_true, Bool.and_eq_true, beq_iff_eq]
  constructor
  · rintro ⟨other, otherMem, ⟨own, otherNamespace⟩, _⟩
    rw [← own, ← id]
    exact valid .placementPolicyNamespace other otherMem row member nofun
      (congrArg some (otherNamespace.trans namespaceEq.symm))
  · intro own
    exact ⟨row, member, ⟨id.trans own.symm, namespaceEq⟩, organization⟩

theorem eraseDups_of_nodup {ids : List Id} (nodup : ids.Nodup) : ids.eraseDups = ids := by
  induction ids with
  | nil => rfl
  | cons id rest ih =>
      rw [List.nodup_cons] at nodup
      have apart : rest.filter (fun other => !other == id) = rest := by
        rw [List.filter_eq_self]
        intro other member
        have differs : other ≠ id := fun same => nodup.1 (same ▸ member)
        simpa using differs
      rw [List.eraseDups_cons, apart, ih nodup.2]

end Mosp.Policies
