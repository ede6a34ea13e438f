import Mosp.Policies.Replacement

/-!
# Replacing a placement policy

An update that names known buckets of a known namespace commits and puts the
requested targets in the place of the old ones, unless an upload session refers
to one of these.
-/

namespace Mosp.Guarantees

open Mosp.Concurrency Mosp.Data Mosp.Sql Mosp.Policies Mosp.Policies.NamespaceService
open Mosp.Database (Id Time UploadSession)

section

variable (organizationId namespaceId : Id) (input : PlacementPolicyUpdateRequest)

/-- The namespace and the buckets of a request exist. -/
structure KnownToPolicy (db : Db) : Prop where
  namespace_ : ∃ row ∈ db.virtualNamespace,
    row.id = namespaceId ∧ row.organizationId = organizationId
  buckets : ∀ target ∈ input.targets.getD [], HasBucket db organizationId target.bucketConnectionId

/-- No upload session refers to a target of the namespace's policy. -/
def Unreferenced (db : Db) : Prop :=
  ∀ session ∈ db.uploadSession, ∀ target ∈ policyTargets db organizationId namespaceId,
    session.placementTargetId ≠ target.id

/-- The policy has the requested targets, or those that it had when the request names none, and the
uploads and objects are unchanged. -/
structure PolicyReplaced (before after : Db) : Prop where
  requested : ∀ targets ∈ input.targets,
    ((policyTargets after organizationId namespaceId).map PlacementTarget.toTargetConfiguration).Perm
      (targets.map configurationOf)
  kept : input.targets = none →
    policyTargets after organizationId namespaceId = policyTargets before organizationId namespaceId
  uploadSession : after.uploadSession = before.uploadSession
  objectRecord : after.objectRecord = before.objectRecord
  objectLocation : after.objectLocation = before.objectLocation

/-- An update of the policy commits or leaves everything as it was. -/
structure ReplacesPolicy (metadata : NamespaceActionMetadata) (room : Room Db Unit) : Prop where
  commits : KnownToPolicy organizationId namespaceId input room.state.db →
    ∃ summary after,
      updatePolicy organizationId namespaceId input metadata none room = (.ok summary, after) ∧
        PolicyReplaced organizationId namespaceId input room.state.db after.state.db
  refuses : ¬KnownToPolicy organizationId namespaceId input room.state.db →
    ∃ error,
      updatePolicy organizationId namespaceId input metadata none room = (.error error, room) ∧
        (error = .namespaceNotFound ∨ error = .placementBucketNotFound)
  unchanged : ∀ failure error after,
    updatePolicy organizationId namespaceId input metadata failure room = (.error error, after) →
      after = room

end

section

variable {organizationId namespaceId : Id} {input : PlacementPolicyUpdateRequest}
  {metadata : NamespaceActionMetadata} {failure : Option Failure} {room after : Room Db Unit}
  {time : Time} {state : State Db}

/-! ## The transaction -/

/-- The checks of the transaction, and what follows them. -/
theorem wp_updatePolicyTransaction {appendTarget : Bool} {returns : Included → State Db → Prop}
    {throws : Failure → Prop}
    (distinct : ((input.targets.getD []).map PlacementTargetCreateRequest.bucketConnectionId).Nodup)
    (unknown : ¬KnownToPolicy organizationId namespaceId input state.db →
      throws .namespaceNotFound ∧ throws .placementBucketNotFound)
    (goes : KnownToPolicy organizationId namespaceId input state.db →
      Tx.wp violation time (writePolicy organizationId namespaceId input metadata appendTarget)
        returns throws state) :
    Tx.wp violation time
      (updatePolicyTransaction organizationId namespaceId input metadata appendTarget) returns
      throws state := by
  have buckets_iff : (∀ id ∈ (input.targets.getD []).map
      PlacementTargetCreateRequest.bucketConnectionId, HasBucket state.db organizationId id) ↔
      ∀ target ∈ input.targets.getD [],
        HasBucket state.db organizationId target.bucketConnectionId := by
    simp
  simp only [updatePolicyTransaction, Program.bind_eq, Tx.wp_bind, Tx.wp_findFirst, Tx.wp_throwIf,
    virtualNamespace_table, eraseDups_of_nodup distinct]
  cases found : state.db.virtualNamespace.find? fun row =>
      row.id == namespaceId && row.organizationId == organizationId with
  | none =>
      refine ⟨fun _ => (unknown fun known => ?_).1, fun some_ => absurd rfl some_⟩
      obtain ⟨row, member, rfl, rfl⟩ := known.namespace_
      have unlike := Table.find?_none.mp found row member
      simp at unlike
  | some row =>
      obtain ⟨member, holds⟩ := Table.find?_some found
      simp only [Bool.and_eq_true, beq_iff_eq] at holds
      refine ⟨fun none_ => absurd none_ Bool.false_ne_true, fun _ => ?_⟩
      apply wp_checkBuckets distinct
      · intro all
        exact goes ⟨⟨row, member, holds⟩, buckets_iff.mp all⟩
      · intro missing
        exact (unknown fun known => missing (buckets_iff.mpr known.buckets)).2

theorem wp_findIncluded {returns : Included → State Db → Prop} {throws : Failure → Prop}
    (found : ∃ row ∈ state.db.virtualNamespace,
      row.id = namespaceId ∧ row.organizationId = organizationId)
    (goes : ∀ value, returns value state) :
    Tx.wp violation time (findIncluded organizationId namespaceId) returns throws state := by
  rw [findIncluded, Tx.wp_statement]
  cases stored : state.db.virtualNamespace.find? fun row =>
      row.id == namespaceId && row.organizationId == organizationId with
  | none =>
      obtain ⟨row, member, rfl, rfl⟩ := found
      have unlike := Table.find?_none.mp stored row member
      simp at unlike
  | some row => exact goes _

/-- The tables that an update does not write. -/
structure Spared (before after : Db) : Prop where
  bucketConnection : after.bucketConnection = before.bucketConnection
  virtualNamespace : after.virtualNamespace = before.virtualNamespace
  uploadSession : after.uploadSession = before.uploadSession
  objectRecord : after.objectRecord = before.objectRecord
  objectLocation : after.objectLocation = before.objectLocation

theorem Spared.trans {first second third : Db} (earlier : Spared first second)
    (later : Spared second third) : Spared first third where
  bucketConnection := later.bucketConnection.trans earlier.bucketConnection
  virtualNamespace := later.virtualNamespace.trans earlier.virtualNamespace
  uploadSession := later.uploadSession.trans earlier.uploadSession
  objectRecord := later.objectRecord.trans earlier.objectRecord
  objectLocation := later.objectLocation.trans earlier.objectLocation

theorem spared_policy {before after : Db}
    (same : after = { before with placementPolicy := after.placementPolicy }) :
    Spared before after := by
  rw [same]
  exact ⟨rfl, rfl, rfl, rfl, rfl⟩

theorem spared_targets {before after : Db}
    (same : after = { before with placementTarget := after.placementTarget }) :
    Spared before after := by
  rw [same]
  exact ⟨rfl, rfl, rfl, rfl, rfl⟩

theorem spared_activity {before after : Db}
    (same : after = { before with activityLog := after.activityLog }) : Spared before after := by
  rw [same]
  exact ⟨rfl, rfl, rfl, rfl, rfl⟩

/-- The end of the transaction: the event is recorded and the namespace is read. -/
theorem wp_recordPolicy {action : String} {recorded : ActivityMetadata} {policyId : Id}
    {returns : Included → State Db → Prop} {throws : Failure → Prop} (settled : Settled state)
    (found : ∃ row ∈ state.db.virtualNamespace,
      row.id = namespaceId ∧ row.organizationId = organizationId)
    (goes : ∀ value after, Settled after →
      after.db = { state.db with activityLog := after.db.activityLog } → returns value after) :
    Tx.wp violation time
      ((writeActivity organizationId metadata action policyId recorded).bind
        fun _ => findIncluded organizationId namespaceId) returns throws state := by
  rw [Tx.wp_bind]
  apply wp_writeActivity settled
  intro after settledAfter same
  apply wp_findIncluded
  · rw [(spared_activity same).virtualNamespace]
    exact found
  · exact fun value => goes value after settledAfter same

theorem wp_writePolicy (settled : Settled state)
    (distinct : ((input.targets.getD []).map PlacementTargetCreateRequest.bucketConnectionId).Nodup)
    (known : KnownToPolicy organizationId namespaceId input state.db)
    (free : input.targets = none ∨ Unreferenced organizationId namespaceId state.db) :
    Tx.wp violation time (writePolicy organizationId namespaceId input metadata false)
      (fun _ after => Settled after ∧
        PolicyReplaced organizationId namespaceId input state.db after.db)
      (fun _ => False) state := by
  simp only [writePolicy, Program.bind_eq, Tx.wp_bind, Bool.false_eq_true, if_false]
  apply wp_ensurePolicy settled known.namespace_
  intro policyId middle ensured
  have spared := spared_policy ensured.others
  have found := spared.virtualNamespace ▸ known.namespace_
  have sameTargets : middle.db.placementTarget = state.db.placementTarget := by
    rw [ensured.others]
  rw [Tx.wp_runIf]
  constructor
  · intro some_
    obtain ⟨targets, named⟩ := Option.isSome_iff_exists.mp some_
    have buckets := known.buckets
    rw [named] at distinct buckets ⊢
    simp only [Option.getD_some] at distinct buckets ⊢
    obtain ⟨policy, policyMem, policyId_, policyNamespace, policyOrganization⟩ := ensured.policy
    apply wp_replaceTargets ensured.settled
    · exact ⟨policy, policyMem, policyId_, policyOrganization⟩
    · exact distinct
    · intro target listed
      rw [HasBucket, spared.bucketConnection]
      exact buckets target listed
    · intro session sessionMem target member own
      rw [spared.uploadSession] at sessionMem
      rw [sameTargets] at member
      exact (free.resolve_left (by simp [named])) session sessionMem target
        ((ensured.targets target member).mp own)
    intro replacedState settledReplaced replaced
    have sparedReplaced := spared_targets replaced.rest
    rw [← Tx.wp_bind]
    apply wp_recordPolicy settledReplaced (sparedReplaced.virtualNamespace ▸ found)
    intro _ after settledAfter same
    have all := (spared.trans sparedReplaced).trans (spared_activity same)
    refine ⟨settledAfter, ?_⟩
    exact
      { requested := by
          intro others othersMem
          obtain rfl := Option.some.inj (named.symm.trans othersMem)
          have policies : after.db.placementPolicy = middle.db.placementPolicy := by
            rw [same, replaced.rest]
          have written : after.db.placementTarget = replacedState.db.placementTarget := by
            rw [same]
          rw [policyTargets_eq settledAfter.valid (policies ▸ ensured.policy), written]
          exact replaced.targets
        kept := by simp [named]
        uploadSession := all.uploadSession
        objectRecord := all.objectRecord
        objectLocation := all.objectLocation }
  · intro none_
    rw [← Tx.wp_bind]
    apply wp_recordPolicy ensured.settled found
    intro _ after settledAfter same
    have all := spared.trans (spared_activity same)
    have absent : input.targets = none := by simpa using none_
    refine ⟨settledAfter, ?_⟩
    exact
      { requested := by simp [absent]
        kept := by
          intro _
          have policies : after.db.placementPolicy = middle.db.placementPolicy := by
            rw [same]
          have targets : after.db.placementTarget = state.db.placementTarget := by
            rw [same, sameTargets]
          rw [policyTargets_eq settledAfter.valid (policies ▸ ensured.policy), targets]
          apply List.filter_congr
          intro target member
          rw [Bool.eq_iff_iff, beq_iff_eq]
          apply (ensured.targets target member).trans
          rw [policyTargets, Table.mem_filter]
          exact and_iff_right member
        uploadSession := all.uploadSession
        objectRecord := all.objectRecord
        objectLocation := all.objectLocation }

/-- A session that refers to a target of the policy stands in the way of new targets. -/
theorem wp_writePolicy_referenced {session : UploadSession} {target : PlacementTarget}
    {targets : List PlacementTargetCreateRequest} (settled : Settled state)
    (known : KnownToPolicy organizationId namespaceId input state.db)
    (named : input.targets = some targets) (sessionMem : session ∈ state.db.uploadSession)
    (member : target ∈ policyTargets state.db organizationId namespaceId)
    (refers : session.placementTargetId = target.id) :
    Tx.wp violation time (writePolicy organizationId namespaceId input metadata false)
      (fun _ _ => False) (fun _ => True) state := by
  simp only [writePolicy, Program.bind_eq, Tx.wp_bind, Bool.false_eq_true, if_false]
  apply wp_ensurePolicy settled known.namespace_
  intro policyId middle ensured
  have targetMem : target ∈ middle.db.placementTarget := by
    rw [ensured.others]
    exact (mem_policyTargets.mp member).1
  have sessionKept : session ∈ middle.db.uploadSession := by
    rw [ensured.others]
    exact sessionMem
  obtain ⟨policy, policyMem, id, _, organization⟩ := ensured.policy
  have own : ownedBy policyId organizationId target = true :=
    (ownedBy_iff ensured.settled.valid ⟨policy, policyMem, id, organization⟩ targetMem).mpr
      ((ensured.targets target (mem_policyTargets.mp member).1).mpr member)
  rw [Tx.wp_runIf, named]
  constructor
  · intro _
    exact wp_replaceTargets_referenced sessionKept targetMem own refers
  · exact fun none_ => absurd rfl none_

/-! ## The update -/

theorem updatePolicy_commits {appendTarget : Bool} {returns : Included → State Db → Prop}
    (holds : Tx.wp violation room.clock
      (updatePolicyTransaction organizationId namespaceId input metadata appendTarget) returns
      (fun _ => False) room.state) :
    ∃ value state, updatePolicy organizationId namespaceId input metadata none room appendTarget =
      (.ok (toSummary value), { room with state }) ∧ returns value state := by
  unfold Tx.wp at holds
  split at holds
  · rename_i value state ran
    refine ⟨value, state, ?_, holds⟩
    simp only [updatePolicy, Room.execute, ran]
    rfl
  · exact holds.elim

theorem updatePolicy_fails {throws : Failure → Prop}
    (holds : Tx.wp violation room.clock
      (updatePolicyTransaction organizationId namespaceId input metadata false) (fun _ _ => False)
      throws room.state) :
    ∃ error, updatePolicy organizationId namespaceId input metadata none room =
      (.error error, room) ∧ throws error := by
  unfold Tx.wp at holds
  split at holds
  · exact holds.elim
  · rename_i error ran
    refine ⟨error, ?_, holds⟩
    simp only [updatePolicy, Room.execute, ran]
    rfl

/-- An update that throws leaves everything as it was. -/
theorem updatePolicy_unchanged {error : Failure}
    (thrown : updatePolicy organizationId namespaceId input metadata failure room =
      (.error error, after)) : after = room := by
  cases failure with
  | some failed => exact (Prod.mk.inj thrown).2.symm
  | none =>
      simp only [updatePolicy, Room.execute] at thrown
      split at thrown
      · cases (Prod.mk.inj thrown).1
      · exact (Prod.mk.inj thrown).2.symm

/-- Updates replace policies where no upload session refers to a target that has to go. -/
theorem replacesPolicy_iff (settled : Settled room.state)
    (distinct : ∀ targets ∈ input.targets,
      (targets.map PlacementTargetCreateRequest.bucketConnectionId).Nodup) :
    ReplacesPolicy organizationId namespaceId input metadata room ↔
      ¬KnownToPolicy organizationId namespaceId input room.state.db ∨ input.targets = none ∨
        Unreferenced organizationId namespaceId room.state.db := by
  have distinctTargets :
      ((input.targets.getD []).map PlacementTargetCreateRequest.bucketConnectionId).Nodup := by
    cases named : input.targets with
    | none => exact List.nodup_nil
    | some targets => exact distinct targets named
  constructor
  · intro replaces
    by_contra refused
    simp only [not_or, Classical.not_not] at refused
    obtain ⟨known, some_, referenced⟩ := refused
    obtain ⟨targets, named⟩ := Option.ne_none_iff_exists'.mp some_
    simp only [Unreferenced, not_forall, Classical.not_not] at referenced
    obtain ⟨session, sessionMem, target, member, refers⟩ := referenced
    obtain ⟨summary, after, committed, _⟩ := replaces.commits known
    have fails : Tx.wp violation room.clock
        (updatePolicyTransaction organizationId namespaceId input metadata false)
        (fun _ _ => False) (fun _ => True) room.state := by
      apply wp_updatePolicyTransaction distinctTargets (fun _ => ⟨trivial, trivial⟩)
      exact fun _ => wp_writePolicy_referenced settled known named sessionMem member refers
    obtain ⟨error, thrown, _⟩ := updatePolicy_fails fails
    rw [committed] at thrown
    cases (Prod.mk.inj thrown).1
  · intro condition
    constructor
    · intro known
      have runs : Tx.wp violation room.clock
          (updatePolicyTransaction organizationId namespaceId input metadata false)
          (fun _ after => Settled after ∧
            PolicyReplaced organizationId namespaceId input room.state.db after.db)
          (fun _ => False) room.state := by
        apply wp_updatePolicyTransaction distinctTargets fun unknown => absurd known unknown
        exact fun _ => wp_writePolicy settled distinctTargets known
          (condition.resolve_left (not_not.mpr known))
      obtain ⟨value, state, ran, _, replaced⟩ := updatePolicy_commits runs
      exact ⟨_, _, ran, replaced⟩
    · intro unknown
      apply updatePolicy_fails
      apply wp_updatePolicyTransaction distinctTargets
      · exact fun _ => ⟨.inl rfl, .inr rfl⟩
      · exact fun known => absurd known unknown
    · exact fun failure error after => updatePolicy_unchanged

/-! ## Adding a target -/

/-- The policy has one more target, as requested, and the uploads and objects are unchanged. -/
structure TargetAdded (organizationId namespaceId : Id) (target : PlacementTargetCreateRequest)
    (before after : Db) : Prop where
  added : ∃ row, row ∉ before.placementTarget ∧
    row.toTargetConfiguration = configurationOf target ∧
    ∀ other, other ∈ policyTargets after organizationId namespaceId ↔
      other = row ∨ other ∈ policyTargets before organizationId namespaceId
  spared : Spared before after

theorem wp_writePolicy_append {target : PlacementTargetCreateRequest} (settled : Settled state)
    (known : KnownToPolicy organizationId namespaceId input state.db)
    (named : input.targets = some [target])
    (unused : ∀ old ∈ policyTargets state.db organizationId namespaceId,
      old.bucketConnectionId ≠ target.bucketConnectionId) :
    Tx.wp violation time (writePolicy organizationId namespaceId input metadata true)
      (fun _ after => TargetAdded organizationId namespaceId target state.db after.db)
      (fun _ => False) state := by
  simp only [writePolicy, Program.bind_eq, Tx.wp_bind, if_true]
  apply wp_ensurePolicy settled known.namespace_
  intro policyId middle ensured
  have spared := spared_policy ensured.others
  have sameTargets : middle.db.placementTarget = state.db.placementTarget := by
    rw [ensured.others]
  obtain ⟨policy, policyMem, policyId_, policyNamespace, policyOrganization⟩ := ensured.policy
  rw [Tx.wp_runIf, named]
  refine ⟨fun _ => ?_, fun none_ => absurd rfl none_⟩
  apply wp_createTarget ensured.settled
  · exact ⟨policy, policyMem, policyId_, policyOrganization⟩
  · rw [HasBucket, spared.bucketConnection]
    exact known.buckets target (by simp [named])
  · intro old member own
    rw [sameTargets] at member
    exact unused old ((ensured.targets old member).mp own)
  intro row appended settledAppended own configured fresh written
  have sparedAppended := spared_targets (written.trans (by rw [written]))
  rw [← Tx.wp_bind]
  apply wp_recordPolicy settledAppended
  · rw [sparedAppended.virtualNamespace, spared.virtualNamespace]
    exact known.namespace_
  intro _ after settledAfter same
  have policies : after.db.placementPolicy = middle.db.placementPolicy := by
    rw [same, written]
  have targets : after.db.placementTarget = state.db.placementTarget.put row := by
    rw [same, written, sameTargets]
  have other : row ∉ state.db.placementTarget := fun member =>
    fresh row (sameTargets ▸ member) rfl
  constructor
  · refine ⟨row, other, configured, fun target => ?_⟩
    rw [policyTargets_eq settledAfter.valid (policies ▸ ensured.policy), targets, Table.mem_filter,
      Table.mem_put, beq_iff_eq]
    constructor
    · rintro ⟨rfl | ⟨old, _⟩, names⟩
      · exact .inl rfl
      · exact .inr ((ensured.targets target old).mp names)
    · rintro (rfl | listed)
      · exact ⟨.inl rfl, own⟩
      · have old := (mem_policyTargets.mp listed).1
        exact ⟨.inr ⟨old, fresh target (sameTargets ▸ old)⟩, (ensured.targets target old).mpr listed⟩
  · exact (spared.trans sparedAppended).trans (spared_activity same)

/-- A target for a bucket that the policy does not use yet is added to those that it has, whatever
upload sessions refer to these. -/
theorem addTarget_adds {target : PlacementTargetCreateRequest} (settled : Settled room.state)
    (namespace_ : ∃ row ∈ room.state.db.virtualNamespace,
      row.id = namespaceId ∧ row.organizationId = organizationId)
    (bucket : HasBucket room.state.db organizationId target.bucketConnectionId)
    (unused : ∀ old ∈ policyTargets room.state.db organizationId namespaceId,
      old.bucketConnectionId ≠ target.bucketConnectionId) :
    ∃ summary after, addTarget organizationId namespaceId target metadata none room =
        (.ok summary, after) ∧
      TargetAdded organizationId namespaceId target room.state.db after.state.db := by
  obtain ⟨input, named, request⟩ : ∃ input : PlacementPolicyUpdateRequest,
      input.targets = some [target] ∧
        addTarget organizationId namespaceId target metadata none room =
          updatePolicy organizationId namespaceId input metadata none room true :=
    ⟨_, rfl, rfl⟩
  have known : KnownToPolicy organizationId namespaceId input room.state.db := by
    refine ⟨namespace_, fun listed member => ?_⟩
    simp only [named, Option.getD_some, List.mem_singleton] at member
    exact member ▸ bucket
  have runs : Tx.wp violation room.clock
      (updatePolicyTransaction organizationId namespaceId input metadata true)
      (fun _ after => TargetAdded organizationId namespaceId target room.state.db after.db)
      (fun _ => False) room.state := by
    apply wp_updatePolicyTransaction
    · simp [named]
    · exact fun unknown => absurd known unknown
    · exact fun _ => wp_writePolicy_append settled known named unused
  obtain ⟨value, state, ran, added⟩ := updatePolicy_commits runs
  exact ⟨_, _, request.trans ran, added⟩

end

/-! ## A policy with an upload -/

namespace Replacing

/-- Two policies with one target each, and the sessions of their uploads. -/
def room (uploadSession : Table UploadSession) : Room Db Unit where
  state :=
    ⟨{ bucketConnection := .ofRows
        [{ id := 5, organizationId := 1, providerConnectionId := 4, bucketName := "old"
           status := .active },
         { id := 6, organizationId := 1, providerConnectionId := 4, bucketName := "new"
           status := .active }]
       virtualNamespace := .ofRows
        [{ id := 2, organizationId := 1, name := "Files", slug := "files", quotaBytes := 1000 },
         { id := 12, organizationId := 1, name := "Images", slug := "images", quotaBytes := 1000 }]
       placementPolicy := .ofRows
        [{ id := 3, namespaceId := 2, organizationId := 1 },
         { id := 13, namespaceId := 12, organizationId := 1 }]
       placementTarget := .ofRows
        [{ bucketConnectionId := 5, priorityTier := 0, weight := 100
           configuredCapacityBytes := none, thresholdPercent := 100, enabled := true
           id := 7, policyId := 3, organizationId := 1 },
         { bucketConnectionId := 5, priorityTier := 0, weight := 100
           configuredCapacityBytes := none, thresholdPercent := 100, enabled := true
           id := 17, policyId := 13, organizationId := 1 }]
       uploadSession }, 20⟩
  clock := 1000
  outside := ()

/-- An upload to the target that has been completed. -/
def completed : UploadSession :=
  { id := 8, organizationId := 1, namespaceId := 2, placementTargetId := 7
    bucketConnectionId := 5, createdByCredentialId := 9, idempotencyKey := "upload"
    logicalKey := "report.pdf", physicalKey := .object 2 10, reservedBytes := 10
    state := .completed, expiresAt := 500 }

/-- An upload to the target of the other policy. -/
def elsewhere : UploadSession :=
  { id := 18, organizationId := 1, namespaceId := 12, placementTargetId := 17
    bucketConnectionId := 5, createdByCredentialId := 9, idempotencyKey := "upload"
    logicalKey := "photo.png", physicalKey := .object 12 10, reservedBytes := 10
    state := .initiated, expiresAt := 5000 }

/-- The policy is to use the new bucket. -/
def request : PlacementPolicyUpdateRequest where
  targets := some [{ bucketConnectionId := 6 }]

def metadata : NamespaceActionMetadata :=
  ⟨11, "request"⟩

theorem settled : Settled (room (.ofRows [elsewhere])).state where
  valid := by decide +kernel
  policies := by decide
  targets := by decide
  activities := by decide

theorem settled_completed : Settled (room (.ofRows [completed])).state where
  valid := by decide +kernel
  policies := by decide
  targets := by decide
  activities := by decide

theorem known (uploadSession : Table UploadSession) :
    KnownToPolicy 1 2 request (room uploadSession).state.db where
  namespace_ := ⟨_, List.mem_cons_self, rfl, rfl⟩
  buckets := by
    intro target listed
    obtain rfl := List.mem_singleton.mp listed
    exact ⟨_, List.mem_cons_of_mem _ (List.mem_singleton_self _), rfl, rfl⟩

theorem distinct : ∀ targets ∈ request.targets,
    (targets.map PlacementTargetCreateRequest.bucketConnectionId).Nodup := by
  decide

end Replacing

/-- The upload to the other policy's target is not in the way. -/
theorem replacesPolicy_unused : ReplacesPolicy 1 2 Replacing.request Replacing.metadata
    (Replacing.room (.ofRows [Replacing.elsewhere])) := by
  refine (replacesPolicy_iff Replacing.settled Replacing.distinct).mpr (.inr (.inr ?_))
  have own : ∀ target ∈ policyTargets
      (Replacing.room (.ofRows [Replacing.elsewhere])).state.db 1 2, target.id = 7 := by
    decide +kernel
  intro session member target targetMem
  obtain rfl := List.mem_singleton.mp member
  rw [own target targetMem]
  decide

theorem policy_not_replaced :
    ¬∀ (organizationId namespaceId : Id) (input : PlacementPolicyUpdateRequest)
      (metadata : NamespaceActionMetadata) (room : Room Db Unit), Settled room.state →
      (∀ targets ∈ input.targets,
        (targets.map PlacementTargetCreateRequest.bucketConnectionId).Nodup) →
      ReplacesPolicy organizationId namespaceId input metadata room := by
  intro holds
  have replaces := holds 1 2 Replacing.request Replacing.metadata
    (Replacing.room (.ofRows [Replacing.completed])) Replacing.settled_completed Replacing.distinct
  obtain ⟨summary, after, committed, _⟩ := replaces.commits (Replacing.known _)
  have thrown : (updatePolicy 1 2 Replacing.request Replacing.metadata none
      (Replacing.room (.ofRows [Replacing.completed]))).1 =
        .error (.database "P2003" "foreign key") := by
    decide +kernel
  rw [committed] at thrown
  contradiction

end Mosp.Guarantees
