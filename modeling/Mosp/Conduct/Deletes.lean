import Mosp.Conduct.Reading
import Mosp.Conduct.Uploads

/-!
# Deletes and the worker under the contract

A delete claims its record, removes the object and closes the record; the
worker closes the records that were left in deletion.
-/

namespace Mosp.Conduct

open Mosp.Concurrency Mosp.Data Mosp.Sql Mosp.Database Mosp.Index Mosp.Services Mosp.Worker
open Mosp.System hiding Action

section

variable {mode : Mode} {constraints : Db → Option Failure} {caller : Nat} {phase : Phase}
  {known : Scene → Prop}

/-! ## Reading a record -/

/-- An active object as it was read. -/
structure ObjectKnown (object : ObjectRecord × ObjectLocation × BucketConnection) (scene : Scene) :
    Prop where
  record : RecordKnown object.1 object.2.1 scene
  bucket : object.2.2 ∈ scene.catalog.buckets

theorem lasting_object (mode : Mode) (object : ObjectRecord × ObjectLocation × BucketConnection) :
    Lasting mode (ObjectKnown object) :=
  fun before after preserves known =>
    ⟨lasting_record mode object.1 object.2.1 before after preserves known.record,
      lasting_bucket mode object.2.2 before after preserves known.bucket⟩

theorem activeObject_some {found : UploadService.RecordWithLocation}
    {object : ObjectRecord × ObjectLocation × BucketConnection}
    (active : activeObject (some found) = some object) :
    found.record = object.1 ∧ found.activeObjectLocation = some object.2 := by
  obtain ⟨record, activeLocation⟩ := found
  cases activeLocation with
  | none => simp [activeObject] at active
  | some entry =>
      simp only [activeObject] at active
      split at active
      · obtain rfl := Option.some.inj active
        exact ⟨rfl, rfl⟩
      · contradiction

/-- The active object of a record that was found is known. -/
theorem objectKnown_of_recordIn {before : Observation} {found : UploadService.RecordWithLocation}
    {object : ObjectRecord × ObjectLocation × BucketConnection}
    (recordIn : RecordIn before.shared.db found) (active : activeObject (some found) = some object) :
    ObjectKnown object (sceneOf before) := by
  obtain ⟨sameRecord, sameLocation⟩ := activeObject_some active
  obtain ⟨located, _⟩ := recordIn.located object.2 sameLocation
  constructor
  · apply recordKnown_of_mem _ located.location_mem
    rw [← sameRecord]
    exact recordIn.record_mem
  · exact located.bucket_mem

theorem conducts_findRecord {organizationId namespaceId : Id} {key : String}
    (steady : Steady mode caller known) :
    Conducts mode constraints caller phase known (query (findRecord organizationId namespaceId key))
      (Stays phase fun found scene => known scene ∧
        ∀ object, activeObject found = some object → ObjectKnown object scene)
      (Stays phase fun _ => known) := by
  apply Conducts.reads (.inr rfl) steady
  intro before _ _ _ _
  apply wp_findRecord
  intro found holds
  refine ⟨rfl, fun object active => ?_⟩
  cases found with
  | none => contradiction
  | some found => exact objectKnown_of_recordIn (holds found rfl).1 active

/-! ## Deleting -/

theorem knownAt_of_recordKnown {before : Observation} {record : ObjectRecord}
    {location : ObjectLocation} (known : RecordKnown record location (sceneOf before)) :
    KnownAt before.shared.db record location.id :=
  known.size

theorem conducts_claimDelete {organizationId namespaceId : Id} {record : ObjectRecord}
    {location : ObjectLocation} {notFound : Failure} {actor : DeleteActor}
    (deletes : mode.careful → mode.deletes) (lasting : Lasting mode known) :
    Conducts mode constraints caller .idle known
      ((transaction (claimDelete organizationId namespaceId record location notFound actor)).noting
        fun outcome => match outcome with
          | .ok _ => some (.deleting record.id location.id)
          | .error _ => none)
      (Stays (.deleting record.id location.id) fun _ => known) (Stays .idle fun _ => known) := by
  apply Conducts.moves_only (.inl rfl) lasting
  · exact fun _ => rfl
  · simp
  · intro before shown holds upheld
    apply Tx.wp_mono wp_claimDelete _ fun _ _ => trivial
    rintro _ state ⟨row, performs, sameId, pointer⟩ after rfl
    refine ⟨_, move_of_performs performs shown trivial (fun _ _ => rfl) (by simp) (by simp) (by simp),
      fun careful => ?_⟩
    have quiescent : Quiescent (.claim row) := trivial
    apply quiescent.respects
    · exact fun _ holds => holds
    · exact fun _ drew => by contradiction
    · rintro _ _ ⟨⟩
      exact .inr ⟨deletes careful, row, rfl, sameId, pointer⟩
    · simp

theorem respects_revert {before : Scene} {phases : List Phase} {catalog : Catalog} {nextId : Id}
    {record : ObjectRecord} {locationId : Id} :
    Respects mode before { before with phases, catalog, nextId } (.revert record)
      (.deleting record.id locationId) .idle where
  objects _ holds := holds
  draws _ drew := by contradiction
  opens _ actionEq := by contradiction
  completes _ _ actionEq := by contradiction
  uploads _ _ actionEq := by contradiction
  reverts _ actionEq := by
    cases actionEq
    exact ⟨⟨locationId, rfl⟩, nofun⟩
  finalizes _ _ actionEq := by contradiction
  migrates _ _ _ _ actionEq := by contradiction
  claims _ _ phaseEq := by contradiction
  verifies _ phaseEq := by contradiction

theorem conducts_revertDelete {organizationId : Id} {record : ObjectRecord} {locationId : Id}
    (lasting : Lasting mode known) :
    Conducts mode constraints caller (.deleting record.id locationId) known
      ((query (revertDelete organizationId record)).noting fun _ => some .idle)
      (Stays .idle fun _ => known) (Stays .idle fun _ => known) := by
  apply Conducts.moves_only (.inr rfl) lasting
  · exact fun _ => rfl
  · rintro _ _ ⟨⟩
    rfl
  · intro before shown holds upheld
    apply Tx.wp_mono wp_revertDelete _ fun _ _ => trivial
    rintro _ state ⟨action, performs, rest | ⟨row, revert, sameId⟩⟩ after rfl
    · subst rest
      refine ⟨_, move_of_performs performs shown trivial (fun _ _ => rfl) (by simp) (by simp) (by simp),
        fun _ => ?_⟩
      apply respects_rest
      · exact fun _ holds => holds
      · exact fun _ drew => by contradiction
      · simp
      · simp
    · subst revert
      refine ⟨_, move_of_performs performs shown trivial (fun _ _ => rfl) (by simp) (by simp) (by simp),
        fun _ => ?_⟩
      rw [← sameId]
      exact respects_revert

/-- What is known of a record once the object is gone that the call had claimed. -/
theorem doomed_of_removed {before after : Scene} {recordId : Id} {location : ObjectLocation}
    (upheld : Upheld mode before) (careful : mode.careful) (settles : Settles before after)
    (located : LocationKnown location before)
    (shown : before.Shows caller (.deleting recordId location.id)) (idle : after.Shows caller .idle) :
    Doomed location after := by
  have custody := upheld.custody careful
  obtain ⟨_, record, recordMem, recordId_, deleting, pointer, _⟩ :=
    custody.claimed caller recordId location.id shown
  constructor
  · exact settles.persists.locationKnown located
  · intro holder holderMem holderAt available
    rw [settles.catalog] at holderMem
    rw [upheld.consistent.pointer_unique holderMem recordMem holderAt pointer, deleting] at available
    contradiction
  · intro i other claim
    have was := settles.shown claim (by simp [Inert])
    obtain ⟨_, holder, holderMem, holderId, _, holderAt, _⟩ := custody.claimed i other location.id was
    have same := upheld.consistent.pointer_unique holderMem recordMem holderAt pointer
    rw [same, recordId_] at holderId
    subst holderId
    rw [custody.claimant i caller _ _ _ was shown] at claim
    have both := claim.symm.trans idle
    cases Option.some.inj both

theorem conducts_deleteClaimed {record : ObjectRecord} {location : ObjectLocation}
    {adapter : S3ProviderAdapter} {bucketName : String} (lasting : Lasting mode known)
    (knows : ∀ scene, known scene → LocationKnown location scene) :
    Conducts mode constraints caller (.deleting record.id location.id) known
      ((adapter.deleteObject bucketName location.physicalKey).noting fun outcome =>
        match outcome with
        | .ok _ => some .idle
        | .error _ => none)
      (Stays .idle fun _ scene => known scene ∧ (mode.careful → Doomed location scene))
      (Stays (.deleting record.id location.id) fun _ => known) := by
  apply Conducts.deleteObject _ lasting.steady lasting
  · intro before shown holds upheld careful _
    exact frees_claimed rfl upheld.toSound (upheld.custody careful) (knows _ holds) shown
  · intro before after shown holds upheld settles idle careful
    exact doomed_of_removed upheld careful settles (knows _ holds) shown idle
  · rintro (_ | _) _ ⟨⟩
    rfl

theorem respects_finalize {before : Scene} {catalog : Catalog} {nextId : Id}
    {record : ObjectRecord} {closed : ObjectLocation}
    (unclaimed : ∀ i recordId, ¬before.Shows i (.deleting recordId closed.id)) :
    Respects mode before { before with catalog, nextId } (.finalize record closed) phase phase where
  objects _ holds := holds
  draws _ drew := .inl drew
  opens _ actionEq := by contradiction
  completes _ _ actionEq := by contradiction
  uploads _ _ actionEq := by contradiction
  reverts _ actionEq := by contradiction
  finalizes _ _ actionEq := by
    cases actionEq
    exact unclaimed
  migrates _ _ _ _ actionEq := by contradiction
  claims _ _ _ := .inl rfl
  verifies _ _ := .inl rfl

/-- Closing a record disturbs nobody. -/
theorem calm_finalize {before : Observation} {state : State Db} {record : ObjectRecord}
    {closed : ObjectLocation} (upheld : Upheld mode (sceneOf before))
    (shown : (sceneOf before).Shows caller phase)
    (performs : Performs before.shared.state state (.finalize record closed))
    (unclaimed : mode.careful → ∀ i recordId,
      ¬(sceneOf before).Shows i (.deleting recordId closed.id)) :
    Calm mode caller (sceneOf before)
      { sceneOf before with catalog := catalogOf state.db, nextId := state.nextId } := by
  have move : Move caller (sceneOf before)
      { sceneOf before with catalog := catalogOf state.db, nextId := state.nextId }
      (.finalize record closed) phase phase :=
    { later := performs.later
      enabled := performs.enabled
      admitted := trivial
      catalog := performs.catalog
      own := shown
      phases := by
        obtain ⟨inside, at_⟩ := List.getElem?_eq_some_iff.mp shown
        rw [← at_]
        exact (List.set_getElem_self inside).symm
      hold := fun _ _ => (Int.add_zero _).symm
      size := fun organizationId namespaceId sizeBytes key phaseEq =>
        upheld.tokens.size caller organizationId namespaceId sizeBytes key (phaseEq ▸ shown)
      opens := by simp
      initiates := fun _ key phaseEq => .inl ⟨key, phaseEq⟩ }
  exact calm_of_move move upheld (fun careful => respects_finalize (unclaimed careful)) rfl

theorem leaves_finalizeDelete {organizationId namespaceId : Id} {record : ObjectRecord}
    {location : ObjectLocation} {notFound : Failure} {actor : DeleteActor}
    (steady : Steady mode caller known)
    (knows : ∀ scene, known scene → RecordKnown record location scene ∧
      (mode.careful → Doomed location scene)) :
    Leaves mode constraints caller phase known
      (transaction (finalizeDelete organizationId namespaceId record location notFound actor)) := by
  have calm : Conducts mode constraints caller phase known
      (transaction (finalizeDelete organizationId namespaceId record location notFound actor))
      (Stays phase fun _ scene => known scene ∧ True) (Stays phase fun _ => known) := by
    apply Conducts.calm (.inl rfl) steady
    intro before shown holds upheld _
    obtain ⟨recordKnown, doomed⟩ := knows _ holds
    apply Tx.wp_mono (wp_finalizeDelete upheld.consistent (knownAt_of_recordKnown recordKnown)) _
      fun _ _ => trivial
    rintro _ state ⟨row, closed, performs, sameId⟩
    refine ⟨calm_finalize upheld shown performs fun careful => ?_, trivial⟩
    rw [sameId]
    exact (doomed careful).unclaimed
  exact calm.weaken (fun _ holds => holds) (fun _ _ _ ⟨same, holds, _⟩ => ⟨same, holds⟩)
    fun _ _ _ thrown => thrown

theorem leaves_deleteActive {organizationId namespaceId : Id}
    {object : ObjectRecord × ObjectLocation × BucketConnection} {notFound unavailable : Failure}
    {actor : DeleteActor} (deletes : mode.careful → mode.deletes) (lasting : Lasting mode known)
    (knows : ∀ scene, known scene → ObjectKnown object scene) :
    Leaves mode constraints caller .idle known
      (deleteActive organizationId namespaceId object notFound unavailable actor) := by
  obtain ⟨record, location, bucket⟩ := object
  apply Conducts.bind_stays (conducts_claimDelete deletes lasting)
  intro _
  have removes : Conducts mode constraints caller (.deleting record.id location.id) known
      (do
        let adapter ← adapterFor organizationId bucket.providerConnectionId
        (adapter.deleteObject bucket.bucketName location.physicalKey).noting fun outcome =>
          match outcome with
          | .ok _ => some .idle
          | .error _ => none)
      (Stays .idle fun _ scene => known scene ∧ (mode.careful → Doomed location scene))
      (Stays (.deleting record.id location.id) fun _ => known) := by
    apply Conducts.bind_quiet quiet_adapterFor lasting.steady
    · exact fun adapter _ => conducts_deleteClaimed lasting fun _ holds => (knows _ holds).record.located
    · exact fun _ _ holds => ⟨rfl, holds⟩
  apply Conducts.bind_stays
  · apply Conducts.catch_stays removes
    intro error
    apply Conducts.bind_stays (conducts_revertDelete lasting)
    exact fun _ => Conducts.throw fun _ holds => ⟨rfl, holds⟩
  · intro _
    have lasting' := lasting.and (lasting_doomed mode location)
    apply Leaves.less (leaves_finalizeDelete lasting'.steady _)
    · exact fun _ holds => holds.1
    · exact fun _ holds => ⟨(knows _ holds.1).record, holds.2⟩

theorem conducts_accessibleObject {identity : ApiCredentialIdentity} {namespaceId : Id}
    {action : FolderGrantAction} {key : String} (lasting : Lasting mode known) :
    Conducts mode constraints caller phase known
      (ObjectIndexService.accessibleObject identity namespaceId action key)
      (Stays phase fun object scene => known scene ∧ ObjectKnown object scene)
      (Stays phase fun _ => known) := by
  apply Conducts.bind_stays (conducts_findRecord lasting.steady)
  intro found
  cases active : activeObject found with
  | none => exact Conducts.throw fun _ holds => ⟨rfl, holds.1⟩
  | some object =>
      have lasting' := lasting.and (lasting_object mode object)
      have steady' : Steady mode caller _ := lasting'.steady
      have checks : Conducts mode constraints caller phase
          (fun scene => known scene ∧ ObjectKnown object scene)
          (do
            if ← ObjectIndexService.canAccess identity namespaceId action key then
              return object
            else
              throw .storageObjectNotFound)
          (Stays phase fun object scene => known scene ∧ ObjectKnown object scene)
          (Stays phase fun _ => known) := by
        apply Conducts.bind_quiet quiet_canAccess steady'
        · intro allowed _
          apply Conducts.ite
          · exact fun _ => Conducts.pure fun _ holds => ⟨rfl, holds⟩
          · exact fun _ => Conducts.throw fun _ holds => ⟨rfl, holds.1⟩
        · exact fun _ _ holds => ⟨rfl, holds.1⟩
      exact checks.weaken (fun _ holds => ⟨holds.1, holds.2 object rfl⟩) (fun _ _ _ ends => ends)
        fun _ _ _ ends => ends

theorem leaves_delete {identity : ApiCredentialIdentity} {namespaceSlug key requestId : String}
    (deletes : mode.careful → mode.deletes) :
    Leaves mode constraints caller .idle (fun _ => True)
      (ObjectIndexService.delete identity namespaceSlug key requestId) := by
  have lasting := lasting_const mode True
  apply Leaves.bind (.quiet quiet_ownNamespace lasting.steady)
  intro found
  apply Conducts.bind_stays (conducts_accessibleObject lasting)
  intro object
  apply Leaves.less (leaves_deleteActive deletes (lasting.and (lasting_object mode object)) _)
  · exact fun _ holds => holds.1
  · exact fun _ holds => holds.2

theorem leaves_explorerDelete {organizationId : Id} {namespaceSlug key : String}
    {actor : DeleteActor} (deletes : mode.careful → mode.deletes) :
    Leaves mode constraints caller .idle (fun _ => True)
      (ObjectExplorerService.delete organizationId namespaceSlug key actor) := by
  have lasting := lasting_const mode True
  apply Leaves.bind (.quiet quiet_resolveNamespace lasting.steady)
  intro found
  have finds : Conducts mode constraints caller .idle (fun _ => True)
      (ObjectExplorerService.findActive organizationId found.id key)
      (Stays .idle fun object scene => True ∧ ObjectKnown object scene)
      (Stays .idle fun _ _ => True) := by
    apply Conducts.bind_stays (conducts_findRecord lasting.steady)
    intro row
    cases active : activeObject row with
    | none => exact Conducts.throw fun _ _ => ⟨rfl, trivial⟩
    | some object => exact Conducts.pure fun _ holds => ⟨rfl, trivial, holds.2 object rfl⟩
  apply Conducts.bind_stays finds
  intro object
  apply Leaves.less (leaves_deleteActive deletes (lasting.and (lasting_object mode object)) _)
  · exact fun _ holds => holds.1
  · exact fun _ holds => holds.2

end

end Mosp.Conduct
