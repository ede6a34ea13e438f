import Mosp.Conduct.Sessions

/-!
# Explorer uploads under the contract

`ObjectExplorerService.upload` reserves bytes without a session: what it holds
is in its phase only, together with the key it has drawn.
-/

namespace Mosp.Conduct

open Mosp.Concurrency Mosp.Data Mosp.Sql Mosp.Database Mosp.Index Mosp.Services Mosp.Worker
open Mosp.System hiding Action

section

variable {mode : Mode} {constraints : Db → Option Failure} {caller : Nat} {phase : Phase}
  {known : Scene → Prop}

/-! ## The placement target -/

theorem candidates_found {organizationId namespaceId : Id} {check : Db → Option Failure}
    {time : Time} {state : State Db} :
    Tx.wp check time (PlacementService.candidates organizationId namespaceId)
      (fun found after => after = state ∧ ∀ entry ∈ found, entry.2 ∈ state.db.bucketConnection)
      (fun _ => True) state := by
  simp only [PlacementService.candidates, Program.bind_eq, Program.pure_eq, Tx.wp_bind, Tx.wp_read]
  apply wp_findMany
  intro buckets selected
  refine ⟨rfl, fun entry member => ?_⟩
  obtain ⟨target, _, found⟩ := List.mem_filterMap.mp member
  obtain ⟨bucket, bucketFound, rfl⟩ := Option.map_eq_some_iff.mp found
  exact (selected bucket (List.mem_of_find?_eq_some bucketFound)).1

/-- The target that is selected has a bucket of the catalog. -/
theorem conducts_selectTarget {organizationId namespaceId : Id} {sizeBytes : Int}
    (lasting : Lasting mode known) :
    Conducts mode constraints caller phase known
      (PlacementService.selectTarget organizationId namespaceId sizeBytes)
      (Stays phase fun selection scene => known scene ∧
        ∀ target ∈ selection, target.bucketConnection ∈ scene.catalog.buckets)
      (Stays phase fun _ => known) := by
  have finds : Conducts mode constraints caller phase known
      (query (PlacementService.candidates organizationId namespaceId))
      (Stays phase fun found scene => known scene ∧ ∀ entry ∈ found, entry.2 ∈ scene.catalog.buckets)
      (Stays phase fun _ => known) := by
    apply Conducts.reads (.inr rfl) lasting.steady
    intro before _ _ _ _
    exact candidates_found
  apply Conducts.bind_stays finds
  intro found
  have lasting' : Lasting mode fun scene =>
      known scene ∧ ∀ entry ∈ found, entry.2 ∈ scene.catalog.buckets :=
    lasting.and fun before after preserves holds entry member =>
      lasting_bucket mode entry.2 before after preserves (holds entry member)
  apply Conducts.weaken (Conducts.quiet quiet_select lasting'.steady)
  · exact fun _ holds => holds
  · rintro selection new scene ⟨same, among, holds, buckets⟩
    refine ⟨same, holds, fun target selected => ?_⟩
    obtain ⟨entry, member, sameBucket⟩ := among target selected
    exact sameBucket ▸ buckets entry member
  · exact fun _ _ _ ⟨same, holds, _⟩ => ⟨same, holds⟩

/-! ## Reserving and releasing -/

theorem draws_storing {namespaceId : Id} :
    Draws .idle fun uuid => .storing (.object namespaceId uuid) where
  hold _ _ _ := rfl
  size _ _ _ _ _ := by simp
  initiates _ _ _ phaseEq := by contradiction
  draws _ _ drew := by
    obtain rfl := Option.some.inj drew
    exact .inr rfl
  claims _ _ _ := by simp
  verifies _ _ := by simp

theorem conducts_explorerReserve {organizationId : Id} {found : VirtualNamespace}
    {target : PlacementTargetSelection} {sizeBytes : Int} {key : PhysicalKey} (size : 0 ≤ sizeBytes)
    (lasting : Lasting mode known)
    (knows : ∀ scene, known scene → found ∈ scene.catalog.namespaces) :
    Conducts mode constraints caller (.storing key) known
      ((transaction (ObjectExplorerService.reserveTransaction organizationId found target
        sizeBytes)).noting fun outcome => match outcome with
          | .ok _ => some (.reserved organizationId found.id sizeBytes key)
          | .error _ => none)
      (Stays (.reserved organizationId found.id sizeBytes key) fun _ => known)
      (Stays (.storing key) fun _ => known) := by
  apply Conducts.moves_only (.inl rfl) lasting
  · exact fun _ => rfl
  · simp
  · intro before shown holds upheld
    apply Tx.wp_mono (wp_explorerReserve (knows _ holds) size) _ fun _ _ => trivial
    rintro _ state ⟨performs, admitted⟩ after rfl
    refine ⟨_, move_of_performs performs shown admitted ?_ ?_ (by simp) (by simp), fun _ => ?_⟩
    · exact fun _ _ => (Int.zero_add _).symm
    · rintro _ _ _ _ ⟨⟩
      exact size
    · have quiescent : Quiescent (.reserve organizationId found.id sizeBytes) := trivial
      apply quiescent.respects
      · exact fun _ holds => holds
      · exact fun _ drew => .inl drew
      · simp
      · simp

theorem conducts_releaseReservation {organizationId namespaceId : Id} {sizeBytes : Int}
    {key : PhysicalKey} (lasting : Lasting mode known) :
    Conducts mode constraints caller (.reserved organizationId namespaceId sizeBytes key) known
      (ObjectExplorerService.releaseReservation organizationId namespaceId sizeBytes key)
      (Stays (.storing key) fun _ => known)
      (Stays (.reserved organizationId namespaceId sizeBytes key) fun _ => known) := by
  apply Conducts.moves_only (.inl rfl) lasting
  · exact fun _ => rfl
  · simp
  · intro before shown holds upheld
    have size := upheld.tokens.size caller _ _ _ _ shown
    apply Tx.wp_mono (wp_explorerRelease size) _ fun _ _ => trivial
    rintro _ state performs after rfl
    refine ⟨_, move_of_performs performs shown trivial ?_ (by simp) (by simp) (by simp), fun _ => ?_⟩
    · intro organization namespace_
      simp only [heldBy, Action.hold, inNamespace]
      split <;> omega
    · have quiescent : Quiescent (.release organizationId namespaceId sizeBytes) := trivial
      apply quiescent.respects
      · exact fun _ holds => holds
      · exact fun _ drew => .inl drew
      · simp
      · simp

/-! ## Storing -/

/-- What a call knows that has stored an object under its own key. -/
def OwnStored (mode : Mode) (caller : Nat) (phase : Phase) (address : Address) (scene : Scene) :
    Prop :=
  mode.careful → scene.Shows caller phase ∧ scene.objects.Holds address

theorem steady_ownStored {address : Address} (drew : keyOf phase = some address.physicalKey) :
    Steady mode caller (OwnStored mode caller phase address) := by
  intro before after relies _ stored careful
  obtain ⟨shown, holds⟩ := stored careful
  have keeps := relies.keeps careful
  exact ⟨keeps.own phase shown, keeps.object phase address.physicalKey shown drew address rfl holds⟩

theorem Steady.and {first second : Scene → Prop} (left : Steady mode caller first)
    (right : Steady mode caller second) :
    Steady mode caller fun scene => first scene ∧ second scene :=
  fun before after relies upheld holds =>
    ⟨left before after relies upheld holds.1, right before after relies upheld holds.2⟩

/-- An object that was stored is there. -/
theorem holds_of_stored {choice : Choice} {objects : Objects} {address : Address}
    (answered : (execProvider.stored choice objects address).1 = .ok ()) :
    (execProvider.stored choice objects address).2.Holds address := by
  unfold execProvider.stored at answered ⊢
  cases failure : choice.failure with
  | some error => simp [failure] at answered
  | none => exact Objects.holds_put_self objects address choice.metadata

theorem conducts_putObject {adapter : S3ProviderAdapter} {bucketName : String} {key : PhysicalKey}
    {contentType : Option String} {length : Int} (steady : Steady mode caller known) :
    Conducts mode constraints caller phase known
      (adapter.putObject bucketName key contentType length)
      (Stays phase fun _ scene => known scene ∧
        OwnStored mode caller phase (adapter.address bucketName key) scene)
      (Stays phase fun _ => known) := by
  apply Conducts.perform steady rfl
  intro before shown holds upheld _ choice answer world ran
  obtain ⟨answerEq, rfl⟩ := Prod.mk.inj ran
  have kept := (@harmless_put (adapter.address bucketName key) contentType length choice
    before.shared.clock before.shared.objects).1
  have quiet : Step mode caller (sceneOf before) (sceneOf (before.answer caller none
        { before.shared with objects := (execProvider.stored choice before.shared.objects
          (adapter.address bucketName key)).2 })) ∧
      Relies mode caller (sceneOf before) (sceneOf (before.answer caller none
        { before.shared with objects := (execProvider.stored choice before.shared.objects
          (adapter.address bucketName key)).2 })) :=
    step_quiet caller upheld rfl (Nat.le_refl _) kept
  obtain ⟨step, relies⟩ := quiet
  have holds' := steady _ _ relies step.upheld holds
  cases answer with
  | error failure =>
      exact ⟨step, known, holds', Conducts.throw fun _ holds => ⟨rfl, holds⟩⟩
  | ok value =>
      refine ⟨step, _, ⟨holds', fun _ => ⟨shown, ?_⟩⟩, Conducts.pure fun _ holds => ⟨rfl, holds⟩⟩
      exact holds_of_stored answerEq

theorem conducts_store {adapter : S3ProviderAdapter} {bucketName : String} {key : PhysicalKey}
    {contentType : Option String} {sizeBytes : Int} (drew : keyOf phase = some key)
    (steady : Steady mode caller known) :
    Conducts mode constraints caller phase known
      (ObjectExplorerService.store adapter bucketName key contentType sizeBytes)
      (Stays phase fun metadata scene => metadata.sizeBytes = sizeBytes ∧ known scene ∧
        OwnStored mode caller phase (adapter.address bucketName key) scene)
      (Stays phase fun _ => known) := by
  apply Conducts.bind_stays (conducts_putObject steady)
  intro _
  have steady' : Steady mode caller fun scene => known scene ∧
      OwnStored mode caller phase (adapter.address bucketName key) scene :=
    steady.and (steady_ownStored drew)
  apply Conducts.bind_quiet (.call (harmless_of_same fun _ _ _ => rfl)) steady'
  · intro metadata _
    apply Conducts.bind_quiet .throwIf steady'
    · intro _ same
      exact Conducts.pure fun _ holds => ⟨rfl, not_not.mp same, holds⟩
    · exact fun _ _ holds => ⟨rfl, holds.1⟩
  · exact fun _ _ holds => ⟨rfl, holds.1⟩

/-- The object of the own key is stored in the bucket of the target. -/
theorem stored_of_ownStored {scene : Scene} {adapter : S3ProviderAdapter} {bucket : BucketConnection}
    {key : PhysicalKey} (careful : mode.careful)
    (connected : adapter.providerConnectionId = bucket.providerConnectionId)
    (member : bucket ∈ scene.catalog.buckets)
    (stored : OwnStored mode caller phase (adapter.address bucket.bucketName key) scene) :
    scene.Stored mode bucket.id key := by
  intro _ other otherMem sameId
  rw [Table.eq_of_id_eq otherMem member sameId, ← connected]
  exact (stored careful).2

theorem respects_upload {before : Scene} {phases : List Phase} {catalog : Catalog} {nextId : Id}
    {sizeBytes : Int} {publication : Publication} {old : Phase}
    (drew : keyOf old = some publication.location.physicalKey)
    (stored : before.Stored mode publication.location.bucketConnectionId
      publication.location.physicalKey) :
    Respects mode before { before with phases, catalog, nextId } (.upload sizeBytes publication)
      old .idle where
  objects _ holds := holds
  draws _ drew := by contradiction
  opens _ actionEq := by contradiction
  completes _ _ actionEq := by contradiction
  uploads _ _ actionEq := by
    cases actionEq
    exact ⟨drew, rfl, stored⟩
  reverts _ actionEq := by contradiction
  finalizes _ _ actionEq := by contradiction
  migrates _ _ _ _ actionEq := by contradiction
  claims _ _ phaseEq := by contradiction
  verifies _ phaseEq := by contradiction

theorem conducts_explorerCommit {organizationId namespaceId : Id} {logicalKey : String}
    {target : PlacementTargetSelection} {uuid : Id} {sizeBytes : Int} {contentType : Option String}
    {metadata : ProviderObjectMetadata} {objectRecordId locationId : Id} {actor : DeleteActor}
    {adapter : S3ProviderAdapter} (size : metadata.sizeBytes = sizeBytes)
    (connected : adapter.providerConnectionId = target.bucketConnection.providerConnectionId)
    (reserved : phase = .reserved organizationId namespaceId sizeBytes (.object namespaceId uuid))
    (lasting : Lasting mode known)
    (knows : ∀ scene, known scene → target.bucketConnection ∈ scene.catalog.buckets ∧
      uuid < scene.nextId) :
    Conducts mode constraints caller phase
      (fun scene => known scene ∧ OwnStored mode caller phase
        (adapter.address target.bucketConnection.bucketName (.object namespaceId uuid)) scene)
      ((transaction (ObjectExplorerService.commitTransaction organizationId namespaceId logicalKey
        target (.object namespaceId uuid) sizeBytes contentType metadata objectRecordId locationId
        actor)).noting fun outcome => match outcome with
          | .ok _ => some .idle
          | .error _ => none)
      (Stays .idle fun _ => known) (Stays phase fun _ => known) := by
  have drew : keyOf phase = some (.object namespaceId uuid) := by rw [reserved]; rfl
  apply Conducts.execute (.inl rfl) (lasting.steady.and (steady_ownStored drew))
  · rintro before shown ⟨holds, stored⟩ upheld _
    subst reserved
    obtain ⟨bucketMem, below⟩ := knows _ holds
    have nonneg := upheld.tokens.size caller _ _ _ _ shown
    apply Tx.wp_mono (wp_commitTransaction nonneg size ⟨uuid, below, rfl⟩) _ fun _ _ => trivial
    rintro _ state ⟨publication, performs, organization, namespace_, bucket, key⟩ after rfl
    rw [sceneOf_answer shown]
    have move : Move caller (sceneOf before)
        { phases := (sceneOf before).phases.set caller .idle
          catalog := catalogOf state.db
          nextId := state.nextId
          objects := (sceneOf before).objects } (.upload sizeBytes publication)
        (.reserved organizationId namespaceId sizeBytes (.object namespaceId uuid)) .idle := by
      apply move_of_performs performs shown trivial
      · intro ofOrganization ofNamespace
        simp only [heldBy, Action.hold, inNamespace, organization, namespace_]
        split <;> omega
      · simp
      · simp
      · simp
    have step := move.step upheld fun careful => by
      apply respects_upload
      · rw [key]
        rfl
      · rw [key, bucket]
        exact stored_of_ownStored careful connected bucketMem stored
    exact ⟨step, rfl, lasting _ _ step.preserves holds⟩
  · rintro before shown ⟨holds, stored⟩ upheld error after rfl
    exact ⟨(Calm.refl upheld).toStep, rfl, holds⟩

/-- The bytes are returned and the object is removed, as far as that succeeds. -/
theorem aborts_uncommitted {organizationId namespaceId : Id} {sizeBytes : Int} {key : PhysicalKey}
    {bucket : BucketConnection} {error : Failure} {α : Type} (lasting : Lasting mode known) :
    Aborts mode constraints caller (.reserved organizationId namespaceId sizeBytes key) known
      (do
        (ObjectExplorerService.releaseReservation organizationId namespaceId sizeBytes key).swallow
        Program.swallow do
          let adapter ← adapterFor organizationId bucket.providerConnectionId
          adapter.deleteObject bucket.bucketName key
        throw error : Service α) := by
  have removes : ∀ now, keyOf now = some key → Aborts mode constraints caller now known
      (do
        Program.swallow do
          let adapter ← adapterFor organizationId bucket.providerConnectionId
          adapter.deleteObject bucket.bucketName key
        throw error : Service α) := by
    intro now drew
    apply Aborts.bind
    · apply Leaves.swallow
      apply Leaves.bind (.quiet quiet_adapterFor lasting.steady)
      exact fun adapter => Conducts.deletes_own drew lasting
    · exact fun _ => .throw
  have released : Conducts mode constraints caller
      (.reserved organizationId namespaceId sizeBytes key) known
      (ObjectExplorerService.releaseReservation organizationId namespaceId sizeBytes key).swallow
      (fun _ now scene => keyOf now = some key ∧ known scene) fun _ _ _ => False := by
    apply Conducts.catch_stays
    · apply Conducts.bind_stays (conducts_releaseReservation lasting)
      exact fun _ => Conducts.pure fun _ holds => ⟨rfl, holds⟩
    · exact fun _ => Conducts.pure fun _ holds => ⟨rfl, holds⟩
  apply Conducts.bind (released.weaken (fun _ holds => holds) (fun _ _ _ returned => returned)
    fun _ _ _ impossible => impossible.elim)
  rintro _ now view ⟨shown, drew, holds⟩
  exact removes now drew view ⟨shown, holds⟩

theorem runs_uploadAt {organizationId : Id} {found : VirtualNamespace} {logicalKey : String}
    {sizeBytes : Int} {contentType : Option String} {actor : DeleteActor}
    {target : PlacementTargetSelection} (size : 0 ≤ sizeBytes) (lasting : Lasting mode known)
    (knows : ∀ scene, known scene → found ∈ scene.catalog.namespaces ∧
      target.bucketConnection ∈ scene.catalog.buckets) :
    Runs mode constraints caller .idle known
      (ObjectExplorerService.uploadAt organizationId found logicalKey sizeBytes contentType actor
        target) := by
  unfold ObjectExplorerService.uploadAt
  simp only [Program.bind_eq, Program.tryCatch_eq, Program.pure_eq, Program.throw_eq]
  apply Runs.bind_at (Conducts.randomUUIDNoting draws_storing lasting)
  intro uuid
  have lasting1 := lasting.and (lasting_below mode uuid)
  have steady1 : Steady mode caller _ := lasting1.steady
  apply Runs.bind (conducts_explorerReserve size lasting1 fun _ holds => (knows _ holds.1).1)
  intro _
  apply Runs.bind
  · apply Aborts.catching (Conducts.quiet quiet_adapterFor steady1)
    intro error
    exact Aborts.bind (conducts_releaseReservation lasting1) fun _ => .throw
  · intro adapter
    apply Conducts.assuming
    intro connected
    apply Runs.bind
    · apply Aborts.catching (conducts_store rfl steady1)
      intro error
      apply Aborts.bind (conducts_releaseReservation lasting1)
      intro _
      apply Aborts.bind (Leaves.swallow (Conducts.deletes_own rfl lasting1))
      exact fun _ => .throw
    · intro metadata
      apply Conducts.assuming
      intro sameSize
      have steady2 : Steady mode caller fun scene => (known scene ∧ uuid < scene.nextId) ∧
          OwnStored mode caller
            (.reserved organizationId found.id sizeBytes (.object found.id uuid))
            (adapter.address target.bucketConnection.bucketName (.object found.id uuid)) scene :=
        steady1.and (steady_ownStored rfl)
      apply Runs.bind (Conducts.randomUUID steady2)
      intro objectRecordId
      apply Runs.bind (Conducts.randomUUID steady2)
      intro locationId
      apply Runs.bind
      · apply Aborts.catching (conducts_explorerCommit sameSize connected rfl lasting1 fun scene holds =>
          ⟨(knows scene holds.1).2, holds.2⟩)
        exact fun error => aborts_uncommitted lasting1
      · intro _
        apply Runs.of
        unfold ObjectExplorerService.lastModifiedOrNow
        apply Leaves.bind
        · split
          · exact .pure
          · exact .quiet .currentTime steady1
        · exact fun _ => .pure

theorem runs_upload {config : ProxyTransferConfig} {organizationId : Id}
    {namespaceSlug logicalKey : String} {sizeBytes : Int} {contentType : Option String}
    {actor : DeleteActor} :
    Runs mode constraints caller .idle (fun _ => True)
      (ObjectExplorerService.upload config organizationId namespaceSlug logicalKey sizeBytes
        contentType actor) := by
  unfold ObjectExplorerService.upload
  simp only [Program.bind_eq]
  apply Runs.bind_quiet .throwIf (lasting_const mode True).steady
  intro _ fits
  have size : 0 ≤ sizeBytes := Int.not_lt.mp fun negative => fits (.inl negative)
  apply Runs.bind (conducts_findNamespace (lasting_const mode True).steady)
  intro row
  cases row with
  | none => exact .throw
  | some found =>
      have lasting := lasting_namespace mode found
      have steady : Steady mode caller _ := lasting.steady
      apply Runs.stronger _ fun scene holds => holds.2 found rfl
      apply Runs.bind Leaves.throwIf
      intro _
      apply Runs.bind_quiet (.query .findFirst) steady
      intro existing _
      apply Runs.bind Leaves.throwIf
      intro _
      apply Runs.bind (conducts_selectTarget lasting)
      intro target
      cases target with
      | none => exact .throw
      | some target =>
          have lasting' := lasting.and (lasting_bucket mode target.bucketConnection)
          apply Runs.stronger (runs_uploadAt size lasting' fun _ holds => holds)
          exact fun _ holds => ⟨holds.1, holds.2 target rfl⟩

theorem runs_createFolder {config : ProxyTransferConfig} {organizationId : Id}
    {namespaceSlug folderPrefix : String} {actor : DeleteActor} :
    Runs mode constraints caller .idle (fun _ => True)
      (ObjectExplorerService.createFolder config organizationId namespaceSlug folderPrefix
        actor) := by
  unfold ObjectExplorerService.createFolder
  simp only [Program.bind_eq]
  apply Runs.bind_quiet (.query .findFirst) (lasting_const mode True).steady
  intro existing _
  split
  · exact .pure
  · apply Conducts.bind (runs_upload.weaken (fun _ holds => holds) (fun _ _ _ returned => returned)
      fun _ _ _ thrown => thrown)
    exact fun _ _ => Conducts.pure fun _ _ => trivial

end

end Mosp.Conduct
