import Mosp.Conduct.Removal
import Mosp.Index.ObjectTransactions

/-!
# Upload sessions under the contract

`UploadService`: what each of its programs does, command by command, between
the steps of the others.
-/

namespace Mosp.Conduct

open Mosp.Concurrency Mosp.Data Mosp.Sql Mosp.Database Mosp.Index Mosp.Services Mosp.Worker
open Mosp.System hiding Action

/-! ## Reading a session -/

/-- A session with its bucket, as they were read. -/
structure FoundKnown (found : FoundSession) (scene : Scene) : Prop where
  session : SessionKnown found.1 scene
  bucket : found.2 ∈ scene.catalog.buckets
  own : found.2.id = found.1.bucketConnectionId

theorem lasting_found (mode : Mode) (found : FoundSession) : Lasting mode (FoundKnown found) :=
  fun before after preserves known =>
    ⟨lasting_session mode found.1 before after preserves known.session,
      lasting_bucket mode found.2 before after preserves known.bucket, known.own⟩

theorem foundKnown_of_foundIn {mode : Mode} {before : Observation} {found : FoundSession}
    (sound : Sound mode (sceneOf before)) (foundIn : FoundIn before.shared.db found) :
    FoundKnown found (sceneOf before) where
  session := sound.sessionKnown foundIn.session_mem
  bucket := foundIn.bucket_mem
  own := foundIn.own

theorem knownSession_of_sessionKnown {before : Observation} {session : UploadSession}
    (known : SessionKnown session (sceneOf before)) : KnownSession before.shared.db session :=
  known.terms

/-- A session that was found.  If it had ended, it stays as it ended. -/
structure SessionFound (found : FoundSession) (scene : Scene) : Prop
    extends FoundKnown found scene where
  ended : found.1.state ≠ .initiated → Ended found.1.id found.1.state scene

theorem lasting_endedAs (mode : Mode) (uploadId : Id) {state : UploadSessionState}
    (final : state ≠ .initiated) : Lasting mode (Ended uploadId state) :=
  fun _ _ preserves => preserves.toProgresses.ended uploadId state final

theorem lasting_completed (mode : Mode) (uploadId : Id) :
    Lasting mode (Ended uploadId .completed) :=
  lasting_endedAs mode uploadId (by decide)

theorem lasting_sessionFound (mode : Mode) (found : FoundSession) :
    Lasting mode (SessionFound found) :=
  fun before after preserves known =>
    { toFoundKnown := lasting_found mode found before after preserves known.toFoundKnown
      ended := fun final =>
        lasting_endedAs mode found.1.id final before after preserves (known.ended final) }

section

variable {mode : Mode} {constraints : Db → Option Failure} {caller : Nat} {phase : Phase}
  {known : Scene → Prop}

theorem conducts_findSession {identity : ApiCredentialIdentity} {uploadId : Id}
    (steady : Steady mode caller known) :
    Conducts mode constraints caller phase known (query (UploadService.findSession identity uploadId))
      (Stays phase fun found scene => known scene ∧ ∀ entry ∈ found,
        entry.1.id = uploadId ∧ SessionFound entry scene)
      (Stays phase fun _ => known) := by
  apply Conducts.reads (.inr rfl) steady
  intro before _ _ upheld _
  apply wp_findSession
  intro found holds
  refine ⟨rfl, fun entry entryEq => ?_⟩
  obtain ⟨foundIn, named, _⟩ := holds entry entryEq
  exact ⟨named, foundKnown_of_foundIn upheld.toSound foundIn,
    fun _ => upheld.toSound.ended foundIn.session_mem⟩

/-- From a session that was found or not. -/
theorem conducts_found {α : Type} {program : Service (Option FoundSession)}
    {rest : Option FoundSession → Service α} {uploadId : Id} {post : α → Scene → Prop}
    (first : Conducts mode constraints caller phase known program
      (Stays phase fun found scene => known scene ∧ ∀ entry ∈ found,
        entry.1.id = uploadId ∧ SessionFound entry scene)
      (Stays phase fun _ => known))
    (none_ : Fails mode constraints caller phase known (rest none))
    (some_ : ∀ found, found.1.id = uploadId → Conducts mode constraints caller phase
      (fun scene => known scene ∧ SessionFound found scene) (rest (some found))
      (Stays phase fun value scene => (known scene ∧ SessionFound found scene) ∧ post value scene)
      (Stays phase fun _ scene => known scene ∧ SessionFound found scene)) :
    Conducts mode constraints caller phase known (program.bind rest)
      (Stays phase fun value scene => known scene ∧ post value scene)
      (Stays phase fun _ => known) := by
  apply Conducts.bind_stays first
  intro found
  cases found with
  | none =>
      exact none_.weaken (fun _ holds => holds.1) (fun _ _ _ impossible => impossible.elim)
        fun _ _ _ thrown => thrown
  | some found =>
      have goesOn : found.1.id = uploadId → Conducts mode constraints caller phase
          (fun scene => known scene ∧ SessionFound found scene) (rest (some found))
          (Stays phase fun value scene => known scene ∧ post value scene)
          (Stays phase fun _ => known) :=
        fun named => (some_ found named).weaken (fun _ holds => holds)
          (fun _ _ _ ends => ⟨ends.1, ends.2.1.1, ends.2.2⟩) fun _ _ _ ends => ⟨ends.1, ends.2.1⟩
      apply (Conducts.assuming goesOn).weaken _ (fun _ _ _ ends => ends) fun _ _ _ ends => ends
      exact fun _ holds => ⟨(holds.2 found rfl).1, holds.1, (holds.2 found rfl).2⟩

theorem leaves_found {α : Type} {program : Service (Option FoundSession)}
    {rest : Option FoundSession → Service α} {uploadId : Id}
    (first : Conducts mode constraints caller phase known program
      (Stays phase fun found scene => known scene ∧ ∀ entry ∈ found,
        entry.1.id = uploadId ∧ SessionFound entry scene)
      (Stays phase fun _ => known))
    (none_ : Fails mode constraints caller phase known (rest none))
    (some_ : ∀ found, Leaves mode constraints caller phase
      (fun scene => known scene ∧ SessionFound found scene) (rest (some found))) :
    Leaves mode constraints caller phase known (program.bind rest) :=
  (conducts_found first none_ fun found _ => (some_ found).weaken (fun _ holds => holds)
    (fun _ _ _ ends => ⟨ends.1, ends.2, trivial⟩) fun _ _ _ ends => ends).weaken
      (fun _ holds => holds) (fun _ _ _ ends => ⟨ends.1, ends.2.1⟩) fun _ _ _ ends => ends

/-! ## Ending a session -/

theorem leaves_endInitiated {ended : UploadSessionState} {organizationId namespaceId uploadId : Id}
    (terminal : ended = .aborted ∨ ended = .expired) (steady : Steady mode caller known) :
    Leaves mode constraints caller phase known
      (transaction (UploadService.endInitiated ended organizationId namespaceId uploadId)) := by
  apply Conducts.plainOne (.inl rfl) steady
  intro before _ _
  apply Tx.wp_mono (wp_endInitiated terminal) _ fun _ _ => trivial
  rintro _ after ⟨action, performs, rfl | ⟨session, rfl⟩⟩
  · exact ⟨_, .rest, performs⟩
  · exact ⟨_, .closeSession, performs⟩

theorem leaves_releaseReservation {organizationId namespaceId uploadId : Id}
    (steady : Steady mode caller known) :
    Leaves mode constraints caller phase known
      (UploadService.releaseReservation organizationId namespaceId uploadId) :=
  leaves_endInitiated (.inl rfl) steady

theorem leaves_throwIfExpired {session : UploadSession} (steady : Steady mode caller known) :
    Leaves mode constraints caller phase known (UploadService.throwIfExpired session) := by
  apply Leaves.bind (.quiet .currentTime steady)
  intro now
  apply Leaves.ite
  · exact fun _ => (leaves_endInitiated (.inr rfl) steady).bind fun _ => .throw
  · exact fun _ => .pure

theorem leaves_removeUpload {adapter : S3ProviderAdapter} {session : UploadSession}
    {bucket : BucketConnection} {finalized : Bool} (lasting : Lasting mode known)
    (knows : ∀ scene, known scene → SessionKnown session scene) :
    Leaves mode constraints caller phase known
      (UploadService.removeUpload adapter session bucket finalized) := by
  unfold UploadService.removeUpload
  split
  · exact .quiet (.call (harmless_of_same fun _ _ _ => rfl)) lasting.steady
  · exact Conducts.deletes_session lasting knows

/-- A session has ended without an object, or is gone. -/
def GivenUp (uploadId : Id) (scene : Scene) : Prop :=
  Ended uploadId .aborted scene ∨ Ended uploadId .expired scene

theorem lasting_givenUp (mode : Mode) (uploadId : Id) : Lasting mode (GivenUp uploadId) :=
  fun before after preserves => Or.imp
    (lasting_endedAs mode uploadId (by decide) before after preserves)
    (lasting_endedAs mode uploadId (by decide) before after preserves)

theorem conducts_abortTransaction {identity : ApiCredentialIdentity} {session : UploadSession}
    (lasting : Lasting mode known) (knows : ∀ scene, known scene → SessionKnown session scene) :
    Conducts mode constraints caller phase known
      (transaction (UploadService.abortTransaction identity session))
      (Stays phase fun _ scene => known scene ∧ GivenUp session.id scene)
      (Stays phase fun _ => known) := by
  apply Conducts.calm (.inl rfl) lasting.steady
  intro before shown holds upheld _
  apply Tx.wp_mono (wp_abortTransaction (knownSession_of_sessionKnown (knows _ holds))) _
    fun _ _ => trivial
  rintro _ after ⟨row, performs, sameId, aborted⟩
  have calm := Plain.closeSession.calm_performs upheld shown performs
  have rowMem : row ∈ (catalogOf after.db).sessions := by
    rw [performs.catalog]
    exact Table.mem_put_self _ _
  have ended := calm.upheld.toSound.ended rowMem
  rw [sameId, aborted] at ended
  exact ⟨calm, .inl ended⟩

theorem conducts_abort {identity : ApiCredentialIdentity} {uploadId : Id}
    (lasting : Lasting mode known) :
    Conducts mode constraints caller phase known (UploadService.abort identity uploadId)
      (Stays phase fun _ scene => known scene ∧ GivenUp uploadId scene)
      (Stays phase fun _ => known) := by
  apply conducts_found (conducts_findSession lasting.steady) .throw
  rintro ⟨session, bucket⟩ rfl
  have lasting' := lasting.and (lasting_sessionFound mode (session, bucket))
  apply Conducts.ite
  · intro closed
    apply Conducts.pure
    intro scene holds
    refine ⟨rfl, holds, closed.imp ?_ ?_⟩
    · intro aborted
      exact aborted ▸ holds.2.ended (by rw [aborted]; decide)
    · intro expired
      exact expired ▸ holds.2.ended (by rw [expired]; decide)
  · intro _
    apply Conducts.ite
    · exact fun _ => Conducts.throw fun _ holds => ⟨rfl, holds⟩
    · intro _
      apply Conducts.bind_stays
      · apply Leaves.catchWith
        · apply Leaves.bind (.quiet quiet_adapterFor lasting'.steady)
          exact fun adapter => leaves_removeUpload lasting' fun _ holds => holds.2.session
        · exact fun _ => .throw
      · exact fun _ => conducts_abortTransaction lasting' fun _ holds => holds.2.session

theorem leaves_abort {identity : ApiCredentialIdentity} {uploadId : Id}
    (lasting : Lasting mode known) :
    Leaves mode constraints caller phase known (UploadService.abort identity uploadId) :=
  (conducts_abort lasting).weaken (fun _ holds => holds) (fun _ _ _ ends => ⟨ends.1, ends.2.1⟩)
    fun _ _ _ ends => ends

/-! ## Starting a session -/

theorem draws_uploadId : Draws .idle fun uploadId => .initiating uploadId none where
  hold _ _ _ := rfl
  size _ _ _ _ _ := by simp
  initiates _ _ _ phaseEq := by
    simp only [Phase.initiating.injEq] at phaseEq
    exact .inr phaseEq.1.symm
  draws _ _ drew := by contradiction
  claims _ _ _ := by simp
  verifies _ _ := by simp

theorem draws_physicalKey {uploadId namespaceId : Id} :
    Draws (.initiating uploadId none) fun uuid =>
      .initiating uploadId (some (.object namespaceId uuid)) where
  hold _ _ _ := rfl
  size _ _ _ _ _ := by simp
  initiates _ _ _ phaseEq := by
    simp only [Phase.initiating.injEq] at phaseEq
    exact .inl ⟨none, phaseEq.1 ▸ rfl⟩
  draws _ _ drew := by
    obtain rfl := Option.some.inj drew
    exact .inr rfl
  claims _ _ _ := by simp
  verifies _ _ := by simp

/-- What `initiate` shows once it has drawn the key of its session. -/
abbrev initiatingPhase (session : UploadSession) : Phase :=
  .initiating session.id (some session.physicalKey)

theorem respects_openSession {mode : Mode} {before : Scene} {phases : List Phase}
    {catalog : Catalog} {nextId : Id} {session : UploadSession} {old : Phase}
    (drew : keyOf old = some session.physicalKey) :
    Respects mode before { before with phases, catalog, nextId } (.openSession session) old
      .idle where
  objects _ holds := holds
  draws _ drew := by contradiction
  opens _ actionEq := by
    cases actionEq
    exact ⟨drew, rfl⟩
  completes _ _ actionEq := by contradiction
  uploads _ _ actionEq := by contradiction
  reverts _ actionEq := by contradiction
  finalizes _ _ actionEq := by contradiction
  migrates _ _ _ _ actionEq := by contradiction
  claims _ _ phaseEq := by contradiction
  verifies _ phaseEq := by contradiction

/-- A session as the database has created it. -/
def CreatedFrom (session row : UploadSession) : Prop :=
  ∃ time, row = { session with createdAt := time, updatedAt := time }

theorem conducts_reserveTransaction {identity : ApiCredentialIdentity} {found : VirtualNamespace}
    {target : PlacementTargetSelection} {input : UploadInitiateRequest} {session : UploadSession}
    (lasting : Lasting mode known) (open_ : session.state = .initiated)
    (bytes : session.reservedBytes = input.sizeBytes)
    (own : session.organizationId = identity.organizationId ∧ session.namespaceId = found.id ∧
      session.createdByCredentialId = identity.credentialId)
    (key : ∃ uuid, session.physicalKey = .object session.namespaceId uuid)
    (knows : ∀ scene, known scene → found ∈ scene.catalog.namespaces ∧ session.id < scene.nextId ∧
      session.physicalKey.uuid < scene.nextId) :
    Conducts mode constraints caller (initiatingPhase session) known
      ((transaction (UploadService.reserveTransaction identity found target input session)).noting
        fun _ => some .idle)
      (Stays .idle fun row scene => known scene ∧ SessionKnown row scene ∧
        CreatedFrom session row)
      (Stays .idle fun _ => known) := by
  apply Conducts.moves (.inl rfl) lasting
  · exact fun _ => rfl
  · rintro _ _ ⟨⟩
    rfl
  · intro before shown holds upheld
    obtain ⟨foundMem, idBelow, keyBelow⟩ := knows _ holds
    obtain ⟨uuid, keyEq⟩ := key
    have keyKnown : ∃ uuid < before.shared.state.nextId,
        session.physicalKey = .object session.namespaceId uuid :=
      ⟨uuid, by rw [keyEq] at keyBelow; exact keyBelow, keyEq⟩
    apply Tx.wp_mono (wp_reserveTransaction foundMem open_ bytes own idBelow keyKnown) _
      fun _ _ => trivial
    rintro row state ⟨rowEq, performs, admitted⟩ after rfl
    have rowId : row.id = session.id := by rw [rowEq]
    have rowKey : row.physicalKey = session.physicalKey := by rw [rowEq]
    have move : Move caller (sceneOf before)
        { phases := (sceneOf before).phases.set caller .idle
          catalog := catalogOf state.db
          nextId := state.nextId
          objects := (sceneOf before).objects } (.openSession row) (initiatingPhase session)
        .idle := by
      apply move_of_performs performs shown admitted
      · exact fun _ _ => rfl
      · simp
      · rintro _ ⟨⟩
        exact ⟨⟨_, by rw [rowId]⟩, nofun⟩
      · simp
    refine ⟨⟨_, move, fun _ => ?_⟩, (move.sound upheld.toSound).sessionKnown ?_, _, rowEq⟩
    · exact respects_openSession (by rw [rowKey]; rfl)
    · rw [move.catalog]
      exact Table.mem_put_self _ _

theorem quiet_abandonUnreserved {identity : ApiCredentialIdentity} {bucket : BucketConnection}
    {session : UploadSession} :
    Quiet (fun _ => True) (UploadService.reserve.abandonUnreserved identity bucket session) := by
  unfold UploadService.reserve.abandonUnreserved
  split
  · exact quiet_abandonMultipartUpload
  · exact .pure trivial

theorem conducts_reserve {identity : ApiCredentialIdentity} {found : VirtualNamespace}
    {target : PlacementTargetSelection} {input : UploadInitiateRequest} {session : UploadSession}
    (initiating : phase = initiatingPhase session) (lasting : Lasting mode known)
    (open_ : session.state = .initiated)
    (bytes : session.reservedBytes = input.sizeBytes)
    (own : session.organizationId = identity.organizationId ∧ session.namespaceId = found.id ∧
      session.createdByCredentialId = identity.credentialId)
    (key : ∃ uuid, session.physicalKey = .object session.namespaceId uuid)
    (knows : ∀ scene, known scene → found ∈ scene.catalog.namespaces ∧ session.id < scene.nextId ∧
      session.physicalKey.uuid < scene.nextId) :
    Conducts mode constraints caller phase known
      (UploadService.reserve identity found target input session)
      (Stays .idle fun row scene => known scene ∧ SessionKnown row scene ∧
        CreatedFrom session row)
      (Stays .idle fun _ => known) := by
  subst initiating
  apply Conducts.catch_fails (conducts_reserveTransaction lasting open_ bytes own key knows)
  intro error
  apply Fails.after (.quiet quiet_abandonUnreserved lasting.steady)
  intro _
  split
  · exact .throw
  · exact .throw

theorem leaves_releaseAbandoned {identity : ApiCredentialIdentity} {bucket : BucketConnection}
    {session : UploadSession} {namespaceId uploadId : Id} {error : Failure}
    (steady : Steady mode caller known) :
    Fails mode constraints caller phase known
      (do
        UploadService.abandonSession identity.organizationId bucket session
        (UploadService.releaseReservation identity.organizationId namespaceId uploadId).swallow
        throw (.uploadProviderError error.message) : Service UploadSessionSummary) := by
  apply Fails.after (.quiet quiet_abandonSession steady)
  intro _
  apply Fails.after (leaves_releaseReservation steady).swallow
  exact fun _ => .throw

/-- A session has the terms that a request asks for. -/
structure Asked (identity : ApiCredentialIdentity) (input : UploadInitiateRequest)
    (session : UploadSession) : Prop
    extends Resumes session input,
      KeyedBy identity identity.namespaceId input.idempotencyKey session

/-- A session tells what was asked for. -/
theorem Asked.request_eq {identity other : ApiCredentialIdentity}
    {input again : UploadInitiateRequest} {session : UploadSession}
    (asked : Asked identity input session) (asked' : Asked other again session) : again = input := by
  have sizeBytes : (again.sizeBytes : Int) = input.sizeBytes :=
    asked'.reservedBytes.symm.trans asked.reservedBytes
  cases input
  cases again
  simp only [UploadInitiateRequest.mk.injEq]
  exact ⟨asked'.logicalKey.symm.trans asked.logicalKey, Int.ofNat_inj.mp sizeBytes,
    asked'.contentType.symm.trans asked.contentType, asked'.checksum.symm.trans asked.checksum,
    asked'.idempotencyKey.symm.trans asked.idempotencyKey,
    asked'.allowOverwrite.symm.trans asked.allowOverwrite⟩

/-- A row with the terms of a session is the session up to its progress. -/
theorem eq_of_terms {session row : UploadSession} (terms : sessionTerms row = sessionTerms session) :
    row = { session with
      providerUploadFinalized := row.providerUploadFinalized
      state := row.state
      completedAt := row.completedAt
      updatedAt := row.updatedAt } :=
  congrArg (fun terms : UploadSession =>
    { terms with
      providerUploadFinalized := row.providerUploadFinalized
      state := row.state
      completedAt := row.completedAt
      updatedAt := row.updatedAt }) terms

theorem asked_of_terms {identity : ApiCredentialIdentity} {input : UploadInitiateRequest}
    {session row : UploadSession} (terms : sessionTerms row = sessionTerms session)
    (asked : Asked identity input session) : Asked identity input row := by
  rw [eq_of_terms terms]
  exact { asked with }

theorem summarizes_of_terms {session row : UploadSession} {summary : UploadSessionSummary}
    (terms : sessionTerms row = sessionTerms session) (summarizes : Summarizes session summary) :
    Summarizes row summary := by
  rw [eq_of_terms terms]
  exact { summarizes with }

/-- The session of a summary is the one that a request asks for. -/
def Opened (identity : ApiCredentialIdentity) (input : UploadInitiateRequest)
    (summary : UploadSessionSummary) (scene : Scene) : Prop :=
  ∃ session, SessionKnown session scene ∧ Asked identity input session ∧
    Summarizes session summary

theorem lasting_opened (mode : Mode) (identity : ApiCredentialIdentity)
    (input : UploadInitiateRequest) (summary : UploadSessionSummary) :
    Lasting mode (Opened identity input summary) := by
  rintro before after preserves ⟨session, known, asked, summarizes⟩
  exact ⟨session, lasting_session mode session before after preserves known, asked, summarizes⟩

theorem tells_initiateAt {identity : ApiCredentialIdentity} {found : VirtualNamespace}
    {input : UploadInitiateRequest} {target : PlacementTargetSelection} (lasting : Lasting mode known)
    (knows : ∀ scene, known scene → found ∈ scene.catalog.namespaces)
    (own : found.id = identity.namespaceId) :
    Tells mode constraints caller .idle known
      (UploadService.initiateAt identity found input target) (Opened identity input) := by
  unfold UploadService.initiateAt
  simp only [Program.bind_eq]
  apply Tells.bind_at (Conducts.randomUUIDNoting draws_uploadId lasting)
  intro uploadId
  have lasting1 := lasting.and (lasting_below mode uploadId)
  apply Tells.bind (Leaves.quiet .currentTime lasting1.steady)
  intro now
  apply Tells.bind_at (Conducts.randomUUIDNoting draws_physicalKey lasting1)
  intro uuid
  have lasting2 := lasting1.and (lasting_below mode uuid)
  apply Tells.bind (Leaves.quiet quiet_startMultipart lasting2.steady)
  intro providerUploadId
  apply Tells.bind (conducts_reserve _ lasting2 _ _ _ _ _)
  · intro session
    have steady : ∀ created : Prop, Steady mode caller _ := fun created =>
      (lasting2.and ((lasting_session mode session).and (lasting_const mode created))).steady
    apply Tells.weaken (Tells.of_stays (Conducts.catch_fails (Conducts.quiet quiet_presign
      (steady _)) fun _ => leaves_releaseAbandoned (steady _))) fun _ holds => holds
    rintro summary scene ⟨summarizes, _, sessionKnown, time, rfl⟩
    exact ⟨_, sessionKnown, ⟨⟨rfl, rfl, rfl, rfl, rfl⟩, ⟨rfl, own, rfl, rfl⟩⟩, summarizes⟩
  · rfl
  · rfl
  · rfl
  · exact ⟨rfl, rfl, rfl⟩
  · exact ⟨uuid, rfl⟩
  · exact fun scene holds => ⟨knows scene holds.1.1, holds.1.2, holds.2⟩

theorem conducts_findNamespace {condition : VirtualNamespace → Bool}
    (steady : Steady mode caller known) :
    Conducts mode constraints caller phase known (query (virtualNamespace.findFirst condition))
      (Stays phase fun found scene => known scene ∧ ∀ row ∈ found, row ∈ scene.catalog.namespaces)
      (Stays phase fun _ => known) := by
  apply Conducts.reads (.inr rfl) steady
  intro before _ _ _ _
  rw [Tx.wp_findFirst]
  exact ⟨rfl, fun row found => (Table.find?_some found).1⟩

theorem conducts_findIdempotent {identity : ApiCredentialIdentity} {namespaceId : Id}
    {idempotencyKey : String} (steady : Steady mode caller known) :
    Conducts mode constraints caller phase known
      (query (UploadService.findIdempotent identity namespaceId idempotencyKey))
      (Stays phase fun found scene => known scene ∧ ∀ entry ∈ found,
        SessionKnown entry.1 scene ∧ KeyedBy identity namespaceId idempotencyKey entry.1)
      (Stays phase fun _ => known) := by
  apply Conducts.reads (.inr rfl) steady
  intro before _ _ upheld _
  apply wp_findIdempotent
  intro found holds
  refine ⟨rfl, fun entry entryEq => ?_⟩
  obtain ⟨foundIn, keyed⟩ := holds entry entryEq
  exact ⟨upheld.toSound.sessionKnown foundIn.session_mem, keyed⟩

theorem tells_resume {identity : ApiCredentialIdentity} {existing : FoundSession}
    {input : UploadInitiateRequest} :
    Tells mode constraints caller phase
      (fun scene => SessionKnown existing.1 scene ∧
        KeyedBy identity identity.namespaceId input.idempotencyKey existing.1)
      (UploadService.resume existing input) (Opened identity input) := by
  have lasting := (lasting_session mode existing.1).and (lasting_const mode
    (KeyedBy identity identity.namespaceId input.idempotencyKey existing.1))
  apply Tells.weaken (Tells.quiet quiet_resume lasting.steady) fun _ holds => holds
  rintro summary scene ⟨⟨summarizes, resumes⟩, sessionKnown, keyed⟩
  exact ⟨existing.1, sessionKnown, { resumes, keyed with }, summarizes⟩

theorem tells_initiate {identity : ApiCredentialIdentity} {namespaceSlug : String}
    {input : UploadInitiateRequest} :
    Tells mode constraints caller .idle (fun _ => True)
      (UploadService.initiate identity namespaceSlug input) (Opened identity input) := by
  unfold UploadService.initiate
  simp only [Program.bind_eq]
  apply Tells.bind (conducts_findNamespace (lasting_const mode True).steady)
  intro row
  cases row with
  | none => exact .throw
  | some found =>
      have lasting := lasting_namespace mode found
      have steady : Steady mode caller _ := lasting.steady
      apply Tells.weaken _ (fun scene holds => holds.2 found rfl) fun _ _ told => told
      apply Tells.bind_quiet .throwIf steady
      intro _ open_
      have own : found.id = identity.namespaceId := not_not.mp (not_or.mp open_).1
      apply Tells.bind_quiet quiet_canAccess steady
      intro allowed _
      apply Tells.bind Leaves.throwIf
      intro _
      apply Tells.bind Leaves.throwIf
      intro _
      apply Tells.bind (conducts_findIdempotent steady)
      intro existing
      cases existing with
      | some existing =>
          exact tells_resume.weaken (fun _ holds => own ▸ holds.2 existing rfl) fun _ _ told => told
      | none =>
          apply Tells.weaken _ (fun _ holds => holds.1) fun _ _ told => told
          apply Tells.bind_quiet (.query .findFirst) steady
          intro existingObject _
          apply Tells.bind Leaves.throwIf
          intro _
          apply Tells.bind_quiet quiet_selectTarget steady
          intro target _
          cases target with
          | none => exact .throw
          | some target => exact tells_initiateAt lasting (fun _ holds => holds) own

/-! ## Completing a session -/

theorem leaves_finalizeMultipart {identity : ApiCredentialIdentity} {session : UploadSession}
    {bucket : BucketConnection} {adapter : S3ProviderAdapter}
    {multipartParts : Option (List CompletedPart)} (steady : Steady mode caller known) :
    Leaves mode constraints caller phase known
      (UploadService.finalizeMultipart identity session bucket adapter multipartParts) := by
  unfold UploadService.finalizeMultipart
  split
  · apply Leaves.bind (.quiet (.call (harmless_of_same fun _ _ _ => rfl)) steady)
    intro finalized
    apply Leaves.bind
    · apply Leaves.runIf
      unfold S3ProviderAdapter.completeMultipartUpload
      exact Leaves.ite (fun _ => .throw) fun _ => .quiet (.call harmless_complete) steady
    · intro _
      apply Leaves.bind
      · apply Conducts.plainOne (.inr rfl) steady
        intro before _ _
        apply Tx.wp_mono wp_markFinalized _ fun _ _ => trivial
        rintro _ after ⟨action, performs, rfl | ⟨row, rfl⟩⟩
        · exact ⟨_, .rest, performs⟩
        · exact ⟨_, .progress, performs⟩
      · exact fun _ => Leaves.throwIf.bind fun _ => .pure
  · exact .pure

/-- The phase once the provider has reported the object of a session. -/
def headPhase (session : UploadSession) (metadata : ProviderObjectMetadata) : Phase :=
  if UploadService.isVerified session metadata then .verified session.id else .idle

/-- The object that the provider reports for a session is stored. -/
theorem stored_of_reported {scene : Scene} {session : UploadSession} {bucket : BucketConnection}
    (found : FoundKnown (session, bucket) scene)
    (holds : scene.objects.Holds
      { providerConnectionId := bucket.providerConnectionId
        bucketName := bucket.bucketName
        physicalKey := session.physicalKey }) {row : UploadSession}
    (member : row ∈ scene.catalog.sessions) (sameId : row.id = session.id) :
    scene.Stored mode row.bucketConnectionId row.physicalKey := by
  intro _ other otherMem otherId
  have terms := found.session.terms row member sameId
  have sameBucket : row.bucketConnectionId = session.bucketConnectionId :=
    (congrArg UploadSession.bucketConnectionId terms :)
  have sameKey : row.physicalKey = session.physicalKey :=
    (congrArg UploadSession.physicalKey terms :)
  have same : other = bucket :=
    Table.eq_of_id_eq otherMem found.bucket (otherId.trans (sameBucket.trans found.own.symm))
  rw [same, sameKey]
  exact holds

theorem holds_of_reported {choice : Choice} {clock : Time} {objects : Objects} {address : Address}
    {metadata : ProviderObjectMetadata}
    (reported : (execProvider choice clock objects (.headObject address)).1 = .ok metadata) :
    objects.Holds address := by
  simp only [execProvider, execProvider.reported] at reported
  unfold Objects.Holds
  cases failure : choice.failure with
  | some error => simp [failure] at reported
  | none =>
      cases at_ : objects address with
      | none => simp [failure, at_] at reported
      | some stored => rfl

/-- A call notes that the object of its session is stored. -/
theorem step_verified {before : Observation} {session : UploadSession} {bucket : BucketConnection}
    (upheld : Upheld mode (sceneOf before)) (shown : (sceneOf before).Shows caller .idle)
    (found : FoundKnown (session, bucket) (sceneOf before))
    (holds : before.shared.objects.Holds
      { providerConnectionId := bucket.providerConnectionId
        bucketName := bucket.bucketName
        physicalKey := session.physicalKey }) :
    Conduct.Step mode caller (sceneOf before)
      (sceneOf (before.answer caller (some (.verified session.id)) before.shared)) := by
  have move : Move caller (sceneOf before)
      (sceneOf (before.answer caller (some (.verified session.id)) before.shared)) .rest .idle
      (.verified session.id) :=
    move_of_performs (.rest (Nat.le_refl _) rfl) shown trivial (fun _ _ => rfl) (by simp) (by simp) (by simp)
  apply move.step upheld
  intro careful
  apply respects_rest
  · exact fun _ holds => holds
  · exact fun _ drew => by contradiction
  · simp
  · rintro uploadId ⟨⟩
    exact .inr ⟨found.session.below, found.session.opened,
      fun row member sameId => stored_of_reported found holds member sameId⟩

theorem conducts_headObject {session : UploadSession} {bucket : BucketConnection}
    {adapter : S3ProviderAdapter} (connected : adapter.providerConnectionId = bucket.providerConnectionId)
    (lasting : Lasting mode known)
    (knows : ∀ scene, known scene → FoundKnown (session, bucket) scene) :
    Conducts mode constraints caller .idle known
      ((adapter.headObject bucket.bucketName session.physicalKey).noting fun outcome =>
        match outcome with
        | .ok metadata => if UploadService.isVerified session metadata then
            some (.verified session.id) else none
        | .error _ => none)
      (fun metadata new scene => new = headPhase session metadata ∧ known scene)
      (Stays .idle fun _ => known) := by
  unfold S3ProviderAdapter.headObject provider
  rw [noting_attempt]
  apply Conducts.perform lasting.steady rfl
  intro before shown holds upheld _ choice answer world ran
  have reported : (execProvider choice before.shared.clock before.shared.objects
      (.headObject (adapter.address bucket.bucketName session.physicalKey))).1 = answer :=
    congrArg Prod.fst ran
  obtain ⟨-, rfl⟩ := Prod.mk.inj ran
  have found := knows _ holds
  cases answer with
  | error failure =>
      refine ⟨(Calm.refl upheld).toStep, known, holds, ?_⟩
      exact Conducts.throw fun scene holds => ⟨rfl, holds⟩
  | ok metadata =>
      have holdsObject := holds_of_reported reported
      unfold S3ProviderAdapter.address at holdsObject
      rw [connected] at holdsObject
      by_cases verified : UploadService.isVerified session metadata = true
      · simp only [verified, if_true]
        have step := step_verified upheld shown found holdsObject
        refine ⟨step, known, lasting _ _ step.preserves holds, ?_⟩
        exact Conducts.pure fun scene holds => ⟨by simp [headPhase, verified], holds⟩
      · simp only [verified]
        refine ⟨(Calm.refl upheld).toStep, known, holds, ?_⟩
        exact Conducts.pure fun scene holds => ⟨by simp [headPhase, verified], holds⟩

theorem conducts_headSession {identity : ApiCredentialIdentity} {session : UploadSession}
    {bucket : BucketConnection} {multipartParts : Option (List CompletedPart)}
    (lasting : Lasting mode known)
    (knows : ∀ scene, known scene → FoundKnown (session, bucket) scene) :
    Conducts mode constraints caller .idle known
      (UploadService.headSession identity session bucket multipartParts)
      (fun value new scene => new = headPhase session value.2.2 ∧ known scene)
      (Stays .idle fun _ => known) := by
  apply Conducts.catch_fails
  · apply Conducts.bind_quiet quiet_adapterFor lasting.steady
    · intro adapter connected
      apply Conducts.bind_stays (leaves_finalizeMultipart lasting.steady)
      intro finalized
      apply Conducts.bind_at (conducts_headObject connected lasting knows)
      exact fun metadata => Conducts.pure fun _ holds => ⟨rfl, holds⟩
    · exact fun _ _ holds => ⟨rfl, holds⟩
  · intro error
    split
    · exact .throw
    · exact .throw

/-- A location that an overwrite has replaced and that will not be used again. -/
def Discarded (mode : Mode) (replaced : UploadService.ReplacedLocation) (scene : Scene) : Prop :=
  ∃ location : ObjectLocation, location.physicalKey = replaced.physicalKey ∧
    (mode.careful → Doomed location scene)

theorem lasting_discarded (mode : Mode) (replaced : UploadService.ReplacedLocation) :
    Lasting mode (Discarded mode replaced) := by
  rintro before after preserves ⟨location, sameKey, doomed⟩
  exact ⟨location, sameKey, lasting_doomed mode location before after preserves doomed⟩

/-- The location that a publication replaces is discarded. -/
theorem doomed_of_published {before after : Scene} {session : UploadSession}
    {publication : Publication} {old : ObjectRecord} {location : ObjectLocation} {was now : Phase}
    (move : Move caller before after (.complete session publication) was now)
    (sound : Sound mode before) (custody : Custody mode before)
    (claims : ∀ recordId locationId, now ≠ .deleting recordId locationId)
    (existing : old ∈ publication.existing) (locationMem : location ∈ before.catalog.locations)
    (pointer : old.activeObjectLocationId = some location.id) : Doomed location after := by
  obtain ⟨_, _, ready, _⟩ := move.enabled
  obtain ⟨oldMem, oldId, _⟩ := ready.existing old existing
  constructor
  · exact move.persists.locationKnown ⟨location, locationMem, rfl⟩
  · intro record member points _
    rw [move.catalog] at member
    rcases Table.mem_put.mp member with rfl | ⟨inTable, differs⟩
    · rw [ready.pointer, Option.some.injEq] at points
      exact ready.freshLocation location locationMem points.symm
    · rw [sound.consistent.pointer_unique inTable oldMem points pointer] at differs
      exact differs oldId
  · intro i recordId shown
    by_cases ofCaller : i = caller
    · subst ofCaller
      exact claims _ _ (move.shows_caller.mp shown)
    · obtain ⟨_, record, recordMem, _, deleting, recordAt, _⟩ :=
        custody.claimed i recordId location.id ((move.shows_other ofCaller).mp shown)
      rw [sound.consistent.pointer_unique recordMem oldMem recordAt pointer] at deleting
      exact ready.passed old existing deleting

theorem respects_complete {before : Scene} {phases : List Phase} {catalog : Catalog} {nextId : Id}
    {session : UploadSession} {publication : Publication} :
    Respects mode before { before with phases, catalog, nextId } (.complete session publication)
      (.verified session.id) .idle where
  objects _ holds := holds
  draws _ drew := by contradiction
  opens _ actionEq := by contradiction
  completes _ _ actionEq := by
    cases actionEq
    rfl
  uploads _ _ actionEq := by contradiction
  reverts _ actionEq := by contradiction
  finalizes _ _ actionEq := by contradiction
  migrates _ _ _ _ actionEq := by contradiction
  claims _ _ phaseEq := by contradiction
  verifies _ phaseEq := by contradiction

theorem conducts_completeTransaction {identity : ApiCredentialIdentity} {session : UploadSession}
    {metadata : ProviderObjectMetadata} {multipartParts : Option (List CompletedPart)}
    {objectRecordId locationId : Id} (size : metadata.sizeBytes = session.reservedBytes)
    (lasting : Lasting mode known) (knows : ∀ scene, known scene → SessionKnown session scene) :
    Conducts mode constraints caller (.verified session.id) known
      ((transaction (UploadService.completeTransaction identity session metadata multipartParts
        objectRecordId locationId)).noting fun _ => some .idle)
      (Stays .idle fun replaced scene => known scene ∧ Ended session.id .completed scene ∧
        ∀ entry ∈ replaced, Discarded mode entry scene)
      (Stays .idle fun _ => known) := by
  apply Conducts.moves (.inl rfl) lasting
  · exact fun _ => rfl
  · rintro _ _ ⟨⟩
    rfl
  · intro before shown holds upheld
    have found := knows _ holds
    apply Tx.wp_mono (wp_completeTransaction (knownSession_of_sessionKnown found) found.bytes size) _
      fun _ _ => trivial
    rintro replaced state ⟨row, publication, performs, rowId, replaces⟩ after rfl
    rw [← rowId] at shown
    have move : Move caller (sceneOf before)
        { phases := (sceneOf before).phases.set caller .idle
          catalog := catalogOf state.db
          nextId := state.nextId
          objects := (sceneOf before).objects } (.complete row publication) (.verified row.id)
        .idle := by
      apply move_of_performs performs shown trivial
      · exact fun _ _ => rfl
      · simp
      · simp
      · simp
    have rowMem : row ∈ (catalogOf state.db).sessions := by
      rw [performs.catalog]
      exact Table.mem_put_self _ _
    have completed : row.state = .completed := performs.enabled.2.1
    have ended := (move.sound upheld.toSound).ended rowMem
    rw [completed] at ended
    rw [← rowId]
    refine ⟨⟨_, move, fun _ => respects_complete⟩, ended, fun entry entryEq => ?_⟩
    obtain ⟨location, bucket, located, ⟨old, existing, oldMem, pointer⟩, rfl⟩ :=
      replaces entry entryEq
    exact ⟨location, rfl, fun careful => doomed_of_published move upheld.toSound
      (upheld.custody careful) nofun existing located.location_mem pointer⟩

theorem leaves_deleteRetainedLocation {organizationId : Id}
    {replaced : UploadService.ReplacedLocation} (lasting : Lasting mode known)
    (knows : ∀ scene, known scene → Discarded mode replaced scene) :
    Leaves mode constraints caller phase known
      (UploadService.deleteRetainedLocation organizationId replaced) := by
  apply Leaves.bind (.quiet quiet_adapterFor lasting.steady)
  intro adapter
  apply Conducts.deleteObject_stays lasting.steady lasting
  intro before _ holds upheld careful _
  obtain ⟨location, sameKey, doomed⟩ := knows _ holds
  show Frees (sceneOf before) caller False replaced.physicalKey
  rw [← sameKey]
  exact frees_doomed (upheld.custody careful) (doomed careful)

theorem leaves_cleanupFinalizedProviderObject {identity : ApiCredentialIdentity}
    {session : UploadSession} {bucket : BucketConnection} (lasting : Lasting mode known)
    (knows : ∀ scene, known scene → SessionKnown session scene) :
    Leaves mode constraints caller phase known
      (UploadService.cleanupFinalizedProviderObject identity session bucket) := by
  apply Leaves.bind (.quiet quiet_adapterFor lasting.steady)
  intro adapter
  apply Leaves.bind (Conducts.deletes_session lasting knows)
  exact fun _ => leaves_releaseReservation lasting.steady

theorem leaves_cleanupFailedUpload {adapter : Option S3ProviderAdapter} {session : UploadSession}
    {bucket : BucketConnection} {finalized : Bool} (lasting : Lasting mode known)
    (knows : ∀ scene, known scene → SessionKnown session scene) :
    Leaves mode constraints caller phase known
      (UploadService.cleanupFailedUpload adapter session bucket finalized) := by
  apply Leaves.ensuring
  · cases adapter with
    | none => exact .pure
    | some adapter => exact leaves_removeUpload lasting knows
  · exact leaves_releaseReservation lasting.steady

theorem conducts_commit {identity : ApiCredentialIdentity} {session : UploadSession}
    {bucket : BucketConnection} {metadata : ProviderObjectMetadata}
    {multipartParts : Option (List CompletedPart)} {finalized : Bool}
    (size : metadata.sizeBytes = session.reservedBytes) (lasting : Lasting mode known)
    (knows : ∀ scene, known scene → SessionKnown session scene) :
    Conducts mode constraints caller (.verified session.id) known
      (UploadService.commit identity session bucket metadata multipartParts finalized)
      (Stays .idle fun _ scene => known scene ∧ Ended session.id .completed scene)
      (Stays .idle fun _ => known) := by
  unfold UploadService.commit
  simp only [Program.bind_eq]
  apply Conducts.bind_sure (Conducts.randomUUID lasting.steady)
  intro objectRecordId
  apply Conducts.bind_sure (Conducts.randomUUID lasting.steady)
  intro locationId
  apply Conducts.catch_fails
  · apply Conducts.bind_stays (conducts_completeTransaction size lasting knows)
    intro replaced
    cases replaced with
    | none => exact Conducts.pure fun _ holds => ⟨rfl, holds.1, holds.2.1⟩
    | some replaced =>
        have lasting' := (lasting.and (lasting_completed mode session.id)).and
          (lasting_discarded mode replaced)
        apply Conducts.weaken (leaves_deleteRetainedLocation lasting' fun _ holds => holds.2).swallow
        · exact fun _ holds => ⟨⟨holds.1, holds.2.1⟩, holds.2.2 replaced rfl⟩
        · exact fun _ _ _ ends => ⟨ends.1, ends.2.1⟩
        · exact fun _ _ _ ends => ⟨ends.1, ends.2.1.1⟩
  · intro error
    apply Fails.after
    · apply Leaves.runIf
      exact (leaves_cleanupFinalizedProviderObject lasting knows).swallow
    · exact fun _ => .throw

theorem size_of_verified {session : UploadSession} {metadata : ProviderObjectMetadata}
    (verified : UploadService.isVerified session metadata = true) :
    metadata.sizeBytes = session.reservedBytes := by
  unfold UploadService.isVerified at verified
  simp only [Bool.and_eq_true, beq_iff_eq] at verified
  exact verified.1

/-- The session of a summary is completed. -/
def CompletedAs (uploadId : Id) (summary : UploadSessionSummary) (scene : Scene) : Prop :=
  Ended uploadId .completed scene ∧ ∃ session, SessionKnown session scene ∧
    session.id = uploadId ∧ Summarizes session summary

theorem lasting_completedAs (mode : Mode) (uploadId : Id) (summary : UploadSessionSummary) :
    Lasting mode (CompletedAs uploadId summary) := by
  rintro before after preserves ⟨ended, session, known, named, summarizes⟩
  exact ⟨lasting_completed mode uploadId before after preserves ended, session,
    lasting_session mode session before after preserves known, named, summarizes⟩

theorem conducts_completeInitiated {identity : ApiCredentialIdentity} {session : UploadSession}
    {bucket : BucketConnection} {input : UploadCompleteRequest} (lasting : Lasting mode known)
    (knows : ∀ scene, known scene → FoundKnown (session, bucket) scene) :
    Conducts mode constraints caller .idle known
      (UploadService.completeInitiated identity session bucket input)
      (Stays .idle fun summary scene => known scene ∧ CompletedAs session.id summary scene)
      (Stays .idle fun _ => known) := by
  apply Conducts.bind_stays Leaves.throwIf
  intro _
  apply Conducts.bind_stays Leaves.ofExcept
  intro multipartParts
  apply Conducts.bind_at (conducts_headSession lasting knows)
  rintro ⟨adapter, finalized, metadata⟩
  unfold headPhase
  dsimp only
  split
  · rename_i verified
    have sessionKnown : ∀ scene, known scene → SessionKnown session scene :=
      fun scene holds => (knows scene holds).session
    apply Conducts.bind_stays (conducts_commit (size_of_verified verified) lasting sessionKnown)
    intro _
    apply Conducts.bind_quiet quiet_toSummary (lasting.and (lasting_completed mode session.id)).steady
    · intro summary made
      apply Conducts.pure
      rintro scene ⟨holds, ended⟩
      exact ⟨rfl, holds, ended, session, sessionKnown scene holds, rfl, made.uploadId, made.key,
        made.sizeBytes⟩
    · exact fun _ _ holds => ⟨rfl, holds.1⟩
  · apply Conducts.bind_stays
    · apply Leaves.swallow
      apply leaves_cleanupFailedUpload lasting
      exact fun scene holds => (knows scene holds).session
    · exact fun _ => Conducts.throw fun _ holds => ⟨rfl, holds⟩

theorem conducts_complete {identity : ApiCredentialIdentity} {uploadId : Id}
    {input : UploadCompleteRequest} (lasting : Lasting mode known) :
    Conducts mode constraints caller .idle known
      (UploadService.complete identity uploadId input)
      (Stays .idle fun summary scene => known scene ∧ CompletedAs uploadId summary scene)
      (Stays .idle fun _ => known) := by
  apply conducts_found (conducts_findSession lasting.steady) .throw
  rintro ⟨session, bucket⟩ rfl
  have lasting' := lasting.and (lasting_sessionFound mode (session, bucket))
  apply Conducts.ite
  · intro completed
    apply Conducts.weaken (Conducts.quiet quiet_toSummary lasting'.steady)
    · exact fun _ holds => holds
    · rintro summary _ scene ⟨same, summarizes, holds⟩
      have ended : Ended session.id .completed scene :=
        completed ▸ holds.2.ended (by rw [completed]; decide)
      exact ⟨same, holds, ended, session, holds.2.session, rfl, summarizes⟩
    · exact fun _ _ _ ends => ends
  · intro _
    apply Conducts.ite
    · exact fun _ => Conducts.throw fun _ holds => ⟨rfl, holds⟩
    · intro _
      apply Conducts.bind_stays (leaves_throwIfExpired lasting'.steady)
      exact fun _ => conducts_completeInitiated lasting' fun _ holds => holds.2.toFoundKnown

theorem leaves_complete {identity : ApiCredentialIdentity} {uploadId : Id}
    {input : UploadCompleteRequest} (lasting : Lasting mode known) :
    Leaves mode constraints caller .idle known
      (UploadService.complete identity uploadId input) :=
  (conducts_complete lasting).weaken (fun _ holds => holds) (fun _ _ _ ends => ⟨ends.1, ends.2.1⟩)
    fun _ _ _ ends => ends

/-! ## Uploading through the proxy -/

theorem leaves_checkLength {config : ProxyTransferConfig} {session : UploadSession}
    {contentLengthBytes : Int} (steady : Steady mode caller known) :
    Leaves mode constraints caller phase known
      (UploadService.checkLength config session contentLengthBytes) := by
  apply Leaves.ite
  · exact fun _ => (leaves_releaseReservation steady).bind fun _ => .throw
  · intro _
    apply Leaves.ite
    · exact fun _ => (leaves_releaseReservation steady).bind fun _ => .throw
    · exact fun _ => .pure

theorem conducts_proxyUpload {config : ProxyTransferConfig} {identity : ApiCredentialIdentity}
    {uploadId : Id} {contentLengthBytes : Int} (lasting : Lasting mode known) :
    Conducts mode constraints caller .idle known
      (UploadService.proxyUpload config identity uploadId contentLengthBytes)
      (Stays .idle fun summary scene => known scene ∧ CompletedAs uploadId summary scene)
      (Stays .idle fun _ => known) := by
  apply Conducts.bind_stays Leaves.throwIf
  intro _
  apply conducts_found (conducts_findSession lasting.steady) .throw
  rintro ⟨session, bucket⟩ rfl
  have lasting' := lasting.and (lasting_sessionFound mode (session, bucket))
  have knows : ∀ scene, known scene ∧ SessionFound (session, bucket) scene →
      SessionKnown session scene := fun _ holds => holds.2.session
  apply Conducts.bind_stays Leaves.throwIf
  intro _
  apply Conducts.bind_stays (leaves_throwIfExpired lasting'.steady)
  intro _
  apply Conducts.bind_stays (leaves_checkLength lasting'.steady)
  intro _
  apply Conducts.bind_stays
  · apply Leaves.catchWith (.quiet quiet_adapterFor lasting'.steady)
    intro error
    exact (leaves_cleanupFailedUpload lasting' knows).swallow.bind fun _ => .throw
  · intro adapter
    apply Conducts.catch_fails
    · apply Conducts.bind_stays (Leaves.quiet (.call harmless_put) lasting'.steady)
      exact fun _ => conducts_complete lasting'
    · exact fun _ => Fails.after (leaves_cleanupFailedUpload lasting' knows).swallow fun _ => .throw

theorem leaves_proxyUpload {config : ProxyTransferConfig} {identity : ApiCredentialIdentity}
    {uploadId : Id} {contentLengthBytes : Int} (lasting : Lasting mode known) :
    Leaves mode constraints caller .idle known
      (UploadService.proxyUpload config identity uploadId contentLengthBytes) :=
  (conducts_proxyUpload lasting).weaken (fun _ holds => holds)
    (fun _ _ _ ends => ⟨ends.1, ends.2.1⟩) fun _ _ _ ends => ends

/-! ## Presigning a part -/

theorem readOnly_touchPart {session : UploadSession} {partNumber : Int} :
    ReadOnly (UploadService.touchPart session partNumber) fun _ => True := by
  intro check time state
  simp only [UploadService.touchPart, Program.bind_eq, Tx.wp_bind, Tx.wp_randomUUID, Tx.wp_upsert]
  split
  · apply Tx.Written.of_goes
    exact ⟨.rest (Nat.le_succ _) rfl, trivial⟩
  · split
    · trivial
    · apply Tx.Written.of_goes
      exact ⟨.rest (Nat.le_succ _) rfl, trivial⟩

theorem leaves_presignPart {identity : ApiCredentialIdentity} {uploadId : Id} {partNumber : Int}
    (lasting : Lasting mode known) :
    Leaves mode constraints caller phase known
      (UploadService.presignPart identity uploadId partNumber) := by
  apply Leaves.bind .throwIf
  intro _
  apply leaves_found (conducts_findSession lasting.steady) .throw
  rintro ⟨session, bucket⟩
  have steady : Steady mode caller _ := (lasting.and (lasting_sessionFound mode (session, bucket))).steady
  dsimp only
  split
  · exact .throw
  · apply Leaves.bind .throwIf
    intro _
    apply Leaves.bind (leaves_throwIfExpired steady)
    intro _
    apply Leaves.bind .ofExcept
    intro partCount
    apply Leaves.bind .throwIf
    intro _
    apply Leaves.catchWith
    · apply Leaves.bind (.quiet quiet_adapterFor steady)
      intro adapter
      apply Leaves.bind
      · unfold S3ProviderAdapter.createPresignedUploadPart
        apply Leaves.ite (fun _ => .throw)
        exact fun _ => .quiet (.call (harmless_of_same fun _ _ _ => rfl)) steady
      · intro transfer
        apply Leaves.bind (.quiet (.query readOnly_touchPart) steady)
        exact fun _ => .pure
    · intro error
      split
      · exact .throw
      · exact .throw

end

end Mosp.Conduct
