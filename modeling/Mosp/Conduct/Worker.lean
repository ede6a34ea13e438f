import Mosp.Conduct.Deletes

/-!
# Upload reconciliation under the contract

One pass of the worker: expired sessions, records left in deletion, retained
locations and old sessions.
-/

namespace Mosp.Conduct

open Mosp.Concurrency Mosp.Data Mosp.Sql Mosp.Database Mosp.Index Mosp.Services Mosp.Worker
open Mosp.System hiding Action

section

variable {mode : Mode} {constraints : Db → Option Failure} {caller : Nat} {phase : Phase}
  {known : Scene → Prop}

theorem leaves_orFailed {body : Service UploadReconciliationResult}
    (leaves : Leaves mode constraints caller phase known body) :
    Leaves mode constraints caller phase known (UploadReconciliationService.orFailed body) :=
  leaves.catchWith fun _ => .pure

theorem leaves_tally {α : Type} {items : List α} {body : α → Service UploadReconciliationResult}
    (each : ∀ item ∈ items, Leaves mode constraints caller phase known (body item)) :
    Leaves mode constraints caller phase known
      (UploadReconciliationService.tally items body) := by
  induction items with
  | nil => exact .pure
  | cons item rest ih =>
      obtain ⟨first, others⟩ := List.forall_mem_cons.mp each
      exact first.bind fun _ => (ih others).bind fun _ => .pure

/-- What was known of every element when a list was read. -/
theorem lasting_all {α : Type} {items : List α} {about : α → Scene → Prop}
    (lasting : ∀ item, Lasting mode (about item)) :
    Lasting mode fun scene => ∀ item ∈ items, about item scene :=
  fun before after preserves holds item member =>
    lasting item before after preserves (holds item member)

/-! ## Expired sessions -/

theorem leaves_deletePhysicalObject {adapter : S3ProviderAdapter} {bucketName : String}
    {session : UploadSession} (lasting : Lasting mode known)
    (knows : ∀ scene, known scene → SessionKnown session scene) :
    Leaves mode constraints caller phase known
      (UploadReconciliationService.deletePhysicalObject adapter bucketName session) := by
  unfold UploadReconciliationService.deletePhysicalObject
  split
  · apply Leaves.bind (.quiet (.call (harmless_of_same fun _ _ _ => rfl)) lasting.steady)
    intro stored
    apply Leaves.ite
    · exact fun _ => Conducts.deletes_session lasting knows
    · exact fun _ => .quiet (.call (harmless_of_same fun _ _ _ => rfl)) lasting.steady
  · exact Conducts.deletes_session lasting knows

theorem leaves_reconcileSession {entry : FoundSession} (lasting : Lasting mode known)
    (knows : ∀ scene, known scene → FoundKnown entry scene) :
    Leaves mode constraints caller phase known
      (UploadReconciliationService.reconcileSession entry) := by
  have session : ∀ scene, known scene → SessionKnown entry.1 scene :=
    fun scene holds => (knows scene holds).session
  apply leaves_orFailed
  apply Leaves.bind (.quiet quiet_workerAdapterFor lasting.steady)
  intro adapter
  apply Leaves.bind (leaves_deletePhysicalObject lasting session)
  intro _
  apply Leaves.bind
  · apply Conducts.plainOne (.inl rfl) lasting.steady
    intro before holds _
    apply Tx.wp_mono (wp_markExpiredTransaction
      (knownSession_of_sessionKnown (session _ holds))) _ fun _ _ => trivial
    rintro _ after ⟨action, performs, rfl | ⟨row, rfl⟩⟩
    · exact ⟨_, .rest, performs⟩
    · exact ⟨_, .closeSession, performs⟩
  · exact fun _ => .pure

/-! ## Records in deletion -/

/-- A record in deletion has an active object. -/
theorem active_of_deleting {before : Observation} {found : UploadService.RecordWithLocation}
    (consistent : Consistent (sceneOf before).catalog (sceneOf before).nextId)
    (recordIn : RecordIn before.shared.db found) (deleting : found.record.state = .deleting) :
    ∃ location bucket, activeObject (some found) = some (found.record, location, bucket) ∧
      found.record.activeObjectLocationId = some location.id := by
  have takes : takesSpace found.record = true := by simp [takesSpace, deleting]
  cases pointer : found.record.activeObjectLocationId with
  | none => exact absurd pointer (consistent.stored found.record recordIn.record_mem takes)
  | some locationId =>
      obtain ⟨_, row, rowMem, rowId, _, _, active⟩ :=
        consistent.pointer found.record recordIn.record_mem locationId pointer
      obtain ⟨record, activeLocation⟩ := found
      cases activeLocation with
      | none => exact absurd rowId (recordIn.missing rfl locationId pointer row rowMem)
      | some entry =>
          obtain ⟨location, bucket⟩ := entry
          obtain ⟨located, points⟩ := recordIn.located (location, bucket) rfl
          have same : location = row := by
            apply Table.eq_of_id_eq located.location_mem rowMem
            exact (Option.some.inj (points.symm.trans pointer)).trans rowId.symm
          refine ⟨location, bucket, ?_, pointer.symm.trans points⟩
          simp only [activeObject]
          rw [if_pos (same ▸ active)]

/-- A record in deletion that the worker may take up. -/
def Abandoned (mode : Mode) (found : UploadService.RecordWithLocation) (scene : Scene) : Prop :=
  ∃ location bucket, activeObject (some found) = some (found.record, location, bucket) ∧
    RecordKnown found.record location scene ∧ (mode.careful → Doomed location scene)

theorem lasting_abandoned (mode : Mode) (found : UploadService.RecordWithLocation) :
    Lasting mode (Abandoned mode found) := by
  rintro before after preserves ⟨location, bucket, active, known, doomed⟩
  exact ⟨location, bucket, active, lasting_record mode _ location before after preserves known,
    lasting_doomed mode location before after preserves doomed⟩

theorem abandoned_of_taken {before : Observation} {found : UploadService.RecordWithLocation}
    {batchSize : Nat} (upheld : Upheld mode (sceneOf before))
    (considerate : mode.careful → mode.deletes → MayTakeUp before batchSize)
    (recordIn : RecordIn before.shared.db found)
    (taken : found.record ∈ takenUp batchSize before.shared.db) :
    Abandoned mode found (sceneOf before) := by
  have deleting := (mem_takenUp taken).2
  obtain ⟨location, bucket, active, pointer⟩ :=
    active_of_deleting upheld.consistent recordIn deleting
  obtain ⟨located, _⟩ := recordIn.located _ (activeObject_some active).2
  have recordMem : found.record ∈ (sceneOf before).catalog.records := recordIn.record_mem
  refine ⟨location, bucket, active, recordKnown_of_mem recordMem located.location_mem,
    fun careful => ?_⟩
  constructor
  · exact ⟨location, located.location_mem, rfl⟩
  · intro record member points available
    rw [upheld.consistent.pointer_unique member recordMem points pointer, deleting] at available
    contradiction
  · intro i recordId shown
    obtain ⟨deletes, record, member, sameId, _, points, _⟩ :=
      (upheld.custody careful).claimed i recordId location.id shown
    have same := upheld.consistent.pointer_unique member recordMem points pointer
    rw [← sameId, same] at shown
    exact considerate careful deletes found.record taken i location.id shown

theorem leaves_finalizeDeletedObject {record : ObjectRecord} {location : ObjectLocation}
    (steady : Steady mode caller known)
    (knows : ∀ scene, known scene → RecordKnown record location scene ∧
      (mode.careful → Doomed location scene)) :
    Leaves mode constraints caller phase known
      (UploadReconciliationService.finalizeDeletedObject record location.id) := by
  have calm : Conducts mode constraints caller phase known
      (UploadReconciliationService.finalizeDeletedObject record location.id)
      (Stays phase fun _ scene => known scene ∧ True) (Stays phase fun _ => known) := by
    apply Conducts.calm (.inl rfl) steady
    intro before shown holds upheld _
    obtain ⟨recordKnown, doomed⟩ := knows _ holds
    apply Tx.wp_mono (wp_finalizeTransaction upheld.consistent
      (knownAt_of_recordKnown recordKnown)) _ fun _ _ => trivial
    rintro _ state ⟨action, performs, rfl | ⟨row, closed, rfl, sameId⟩⟩
    · exact ⟨Plain.calm_performs .rest upheld shown performs, trivial⟩
    · refine ⟨calm_finalize upheld shown performs fun careful => ?_, trivial⟩
      rw [sameId]
      exact (doomed careful).unclaimed
  exact calm.weaken (fun _ holds => holds) (fun _ _ _ ⟨same, holds, _⟩ => ⟨same, holds⟩)
    fun _ _ _ thrown => thrown

theorem leaves_reconcileDeletingObject {found : UploadService.RecordWithLocation}
    (lasting : Lasting mode known) (knows : ∀ scene, known scene → Abandoned mode found scene) :
    Leaves mode constraints caller phase known
      (UploadReconciliationService.reconcileDeletingObject found) := by
  unfold UploadReconciliationService.reconcileDeletingObject
  cases active : activeObject (some found) with
  | none =>
      rintro view ⟨_, holds⟩
      obtain ⟨location, bucket, isActive, _⟩ := knows _ holds
      rw [active] at isActive
      contradiction
  | some object =>
      obtain ⟨record, location, bucket⟩ := object
      obtain ⟨rfl, _⟩ := activeObject_some active
      have knowsObject : ∀ scene, known scene → RecordKnown found.record location scene ∧
          (mode.careful → Doomed location scene) := by
        intro scene holds
        obtain ⟨_, _, isActive, about⟩ := knows scene holds
        rw [active] at isActive
        cases Option.some.inj isActive
        exact about
      apply leaves_orFailed
      apply Leaves.bind (.quiet quiet_workerAdapterFor lasting.steady)
      intro adapter
      apply Leaves.bind (Conducts.deletes_doomed lasting fun _ holds => (knowsObject _ holds).2)
      intro _
      apply Leaves.bind (leaves_finalizeDeletedObject lasting.steady knowsObject)
      exact fun _ => .pure

theorem leaves_reconcileDeletingObjects {batchSize : Nat} (lasting : Lasting mode known) :
    Leaves mode constraints caller phase known
      (UploadReconciliationService.reconcileDeletingObjects batchSize) := by
  have finds : Conducts mode constraints caller phase known
      (query (UploadReconciliationService.findDeleting batchSize))
      (Stays phase fun entries scene => known scene ∧ ∀ entry ∈ entries, Abandoned mode entry scene)
      (Stays phase fun _ => known) := by
    apply Conducts.reads (.inr rfl) lasting.steady
    intro before _ _ upheld considerate
    apply wp_findDeleting
    intro entries holds
    refine ⟨rfl, fun entry member => ?_⟩
    obtain ⟨recordIn, taken⟩ := holds entry member
    apply abandoned_of_taken upheld _ recordIn taken
    exact fun careful deletes => (considerate careful).takesUp deletes batchSize rfl
  apply Conducts.bind_stays finds
  intro entries
  have lasting' : Lasting mode fun scene =>
      known scene ∧ ∀ entry ∈ entries, Abandoned mode entry scene :=
    lasting.and (lasting_all (lasting_abandoned mode))
  apply Leaves.less (leaves_tally _) fun _ holds => holds.1
  exact fun entry member =>
    leaves_reconcileDeletingObject lasting' fun _ holds => holds.2 entry member

/-! ## Retained locations -/

/-- A retained location as it was read. -/
def Retained (mode : Mode) (location : ObjectLocation) (scene : Scene) : Prop :=
  mode.careful → Doomed location scene

theorem doomed_of_retained {before : Observation} {location : ObjectLocation}
    (upheld : Upheld mode (sceneOf before)) (careful : mode.careful)
    (member : location ∈ before.shared.db.objectLocation) (retained : location.state = .retained) :
    Doomed location (sceneOf before) := by
  have unused : ∀ record ∈ (sceneOf before).catalog.records,
      record.activeObjectLocationId ≠ some location.id := by
    intro record recordMem points
    obtain ⟨_, row, rowMem, rowId, _, _, active⟩ :=
      upheld.consistent.pointer record recordMem location.id points
    have same : row = location := Table.eq_of_id_eq rowMem member rowId
    rw [same, retained] at active
    contradiction
  constructor
  · exact ⟨location, member, rfl⟩
  · exact fun record recordMem points => absurd points (unused record recordMem)
  · intro i recordId shown
    obtain ⟨_, record, recordMem, _, _, points, _⟩ :=
      (upheld.custody careful).claimed i recordId location.id shown
    exact unused record recordMem points

theorem leaves_reconcileRetainedLocation {entry : ObjectLocation × BucketConnection}
    (lasting : Lasting mode known) (knows : ∀ scene, known scene → Retained mode entry.1 scene) :
    Leaves mode constraints caller phase known
      (UploadReconciliationService.reconcileRetainedLocation entry) := by
  apply leaves_orFailed
  apply Leaves.bind (.quiet quiet_workerAdapterFor lasting.steady)
  intro adapter
  apply Leaves.bind (Conducts.deletes_doomed lasting knows)
  intro _
  apply Leaves.bind
  · apply Conducts.plainOne (.inr rfl) lasting.steady
    intro before _ _
    apply Tx.wp_mono wp_retireLocation _ fun _ _ => trivial
    rintro _ after ⟨action, performs, rfl | ⟨row, rfl⟩⟩
    · exact ⟨_, .rest, performs⟩
    · exact ⟨_, .retire, performs⟩
  · exact fun _ => .pure

theorem leaves_reconcileRetainedLocations {batchSize : Nat} (lasting : Lasting mode known) :
    Leaves mode constraints caller phase known
      (UploadReconciliationService.reconcileRetainedLocations batchSize) := by
  have finds : Conducts mode constraints caller phase known
      (query (UploadReconciliationService.findRetained batchSize))
      (Stays phase fun entries scene => known scene ∧ ∀ entry ∈ entries, Retained mode entry.1 scene)
      (Stays phase fun _ => known) := by
    apply Conducts.reads (.inr rfl) lasting.steady
    intro before _ _ upheld _
    apply wp_findRetained
    intro entries holds
    refine ⟨rfl, fun entry member careful => ?_⟩
    obtain ⟨located, retained⟩ := holds entry member
    exact doomed_of_retained upheld careful located.location_mem retained
  apply Conducts.bind_stays finds
  intro entries
  have lasting' : Lasting mode fun scene =>
      known scene ∧ ∀ entry ∈ entries, Retained mode entry.1 scene :=
    lasting.and (lasting_all fun entry => lasting_doomed mode entry.1)
  apply Leaves.less (leaves_tally _) fun _ holds => holds.1
  exact fun entry member =>
    leaves_reconcileRetainedLocation lasting' fun _ holds => holds.2 entry member

/-! ## Old sessions -/

theorem leaves_pruneTerminalSessions {now : Time} {batchSize : Nat} (lasting : Lasting mode known) :
    Leaves mode constraints caller phase known
      (UploadReconciliationService.pruneTerminalSessions now batchSize) := by
  have finds : Conducts mode constraints caller phase known
      (query (uploadSession.findMany
        (fun row => UploadReconciliationService.isTerminal row &&
          decide (row.updatedAt + UploadReconciliationService.terminalSessionTtlMs < now))
        (fun first second => decide (first.updatedAt ≤ second.updatedAt)) (some batchSize)))
      (Stays phase fun sessions scene => known scene ∧
        ∀ session ∈ sessions, SessionEnded session scene)
      (Stays phase fun _ => known) := by
    apply Conducts.reads (.inr rfl) lasting.steady
    intro before _ _ upheld _
    apply wp_findMany
    intro sessions selected
    refine ⟨rfl, fun session member => ?_⟩
    obtain ⟨inTable, terminal⟩ := selected session member
    apply upheld.toSound.sessionEnded inTable
    intro initiated
    simp [UploadReconciliationService.isTerminal, initiated] at terminal
  apply Conducts.bind_stays finds
  intro sessions
  have lasting' : Lasting mode fun scene =>
      known scene ∧ ∀ session ∈ sessions, SessionEnded session scene :=
    lasting.and (lasting_all (lasting_ended mode))
  apply Leaves.less _ fun _ holds => holds.1
  apply Leaves.ite (fun _ => .pure) fun _ => ?_
  apply Leaves.bind
  · apply Conducts.plain (.inr rfl) lasting'.steady
    intro before holds _
    have ended : ∀ row ∈ before.shared.db.uploadSession,
        (sessions.any fun session => session.id == row.id) = true → row.state ≠ .initiated := by
      intro row member selected
      obtain ⟨session, sessionMem, sameId⟩ := List.any_eq_true.mp selected
      exact (holds.2 session sessionMem).ended row member (beq_iff_eq.mp sameId).symm
    apply Tx.wp_mono (wp_deleteSessions ended) _ fun _ _ => trivial
    rintro _ after ⟨ids, performs⟩
    refine ⟨_, fun action member => ?_, performs⟩
    obtain ⟨id, _, rfl⟩ := List.mem_map.mp member
    exact .prune
  · exact fun _ => .pure

theorem leaves_reconcile {now : Option Time} {batchSize : Int} (lasting : Lasting mode known) :
    Leaves mode constraints caller phase known
      (UploadReconciliationService.reconcile now batchSize) := by
  unfold UploadReconciliationService.reconcile
  simp only [Program.bind_eq]
  apply Leaves.bind
  · cases now with
    | none => exact .quiet .currentTime lasting.steady
    | some now => exact .pure
  · intro now
    apply Leaves.bind .ofExcept
    intro batchSize
    have finds : Conducts mode constraints caller phase known
        (query (UploadReconciliationService.findExpired now batchSize))
        (Stays phase fun entries scene => known scene ∧ ∀ entry ∈ entries, FoundKnown entry scene)
        (Stays phase fun _ => known) := by
      apply Conducts.reads (.inr rfl) lasting.steady
      intro before _ _ upheld _
      apply wp_findExpired
      intro entries holds
      exact ⟨rfl, fun entry member => foundKnown_of_foundIn upheld.toSound (holds entry member)⟩
    apply Conducts.bind_stays finds
    intro entries
    have lasting' : Lasting mode fun scene =>
        known scene ∧ ∀ entry ∈ entries, FoundKnown entry scene :=
      lasting.and (lasting_all (lasting_found mode))
    apply Leaves.less _ fun _ holds => holds.1
    apply Leaves.bind
    · apply leaves_tally
      exact fun entry member =>
        leaves_reconcileSession lasting' fun _ holds => holds.2 entry member
    · intro sessionsResult
      apply Leaves.bind (leaves_reconcileDeletingObjects lasting')
      intro deletingResult
      apply Leaves.bind (leaves_reconcileRetainedLocations lasting')
      intro retainedResult
      apply Leaves.bind (leaves_pruneTerminalSessions lasting')
      exact fun _ => .pure

end

end Mosp.Conduct
