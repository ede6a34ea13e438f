import Mosp.Guarantees.Usage

/-!
# Objects along every run

The object of an available record stays at its provider, as long as no upload is
given up whose object another call has verified, and no worker takes up a record
that a delete call has claimed.  Both can happen, and then the object is lost.
-/

namespace Mosp.Guarantees

open Mosp.Concurrency Mosp.Data Mosp.Sql Mosp.Database Mosp.Index Mosp.Services Mosp.Worker
open Mosp.System Mosp.Conduct

/-- The object of a location is at the provider of its bucket. -/
def Present (world : World) (location : ObjectLocation) : Prop :=
  ∀ bucket ∈ world.db.bucketConnection, bucket.id = location.bucketConnectionId →
    world.objects.Holds
      { providerConnectionId := bucket.providerConnectionId
        bucketName := bucket.bucketName
        physicalKey := location.physicalKey }

instance (world : World) (location : ObjectLocation) : Decidable (Present world location) :=
  inferInstanceAs (Decidable (∀ bucket ∈ world.db.bucketConnection.rows, _ → _))

/-- A world in which a run begins that keeps objects: no key is used twice, and the
objects under the guarded keys are there. -/
structure WellStored (guarded : PhysicalKey → Prop) (world : World) : Prop
    extends WellKept world where
  apart : KeysApart (sceneOf ⟨[], world⟩)
  stored : ∀ record ∈ world.db.objectRecord, record.state = .available →
    ∀ location ∈ world.db.objectLocation, record.activeObjectLocationId = some location.id →
      guarded location.physicalKey → Present world location

theorem Fresh.wellStored {world : World} (fresh : Fresh world.db) (guarded : PhysicalKey → Prop) :
    WellStored guarded world where
  toWellKept := fresh.wellKept
  apart :=
    { session := fun session member => absurd member (fresh.no_session session)
      location := fun location member => absurd member (fresh.no_location location)
      published := fun session member => absurd member (fresh.no_session session)
      below := by simp [Scene.Shows, sceneOf]
      unpublished := by simp [Scene.Shows, sceneOf]
      call := by simp [Scene.Shows, sceneOf] }
  stored record member := absurd member (fresh.no_record record)

/-- Objects under guarded keys are watched. -/
def objectsOf (guarded : PhysicalKey → Prop) (deletes : Prop) : Mode where
  watched _ _ := False
  careful := True
  guarded := guarded
  deletes := deletes

theorem WellStored.upheld {guarded : PhysicalKey → Prop} {deletes : Prop} {start : World}
    (stored : WellStored guarded start) :
    Upheld (objectsOf guarded deletes) (sceneOf ⟨[], start⟩) where
  toSound :=
    have unwatched : Upheld (limitsOf fun _ _ => False) (sceneOf ⟨[], start⟩) :=
      upheld_start stored.toWellKept fun _ _ impossible => impossible.elim
    { unwatched.toSound with
      limits := fun _ _ impossible => impossible.elim }
  custody _ :=
    { apart := stored.apart
      available := fun record member available location locationMem pointer guards =>
        stored.stored record member available location locationMem pointer guards
      claimed := by simp [Scene.Shows, sceneOf]
      claimant := by simp [Scene.Shows, sceneOf]
      opened := by simp [Scene.Shows, sceneOf]
      verified := by simp [Scene.Shows, sceneOf] }

/-! ## Completed uploads -/

/-- Where uploads are only given up while their session is stored, not completed and
verified by no call. -/
def GivesUpSafely : Condition := fun command view =>
  ∀ uploadId, givenUp command = some uploadId → MayGiveUp view uploadId

/-- Requests around uploads: objects are neither deleted nor moved. -/
def Uploads (request : Request) : Prop :=
  ¬request.Deletes ∧ ¬request.Migrates

instance : DecidablePred Uploads :=
  fun _ => inferInstanceAs (Decidable (_ ∧ _))

/-- The object of a completed session is there, if its key had no object at the
beginning and uploads are given up safely. -/
theorem completed_object_present {constraints : Db → Option Failure} {start : World} {calls : Calls}
    {key : PhysicalKey} (kept : WellKept start) (apart : KeysApart (sceneOf ⟨[], start⟩))
    (unpublished : ∀ location ∈ start.db.objectLocation, location.physicalKey ≠ key)
    (reaches : Reaches constraints Uploads GivesUpSafely start calls) :
    ∀ session ∈ calls.shared.db.uploadSession, session.physicalKey = key →
      session.state = .completed →
      ∀ record ∈ calls.shared.db.objectRecord, record.state = .available →
      ∀ location ∈ calls.shared.db.objectLocation,
        record.activeObjectLocationId = some location.id → location.physicalKey = key →
        location.bucketConnectionId = session.bucketConnectionId ∧
          Present calls.shared location := by
  have stored : WellStored (· = key) start :=
    { kept with
      apart := apart
      stored := fun _ _ _ location member _ guards => absurd guards (unpublished location member) }
  have upheld : Upheld (objectsOf (· = key) False) (sceneOf calls.view) := by
    apply upheld_of_reaches _ _ _ stored.upheld reaches
    · exact fun request requested deletes _ => requested.1 deletes
    · exact fun request requested migrates => absurd migrates requested.2
    · exact fun _ _ command view gives =>
        { givesUp := gives
          takesUp := fun impossible => impossible.elim }
  have custody := upheld.custody trivial
  intro session sessionMem sessionKey _ record recordMem available location locationMem pointer
    locationKey
  constructor
  · exact (custody.apart.published session sessionMem location locationMem
      (sessionKey.trans locationKey.symm)).2.symm
  · intro bucket bucketMem sameId
    exact custody.available record recordMem available location locationMem pointer locationKey
      bucket bucketMem sameId

instance (view : Observation) (uploadId : Id) : Decidable (MayGiveUp view uploadId) :=
  decidable_of_iff
    ((∃ session ∈ view.shared.db.uploadSession.rows, session.id = uploadId ∧
      session.state ≠ .completed) ∧ .verified uploadId ∉ view.phases)
    (and_congr_right' (by simp [List.mem_iff_getElem?]))

/-- Whether the next command of a call gives an upload up safely, if it gives one up. -/
def givesUpSafely (calls : Calls) (self : Nat) : Bool :=
  match calls.calls[self]? with
  | some ⟨_, _, .perform command _ _⟩ =>
      (givenUp command).all fun uploadId => decide (MayGiveUp calls.view uploadId)
  | _ => true

theorem permitted_of_givesUpSafely {requests : Request → Prop} {calls : Calls} {self : Nat}
    {choice : Choice} (safe : givesUpSafely calls self = true) :
    Permitted requests GivesUpSafely calls (.act self choice) := by
  intro process phase β command note next found uploadId gives
  simp only [givesUpSafely, found, gives, Option.all_some, decide_eq_true_eq] at safe
  exact safe

namespace Upload

/-- Before the upload is completed, it is to be aborted, but the provider fails. -/
def retried : List Script :=
  stored ++ [.start (.abort Overwrite.identity 100), .act 1 {} 3,
    .act 1 { failure := some (.provider "Timeout" none) } 1,
    .start (.complete Overwrite.identity 100 {}), .act 2 {} 8]

/-- The upload is aborted after its object was verified: the object is removed, and then the
completion is committed. -/
def raced : List Script :=
  stored ++ [.start (.complete Overwrite.identity 100 {}), .act 1 {} 5,
    .start (.abort Overwrite.identity 100), .act 2 {} 4, .act 1 {} 3]

end Upload

/-- After an abort that failed, the upload is completed and its object is there. -/
theorem completed_object_present_upload : ∃ calls,
    Script.run violation givesUpSafely Upload.start Upload.retried = some calls ∧
      (∃ session ∈ calls.shared.db.uploadSession.rows, session.physicalKey = Upload.key ∧
        session.state = .completed) ∧
      ∀ session ∈ calls.shared.db.uploadSession, session.physicalKey = Upload.key →
        session.state = .completed →
        ∀ record ∈ calls.shared.db.objectRecord, record.state = .available →
        ∀ location ∈ calls.shared.db.objectLocation,
          record.activeObjectLocationId = some location.id → location.physicalKey = Upload.key →
          location.bucketConnectionId = session.bucketConnectionId ∧
            Present calls.shared location := by
  have runs : ∃ calls, Script.run violation givesUpSafely Upload.start Upload.retried =
      some calls ∧ decide (∃ session ∈ calls.shared.db.uploadSession.rows,
        session.physicalKey = Upload.key ∧ session.state = .completed) = true :=
    (Option.any_eq_true _ _).mp (by decide +kernel)
  obtain ⟨calls, ran, completes⟩ := runs
  have fresh : Fresh Upload.start.db := by decide
  refine ⟨calls, ran, of_decide_eq_true completes, completed_object_present fresh.wellKept
    (fresh.wellStored fun _ => True).apart ?_ (Script.reaches ran ?_ ?_)⟩
  · exact fun location member => absurd member (fresh.no_location location)
  · exact Script.kind_of_startsOnly (by decide)
  · exact fun calls self choice => permitted_of_givesUpSafely

/-- A completed session whose record is available at a location without an object. -/
def CompletedLost (world : World) : Prop :=
  ∃ session ∈ world.db.uploadSession.rows, session.state = .completed ∧
    ∃ record ∈ world.db.objectRecord.rows, record.state = .available ∧
      ∃ location ∈ world.db.objectLocation.rows,
        record.activeObjectLocationId = some location.id ∧
          location.physicalKey = session.physicalKey ∧ ¬Present world location

instance (world : World) : Decidable (CompletedLost world) :=
  inferInstanceAs (Decidable (∃ session ∈ world.db.uploadSession.rows, _))

/-- A completion and an abort can lose the object between them. -/
theorem completed_object_lost : ∃ calls,
    Reaches violation Uploads (fun _ _ => True) Upload.start calls ∧ CompletedLost calls.shared := by
  have lost : ∃ calls, Script.run violation (fun _ _ => true) Upload.start Upload.raced =
      some calls ∧ decide (CompletedLost calls.shared) = true :=
    (Option.any_eq_true _ _).mp (by decide)
  obtain ⟨calls, ran, lost⟩ := lost
  refine ⟨calls, Script.reaches ran ?_ fun _ _ _ _ _ _ _ _ _ _ _ => trivial, of_decide_eq_true lost⟩
  exact Script.kind_of_startsOnly (by decide)

/-! ## Deletes -/

/-- Where in addition workers take up no record that a call has claimed. -/
def TakesUpSafely : Condition := fun {β} command view =>
  (∀ uploadId, givenUp command = some uploadId → MayGiveUp view uploadId) ∧
    ∀ batchSize, (⟨β, command⟩ : Sigma Command) =
      ⟨_, .query (UploadReconciliationService.findDeleting batchSize)⟩ → MayTakeUp view batchSize

/-- The object of every available record is there, if uploads are given up safely and
records in deletion are taken up safely. -/
theorem available_object_present {constraints : Db → Option Failure} {start : World} {calls : Calls}
    (stored : WellStored (fun _ => True) start)
    (reaches : Reaches constraints (fun request => ¬request.Migrates) TakesUpSafely start calls) :
    ∀ record ∈ calls.shared.db.objectRecord, record.state = .available →
      ∀ location ∈ calls.shared.db.objectLocation,
        record.activeObjectLocationId = some location.id → Present calls.shared location := by
  have upheld : Upheld (objectsOf (fun _ => True) True) (sceneOf calls.view) := by
    apply upheld_of_reaches _ _ _ stored.upheld reaches
    · exact fun _ _ _ _ => trivial
    · exact fun request stays migrates => absurd migrates stays
    · exact fun _ _ command view ⟨gives, takes⟩ =>
        { givesUp := gives
          takesUp := fun _ => takes }
  intro record recordMem available location locationMem pointer bucket bucketMem sameId
  exact (upheld.custody trivial).available record recordMem available location locationMem pointer
    trivial bucket bucketMem sameId

/-- A record in deletion, stored in a bucket that is missing. -/
def Upload.orphan : Db where
  objectRecord := .ofRows [
    { id := 1
      organizationId := 1
      namespaceId := 3
      logicalKey := "report"
      activeObjectLocationId := some 2
      state := .deleting
      sizeBytes := 10 }]
  objectLocation := .ofRows [
    { id := 2
      organizationId := 1
      objectRecordId := 1
      bucketConnectionId := 6
      physicalKey := .object 3 101
      state := .active }]

/-- Whether a query gets an answer there.  What looks for records in deletion does not. -/
def answersOrphan : Sigma Command → Bool
  | ⟨_, .query body⟩ => (body.run violation 0 ⟨Upload.orphan, 100⟩).isOk
  | _ => true

theorem not_answersOrphan (batchSize : Nat) : answersOrphan
    ⟨_, .query (UploadReconciliationService.findDeleting (batchSize + 1))⟩ = false :=
  rfl

/-- No call has claimed a record that is in deletion. -/
def unclaimed (calls : Calls) : Bool :=
  calls.shared.db.objectRecord.rows.all fun record => record.state != .deleting ||
    calls.view.phases.all fun phase => match phase with
      | .deleting recordId _ => recordId != record.id
      | _ => true

/-- Whether in addition the next command of a call takes up no record that a call has claimed. -/
def takesUpSafely (calls : Calls) (self : Nat) : Bool :=
  givesUpSafely calls self && match calls.calls[self]? with
    | some ⟨_, _, .perform command _ _⟩ => answersOrphan ⟨_, command⟩ || unclaimed calls
    | _ => true

theorem permitted_of_takesUpSafely {requests : Request → Prop} {calls : Calls} {self : Nat}
    {choice : Choice} (safe : takesUpSafely calls self = true) :
    Permitted requests TakesUpSafely calls (.act self choice) := by
  obtain ⟨gives, takes⟩ := Bool.and_eq_true_iff.mp safe
  have safely : Permitted requests GivesUpSafely calls (.act self choice) :=
    permitted_of_givesUpSafely gives
  intro process phase β command note next found
  refine ⟨safely process phase β command note next found, ?_⟩
  intro batchSize same record taken i locationId shows
  simp only [found, same] at takes
  cases batchSize with
  | zero => simp [takenUp] at taken
  | succ batchSize =>
      rw [not_answersOrphan, Bool.false_or] at takes
      obtain ⟨inTable, deleting⟩ := mem_takenUp taken
      have free := List.all_eq_true.mp takes record inTable
      rw [deleting, bne_self_eq_false, Bool.false_or] at free
      have other := List.all_eq_true.mp free _ (List.mem_of_getElem? shows)
      exact absurd rfl (bne_iff_ne.mp other)

/-- The provider fails a delete call, which restores the record.  Another object is uploaded and
removed, and a pass of the worker closes its record before the delete call does. -/
def Upload.survived : List Script :=
  completed ++
    [.start (.delete Overwrite.identity "reports" "report" "request"), .act 2 {} 8,
      .act 2 { failure := some (.provider "Timeout" none) } 1, .act 2 {} 1,
      .start (.initiate Overwrite.identity "reports"
        { idempotencyKey := "second", key := "draft", sizeBytes := 20 }), .act 3 {} 17,
      .outside (.clientPut ⟨4, "bucket", .object 3 108⟩ { sizeBytes := 20 }),
      .start (.complete Overwrite.identity 107 {}), .act 4 {} 8,
      .start (.delete Overwrite.identity "reports" "draft" "request"), .act 5 {} 9,
      .start (.reconcileUploads none 100), .act 6 {} 9, .act 5 {} 1]

/-- After a delete that failed, and another one that a worker ended, the object of the record that
was restored is there. -/
theorem available_object_present_upload : ∃ calls,
    Script.run violation takesUpSafely Upload.start Upload.survived = some calls ∧
      (calls.shared.db.objectRecord.rows.map fun record => (record.logicalKey, record.state)) =
        [("report", .available), ("draft", .deleted)] ∧
      ∀ record ∈ calls.shared.db.objectRecord, record.state = .available →
        ∀ location ∈ calls.shared.db.objectLocation,
          record.activeObjectLocationId = some location.id → Present calls.shared location := by
  have runs : ∃ calls, Script.run violation takesUpSafely Upload.start Upload.survived =
      some calls ∧ decide ((calls.shared.db.objectRecord.rows.map fun record =>
        (record.logicalKey, record.state)) = [("report", .available), ("draft", .deleted)]) = true :=
    (Option.any_eq_true _ _).mp (by decide +kernel)
  obtain ⟨calls, ran, records⟩ := runs
  have fresh : Fresh Upload.start.db := by decide
  refine ⟨calls, ran, of_decide_eq_true records, available_object_present
    (fresh.wellStored fun _ => True) (Script.reaches ran ?_ ?_)⟩
  · exact Script.kind_of_startsOnly (by decide)
  · exact fun calls self choice => permitted_of_takesUpSafely

/-- A delete call claims the record, the worker takes it up and removes the object, and then
the delete call fails at the provider and restores the record. -/
def Upload.resurrected : List Script :=
  Upload.completed ++
    [.start (.delete Overwrite.identity "reports" "report" "request"), .act 2 {} 6,
      .start (.reconcileUploads none 100), .act 3 {} 6,
      .act 2 {} 2, .act 2 { failure := some (.provider "Timeout" none) } 1, .act 2 {} 1]

/-- An available record without its object. -/
def AvailableLost (world : World) : Prop :=
  ∃ record ∈ world.db.objectRecord.rows, record.state = .available ∧
    ∃ location ∈ world.db.objectLocation.rows,
      record.activeObjectLocationId = some location.id ∧ ¬Present world location

instance (world : World) : Decidable (AvailableLost world) :=
  inferInstanceAs (Decidable (∃ record ∈ world.db.objectRecord.rows, _))

/-- A failed delete and a worker can lose the object between them. -/
theorem available_object_lost : ∃ calls,
    Reaches violation (fun request => ¬request.Migrates) (fun _ _ => True) Upload.start calls ∧
      AvailableLost calls.shared := by
  have lost : ∃ calls, Script.run violation (fun _ _ => true) Upload.start Upload.resurrected =
      some calls ∧ decide (AvailableLost calls.shared) = true :=
    (Option.any_eq_true _ _).mp (by decide)
  obtain ⟨calls, ran, lost⟩ := lost
  refine ⟨calls, Script.reaches ran ?_ fun _ _ _ _ _ _ _ _ _ _ _ => trivial, of_decide_eq_true lost⟩
  exact Script.kind_of_startsOnly (by decide)

end Mosp.Guarantees
