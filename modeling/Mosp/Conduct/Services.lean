import Mosp.Conduct.Migrations
import Mosp.System.Requests

/-!
# The services keep the contract

Every request may run from an idle phase, and what happens between its steps
respects the contract: the invariant therefore holds along every run.
-/

namespace Mosp.Conduct

open Mosp.Concurrency Mosp.Data Mosp.Sql Mosp.Database Mosp.Index Mosp.Services Mosp.Worker
open Mosp.System hiding Action

section

variable {mode : Mode} {constraints : Db → Option Failure} {caller : Nat}

theorem Leaves.discard {α : Type} {phase : Phase} {known : Scene → Prop} {program : Service α}
    (leaves : Leaves mode constraints caller phase known program) :
    Leaves mode constraints caller phase known (Request.discard program) :=
  leaves.bind fun _ => .pure

/-- A program that leaves the phase as it is may run. -/
theorem Leaves.runs {α : Type} {phase : Phase} {known : Scene → Prop} {program : Service α}
    (leaves : Leaves mode constraints caller phase known program) :
    Runs mode constraints caller phase known program :=
  .of leaves

theorem Runs.discard {α : Type} {phase : Phase} {known : Scene → Prop} {program : Service α}
    (runs : Runs mode constraints caller phase known program) :
    Runs mode constraints caller phase known (Request.discard program) := by
  apply Conducts.bind runs
  intro _ new
  exact Conducts.pure fun _ _ => trivial

/-- Every request may run. -/
theorem runs_request {request : Request}
    (deletes : request.Deletes → mode.careful → mode.deletes)
    (migrates : request.Migrates → ¬mode.careful) :
    Runs mode constraints caller .idle (fun _ => True) request.program := by
  have lasting := lasting_const mode True
  have leaves : ∀ {α : Type} {post : α → Prop} {program : Service α}, Quiet post program →
      Leaves mode constraints caller .idle (fun _ => True) program :=
    fun quiet => .quiet quiet lasting.steady
  cases request with
  | initiate identity namespaceSlug input => exact tells_initiate.runs.discard
  | presignPart identity uploadId partNumber => exact (leaves_presignPart lasting).discard.runs
  | complete identity uploadId input => exact (leaves_complete lasting).discard.runs
  | proxyUpload config identity uploadId contentLengthBytes =>
      exact (leaves_proxyUpload lasting).discard.runs
  | abort identity uploadId => exact (leaves_abort lasting).runs
  | upload config organizationId namespaceSlug logicalKey sizeBytes contentType actor =>
      exact runs_upload.discard
  | createFolder config organizationId namespaceSlug folderPrefix actor =>
      exact runs_createFolder.discard
  | delete identity namespaceSlug key requestId => exact (leaves_delete (deletes trivial)).runs
  | explorerDelete organizationId namespaceSlug key actor =>
      exact (leaves_explorerDelete (deletes trivial)).runs
  | reconcileUploads now batchSize => exact (leaves_reconcile lasting).discard.runs
  | createMigration organizationId input metadata =>
      exact (leaves_createMigration lasting).discard.runs
  | controlMigration organizationId migrationId action metadata =>
      exact (leaves_control lasting).discard.runs
  | reconcileMigrations options =>
      exact .of (roams_reconcile (migrates trivial) lasting .idle (.inl rfl))
  | list identity namespaceSlug filter => exact (leaves quiet_list).discard.runs
  | head identity namespaceSlug key => exact (leaves quiet_head).discard.runs
  | getTransferMode identity namespaceSlug => exact (leaves quiet_getTransferMode).discard.runs
  | presignDownload identity namespaceSlug key => exact (leaves quiet_presignDownload).discard.runs
  | proxyDownload identity namespaceSlug key => exact (leaves quiet_proxyDownload).discard.runs
  | recordEgress organizationId namespaceId sizeBytes => exact (leaves quiet_recordEgress).runs
  | listNamespaces organizationId => exact (leaves quiet_listNamespaces).discard.runs
  | explorerList organizationId namespaceSlug filter =>
      exact (leaves quiet_explorerList).discard.runs
  | listFolders organizationId namespaceSlug keyPrefix =>
      exact (leaves quiet_listFolders).discard.runs
  | explorerPresignDownload organizationId namespaceSlug key =>
      exact (leaves quiet_explorerPresignDownload).discard.runs
  | listGrants organizationId filter => exact (leaves quiet_listGrants).discard.runs
  | createGrant organizationId input metadata => exact (leaves quiet_createGrant).discard.runs
  | deleteGrant organizationId grantId metadata => exact (leaves quiet_deleteGrant).runs

/-- A program that may run meets its precondition. -/
theorem Runs.wp {known : Scene → Prop} {phase : Phase} {program : Service Unit}
    (runs : Runs mode constraints caller phase known program) {view : Observation}
    (shown : (sceneOf view).Shows caller phase) (holds : known (sceneOf view)) :
    Contract.wp (machine constraints) (contract mode) caller program (fun _ _ => True)
      (fun _ _ => True) view :=
  Contract.wp_mono (runs view ⟨shown, holds⟩) (fun _ _ _ => trivial) fun _ _ _ => trivial

end

/-- A step of the environment settles: the catalog stays, and no object goes. -/
theorem settles_environment {before : Observation} {action : System.Action} {world : World}
    (acted : environment action before.shared = some world) :
    Settles (sceneOf before) (sceneOf { before with shared := world }) ∧
      ∀ address, before.shared.objects.Holds address → world.objects.Holds address := by
  cases action with
  | pass milliseconds =>
      obtain rfl := Option.some.inj acted
      exact ⟨⟨rfl, Nat.le_refl _, fun _ _ shown => .inl shown, fun _ _ => le_refl _⟩,
        fun _ holds => holds⟩
  | clientPut address metadata =>
      obtain rfl := Option.some.inj acted
      exact ⟨⟨rfl, Nat.le_refl _, fun _ _ shown => .inl shown, fun _ _ => le_refl _⟩,
        fun _ holds => holds.put address metadata⟩

/-- A run of requests respects the contract, if its commands are considerate where
objects are watched. -/
theorem respects_permitted {mode : Mode} {constraints : Db → Option Failure}
    {requests : Request → Prop} {condition : Condition}
    (deletes : ∀ request, requests request → request.Deletes → mode.careful → mode.deletes)
    (migrates : ∀ request, requests request → request.Migrates → ¬mode.careful)
    (considerate : mode.careful → ∀ {β : Type} (command : Command β) (view : Observation),
      condition command view → Considerate mode command view) :
    Contract.Respects (machine constraints) environment (Permitted requests condition)
      (contract mode) where
  start pool program permitted self view idle upheld := by
    obtain ⟨request, requested, rfl⟩ := permitted
    exact (runs_request (deletes request requested) (migrates request requested)).wp idle trivial
  forked child self view forked upheld := by
    obtain ⟨careless, item, previousState, retryDelayMs, rfl, known, shown⟩ := forked
    have roams : Roams mode constraints self (ItemKnown item)
        (MigrationReconciliationService.processItem item previousState retryDelayMs) :=
      roams_processItem careless (lasting_item mode item) fun _ holds => holds
    exact Runs.wp (.of (roams _ (.inr ⟨_, rfl⟩))) shown known
  act pool self choice permitted process phase β command note next found careful :=
    considerate careful command pool.view
      (permitted process phase β command note next found)
  stop pool process _ view self upheld := by
    by_cases inside : self < view.phases.length
    · have shown : (sceneOf view).Shows self view.phases[self] := List.getElem?_eq_getElem inside
      have step : Conduct.Step mode self (sceneOf view)
          (sceneOf (view.answer self (some .idle) view.shared)) :=
        step_dismissed upheld shown fun _ noted => (Option.some.inj noted).symm
      exact ⟨step.upheld, step.relies⟩
    · have same : view.cut (machine constraints) self = view := by
        have unchanged : view.phases.set self default = view.phases :=
          List.set_eq_of_length_le (Nat.le_of_not_lt inside)
        exact congrArg (fun phases => (⟨phases, view.shared⟩ : Observation)) unchanged
      rw [same]
      exact ⟨upheld, fun other _ => .refl mode other (sceneOf view)⟩
  environment pool action _ view shared upheld acted := by
    obtain ⟨settles, objects⟩ := settles_environment acted
    have step : ∀ caller, Conduct.Step mode caller (sceneOf view)
        (sceneOf { view with shared }) := by
      intro caller
      apply settles.step upheld
      · exact fun _ => ⟨none, settles.removes objects⟩
      · exact fun _ _ _ shown => shown
    exact ⟨(step 0).upheld, fun other => (step (other + 1)).relies other (Nat.succ_ne_self other).symm⟩

/-- Along a run of requests the invariant holds. -/
theorem upheld_of_reaches {mode : Mode} {constraints : Db → Option Failure}
    {requests : Request → Prop} {condition : Condition} {start : World} {calls : Calls}
    (deletes : ∀ request, requests request → request.Deletes → mode.careful → mode.deletes)
    (migrates : ∀ request, requests request → request.Migrates → ¬mode.careful)
    (considerate : mode.careful → ∀ {β : Type} (command : Command β) (view : Observation),
      condition command view → Considerate mode command view)
    (begins : Upheld mode (sceneOf ⟨[], start⟩))
    (reaches : Reaches constraints requests condition start calls) :
    Upheld mode (sceneOf calls.view) :=
  (respects_permitted deletes migrates considerate).invariant begins reaches

end Mosp.Conduct
