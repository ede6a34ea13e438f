import Mosp.System.Machine

/-!
# Requests

What the processes of the API and of the worker can be asked to do, and the
runs in which they do it.
-/

namespace Mosp.System

open Mosp.Concurrency Mosp.Database Mosp.Services Mosp.Worker

inductive Request where
  | initiate (identity : ApiCredentialIdentity) (namespaceSlug : String)
      (input : UploadInitiateRequest)
  | presignPart (identity : ApiCredentialIdentity) (uploadId : Id) (partNumber : Int)
  | complete (identity : ApiCredentialIdentity) (uploadId : Id) (input : UploadCompleteRequest)
  | proxyUpload (config : ProxyTransferConfig) (identity : ApiCredentialIdentity) (uploadId : Id)
      (contentLengthBytes : Int)
  | abort (identity : ApiCredentialIdentity) (uploadId : Id)
  | upload (config : ProxyTransferConfig) (organizationId : Id)
      (namespaceSlug logicalKey : String) (sizeBytes : Int) (contentType : Option String)
      (actor : DeleteActor)
  | createFolder (config : ProxyTransferConfig) (organizationId : Id)
      (namespaceSlug folderPrefix : String) (actor : DeleteActor)
  | delete (identity : ApiCredentialIdentity) (namespaceSlug key requestId : String)
  | explorerDelete (organizationId : Id) (namespaceSlug key : String) (actor : DeleteActor)
  | reconcileUploads (now : Option Time) (batchSize : Int)
  | createMigration (organizationId : Id) (input : MigrationCreateRequest)
      (metadata : MigrationActionMetadata)
  | controlMigration (organizationId migrationId : Id) (action : MigrationAction)
      (metadata : MigrationActionMetadata)
  | reconcileMigrations (options : MigrationReconciliationOptions)
  | list (identity : ApiCredentialIdentity) (namespaceSlug : String) (filter : ObjectListQuery)
  | head (identity : ApiCredentialIdentity) (namespaceSlug key : String)
  | getTransferMode (identity : ApiCredentialIdentity) (namespaceSlug : String)
  | presignDownload (identity : ApiCredentialIdentity) (namespaceSlug key : String)
  | proxyDownload (identity : ApiCredentialIdentity) (namespaceSlug key : String)
  | recordEgress (organizationId namespaceId : Id) (sizeBytes : Int)
  | listNamespaces (organizationId : Id)
  | explorerList (organizationId : Id) (namespaceSlug : String) (filter : ObjectListQuery)
  | listFolders (organizationId : Id) (namespaceSlug keyPrefix : String)
  | explorerPresignDownload (organizationId : Id) (namespaceSlug key : String)
  | listGrants (organizationId : Id) (filter : FolderGrantQuery)
  | createGrant (organizationId : Id) (input : FolderGrantCreateRequest)
      (metadata : FolderGrantActionMetadata)
  | deleteGrant (organizationId grantId : Id) (metadata : FolderGrantActionMetadata)

namespace Request

/-- Run a service for its effects. -/
def discard {α : Type} (service : Service α) : Service Unit :=
  service.bind fun _ => .pure ()

def program : Request → Service Unit
  | .initiate identity namespaceSlug input =>
      discard (UploadService.initiate identity namespaceSlug input)
  | .presignPart identity uploadId partNumber =>
      discard (UploadService.presignPart identity uploadId partNumber)
  | .complete identity uploadId input => discard (UploadService.complete identity uploadId input)
  | .proxyUpload config identity uploadId contentLengthBytes =>
      discard (UploadService.proxyUpload config identity uploadId contentLengthBytes)
  | .abort identity uploadId => UploadService.abort identity uploadId
  | .upload config organizationId namespaceSlug logicalKey sizeBytes contentType actor =>
      discard (ObjectExplorerService.upload config organizationId namespaceSlug logicalKey
        sizeBytes contentType actor)
  | .createFolder config organizationId namespaceSlug folderPrefix actor =>
      discard (ObjectExplorerService.createFolder config organizationId namespaceSlug
        folderPrefix actor)
  | .delete identity namespaceSlug key requestId =>
      ObjectIndexService.delete identity namespaceSlug key requestId
  | .explorerDelete organizationId namespaceSlug key actor =>
      ObjectExplorerService.delete organizationId namespaceSlug key actor
  | .reconcileUploads now batchSize =>
      discard (UploadReconciliationService.reconcile now batchSize)
  | .createMigration organizationId input metadata =>
      discard (MigrationService.create organizationId input metadata)
  | .controlMigration organizationId migrationId action metadata =>
      discard (MigrationService.control organizationId migrationId action metadata)
  | .reconcileMigrations options => MigrationReconciliationService.reconcile options
  | .list identity namespaceSlug filter =>
      discard (ObjectIndexService.list identity namespaceSlug filter)
  | .head identity namespaceSlug key => discard (ObjectIndexService.head identity namespaceSlug key)
  | .getTransferMode identity namespaceSlug =>
      discard (ObjectIndexService.getTransferMode identity namespaceSlug)
  | .presignDownload identity namespaceSlug key =>
      discard (ObjectIndexService.presignDownload identity namespaceSlug key)
  | .proxyDownload identity namespaceSlug key =>
      discard (ObjectIndexService.proxyDownload identity namespaceSlug key)
  -- What the route does once the body of a proxied download has been sent.
  | .recordEgress organizationId namespaceId sizeBytes =>
      Services.recordEgress organizationId namespaceId sizeBytes
  | .listNamespaces organizationId =>
      discard (ObjectExplorerService.listNamespaces organizationId)
  | .explorerList organizationId namespaceSlug filter =>
      discard (ObjectExplorerService.list organizationId namespaceSlug filter)
  | .listFolders organizationId namespaceSlug keyPrefix =>
      discard (ObjectExplorerService.listFolders organizationId namespaceSlug keyPrefix)
  | .explorerPresignDownload organizationId namespaceSlug key =>
      discard (ObjectExplorerService.presignDownload organizationId namespaceSlug key)
  | .listGrants organizationId filter => discard (FolderGrantService.list organizationId filter)
  | .createGrant organizationId input metadata =>
      discard (FolderGrantService.create organizationId input metadata)
  | .deleteGrant organizationId grantId metadata =>
      FolderGrantService.delete organizationId grantId metadata

/-- A request to delete an object. -/
def Deletes : Request → Prop
  | .delete _ _ _ _ | .explorerDelete _ _ _ _ => True
  | _ => False

/-- A request to move objects to another bucket. -/
def Migrates : Request → Prop
  | .reconcileMigrations _ => True
  | _ => False

instance (request : Request) : Decidable request.Deletes := by
  cases request <;> first | exact isTrue trivial | exact isFalse id

instance (request : Request) : Decidable request.Migrates := by
  cases request <;> first | exact isTrue trivial | exact isFalse id

end Request

/-- A condition on the command that a call is about to perform. -/
abbrev Condition := ∀ {β : Type}, Command β → Observation → Prop

/-- The steps of a run that starts only requests of a kind, and in which a command
runs only where a condition is met. -/
def Permitted (requests : Request → Prop) (condition : Condition) (calls : Calls) : Step → Prop
  | .start program => ∃ request, requests request ∧ program = request.program
  | .act self _ => ∀ process phase β (command : Command β) note next,
      calls.calls[self]? = some ⟨process, phase, .perform command note next⟩ →
      condition command calls.view
  | .stop _ | .environment _ => True

/-- What a run can reach from a world in which no call is in progress. -/
def Reaches (constraints : Db → Option Failure) (requests : Request → Prop)
    (condition : Condition) (start : World) (calls : Calls) : Prop :=
  Pool.Reachable (machine constraints) environment (Permitted requests condition) ⟨start, []⟩ calls

/-- What a run of any requests can go on to, with calls in progress. -/
def Continues (constraints : Db → Option Failure) (calls later : Calls) : Prop :=
  Pool.Reachable (machine constraints) environment (Permitted (fun _ => True) fun _ _ => True) calls
    later

/-- Requests and steps of calls, in order. -/
inductive Script where
  | start (request : Request)
  | act (self : Nat) (choice : Choice) (times : Nat)
  | outside (action : Action)

namespace Script

def steps : Script → List Step
  | .start request => [.start request.program]
  | .act self choice times => List.replicate times (.act self choice)
  | .outside action => [.environment action]

/-- Whether a script starts no requests but those of a kind. -/
def startsOnly (kind : Request → Prop) [DecidablePred kind] : Script → Bool
  | .start request => decide (kind request)
  | .act _ _ _ | .outside _ => true

theorem kind_of_startsOnly {kind : Request → Prop} [DecidablePred kind] {scripts : List Script}
    (all : scripts.all (startsOnly kind) = true) (request : Request)
    (member : .start request ∈ scripts) : kind request :=
  of_decide_eq_true (List.all_eq_true.mp all (.start request) member)

/-- Run scripts from a world in which no call is in progress.  The check looks at each
step of a call. -/
def run (constraints : Db → Option Failure) (check : Calls → Nat → Bool) (start : World)
    (scripts : List Script) : Option Calls :=
  Pool.runWhere (machine constraints) environment
    (fun calls event => match event with
      | .act self _ => check calls self
      | _ => true)
    ⟨start, []⟩ (scripts.flatMap steps)

/-- What scripts lead to is reachable, if their requests and steps are permitted. -/
theorem reaches {constraints : Db → Option Failure} {check : Calls → Nat → Bool}
    {requests : Request → Prop} {condition : Condition} {start : World} {scripts : List Script}
    {calls : Calls} (ran : run constraints check start scripts = some calls)
    (requested : ∀ request, .start request ∈ scripts → requests request)
    (checked : ∀ calls self choice, check calls self = true →
      Permitted requests condition calls (.act self choice)) :
    Reaches constraints requests condition start calls := by
  unfold run at ran
  apply Pool.Reachable.runWhere .refl _ ran
  intro event member pool passed
  obtain ⟨script, scriptMem, inSteps⟩ := List.mem_flatMap.mp member
  cases script with
  | start request =>
      rw [List.mem_singleton.mp inSteps]
      exact ⟨request, requested request scriptMem, rfl⟩
  | act self choice times =>
      obtain rfl := List.eq_of_mem_replicate inSteps
      exact checked pool self choice passed
  | outside action =>
      rw [List.mem_singleton.mp inSteps]
      trivial

/-- Every step of a script is permitted where any request is. -/
theorem permitted {scripts : List Script} {event : Step} (member : event ∈ scripts.flatMap steps)
    (calls : Calls) : Permitted (fun _ => True) (fun _ _ => True) calls event := by
  obtain ⟨script, _, inSteps⟩ := List.mem_flatMap.mp member
  cases script with
  | start request =>
      rw [List.mem_singleton.mp inSteps]
      exact ⟨request, trivial, rfl⟩
  | act self choice times =>
      obtain rfl := List.eq_of_mem_replicate inSteps
      exact fun _ _ _ _ _ _ _ => trivial
  | outside action =>
      rw [List.mem_singleton.mp inSteps]
      trivial

theorem reaches_any {constraints : Db → Option Failure} {check : Calls → Nat → Bool} {start : World}
    {scripts : List Script} {calls : Calls} (ran : run constraints check start scripts = some calls) :
    Reaches constraints (fun _ => True) (fun _ _ => True) start calls :=
  Pool.Reachable.runWhere .refl (fun _ member pool _ => permitted member pool) ran

/-- Run scripts with calls in progress. -/
def resume (constraints : Db → Option Failure) (calls : Calls) (scripts : List Script) :
    Option Calls :=
  Pool.runWhere (machine constraints) environment (fun _ _ => true) calls (scripts.flatMap steps)

/-- What scripts lead to is something the run can go on to. -/
theorem continues {constraints : Db → Option Failure} {calls later : Calls} {scripts : List Script}
    (ran : resume constraints calls scripts = some later) : Continues constraints calls later :=
  Pool.Reachable.runWhere .refl (fun _ member pool _ => permitted member pool) ran

end Script

end Mosp.System
