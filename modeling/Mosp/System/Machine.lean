import Mosp.Concurrency.Soundness
import Mosp.Services.Explorer
import Mosp.Worker.UploadReconciliation
import Mosp.Worker.MigrationReconciliation

/-!
# The system at the grain of transactions

The world of the services: one database, the providers and a clock.  Every
transaction, every standalone query and every provider call is one step.  The
scheduler chooses which call goes on, whether its command fails, and what the
providers report about an object they store.
-/

namespace Mosp.System

open Mosp.Concurrency Mosp.Database Mosp.Sql Mosp.Services Mosp.Worker

/-! ## Providers -/

/-- The objects that the providers hold. -/
abbrev Objects := Address → Option ProviderObjectMetadata

namespace Objects

def put (objects : Objects) (address : Address) (metadata : ProviderObjectMetadata) : Objects :=
  fun other => if other = address then some metadata else objects other

def remove (objects : Objects) (address : Address) : Objects :=
  fun other => if other = address then none else objects other

/-- Whether there is an object under an address. -/
def Holds (objects : Objects) (address : Address) : Prop :=
  (objects address).isSome

instance (objects : Objects) (address : Address) : Decidable (objects.Holds address) :=
  inferInstanceAs (Decidable ((objects address).isSome = true))

theorem holds_put_self (objects : Objects) (address : Address)
    (metadata : ProviderObjectMetadata) : (objects.put address metadata).Holds address := by
  simp [Holds, put]

theorem Holds.put {objects : Objects} {other : Address} (holds : objects.Holds other)
    (address : Address) (metadata : ProviderObjectMetadata) :
    (objects.put address metadata).Holds other := by
  unfold Holds Objects.put
  split
  · rfl
  · exact holds

theorem Holds.remove {objects : Objects} {other address : Address} (holds : objects.Holds other)
    (distinct : other ≠ address) : (objects.remove address).Holds other := by
  unfold Holds Objects.remove
  rw [if_neg distinct]
  exact holds

end Objects

/-- What the scheduler decides about one command. -/
structure Choice where
  /-- The command fails with this error. -/
  failure : Option Failure := none
  /-- A failing command that stores an object has stored it all the same. -/
  applied : Bool := false
  /-- What the provider reports about an object it stores. -/
  metadata : ProviderObjectMetadata := { sizeBytes := 0 }
  number : Nat := 0
  text : String := ""

def presignedUrlTtlMs : Nat := 900 * 1000

/-- Answer a provider call. -/
def execProvider (choice : Choice) (clock : Time) (objects : Objects) {α : Type} :
    ProviderCall α → Except Failure α × Objects
  | .connect providerConnectionId =>
      (choice.failure.elim (.ok ⟨providerConnectionId⟩) .error, objects)
  | .createPresignedUpload _ contentType =>
      (choice.failure.elim (.ok ⟨choice.text, clock + presignedUrlTtlMs, contentType⟩) .error,
        objects)
  | .createPresignedDownload _ =>
      (choice.failure.elim (.ok ⟨choice.text, clock + presignedUrlTtlMs, none⟩) .error, objects)
  | .createPresignedUploadPart _ _ _ =>
      (choice.failure.elim (.ok ⟨choice.text, clock + presignedUrlTtlMs, none⟩) .error, objects)
  | .createMultipartUpload _ _ => (choice.failure.elim (.ok choice.number) .error, objects)
  | .completeMultipartUpload address _ _ => stored address
  | .abortMultipartUpload _ _ => (choice.failure.elim (.ok ()) .error, objects)
  | .headObject address => (choice.failure.elim (reported address) .error, objects)
  | .objectExists address => (choice.failure.elim (.ok (objects address).isSome) .error, objects)
  | .getObject address => (choice.failure.elim (reported address) .error, objects)
  | .putObject address _ _ => stored address
  | .deleteObject address _ =>
      match choice.failure with
      | some failure => (.error failure, objects)
      | none => (.ok (), objects.remove address)
where
  /-- Store an object under an address. -/
  stored (address : Address) : Except Failure Unit × Objects :=
    match choice.failure with
    | some failure =>
        (.error failure, if choice.applied then objects.put address choice.metadata else objects)
    | none => (.ok (), objects.put address choice.metadata)
  /-- The metadata of an object that has to be there. -/
  reported (address : Address) : Except Failure ProviderObjectMetadata :=
    match objects address with
    | some metadata => .ok metadata
    | none => .error (.provider "NotFound" (some 404))

/-! ## The world -/

structure World where
  state : State Db
  objects : Objects
  clock : Time

namespace World

def db (world : World) : Db :=
  world.state.db

def nextId (world : World) : Id :=
  world.state.nextId

/-- Run a body in one piece; an error leaves the database as it was. -/
def execute (constraints : Db → Option Failure) {α : Type} (body : Tx α) (choice : Choice)
    (world : World) : Except Failure α × World :=
  match choice.failure with
  | some failure => (.error failure, world)
  | none =>
      match body.run constraints world.clock world.state with
      | .ok (value, state) => (.ok value, { world with state })
      | .error error => (.error error, world)

end World

/-- Answer a command. -/
def exec (constraints : Db → Option Failure) {β : Type} (command : Command β) (choice : Choice)
    (world : World) : β × World :=
  match command with
  | .query body => world.execute constraints body choice
  | .transaction body => world.execute constraints body choice
  | .provider call =>
      let (answer, objects) := execProvider choice world.clock world.objects call
      (answer, { world with objects })
  | .now => (world.clock, world)
  | .randomUUID => (world.nextId, { world with state := world.state.issue })
  | .randomInt _ => (choice.number, world)
  | .processItems _ _ => ((), world)
  | .settled => (choice.failure.elim (.ok ()) .error, world)

/-- The programs that a command starts. -/
def children {β : Type} : Command β → List (Phase × Service Unit)
  | .processItems work retryDelayMs =>
      work.map fun entry => (.holding [entry.1.id],
        MigrationReconciliationService.processItem entry.1 entry.2 retryDelayMs)
  | _ => []

/-- `Promise.all` goes on when all have ended, and fails as soon as one fails. -/
def waits {β : Type} : Command β → Choice → Bool
  | .settled, choice => choice.failure.isNone
  | _, _ => false

/-- The interpretation of the commands.  `constraints` are what the database
enforces after each statement. -/
def machine (constraints : Db → Option Failure) : Machine Command Phase Failure World Choice where
  exec _ command choice world := some (exec constraints command choice world)
  children := children
  waits := waits

/-- What happens outside the services. -/
inductive Action where
  /-- Time passes. -/
  | pass (milliseconds : Nat)
  /-- A client stores an object with a presigned request. -/
  | clientPut (address : Address) (metadata : ProviderObjectMetadata)

def environment : Action → World → Option World
  | .pass milliseconds, world => some { world with clock := world.clock + milliseconds }
  | .clientPut address metadata, world =>
      some { world with objects := world.objects.put address metadata }

/-- The calls in progress over a world. -/
abbrev Calls := Pool Command Phase Failure World

/-- A step of the system. -/
abbrev Step := Event Command Phase Failure Choice Action

/-- What can be seen of the system. -/
abbrev Observation := View Phase World

end Mosp.System
