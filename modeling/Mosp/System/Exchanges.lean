import Mosp.Concurrency.Alone
import Mosp.System.Machine

/-!
# A service among arbitrary providers

One service on its own.  The database does what it is told; the providers answer
whatever the scheduler wants, and what was asked of them is written down.
-/

namespace Mosp.System

open Mosp.Concurrency Mosp.Database Mosp.Sql Mosp.Services

/-- What was asked about an object, and the answer. -/
inductive Exchange where
  | got (address : Address) (answer : Except Failure ProviderObjectMetadata)
  | headed (address : Address) (answer : Except Failure ProviderObjectMetadata)
  | stored (address : Address) (answer : Except Failure Unit)
  | deleted (address : Address) (answer : Except Failure Unit)

/-- The database, the clock and what was asked of the providers so far. -/
structure Desk where
  state : State Db
  clock : Time
  exchanges : List Exchange := []

namespace Desk

def db (desk : Desk) : Db :=
  desk.state.db

/-- Run a body in one piece; an error leaves the database as it was. -/
def execute (constraints : Db → Option Failure) {α : Type} (body : Tx α) (choice : Choice)
    (desk : Desk) : Except Failure α × Desk :=
  match choice.failure with
  | some failure => (.error failure, desk)
  | none =>
      match body.run constraints desk.clock desk.state with
      | .ok (value, state) => (.ok value, { desk with state })
      | .error error => (.error error, desk)

def note (desk : Desk) (exchanges : List Exchange) : Desk :=
  { desk with exchanges := desk.exchanges ++ exchanges }

end Desk

/-- The answer of a provider, and what is written down about it. -/
def respond (choice : Choice) (clock : Time) {α : Type} :
    ProviderCall α → Except Failure α × List Exchange
  | .connect providerConnectionId => (answered ⟨providerConnectionId⟩, [])
  | .createPresignedUpload _ contentType =>
      (answered ⟨choice.text, clock + presignedUrlTtlMs, contentType⟩, [])
  | .createPresignedDownload _ => (answered ⟨choice.text, clock + presignedUrlTtlMs, none⟩, [])
  | .createPresignedUploadPart _ _ _ =>
      (answered ⟨choice.text, clock + presignedUrlTtlMs, none⟩, [])
  | .createMultipartUpload _ _ => (answered choice.number, [])
  | .completeMultipartUpload address _ _ => (answered (), [.stored address (answered ())])
  | .abortMultipartUpload _ _ => (answered (), [])
  | .headObject address =>
      (answered choice.metadata, [.headed address (answered choice.metadata)])
  | .objectExists _ => (answered choice.applied, [])
  | .getObject address => (answered choice.metadata, [.got address (answered choice.metadata)])
  | .putObject address _ _ => (answered (), [.stored address (answered ())])
  | .deleteObject address _ => (answered (), [.deleted address (answered ())])
where
  /-- This value, unless the call fails. -/
  answered {β : Type} (value : β) : Except Failure β :=
    choice.failure.elim (.ok value) .error

/-- Answer a command. -/
def correspond (constraints : Db → Option Failure) {β : Type} (command : Command β)
    (choice : Choice) (desk : Desk) : β × Desk :=
  match command with
  | .query body => desk.execute constraints body choice
  | .transaction body => desk.execute constraints body choice
  | .provider call =>
      let (answer, exchanges) := respond choice desk.clock call
      (answer, desk.note exchanges)
  | .now => (desk.clock, desk)
  | .randomUUID => (desk.state.nextId, { desk with state := desk.state.issue })
  | .randomInt _ => (choice.number, desk)
  | .processItems _ _ => ((), desk)
  | .settled => (choice.failure.elim (.ok ()) .error, desk)

def correspondence (constraints : Db → Option Failure) :
    Machine Command Phase Failure Desk Choice where
  exec _ command choice desk := some (correspond constraints command choice desk)

/-- The database does not fail for reasons of its own. -/
def DatabaseWorks {β : Type} (command : Command β) (choice : Choice) : Prop :=
  match command with
  | .query _ | .transaction _ => choice.failure = none
  | _ => True

/-- The service ends, whatever the providers answer. -/
def EndsAmong {α : Type} (constraints : Db → Option Failure) (service : Service α)
    (ends : Except Failure α → Desk → Prop) (desk : Desk) : Prop :=
  service.Ends (correspondence constraints) DatabaseWorks 0 ends desk

namespace EndsAmong

variable {α β : Type} {constraints : Db → Option Failure}
  {ends ends' : Except Failure α → Desk → Prop} {desk : Desk}

theorem mono {service : Service α} (holds : EndsAmong constraints service ends desk)
    (weaker : ∀ result after, ends result after → ends' result after) :
    EndsAmong constraints service ends' desk :=
  Program.Ends.mono holds weaker

theorem bind {service : Service β} {rest : β → Service α}
    (holds : EndsAmong constraints service (fun result after =>
      match result with
      | .ok value => EndsAmong constraints (rest value) ends after
      | .error error => ends (.error error) after) desk) :
    EndsAmong constraints (Program.bind service rest) ends desk := by
  refine Program.ends_bind.mpr (holds.mono fun result after reached => ?_)
  cases result <;> exact reached

theorem catchWith {service : Service α} {handler : Failure → Service α}
    (holds : EndsAmong constraints service (fun result after =>
      match result with
      | .ok value => ends (.ok value) after
      | .error error => EndsAmong constraints (handler error) ends after) desk) :
    EndsAmong constraints (service.catchWith handler) ends desk := by
  refine Program.ends_catchWith.mpr (holds.mono fun result after reached => ?_)
  cases result <;> exact reached

theorem ofExcept {value : Except Failure α} (holds : ends value desk) :
    EndsAmong constraints (.ofExcept value) ends desk :=
  Program.ends_ofExcept.mpr holds

theorem throwIf {condition : Prop} [Decidable condition] {error : Failure}
    {ends : Except Failure Unit → Desk → Prop} (throws : condition → ends (.error error) desk)
    (goesOn : ¬condition → ends (.ok ()) desk) :
    EndsAmong constraints (Program.throwIf condition error) ends desk := by
  unfold Program.throwIf
  split
  · exact throws ‹_›
  · exact goesOn ‹_›

theorem noting {service : Service α} {note : Except Failure α → Option Phase}
    (holds : EndsAmong constraints service ends desk) :
    EndsAmong constraints (service.noting note) ends desk :=
  Program.ends_noting.mpr holds

theorem now {ends : Except Failure Time → Desk → Prop} (holds : ends (.ok desk.clock) desk) :
    EndsAmong constraints currentTime ends desk :=
  fun _ _ => ⟨desk.clock, desk, rfl, holds⟩

/-- A body that runs in one piece. -/
theorem of_wp {body : Tx α} {command : Command (Except Failure α)}
    (runs : ∀ choice desk, correspond constraints command choice desk =
      desk.execute constraints body choice)
    (works : ∀ choice, DatabaseWorks command choice → choice.failure = none)
    (holds : Tx.wp constraints desk.clock body
      (fun value state => ends (.ok value) { desk with state })
      (fun error => ends (.error error) desk) desk.state) :
    EndsAmong constraints (attempt command) ends desk := by
  intro choice chosen
  have unfailing := works choice chosen
  unfold Tx.wp at holds
  cases ran : body.run constraints desk.clock desk.state with
  | ok ended =>
      rw [ran] at holds
      refine ⟨.ok ended.1, { desk with state := ended.2 }, ?_, holds⟩
      simp only [correspondence, runs, Desk.execute, unfailing, ran]
  | error error =>
      rw [ran] at holds
      refine ⟨.error error, desk, ?_, holds⟩
      simp only [correspondence, runs, Desk.execute, unfailing, ran]

theorem query {body : Tx α}
    (holds : Tx.wp constraints desk.clock body
      (fun value state => ends (.ok value) { desk with state })
      (fun error => ends (.error error) desk) desk.state) :
    EndsAmong constraints (Services.query body) ends desk :=
  of_wp (fun _ _ => rfl) (fun _ works => works) holds

theorem transaction {body : Tx α}
    (holds : Tx.wp constraints desk.clock body
      (fun value state => ends (.ok value) { desk with state })
      (fun error => ends (.error error) desk) desk.state) :
    EndsAmong constraints (Services.transaction body) ends desk :=
  of_wp (fun _ _ => rfl) (fun _ works => works) holds

/-- A provider call leaves the database alone. -/
theorem provider {call : ProviderCall α}
    (holds : ∀ choice, ends (respond choice desk.clock call).1
      (desk.note (respond choice desk.clock call).2)) :
    EndsAmong constraints (Services.provider call) ends desk := by
  intro choice _
  refine ⟨(respond choice desk.clock call).1, desk.note (respond choice desk.clock call).2, rfl, ?_⟩
  have answered := holds choice
  cases answer : (respond choice desk.clock call).1 <;>
  · rw [answer] at answered
    exact answered

/-- The calls about an object give any answer, which is written down. -/
theorem getObject {adapter : S3ProviderAdapter} {bucketName : String} {key : PhysicalKey}
    {ends : Except Failure ProviderObjectMetadata → Desk → Prop}
    (holds : ∀ answer, ends answer (desk.note [.got (adapter.address bucketName key) answer])) :
    EndsAmong constraints (adapter.getObject bucketName key) ends desk :=
  provider fun _ => holds _

theorem headObject {adapter : S3ProviderAdapter} {bucketName : String} {key : PhysicalKey}
    {ends : Except Failure ProviderObjectMetadata → Desk → Prop}
    (holds : ∀ answer, ends answer (desk.note [.headed (adapter.address bucketName key) answer])) :
    EndsAmong constraints (adapter.headObject bucketName key) ends desk :=
  provider fun _ => holds _

theorem putObject {adapter : S3ProviderAdapter} {bucketName : String} {key : PhysicalKey}
    {contentType : Option String} {contentLengthBytes : Int}
    {ends : Except Failure Unit → Desk → Prop}
    (holds : ∀ answer, ends answer (desk.note [.stored (adapter.address bucketName key) answer])) :
    EndsAmong constraints (adapter.putObject bucketName key contentType contentLengthBytes) ends
      desk :=
  provider fun _ => holds _

theorem deleteObject {adapter : S3ProviderAdapter} {bucketName : String} {key : PhysicalKey}
    {givenUp : Option Id} {ends : Except Failure Unit → Desk → Prop}
    (holds : ∀ answer, ends answer (desk.note [.deleted (adapter.address bucketName key) answer])) :
    EndsAmong constraints (adapter.deleteObject bucketName key givenUp) ends desk :=
  provider fun _ => holds _

end EndsAmong

end Mosp.System
