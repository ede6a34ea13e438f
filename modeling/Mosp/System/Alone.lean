import Mosp.Concurrency.Alone
import Mosp.System.Machine

/-!
# A service on its own

The rules for what a service does alone in the world, one for each command.
-/

namespace Mosp.System

open Mosp.Concurrency Mosp.Database Mosp.Sql Mosp.Services

/-- No command fails, and random numbers are in their range. -/
def Calm {β : Type} (command : Command β) (choice : Choice) : Prop :=
  choice.failure = none ∧ match command with
    | .randomInt maxExclusive => 0 < maxExclusive → (choice.number : Int) < maxExclusive
    | _ => True

/-- The service ends, run alone in a world. -/
def EndsAlone {α : Type} (constraints : Db → Option Failure)
    (may : {β : Type} → Command β → Choice → Prop) (service : Service α)
    (ends : Except Failure α → World → Prop) (world : World) : Prop :=
  service.Ends (machine constraints) may 0 ends world

theorem calm_possible {β : Type} (command : Command β) : ∃ choice, Calm command choice := by
  refine ⟨{}, rfl, ?_⟩
  cases command with
  | randomInt maxExclusive => exact fun positive => positive
  | _ => trivial

namespace EndsAlone

variable {α β : Type} {constraints : Db → Option Failure}
  {may : {β : Type} → Command β → Choice → Prop} {ends : Except Failure α → World → Prop}
  {world : World}

theorem pure {value : α} (holds : ends (.ok value) world) :
    EndsAlone constraints may (.pure value) ends world :=
  holds

theorem throw {error : Failure} (holds : ends (.error error) world) :
    EndsAlone constraints may (.throw error : Service α) ends world :=
  holds

theorem mono {ends' : Except Failure α → World → Prop} {service : Service α}
    (holds : EndsAlone constraints may service ends world)
    (weaker : ∀ result after, ends result after → ends' result after) :
    EndsAlone constraints may service ends' world :=
  Program.Ends.mono holds weaker

/-- The clock does not move while the service runs. -/
theorem now {rest : Time → Service α}
    (holds : EndsAlone constraints may (rest world.clock) ends world) :
    EndsAlone constraints may (Program.bind currentTime rest) ends world :=
  fun _ _ => ⟨world.clock, world, rfl, holds⟩

/-- A body that runs in one piece and does not fail for reasons of its own. -/
theorem of_wp {body : Tx β} {command : Command (Except Failure β)}
    (runs : ∀ choice world, exec constraints command choice world =
      world.execute constraints body choice)
    (works : ∀ choice, may command choice → choice.failure = none) {rest : β → Service α}
    (holds : Tx.wp constraints world.clock body
      (fun value state => EndsAlone constraints may (rest value) ends { world with state })
      (fun error => ends (.error error) world) world.state) :
    EndsAlone constraints may (Program.bind (attempt command) rest) ends world := by
  intro choice chosen
  have unfailing := works choice chosen
  unfold Tx.wp at holds
  cases ran : body.run constraints world.clock world.state with
  | ok ended =>
      rw [ran] at holds
      refine ⟨.ok ended.1, { world with state := ended.2 }, ?_, holds⟩
      simp only [machine, runs, World.execute, unfailing, ran]
  | error error =>
      rw [ran] at holds
      refine ⟨.error error, world, ?_, holds⟩
      simp only [machine, runs, World.execute, unfailing, ran]

theorem query {body : Tx β} {rest : β → Service α}
    (works : ∀ choice, may (.query body) choice → choice.failure = none)
    (holds : Tx.wp constraints world.clock body
      (fun value state => EndsAlone constraints may (rest value) ends { world with state })
      (fun error => ends (.error error) world) world.state) :
    EndsAlone constraints may (Program.bind (Services.query body) rest) ends world :=
  of_wp (fun _ _ => rfl) works holds

theorem bind {service : Service β} {rest : β → Service α}
    (holds : EndsAlone constraints may service (fun result after =>
      match result with
      | .ok value => EndsAlone constraints may (rest value) ends after
      | .error error => ends (.error error) after) world) :
    EndsAlone constraints may (Program.bind service rest) ends world := by
  refine Program.ends_bind.mpr (holds.mono fun result after reached => ?_)
  cases result <;> exact reached

/-- A service that returns a value returns no other. -/
theorem returns_iff {service : Service α} {value other : α}
    (holds : EndsAlone constraints Calm service (fun result _ => result = .ok value) world) :
    EndsAlone constraints Calm service (fun result _ => result = .ok other) world ↔
      value = other := by
  constructor
  · intro again
    obtain ⟨result, _, first, second⟩ := (Program.Ends.both holds again).exists calm_possible
    exact Except.ok.inj (first.symm.trans second)
  · rintro rfl
    exact holds

end EndsAlone

end Mosp.System
