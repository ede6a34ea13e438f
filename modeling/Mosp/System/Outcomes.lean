import Mosp.System.Alone

/-!
# What a service returns

Any command may fail.  The rules here say what holds when a service run alone returns
normally all the same.
-/

namespace Mosp.System

open Mosp.Concurrency Mosp.Database Mosp.Sql Mosp.Services

/-- Commands may turn out in any way. -/
def Anything {β : Type} (_ : Command β) (_ : Choice) : Prop :=
  True

/-- What holds of the value and of the world if the service, run alone, returns. -/
def Returns {α : Type} (constraints : Db → Option Failure) (service : Service α)
    (post : α → World → Prop) (world : World) : Prop :=
  EndsAlone constraints Anything service
    (fun result after => ∀ value, result = .ok value → post value after) world

/-- The service ends with an error. -/
def Throws {α : Type} (constraints : Db → Option Failure) (service : Service α) : Prop :=
  ∀ world, Returns constraints service (fun _ _ => False) world

namespace Returns

variable {α β : Type} {constraints : Db → Option Failure} {post post' : α → World → Prop}
  {world : World}

/-- A service always ends. -/
theorem trivially (service : Service α) : Returns constraints service (fun _ _ => True) world := by
  unfold Returns EndsAlone
  induction service generalizing world with
  | pure value => exact fun _ _ => trivial
  | throw error => exact fun _ _ => trivial
  | perform command note next ih => exact fun choice _ => ⟨_, _, rfl, ih _⟩

theorem pure {value : α} (holds : post value world) :
    Returns constraints (.pure value) post world := by
  rintro _ ⟨⟩
  exact holds

theorem throw {error : Failure} : Returns constraints (.throw error : Service α) post world :=
  nofun

theorem mono {service : Service α} (holds : Returns constraints service post world)
    (weaker : ∀ value after, post value after → post' value after) :
    Returns constraints service post' world :=
  EndsAlone.mono holds fun _ _ reached value returned => weaker value _ (reached value returned)

theorem bind {service : Service β} {rest : β → Service α}
    (holds : Returns constraints service
      (fun value after => Returns constraints (rest value) post after) world) :
    Returns constraints (Program.bind service rest) post world := by
  apply EndsAlone.bind
  apply EndsAlone.mono holds
  intro result after reached
  cases result with
  | ok value => exact reached value rfl
  | error error => exact nofun

theorem throwIf {condition : Prop} [Decidable condition] {error : Failure}
    {post : Unit → World → Prop} (holds : ¬condition → post () world) :
    Returns constraints (Program.throwIf condition error) post world := by
  unfold Program.throwIf
  split
  · exact throw
  · exact pure (holds ‹_›)

/-- A handler that throws does not return. -/
theorem catchWith {service : Service α} {handler : Failure → Service α}
    (holds : Returns constraints service post world)
    (throws : ∀ error, Throws constraints (handler error)) :
    Returns constraints (service.catchWith handler) post world := by
  refine Program.ends_catchWith.mpr (Program.Ends.mono holds fun result after reached => ?_)
  cases result with
  | ok value => exact reached
  | error error =>
      exact EndsAlone.mono (throws error after) fun _ _ never value returned =>
        (never value returned).elim

theorem noting {service : Service α} {note : Except Failure α → Option Phase}
    (holds : Returns constraints service post world) :
    Returns constraints (service.noting note) post world :=
  Program.ends_noting.mpr holds

theorem randomUUID {note : Id → Option Phase} {post : Id → World → Prop}
    (holds : post world.nextId { world with state := world.state.issue }) :
    Returns constraints (.perform .randomUUID note .pure) post world :=
  fun _ _ => ⟨_, _, rfl, @pure _ constraints _ _ _ holds⟩

theorem now {post : Time → World → Prop} (holds : ∀ time, post time world) :
    Returns constraints currentTime post world :=
  fun _ _ => ⟨_, _, rfl, @pure _ constraints _ _ _ (holds _)⟩

theorem randomInt {maxExclusive : Int} {post : Int → World → Prop}
    (holds : ∀ number, post number world) :
    Returns constraints (Services.randomInt maxExclusive) post world :=
  fun _ _ => ⟨_, _, rfl, @pure _ constraints _ _ _ (holds _)⟩

/-- What a body that runs in one piece returns. -/
theorem of_wp {body : Tx α} {command : Command (Except Failure α)}
    (runs : ∀ choice world, exec constraints command choice world =
      world.execute constraints body choice)
    (holds : Tx.wp constraints world.clock body
      (fun value state => post value { world with state }) (fun _ => True) world.state) :
    Returns constraints (attempt command) post world := by
  intro choice _
  unfold Tx.wp at holds
  cases failed : choice.failure with
  | some failure =>
      refine ⟨.error failure, world, ?_, nofun⟩
      simp only [machine, runs, World.execute, failed]
  | none =>
      cases ran : body.run constraints world.clock world.state with
      | ok ended =>
          rw [ran] at holds
          refine ⟨.ok ended.1, { world with state := ended.2 }, ?_,
            @pure _ constraints _ _ _ holds⟩
          simp only [machine, runs, World.execute, failed, ran]
      | error error =>
          refine ⟨.error error, world, ?_, nofun⟩
          simp only [machine, runs, World.execute, failed, ran]

theorem query {body : Tx α}
    (holds : Tx.wp constraints world.clock body
      (fun value state => post value { world with state }) (fun _ => True) world.state) :
    Returns constraints (Services.query body) post world :=
  of_wp (fun _ _ => rfl) holds

theorem transaction {body : Tx α}
    (holds : Tx.wp constraints world.clock body
      (fun value state => post value { world with state }) (fun _ => True) world.state) :
    Returns constraints (Services.transaction body) post world :=
  of_wp (fun _ _ => rfl) holds

/-- A provider call leaves the database alone. -/
theorem provider {call : ProviderCall α}
    (holds : ∀ value objects, post value { world with objects }) :
    Returns constraints (Services.provider call) post world := by
  intro choice _
  refine ⟨(execProvider choice world.clock world.objects call).1,
    { world with objects := (execProvider choice world.clock world.objects call).2 }, rfl, ?_⟩
  generalize execProvider choice world.clock world.objects call = answered
  obtain ⟨answer, objects⟩ := answered
  cases answer with
  | ok value => exact @pure _ constraints _ _ _ (holds value objects)
  | error error => exact nofun

end Returns

/-- Cleaning up and then throwing is throwing. -/
theorem Throws.after {α β : Type} {constraints : Db → Option Failure} {service : Service β}
    {rest : β → Service α} (throws : ∀ value, Throws constraints (rest value)) :
    Throws constraints (Program.bind service rest) := by
  intro world
  apply Returns.bind
  exact (Returns.trivially service).mono fun value after _ => throws value after

theorem Throws.throw {α : Type} {constraints : Db → Option Failure} {error : Failure} :
    Throws constraints (.throw error : Service α) :=
  fun _ => nofun

end Mosp.System
