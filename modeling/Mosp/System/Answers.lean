import Mosp.Concurrency.Answers
import Mosp.System.Requests

/-!
# What the services answer

A service is asked for while other calls are in progress, and answers later on,
whatever the others have done in the meantime.
-/

namespace Mosp.System

open Mosp.Concurrency Mosp.Database Mosp.Services

variable {α : Type} {constraints : Db → Option Failure}

/-- The calls in progress once a service was asked for. -/
def askedFor (calls : Calls) (service : Service α) : Calls :=
  { calls with
    calls := calls.calls ++ [⟨calls.calls.length, default, Request.discard service⟩] }

/-- A service that is asked for among these calls answers with a value. -/
def Replies (constraints : Db → Option Failure) (calls : Calls) (service : Service α) (value : α)
    (later : Calls) : Prop :=
  Pool.Performs (machine constraints) environment (Permitted (fun _ => True) fun _ _ => True)
    calls.calls.length (askedFor calls service) service later (.pure value)

theorem runs_askedFor (calls : Calls) (service : Service α) :
    (askedFor calls service).Runs calls.calls.length service fun _ => .pure () :=
  ⟨calls.calls.length, default, List.getElem?_concat_length⟩

/-- A service that a request is for may be asked for. -/
theorem continues_askedFor (calls : Calls) {service : Service α} (request : Request)
    (asks : request.program = Request.discard service) :
    Continues constraints calls (askedFor calls service) := by
  have started : calls.step (machine constraints) environment (.start (Request.discard service)) =
      some (askedFor calls service) := rfl
  have permitted : Permitted (fun _ => True) (fun _ _ => True) calls
      (.start (Request.discard service)) := ⟨request, trivial, asks.symm⟩
  exact .tail .refl permitted started

/-- What was answered is something the run could go on to. -/
theorem Replies.continues {calls later : Calls} {service : Service α} {value : α}
    (answers : Replies constraints calls service value later) (request : Request)
    (asks : request.program = Request.discard service) : Continues constraints calls later :=
  Pool.Performs.reachable answers (continues_askedFor calls request asks)

/-! ## Answers of scripts -/

/-- What a program returns that has ended. -/
def returned : Service α → Option α
  | .pure value => some value
  | _ => none

/-- Ask for a service, run scripts and look at what it answers. -/
def Script.answer (constraints : Db → Option Failure) (calls : Calls) (service : Service α)
    (scripts : List Script) : Option (Calls × α) :=
  (Pool.follow (machine constraints) environment calls.calls.length (askedFor calls service) service
    (scripts.flatMap Script.steps)).bind fun reached =>
      (returned reached.2).map fun value => (reached.1, value)

theorem Script.answers {calls later : Calls} {service : Service α} {value : α}
    {scripts : List Script} (answered : answer constraints calls service scripts = some (later, value)) :
    Replies constraints calls service value later := by
  obtain ⟨⟨reached, rest⟩, followed, ended⟩ := Option.bind_eq_some_iff.mp answered
  obtain ⟨result, ending, same⟩ := Option.map_eq_some_iff.mp ended
  obtain ⟨rfl, rfl⟩ := Prod.mk.inj same
  have restEq : rest = .pure result := by
    cases rest with
    | pure value => exact congrArg Program.pure (Option.some.inj ending)
    | throw error => contradiction
    | perform command note next => contradiction
  subst restEq
  exact Pool.Performs.follow .refl (fun _ => permitted) followed

end Mosp.System
