import Mosp.Sql.Alone
import Mosp.System.Requests

/-!
# The constraints along every run

A body that runs in one piece ends with the constraints as they have to be, or
leaves the database as it was.  So they hold in every world that a run reaches.
-/

namespace Mosp.System

open Mosp.Concurrency Mosp.Database Mosp.Sql Mosp.Services

variable {constraints : Db → Option Failure}

theorem World.execute_valid {α : Type} {body : Database.Tx α} {choice : Choice} {world : World}
    (valid : constraints world.db = none) :
    constraints (world.execute constraints body choice).2.db = none := by
  have trivially : Tx.wp constraints world.clock body (fun _ _ => True) (fun _ => True)
      world.state := by
    unfold Tx.wp
    split <;> trivial
  have holds := Tx.wp_valid valid trivially
  unfold World.execute
  split
  · exact valid
  · unfold Tx.wp at holds
    split
    · rename_i value state ran
      rw [ran] at holds
      exact holds.2
    · exact valid

theorem exec_valid {β : Type} {command : Command β} {choice : Choice} {world : World}
    (valid : constraints world.db = none) :
    constraints (exec constraints command choice world).2.db = none := by
  cases command with
  | query body => exact World.execute_valid valid
  | transaction body => exact World.execute_valid valid
  | provider call => exact valid
  | now => exact valid
  | randomUUID => exact valid
  | randomInt maxExclusive => exact valid
  | processItems work retryDelayMs => exact valid
  | settled => exact valid

/-- The calls may do anything but break the constraints. -/
def constraintsContract (constraints : Db → Option Failure) :
    Contract Command Phase Failure World Choice where
  Inv view := constraints view.shared.db = none
  Rely _ _ _ := True
  Allowed _ _ _ _ _ := True
  Forked _ _ _ := True
  rely_refl _ _ := trivial
  rely_trans _ _ := trivial
  inv_idle valid := valid
  rely_idle _ _ := trivial

theorem wp_constraints {α : Type} {self : Nat} {service : Service α} {view : Observation} :
    Contract.wp (machine constraints) (constraintsContract constraints) self service
      (fun _ _ => True) (fun _ _ => True) view := by
  induction service generalizing view with
  | pure value => trivial
  | throw error => trivial
  | perform command note next ih =>
      rintro before _ _ valid choice _ answer world ran
      obtain rfl : (exec constraints command choice before.shared).2 = world :=
        congrArg Prod.snd (Option.some.inj ran)
      exact ⟨exec_valid valid, fun _ _ => trivial, fun _ _ _ => trivial, ih answer⟩

/-- In whatever world a run arrives, the constraints hold there. -/
theorem valid_of_reaches {requests : Request → Prop} {condition : Condition} {start : World}
    {calls : Calls} (valid : constraints start.db = none)
    (reaches : Reaches constraints requests condition start calls) :
    constraints calls.shared.db = none := by
  have respects : Contract.Respects (machine constraints) environment
      (Permitted requests condition) (constraintsContract constraints) :=
    { start := fun _ _ _ _ _ _ _ => wp_constraints
      forked := fun _ _ _ _ _ => wp_constraints
      act := fun _ _ _ _ _ _ _ _ _ _ _ => trivial
      stop := fun _ _ _ _ _ valid => ⟨valid, fun _ _ => trivial⟩
      environment := by
        rintro _ action _ view world valid acted
        cases action with
        | pass milliseconds =>
            obtain rfl := Option.some.inj acted
            exact ⟨valid, fun _ => trivial⟩
        | clientPut address metadata =>
            obtain rfl := Option.some.inj acted
            exact ⟨valid, fun _ => trivial⟩ }
  exact respects.invariant valid reaches

end Mosp.System
