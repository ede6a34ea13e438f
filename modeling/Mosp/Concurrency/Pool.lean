import Mosp.Concurrency.Program
import Mathlib.Data.List.Basic

/-!
# Interleaved runs of many calls

A pool is a shared state together with any number of calls in progress.  Each
step lets one call perform its next command, starts a call, stops a whole
process, or lets the environment act.  No order is assumed between the steps
of different calls, so a statement about every reachable pool is a statement
about every interleaving.
-/

namespace Mosp.Concurrency

universe u

/-- The meaning of the commands over a shared state `σ`.  The scheduler hands
every command a choice `ι`; a command that answers `none` cannot run now. -/
structure Machine (C : Type → Type u) (L ε σ ι : Type) where
  exec {β : Type} (self : Nat) (command : C β) (choice : ι) (shared : σ) : Option (β × σ)
  /-- Calls that the command starts in the process of its caller, with the
  phases they show. -/
  children {β : Type} (command : C β) : List (L × Program C L ε Unit) := []
  /-- Whether the command waits for every other call of the process. -/
  waits {β : Type} (command : C β) (choice : ι) : Bool := false
  /-- What the shared state loses when a call is cut off. -/
  release (self : Nat) (shared : σ) : σ := shared

/-- One call in progress: the process it runs in, the phase it shows and the
commands it has still to perform. -/
structure Call (C : Type → Type u) (L ε : Type) where
  process : Nat
  phase : L
  program : Program C L ε Unit

/-- A shared state and the calls in progress over it. -/
structure Pool (C : Type → Type u) (L ε σ : Type) where
  shared : σ
  calls : List (Call C L ε)

/-- One step of a pool. -/
inductive Event (C : Type → Type u) (L ε ι κ : Type) where
  | start (program : Program C L ε Unit) : Event C L ε ι κ
  | act (self : Nat) (choice : ι) : Event C L ε ι κ
  | stop (process : Nat) : Event C L ε ι κ
  | environment (action : κ) : Event C L ε ι κ

section

variable {C : Type → Type u} {L ε σ ι κ : Type} [Inhabited L]

/-- Whether a call has nothing left to perform. -/
def Program.finished {α : Type} : Program C L ε α → Bool
  | .perform _ _ _ => false
  | _ => true

/-- Whether every other call of the process is finished. -/
def Pool.alone (pool : Pool C L ε σ) (self process : Nat) : Bool :=
  pool.calls.zipIdx.all fun entry =>
    entry.2 == self || entry.1.process != process || entry.1.program.finished

/-- Let the call `self` perform its next command. -/
def Pool.act (machine : Machine C L ε σ ι) (pool : Pool C L ε σ) (self : Nat) (choice : ι) :
    Option (Pool C L ε σ) :=
  match pool.calls[self]? with
  | some ⟨process, phase, .perform command note next⟩ =>
      if machine.waits command choice && !pool.alone self process then
        none
      else
        (machine.exec self command choice pool.shared).map fun answered =>
          { shared := answered.2
            calls :=
              pool.calls.set self ⟨process, (note answered.1).getD phase, next answered.1⟩ ++
                (machine.children command).map fun child => ⟨process, child.1, child.2⟩ }
  | _ => none

/-- Cut off one call: it performs nothing more, and what it had in memory is
gone. -/
def Pool.cut (machine : Machine C L ε σ ι) (pool : Pool C L ε σ) (self : Nat) : Pool C L ε σ :=
  { shared := machine.release self pool.shared
    calls := pool.calls.modify self fun call => ⟨call.process, default, .pure ()⟩ }

/-- The calls of a process. -/
def Pool.members (pool : Pool C L ε σ) (process : Nat) : List Nat :=
  (pool.calls.zipIdx.filter fun entry => entry.1.process == process).map Prod.snd

/-- Cut off every call of a process.  What was committed stays. -/
def Pool.stop (machine : Machine C L ε σ ι) (pool : Pool C L ε σ) (process : Nat) :
    Pool C L ε σ :=
  (pool.members process).foldl (Pool.cut machine) pool

/-- One step of the pool, when it is possible. -/
def Pool.step (machine : Machine C L ε σ ι) (environment : κ → σ → Option σ)
    (pool : Pool C L ε σ) : Event C L ε ι κ → Option (Pool C L ε σ)
  | .start program => some { pool with calls := pool.calls ++ [⟨pool.calls.length, default, program⟩] }
  | .act self choice => pool.act machine self choice
  | .stop process => some (pool.stop machine process)
  | .environment action => (environment action pool.shared).map fun shared => { pool with shared }

/-- The pools that a run can reach whose steps all are allowed. -/
inductive Pool.Reachable (machine : Machine C L ε σ ι) (environment : κ → σ → Option σ)
    (Allowed : Pool C L ε σ → Event C L ε ι κ → Prop) (initial : Pool C L ε σ) :
    Pool C L ε σ → Prop
  | refl : Reachable machine environment Allowed initial initial
  | tail {pool next : Pool C L ε σ} {event : Event C L ε ι κ} :
      Reachable machine environment Allowed initial pool → Allowed pool event →
      pool.step machine environment event = some next →
      Reachable machine environment Allowed initial next

/-- Perform a list of steps in order, as long as they pass a check. -/
def Pool.runWhere (machine : Machine C L ε σ ι) (environment : κ → σ → Option σ)
    (check : Pool C L ε σ → Event C L ε ι κ → Bool) :
    Pool C L ε σ → List (Event C L ε ι κ) → Option (Pool C L ε σ)
  | pool, [] => some pool
  | pool, event :: events =>
      if check pool event then
        (pool.step machine environment event).bind fun next =>
          next.runWhere machine environment check events
      else
        none

/-- What a list of allowed steps leads to is reachable. -/
theorem Pool.Reachable.runWhere {machine : Machine C L ε σ ι} {environment : κ → σ → Option σ}
    {Allowed : Pool C L ε σ → Event C L ε ι κ → Prop} {check : Pool C L ε σ → Event C L ε ι κ → Bool}
    {initial pool final : Pool C L ε σ} (reachable : Reachable machine environment Allowed initial pool)
    {events : List (Event C L ε ι κ)}
    (allowed : ∀ event ∈ events, ∀ pool, check pool event = true → Allowed pool event)
    (ran : pool.runWhere machine environment check events = some final) :
    Reachable machine environment Allowed initial final := by
  induction events generalizing pool with
  | nil => exact Option.some.inj ran ▸ reachable
  | cons event rest ih =>
      obtain ⟨first, others⟩ := List.forall_mem_cons.mp allowed
      unfold Pool.runWhere at ran
      split at ran
      · rename_i passed
        obtain ⟨next, stepped, ran⟩ := Option.bind_eq_some_iff.mp ran
        exact ih (.tail reachable (first pool passed) stepped) others ran
      · contradiction

end

end Mosp.Concurrency
