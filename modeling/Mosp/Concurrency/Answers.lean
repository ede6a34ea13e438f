import Mosp.Concurrency.Soundness

/-!
# The answer of one call

One call of a pool performs its program between the steps of the others, which
may run, start and stop calls as they like.  What its precondition says about
the end of the program then holds when the call has come to its end.
-/

namespace Mosp.Concurrency

universe u

variable {C : Type → Type u} {L ε σ ι κ α : Type} [Inhabited L]

/-- The step neither runs the call nor stops its process. -/
def Event.Spares (pool : Pool C L ε σ) (self : Nat) : Event C L ε ι κ → Prop
  | .act other _ => other ≠ self
  | .stop process => ∀ call, pool.calls[self]? = some call → call.process ≠ process
  | .start _ | .environment _ => True

/-- The call has still to perform a program, and then to use its result. -/
def Pool.Runs (pool : Pool C L ε σ) (self : Nat) (program : Program C L ε α)
    (respond : α → Program C L ε Unit) : Prop :=
  ∃ process phase, pool.calls[self]? = some ⟨process, phase, program.bind respond⟩

/-- From one pool to the next, a call that runs a program gets to what is left of it. -/
inductive Pool.Performs (machine : Machine C L ε σ ι) (environment : κ → σ → Option σ)
    (Allowed : Pool C L ε σ → Event C L ε ι κ → Prop) (self : Nat) (pool : Pool C L ε σ)
    (program : Program C L ε α) : Pool C L ε σ → Program C L ε α → Prop
  | refl : Performs machine environment Allowed self pool program pool program
  | other {middle next : Pool C L ε σ} {rest : Program C L ε α} {event : Event C L ε ι κ} :
      Performs machine environment Allowed self pool program middle rest →
      Allowed middle event → event.Spares middle self →
      middle.step machine environment event = some next →
      Performs machine environment Allowed self pool program next rest
  | own {middle next : Pool C L ε σ} {β : Type} {command : C β} {note : β → Option L}
      {rest : β → Program C L ε α} {choice : ι} {answer : β} {shared : σ} :
      Performs machine environment Allowed self pool program middle (.perform command note rest) →
      Allowed middle (.act self choice) →
      middle.step machine environment (.act self choice) = some next →
      machine.exec self command choice middle.shared = some (answer, shared) →
      Performs machine environment Allowed self pool program next (rest answer)

/-- What is left of the program of a call once it has performed a command. -/
def Program.resumed (machine : Machine C L ε σ ι) (self : Nat) (choice : ι) (shared : σ) :
    Program C L ε α → Option (Program C L ε α)
  | .perform command _ next =>
      (machine.exec self command choice shared).map fun answered => next answered.1
  | _ => none

/-- Perform a list of steps, and follow the program of one call that none of them cuts off. -/
def Pool.follow (machine : Machine C L ε σ ι) (environment : κ → σ → Option σ) (self : Nat) :
    Pool C L ε σ → Program C L ε α → List (Event C L ε ι κ) →
      Option (Pool C L ε σ × Program C L ε α)
  | pool, program, [] => some (pool, program)
  | pool, program, event :: events =>
      (pool.step machine environment event).bind fun next =>
        match event with
        | .act other choice =>
            if other = self then
              (program.resumed machine self choice pool.shared).bind fun rest =>
                next.follow machine environment self rest events
            else
              next.follow machine environment self program events
        | .stop _ => none
        | _ => next.follow machine environment self program events

theorem Pool.Performs.follow {machine : Machine C L ε σ ι} {environment : κ → σ → Option σ}
    {Allowed : Pool C L ε σ → Event C L ε ι κ → Prop} {self : Nat} {initial pool final : Pool C L ε σ}
    {program middle rest : Program C L ε α} {events : List (Event C L ε ι κ)}
    (performs : Performs machine environment Allowed self initial program pool middle)
    (allowed : ∀ event ∈ events, ∀ pool, Allowed pool event)
    (followed : pool.follow machine environment self middle events = some (final, rest)) :
    Performs machine environment Allowed self initial program final rest := by
  induction events generalizing pool middle with
  | nil =>
      obtain ⟨rfl, rfl⟩ := Prod.mk.inj (Option.some.inj followed)
      exact performs
  | cons event events ih =>
      obtain ⟨first, others⟩ := List.forall_mem_cons.mp allowed
      obtain ⟨next, stepped, followed⟩ := Option.bind_eq_some_iff.mp followed
      cases event with
      | start program => exact ih (.other performs (first pool) trivial stepped) others followed
      | environment action => exact ih (.other performs (first pool) trivial stepped) others followed
      | stop process => contradiction
      | act other choice =>
          simp only at followed
          split at followed
          · rename_i same
            subst same
            obtain ⟨left, resumed, followed⟩ := Option.bind_eq_some_iff.mp followed
            cases middle with
            | pure value => contradiction
            | throw error => contradiction
            | perform command note goesOn =>
                obtain ⟨⟨answer, shared⟩, exec, rfl⟩ := Option.map_eq_some_iff.mp resumed
                exact ih (.own performs (first pool) stepped exec) others followed
          · rename_i apart
            exact ih (.other performs (first pool) apart stepped) others followed

theorem Pool.Reachable.trans {machine : Machine C L ε σ ι} {environment : κ → σ → Option σ}
    {Allowed : Pool C L ε σ → Event C L ε ι κ → Prop} {initial pool later : Pool C L ε σ}
    (early : Reachable machine environment Allowed initial pool)
    (late : Reachable machine environment Allowed pool later) :
    Reachable machine environment Allowed initial later := by
  induction late with
  | refl => exact early
  | tail _ allowed stepped ih => exact .tail ih allowed stepped

/-- What a call has performed is part of a run. -/
theorem Pool.Performs.reachable {machine : Machine C L ε σ ι} {environment : κ → σ → Option σ}
    {Allowed : Pool C L ε σ → Event C L ε ι κ → Prop} {self : Nat} {initial pool later : Pool C L ε σ}
    {program rest : Program C L ε α}
    (performs : Performs machine environment Allowed self pool program later rest)
    (reachable : Reachable machine environment Allowed initial pool) :
    Reachable machine environment Allowed initial later := by
  induction performs with
  | refl => exact reachable
  | other _ allowed _ stepped ih => exact .tail ih allowed stepped
  | own _ allowed stepped _ ih => exact .tail ih allowed stepped

namespace Contract

variable {machine : Machine C L ε σ ι} {environment : κ → σ → Option σ}
  {Allowed : Pool C L ε σ → Event C L ε ι κ → Prop} {contract : Contract C L ε σ ι} {self : Nat}
  {returns : α → View L σ → Prop} {throws : ε → View L σ → Prop}

/-- What others do between two commands does not disturb a program whose ends are stable. -/
theorem wp_of_stable {program : Program C L ε α} {view later : View L σ}
    (stable : ∀ value, Stable contract self (returns value))
    (stable' : ∀ error, Stable contract self (throws error))
    (holds : wp machine contract self program returns throws view)
    (phaseEq : later.phases[self]? = view.phases[self]?)
    (rely : contract.Rely self view later) (inv : contract.Inv later) :
    wp machine contract self program returns throws later := by
  cases program with
  | pure value => exact stable value view later phaseEq rely inv holds
  | throw error => exact stable' error view later phaseEq rely inv holds
  | perform command note next =>
      intro before phaseEq' rely' inv'
      exact holds before (phaseEq'.trans phaseEq) (contract.rely_trans rely rely') inv'

/-- Calls that are cut off leave the others alone. -/
theorem Holds.cuts {pool : Pool C L ε σ} (members : List Nat) (spared : self ∉ members)
    (respected : ∀ view index, contract.Inv view → contract.Inv (view.cut machine index) ∧
      ∀ other, other ≠ index → contract.Rely other view (view.cut machine index))
    (holds : Holds machine contract pool) :
    contract.Rely self pool.view (members.foldl (Pool.cut machine) pool).view ∧
      (members.foldl (Pool.cut machine) pool).calls[self]? = pool.calls[self]? := by
  induction members generalizing pool with
  | nil => exact ⟨contract.rely_refl self _, rfl⟩
  | cons index rest ih =>
      simp only [List.mem_cons, not_or] at spared
      obtain ⟨rely, sameCall⟩ :=
        ih spared.2 (holds.cut index fun view inv => respected view index inv)
      have cuts : contract.Rely self pool.view (pool.cut machine index).view := by
        rw [view_cut]
        exact (respected pool.view index holds.inv).2 self spared.1
      have stays : (pool.cut machine index).calls[self]? = pool.calls[self]? := by
        simp [Pool.cut, Ne.symm spared.1]
      exact ⟨contract.rely_trans cuts rely, sameCall.trans stays⟩

/-- A step that spares a call keeps the call and what it relies on. -/
theorem Holds.spared (respects : Respects machine environment Allowed contract)
    {pool next : Pool C L ε σ} {event : Event C L ε ι κ} (holds : Holds machine contract pool)
    (allowed : Allowed pool event) (stepped : pool.step machine environment event = some next)
    (spares : event.Spares pool self) (inside : self < pool.calls.length) :
    contract.Rely self pool.view next.view ∧ next.calls[self]? = pool.calls[self]? := by
  cases event with
  | start program =>
      obtain rfl := Option.some.inj stepped
      rw [view_start]
      exact ⟨contract.rely_idle self _, List.getElem?_append_left inside⟩
  | act other choice =>
      have acted : pool.act machine other choice = some next := stepped
      unfold Pool.act at acted
      split at acted
      · rename_i process phase β command note rest found
        split at acted
        · contradiction
        obtain ⟨⟨answer, shared⟩, exec, rfl⟩ := Option.map_eq_some_iff.mp acted
        obtain ⟨_, guarantee, _⟩ :=
          holds.calls other _ found pool.view rfl (contract.rely_refl _ _) holds.inv choice
            (respects.act pool other choice allowed process phase β command note rest found)
            answer shared exec
        rw [view_act found answer shared (machine.children command)]
        refine ⟨guarantee self (Ne.symm spares), ?_⟩
        rw [List.getElem?_append_left (by simpa using inside), List.getElem?_set_ne spares]
      · contradiction
  | stop process =>
      obtain rfl := Option.some.inj stepped
      have apart : self ∉ pool.members process := by
        intro member
        obtain ⟨⟨call, index⟩, entryMem, rfl⟩ := List.mem_map.mp member
        obtain ⟨inPool, same⟩ := List.mem_filter.mp entryMem
        have callAt : pool.calls[index]? = some call := List.mem_zipIdx_iff_getElem?.mp inPool
        exact spares call callAt (eq_of_beq same)
      exact holds.cuts (pool.members process) apart fun view index inv =>
        respects.stop pool process allowed view index inv
  | environment action =>
      obtain ⟨shared, acted, rfl⟩ := Option.map_eq_some_iff.mp stepped
      exact ⟨(respects.environment pool action allowed pool.view shared holds.inv acted).2 self, rfl⟩

/-- What is left of a program keeps its precondition until its end. -/
theorem Holds.performs (respects : Respects machine environment Allowed contract)
    {pool later : Pool C L ε σ} {program rest : Program C L ε α}
    {respond : α → Program C L ε Unit} (stable : ∀ value, Stable contract self (returns value))
    (stable' : ∀ error, Stable contract self (throws error))
    (holds : Holds machine contract pool) (runs : pool.Runs self program respond)
    (meets : wp machine contract self program returns throws pool.view)
    (performs : Pool.Performs machine environment Allowed self pool program later rest) :
    Holds machine contract later ∧ later.Runs self rest respond ∧
      wp machine contract self rest returns throws later.view := by
  induction performs with
  | refl => exact ⟨holds, runs, meets⟩
  | other _ allowed spares stepped ih =>
      obtain ⟨held, ⟨process, phase, callAt⟩, met⟩ := ih
      obtain ⟨rely, sameCall⟩ := held.spared respects allowed stepped spares
        (List.getElem?_eq_some_iff.mp callAt).1
      have next := held.step respects allowed stepped
      refine ⟨next, ⟨process, phase, sameCall.trans callAt⟩, ?_⟩
      apply wp_of_stable stable stable' met _ rely next.inv
      rw [getElem?_phases, getElem?_phases, sameCall]
  | own _ allowed stepped exec ih =>
      rename_i middle next β command note rest choice answer shared _
      obtain ⟨held, ⟨process, phase, callAt⟩, met⟩ := ih
      rw [Program.perform_bind] at callAt
      refine ⟨held.step respects allowed stepped, ?_⟩
      have acted : middle.act machine self choice = some next := stepped
      unfold Pool.act at acted
      rw [callAt] at acted
      simp only at acted
      split at acted
      · contradiction
      rw [exec, Option.map_some, Option.some.injEq] at acted
      subst acted
      have inside : self < middle.calls.length := (List.getElem?_eq_some_iff.mp callAt).1
      obtain ⟨_, _, _, goesOn⟩ :=
        met middle.view rfl (contract.rely_refl _ _) held.inv choice
          (respects.act middle self choice allowed process phase β command note _ callAt)
          answer shared exec
      constructor
      · refine ⟨process, (note answer).getD phase, ?_⟩
        rw [List.getElem?_append_left (by simpa using inside), List.getElem?_set_self inside]
      · rw [view_act callAt answer shared (machine.children command)]
        exact goesOn

end Contract

end Mosp.Concurrency
