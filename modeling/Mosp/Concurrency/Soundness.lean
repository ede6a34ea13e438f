import Mosp.Concurrency.Contract

/-!
# Contracts hold along every run

If every call is started with its precondition met, the environment and the
stopping of processes respect the contract, and every command that runs is one
the contract allows, then the invariant holds in every pool the run reaches.
-/

namespace Mosp.Concurrency

universe u

variable {C : Type → Type u} {L ε σ ι κ : Type} [Inhabited L]
  {machine : Machine C L ε σ ι} {environment : κ → σ → Option σ}

namespace View

/-- The view after the call `self` was cut off. -/
def cut (machine : Machine C L ε σ ι) (view : View L σ) (self : Nat) : View L σ :=
  ⟨view.phases.set self default, machine.release self view.shared⟩

end View

namespace Contract

/-- The invariant holds and every call in progress may go on. -/
structure Holds (machine : Machine C L ε σ ι) (contract : Contract C L ε σ ι)
    (pool : Pool C L ε σ) : Prop where
  inv : contract.Inv pool.view
  calls : ∀ self call, pool.calls[self]? = some call →
    contract.wp machine self call.program (fun _ _ => True) (fun _ _ => True)
      pool.view

/-- What a system has to show for its contract to hold along its runs. -/
structure Respects (machine : Machine C L ε σ ι) (environment : κ → σ → Option σ)
    (Allowed : Pool C L ε σ → Event C L ε ι κ → Prop) (contract : Contract C L ε σ ι) : Prop where
  start : ∀ pool program, Allowed pool (.start program) →
    ∀ self view, view.phases[self]? = some default → contract.Inv view →
      contract.wp machine self program (fun _ _ => True) (fun _ _ => True) view
  forked : ∀ child self view, contract.Forked self child view → contract.Inv view →
    contract.wp machine self child (fun _ _ => True) (fun _ _ => True) view
  act : ∀ (pool : Pool C L ε σ) self choice, Allowed pool (.act self choice) →
    ∀ process phase β (command : C β) note next,
      pool.calls[self]? = some ⟨process, phase, .perform command note next⟩ →
      contract.Allowed self command choice pool.view
  stop : ∀ pool process, Allowed pool (.stop process) →
    ∀ view self, contract.Inv view → contract.Inv (view.cut machine self) ∧
      ∀ other, other ≠ self → contract.Rely other view (view.cut machine self)
  environment : ∀ pool action, Allowed pool (.environment action) →
    ∀ view shared, contract.Inv view → environment action view.shared = some shared →
      contract.Inv { view with shared } ∧ ∀ other, contract.Rely other view { view with shared }

variable {Allowed : Pool C L ε σ → Event C L ε ι κ → Prop} {contract : Contract C L ε σ ι}

omit [Inhabited L] in
theorem getElem?_phases (pool : Pool C L ε σ) (self : Nat) :
    pool.view.phases[self]? = pool.calls[self]?.map Call.phase := by
  simp [Pool.view]

omit [Inhabited L] in
/-- The view of the pool after a call was answered. -/
theorem view_act {pool : Pool C L ε σ} {self process : Nat} {phase : L} {β : Type}
    {command : C β} {note : β → Option L} {next : β → Program C L ε Unit}
    (found : pool.calls[self]? = some ⟨process, phase, .perform command note next⟩)
    (answer : β) (shared : σ) (children : List (L × Program C L ε Unit)) :
    (⟨shared, pool.calls.set self ⟨process, (note answer).getD phase, next answer⟩ ++
        children.map fun child => ⟨process, child.1, child.2⟩⟩ : Pool C L ε σ).view =
      (pool.view.answer self (note answer) shared).fork (children.map Prod.fst) := by
  have phaseAt : pool.view.phases[self]? = some phase := by
    rw [getElem?_phases, found]; rfl
  have childrenEq : (children.map fun child => (⟨process, child.1, child.2⟩ : Call C L ε)).map
      Call.phase = children.map Prod.fst := by
    rw [List.map_map]
    rfl
  cases noteEq : note answer with
  | some noted =>
      simp only [Pool.view, View.fork, View.answer, List.map_append, List.map_set, childrenEq,
        Option.getD_some, Option.elim_some]
  | none =>
      have setEq : pool.view.phases.set self phase = pool.view.phases := by
        refine List.ext_getElem? fun index => ?_
        rw [List.getElem?_set]
        split
        · subst index
          split
          · exact phaseAt.symm
          · rename_i outside
            rw [List.getElem?_eq_none (Nat.le_of_not_lt outside)]
        · rfl
      simp only [Pool.view] at setEq
      simp only [Pool.view, View.fork, View.answer, List.map_append, List.map_set, childrenEq,
        Option.getD_none, Option.elim_none, setEq]

/-- One command of one call keeps everything. -/
theorem Holds.act (respects : Respects machine environment Allowed contract)
    {pool next : Pool C L ε σ} {self : Nat} {choice : ι}
    (holds : Holds machine contract pool) (allowed : Allowed pool (.act self choice))
    (acted : pool.act machine self choice = some next) : Holds machine contract next := by
  unfold Pool.act at acted
  split at acted
  · rename_i process phase β command note rest found
    split at acted
    · contradiction
    obtain ⟨⟨answer, shared⟩, exec, rfl⟩ := Option.map_eq_some_iff.mp acted
    obtain ⟨keeps, guarantee, forked, continues⟩ :=
      holds.calls self _ found pool.view rfl (contract.rely_refl _ _) holds.inv choice
        (respects.act pool self choice allowed process phase β command note rest found)
        answer shared exec
    have viewEq := view_act found answer shared (machine.children command)
    have inside : self < pool.calls.length := (List.getElem?_eq_some_iff.mp found).1
    refine ⟨by rw [viewEq]; exact keeps, ?_⟩
    intro index call callAt
    rw [viewEq]
    simp only [List.getElem?_append, List.length_set] at callAt
    split at callAt
    · rename_i indexInside
      have indexPhases : index < (pool.view.answer self (note answer) shared).phases.length := by
        simpa [Pool.view] using indexInside
      by_cases same : index = self
      · subst same
        rw [List.getElem?_set_self inside, Option.some.injEq] at callAt
        subst callAt
        exact continues
      · rw [List.getElem?_set_ne (Ne.symm same)] at callAt
        refine wp_of_rely (holds.calls index call callAt) ?_ (guarantee index same)
        rw [View.fork_phases_lt _ _ indexPhases, View.answer_phases_ne _ _ _ same]
    · rename_i indexOutside
      simp only [List.getElem?_map, Option.map_eq_some_iff] at callAt
      obtain ⟨child, childAt, rfl⟩ := callAt
      refine respects.forked child.2 index _ ?_ keeps
      have forkedChild := forked _ child childAt
      have lengthEq : pool.view.phases.length = pool.calls.length := by simp [Pool.view]
      rwa [lengthEq, Nat.add_sub_cancel' (Nat.le_of_not_lt indexOutside)] at forkedChild
  · contradiction

/-- The view of the pool after a call was started. -/
theorem view_start (pool : Pool C L ε σ) (program : Program C L ε Unit) :
    (⟨pool.shared, pool.calls ++ [⟨pool.calls.length, default, program⟩]⟩ : Pool C L ε σ).view =
      pool.view.fork [default] := by
  simp [Pool.view, View.fork]

/-- The view of the pool after a call was cut off. -/
theorem view_cut (pool : Pool C L ε σ) (self : Nat) :
    (pool.cut machine self).view = pool.view.cut machine self := by
  simp only [Pool.view, Pool.cut, View.cut, View.mk.injEq, and_true]
  refine List.ext_getElem? fun index => ?_
  rw [List.getElem?_map, List.getElem?_modify, List.getElem?_set]
  by_cases same : self = index
  · subst same
    cases at_ : pool.calls[self]? with
    | none => simp [List.getElem?_eq_none_iff.mp at_]
    | some call =>
        have inside := (List.getElem?_eq_some_iff.mp at_).1
        simp [inside]
  · simp [same]

/-- Cutting off one call keeps everything. -/
theorem Holds.cut {pool : Pool C L ε σ} (self : Nat)
    (respected : ∀ view, contract.Inv view → contract.Inv (view.cut machine self) ∧
      ∀ other, other ≠ self → contract.Rely other view (view.cut machine self))
    (holds : Holds machine contract pool) : Holds machine contract (pool.cut machine self) := by
  have viewEq : (pool.cut machine self).view = pool.view.cut machine self := view_cut pool self
  obtain ⟨inv, guarantee⟩ := respected pool.view holds.inv
  refine ⟨by rw [viewEq]; exact inv, ?_⟩
  intro index call callAt
  rw [viewEq]
  simp only [Pool.cut, List.getElem?_modify, Option.map_eq_map, Option.map_eq_some_iff] at callAt
  obtain ⟨old, oldAt, rfl⟩ := callAt
  by_cases same : self = index
  · rw [if_pos same]
    trivial
  · rw [if_neg same]
    refine wp_of_rely (holds.calls index old oldAt) ?_ (guarantee index (Ne.symm same))
    simp [View.cut, List.getElem?_set_ne same]

/-- One step keeps everything. -/
theorem Holds.step (respects : Respects machine environment Allowed contract)
    {pool next : Pool C L ε σ} {event : Event C L ε ι κ}
    (holds : Holds machine contract pool) (allowed : Allowed pool event)
    (stepped : pool.step machine environment event = some next) :
    Holds machine contract next := by
  cases event with
  | start program =>
      obtain rfl := Option.some.inj stepped
      have viewEq := view_start pool program
      have inv := contract.inv_idle holds.inv
      refine ⟨by rw [viewEq]; exact inv, ?_⟩
      intro index call callAt
      rw [viewEq]
      rw [List.getElem?_append] at callAt
      split at callAt
      · rename_i inside
        exact wp_of_rely (holds.calls index call callAt)
          (View.fork_phases_lt _ _ (by simpa [Pool.view] using inside)) (contract.rely_idle _ _)
      · rename_i outside
        obtain ⟨inside, callEq⟩ := List.getElem?_eq_some_iff.mp callAt
        have indexEq : index = pool.calls.length := by
          simp at inside outside; omega
        subst indexEq
        simp at callEq
        subst callEq
        exact respects.start pool program allowed _ _
          (by simp [Pool.view, View.fork]) inv
  | act self choice => exact holds.act respects allowed stepped
  | stop process =>
      obtain rfl := Option.some.inj stepped
      unfold Pool.stop
      generalize pool.members process = members
      have respected := respects.stop pool process allowed
      clear allowed stepped
      induction members generalizing pool with
      | nil => exact holds
      | cons self rest ih =>
          exact ih (holds.cut self fun view inv => respected view self inv)
  | environment action =>
      obtain ⟨shared, acted, rfl⟩ := Option.map_eq_some_iff.mp stepped
      obtain ⟨inv, guarantee⟩ :=
        respects.environment pool action allowed pool.view shared holds.inv acted
      refine ⟨inv, fun index call callAt => ?_⟩
      exact wp_of_rely (holds.calls index call callAt) rfl (guarantee index)

/-- What a call that does nothing may rely on. -/
theorem Holds.step_rely (respects : Respects machine environment Allowed contract)
    {pool next : Pool C L ε σ} {event : Event C L ε ι κ}
    (holds : Holds machine contract pool) (allowed : Allowed pool event)
    (stepped : pool.step machine environment event = some next) {other : Nat}
    (outside : next.calls.length ≤ other) :
    contract.Rely other pool.view next.view ∧ pool.calls.length ≤ next.calls.length := by
  cases event with
  | start program =>
      obtain rfl := Option.some.inj stepped
      rw [view_start]
      exact ⟨contract.rely_idle other _, by simp⟩
  | act self choice =>
      have acted : pool.act machine self choice = some next := stepped
      unfold Pool.act at acted
      split at acted
      · rename_i process phase β command note rest found
        split at acted
        · contradiction
        obtain ⟨⟨answer, shared⟩, exec, rfl⟩ := Option.map_eq_some_iff.mp acted
        have allows :=
          respects.act pool self choice allowed process phase β command note rest found
        obtain ⟨_, guarantee, _⟩ :=
          holds.calls self _ found pool.view rfl (contract.rely_refl _ _) holds.inv choice allows
            answer shared exec
        have inside : self < pool.calls.length := (List.getElem?_eq_some_iff.mp found).1
        have longer : pool.calls.length ≤ (pool.calls.set self
            ⟨process, (note answer).getD phase, rest answer⟩ ++
              (machine.children command).map fun child =>
                (⟨process, child.1, child.2⟩ : Call C L ε)).length := by
          simp
        have distinct : other ≠ self :=
          Nat.ne_of_gt (Nat.lt_of_lt_of_le inside (Nat.le_trans longer outside))
        rw [view_act found answer shared (machine.children command)]
        exact ⟨guarantee other distinct, longer⟩
      · contradiction
  | stop process =>
      obtain rfl := Option.some.inj stepped
      have respected := respects.stop pool process allowed
      have inside : ∀ self ∈ pool.members process, self < pool.calls.length := by
        intro self member
        obtain ⟨entry, entryMem, rfl⟩ := List.mem_map.mp member
        exact (List.mem_zipIdx' (List.mem_filter.mp entryMem).1).1
      unfold Pool.stop at outside ⊢
      clear allowed stepped
      generalize pool.members process = members at *
      induction members generalizing pool with
      | nil => exact ⟨contract.rely_refl other _, Nat.le_refl _⟩
      | cons self rest ih =>
          obtain ⟨first, others⟩ := List.forall_mem_cons.mp inside
          have length : (pool.cut machine self).calls.length = pool.calls.length := by
            simp [Pool.cut]
          rw [← length] at others
          obtain ⟨rely, longer⟩ :=
            ih (holds.cut self fun view inv => respected view self inv) outside others
          rw [length] at longer
          have distinct : other ≠ self :=
            Nat.ne_of_gt (Nat.lt_of_lt_of_le first (Nat.le_trans longer outside))
          have cuts : contract.Rely other pool.view (pool.cut machine self).view := by
            rw [view_cut]
            exact (respected pool.view self holds.inv).2 other distinct
          exact ⟨contract.rely_trans cuts rely, longer⟩
  | environment action =>
      obtain ⟨shared, acted, rfl⟩ := Option.map_eq_some_iff.mp stepped
      exact ⟨(respects.environment pool action allowed pool.view shared holds.inv acted).2 other,
        Nat.le_refl _⟩

/-- A contract that the system respects holds in every pool its runs reach. -/
theorem Respects.holds (respects : Respects machine environment Allowed contract)
    {initial pool : Pool C L ε σ} (start : Holds machine contract initial)
    (reachable : Pool.Reachable machine environment Allowed initial pool) :
    Holds machine contract pool := by
  induction reachable with
  | refl => exact start
  | tail _ allowed stepped ih => exact ih.step respects allowed stepped

/-- What a call that has not been started may rely on along a run. -/
theorem Respects.rely (respects : Respects machine environment Allowed contract)
    {initial pool : Pool C L ε σ} (start : Holds machine contract initial)
    (reachable : Pool.Reachable machine environment Allowed initial pool) {other : Nat}
    (outside : pool.calls.length ≤ other) : contract.Rely other initial.view pool.view := by
  induction reachable with
  | refl => exact contract.rely_refl other _
  | tail reached allowed stepped ih =>
      obtain ⟨rely, longer⟩ :=
        (respects.holds start reached).step_rely respects allowed stepped outside
      exact contract.rely_trans (ih (Nat.le_trans longer outside)) rely

/-- Along every run from a pool without calls the invariant holds. -/
theorem Respects.invariant (respects : Respects machine environment Allowed contract)
    {shared : σ} {pool : Pool C L ε σ} (start : contract.Inv ⟨[], shared⟩)
    (reachable : Pool.Reachable machine environment Allowed ⟨shared, []⟩ pool) :
    contract.Inv pool.view :=
  have begins : Holds machine contract (⟨shared, []⟩ : Pool C L ε σ) :=
    ⟨start, fun _ _ found => by simp at found⟩
  (respects.holds begins reachable).inv

end Contract

end Mosp.Concurrency
