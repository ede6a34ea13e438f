import Mosp.Concurrency.Pool

/-!
# Rely and guarantee reasoning for interleaved calls

A contract names what every step of every call keeps (the invariant) and what
each call may rely on while it is not running.  The weakest precondition of a
program under a contract looks at one program alone: before each command the
other calls may have acted, but only as the contract lets them.  A pool all of
whose programs meet their precondition keeps the invariant along every run,
whatever the interleaving.
-/

namespace Mosp.Concurrency

universe u

/-- What statements about a pool may read: the phases of its calls and the
shared state. -/
structure View (L σ : Type) where
  phases : List L
  shared : σ

namespace View

variable {L σ : Type}

/-- The view after the call `self` was answered. -/
def answer (view : View L σ) (self : Nat) (note : Option L) (shared : σ) : View L σ :=
  { phases := note.elim view.phases (view.phases.set self)
    shared }

/-- The view after calls with these phases have been added. -/
def fork (view : View L σ) (phases : List L) : View L σ :=
  { view with phases := view.phases ++ phases }

@[simp]
theorem answer_shared (view : View L σ) (self : Nat) (note : Option L) (shared : σ) :
    (view.answer self note shared).shared = shared :=
  rfl

@[simp]
theorem answer_none (view : View L σ) (self : Nat) (shared : σ) :
    (view.answer self none shared).phases = view.phases :=
  rfl

@[simp]
theorem answer_some (view : View L σ) (self : Nat) (phase : L) (shared : σ) :
    (view.answer self (some phase) shared).phases = view.phases.set self phase :=
  rfl

theorem answer_phases_ne (view : View L σ) {self other : Nat} (note : Option L) (shared : σ)
    (distinct : other ≠ self) :
    (view.answer self note shared).phases[other]? = view.phases[other]? := by
  cases note with
  | none => rfl
  | some phase => simp [List.getElem?_set_ne distinct.symm]

@[simp]
theorem answer_length (view : View L σ) (self : Nat) (note : Option L) (shared : σ) :
    (view.answer self note shared).phases.length = view.phases.length := by
  cases note <;> simp

@[simp]
theorem fork_shared (view : View L σ) (phases : List L) : (view.fork phases).shared = view.shared :=
  rfl

@[simp]
theorem fork_phases (view : View L σ) (phases : List L) :
    (view.fork phases).phases = view.phases ++ phases :=
  rfl

@[simp]
theorem fork_nil (view : View L σ) : view.fork [] = view := by
  simp [fork]

theorem fork_phases_lt (view : View L σ) (phases : List L) {self : Nat}
    (inside : self < view.phases.length) :
    (view.fork phases).phases[self]? = view.phases[self]? := by
  simp [List.getElem?_append_left inside]

/-- Where a phase comes from: the call that was answered shows it, or it was there. -/
theorem answer_phase_cases {view : View L σ} {self other : Nat} {note : Option L} {shared : σ}
    {phase : L} (phaseAt : (view.answer self note shared).phases[other]? = some phase) :
    other = self ∧ note = some phase ∨
      view.phases[other]? = some phase ∧ (other = self → note = none) := by
  cases note with
  | none => exact .inr ⟨phaseAt, fun _ => rfl⟩
  | some noted =>
      rw [answer_some, List.getElem?_set] at phaseAt
      split at phaseAt
      · rename_i same
        split at phaseAt
        · exact .inl ⟨same.symm, phaseAt⟩
        · contradiction
      · rename_i apart
        exact .inr ⟨phaseAt, fun same => absurd same.symm apart⟩

/-- A call that is added shows its own phase. -/
theorem fork_phase_cases {view : View L σ} {self : Nat} {idle phase : L}
    (phaseAt : (view.fork [idle]).phases[self]? = some phase) :
    phase = idle ∨ view.phases[self]? = some phase := by
  rw [fork_phases, List.getElem?_append] at phaseAt
  split at phaseAt
  · exact .inr phaseAt
  · rw [List.getElem?_singleton] at phaseAt
    split at phaseAt
    · exact .inl (Option.some.inj phaseAt).symm
    · contradiction

/-- A call that is reset shows its own phase. -/
theorem set_phase_cases {phases : List L} {self other : Nat} {idle phase : L}
    (phaseAt : (phases.set self idle)[other]? = some phase) :
    phase = idle ∨ phases[other]? = some phase := by
  rw [List.getElem?_set] at phaseAt
  split at phaseAt
  · split at phaseAt
    · exact .inl (Option.some.inj phaseAt).symm
    · contradiction
  · exact .inr phaseAt

end View

section

variable {C : Type → Type u} {L ε σ ι κ : Type} [Inhabited L]

/-- The view of a pool. -/
def Pool.view (pool : Pool C L ε σ) : View L σ :=
  ⟨pool.calls.map Call.phase, pool.shared⟩

/-- What the steps of a system keep (`Inv`), what a call may rely on between
its own commands (`Rely`), which commands may run (`Allowed`), and what holds
for the child at an index when it is started (`Forked`). -/
structure Contract (C : Type → Type u) (L ε σ ι : Type) [Inhabited L] where
  Inv : View L σ → Prop
  Rely : Nat → View L σ → View L σ → Prop
  Allowed : Nat → {β : Type} → C β → ι → View L σ → Prop
  Forked : Nat → Program C L ε Unit → View L σ → Prop
  rely_refl : ∀ self view, Rely self view view
  rely_trans : ∀ {self first second third},
    Rely self first second → Rely self second third → Rely self first third
  inv_idle : ∀ {view}, Inv view → Inv (view.fork [default])
  rely_idle : ∀ self view, Rely self view (view.fork [default])

namespace Contract

variable (machine : Machine C L ε σ ι) (contract : Contract C L ε σ ι)

/-- The precondition under which the call `self` may run the program: every
command it performs keeps the invariant and what the others rely on, whatever
the others did before it, and the program ends in `returns` or `throws`. -/
def wp (self : Nat) {α : Type} : Program C L ε α → (α → View L σ → Prop) →
    (ε → View L σ → Prop) → View L σ → Prop
  | .pure value, returns, _, view => returns value view
  | .throw error, _, throws, view => throws error view
  | .perform (β := β) command note next, returns, throws, view =>
      ∀ before : View L σ, before.phases[self]? = view.phases[self]? →
        contract.Rely self view before → contract.Inv before →
        ∀ choice, contract.Allowed self command choice before →
        ∀ (answer : β) (shared : σ),
          machine.exec self command choice before.shared = some (answer, shared) →
          let after := (before.answer self (note answer) shared).fork
            ((machine.children command).map Prod.fst)
          contract.Inv after ∧
            (∀ other, other ≠ self → contract.Rely other before after) ∧
            (∀ index child, (machine.children command)[index]? = some child →
              contract.Forked (before.phases.length + index) child.2 after) ∧
            wp self (next answer) returns throws after

variable {machine contract} {self : Nat} {α β : Type}
  {returns returns' : α → View L σ → Prop} {throws throws' : ε → View L σ → Prop}

/-- The postconditions may be weakened. -/
theorem wp_mono {program : Program C L ε α} {view : View L σ}
    (holds : wp machine contract self program returns throws view)
    (weaker : ∀ value view, returns value view → returns' value view)
    (weaker' : ∀ error view, throws error view → throws' error view) :
    wp machine contract self program returns' throws' view := by
  induction program generalizing view with
  | pure value => exact weaker _ _ holds
  | throw error => exact weaker' _ _ holds
  | perform command note next ih =>
      intro before phaseEq rely inv choice allowed answer shared exec
      obtain ⟨keeps, guarantee, forked, rest⟩ :=
        holds before phaseEq rely inv choice allowed answer shared exec
      exact ⟨keeps, guarantee, forked, ih answer rest⟩

/-- Sequencing: the rest of the program starts where the first part ended. -/
theorem wp_bind {program : Program C L ε β} {rest : β → Program C L ε α} {view : View L σ} :
    wp machine contract self (program.bind rest) returns throws view ↔
      wp machine contract self program
        (fun value view => wp machine contract self (rest value) returns throws view)
        throws view := by
  induction program generalizing view with
  | pure value => exact Iff.rfl
  | throw error => exact Iff.rfl
  | perform command note next ih =>
      simp only [Program.perform_bind, wp, ih]

/-- Catching: the handler starts where the failing part ended. -/
theorem wp_catchWith {program : Program C L ε α} {handler : ε → Program C L ε α}
    {view : View L σ} :
    wp machine contract self (program.catchWith handler) returns throws view ↔
      wp machine contract self program returns
        (fun error view => wp machine contract self (handler error) returns throws view)
        view := by
  induction program generalizing view with
  | pure value => exact Iff.rfl
  | throw error => exact Iff.rfl
  | perform command note next ih =>
      simp only [Program.catchWith, wp, ih]

/-- What the other calls do between two commands does not disturb a call that
has still to run. -/
theorem wp_of_rely {program : Program C L ε α} {view later : View L σ}
    (holds : wp machine contract self program (fun _ _ => True) (fun _ _ => True) view)
    (phaseEq : later.phases[self]? = view.phases[self]?)
    (rely : contract.Rely self view later) :
    wp machine contract self program (fun _ _ => True) (fun _ _ => True) later := by
  cases program with
  | pure value => trivial
  | throw error => trivial
  | perform command note next =>
      intro before phaseEq' rely' inv
      exact holds before (phaseEq'.trans phaseEq) (contract.rely_trans rely rely') inv

/-- A call may go on under a stricter contract, if the calls start no others and
no step of this one can break what the stricter contract adds. -/
theorem wp_strengthen {strict : Contract C L ε σ ι} {program : Program C L ε α} {view : View L σ}
    (holds : wp machine contract self program returns throws view)
    (childless : ∀ {β : Type} (command : C β), machine.children command = [])
    (relies : ∀ {before after}, strict.Rely self before after → contract.Rely self before after)
    (inv : ∀ {view}, strict.Inv view → contract.Inv view)
    (allows : ∀ {β : Type} (command : C β) {choice view},
      strict.Allowed self command choice view → contract.Allowed self command choice view)
    (keeps : ∀ before after : View L σ, strict.Inv before → contract.Inv after →
      (∀ other, other ≠ self → contract.Rely other before after) →
      (∀ other, other ≠ self → after.phases[other]? = before.phases[other]?) →
      strict.Inv after ∧ ∀ other, other ≠ self → strict.Rely other before after) :
    wp machine strict self program returns throws view := by
  induction program generalizing view with
  | pure value => exact holds
  | throw error => exact holds
  | perform command note next ih =>
      intro before phaseEq rely strictInv choice allowed answer shared exec
      obtain ⟨kept, guarantee, _, rest⟩ :=
        holds before phaseEq (relies rely) (inv strictInv) choice (allows command allowed) answer
          shared exec
      have alone : (before.answer self (note answer) shared).fork
          ((machine.children command).map Prod.fst) = before.answer self (note answer) shared := by
        rw [childless command, List.map_nil, View.fork_nil]
      obtain ⟨strictKept, strictGuarantee⟩ := keeps before _ strictInv kept guarantee
        fun other distinct => by rw [alone, View.answer_phases_ne _ _ _ distinct]
      refine ⟨strictKept, strictGuarantee, ?_, ih answer rest⟩
      intro index child found
      rw [childless command] at found
      contradiction

/-! ## Triples -/

variable (machine contract self) in
/-- From every view that meets `pre` the program may run and ends in `returns`
or `throws`. -/
def Triple (pre : View L σ → Prop) (program : Program C L ε α)
    (returns : α → View L σ → Prop) (throws : ε → View L σ → Prop) : Prop :=
  ∀ view, pre view → wp machine contract self program returns throws view

variable (contract self) in
/-- What the other calls keep between two commands of `self`. -/
def Stable (pre : View L σ → Prop) : Prop :=
  ∀ view later : View L σ, later.phases[self]? = view.phases[self]? →
    contract.Rely self view later → contract.Inv later → pre view → pre later

namespace Triple

variable {pre pre' : View L σ → Prop}

theorem pure {value : α} (ends : ∀ view, pre view → returns value view) :
    Triple machine contract self pre (.pure value) returns throws :=
  ends

theorem throw {error : ε} (ends : ∀ view, pre view → throws error view) :
    Triple machine contract self pre (.throw error) returns throws :=
  ends

theorem weaken {program : Program C L ε α}
    (holds : Triple machine contract self pre program returns throws)
    (stronger : ∀ view, pre' view → pre view)
    (weaker : ∀ value view, returns value view → returns' value view)
    (weaker' : ∀ error view, throws error view → throws' error view) :
    Triple machine contract self pre' program returns' throws' :=
  fun view met => wp_mono (holds view (stronger view met)) weaker weaker'

theorem bind {middle : β → View L σ → Prop} {program : Program C L ε β}
    {rest : β → Program C L ε α}
    (first : Triple machine contract self pre program middle throws)
    (second : ∀ value, Triple machine contract self (middle value) (rest value) returns throws) :
    Triple machine contract self pre (program.bind rest) returns throws := by
  intro view holds
  refine wp_bind.mpr (wp_mono (first view holds) ?_ fun _ _ thrown => thrown)
  exact fun value later reached => second value later reached

theorem catchWith {middle : ε → View L σ → Prop} {program : Program C L ε α}
    {handler : ε → Program C L ε α}
    (first : Triple machine contract self pre program returns middle)
    (second : ∀ error, Triple machine contract self (middle error) (handler error)
      returns throws) :
    Triple machine contract self pre (program.catchWith handler) returns throws := by
  intro view holds
  refine wp_catchWith.mpr (wp_mono (first view holds) (fun _ _ returned => returned) ?_)
  exact fun error later reached => second error later reached

theorem ite {condition : Prop} [Decidable condition] {first second : Program C L ε α}
    (holds : condition → Triple machine contract self pre first returns throws)
    (fails : ¬condition → Triple machine contract self pre second returns throws) :
    Triple machine contract self pre (if condition then first else second) returns throws := by
  split
  · exact holds ‹_›
  · exact fails ‹_›

/-- One command: its precondition has to survive what the others do, and from
then on only the view at which the command really runs matters. -/
theorem perform {command : C β} {note : β → Option L} {next : β → Program C L ε α}
    (stable : Stable contract self pre)
    (runs : ∀ before : View L σ, pre before → contract.Inv before →
      ∀ choice, contract.Allowed self command choice before →
      ∀ (answer : β) (shared : σ),
        machine.exec self command choice before.shared = some (answer, shared) →
        let after := (before.answer self (note answer) shared).fork
          ((machine.children command).map Prod.fst)
        contract.Inv after ∧
          (∀ other, other ≠ self → contract.Rely other before after) ∧
          (∀ index child, (machine.children command)[index]? = some child →
            contract.Forked (before.phases.length + index) child.2 after) ∧
          wp machine contract self (next answer) returns throws after) :
    Triple machine contract self pre (.perform command note next) returns throws := by
  intro view holds before phaseEq rely inv choice allowed answer shared exec
  exact runs before (stable view before phaseEq rely inv holds) inv choice allowed answer shared
    exec

end Triple

end Contract

end

end Mosp.Concurrency
