import Mosp.Concurrency.Soundness
import Mosp.Sql.ReadCommitted

/-!
# Transactions in one piece

The first reading of a transaction body, among other programs: a transaction is
one step, and so is every command that does not reach the database.
-/

namespace Mosp.Sql

open Mosp.Concurrency

/-- What programs share: the database, a clock, and what they reach besides. -/
structure Room (D X : Type) where
  state : State D
  clock : Nat := 0
  outside : X

/-- The commands of programs whose transactions are one step each, next to
commands `C` that do not reach the database. -/
inductive Whole (C : Type → Type 1) (D W K ε L : Type) : Type → Type 1 where
  | transaction {β : Type} (body : Tx D W K ε L β) : Whole C D W K ε L (Except ε β)
  | randomUUID : Whole C D W K ε L Nat
  | now : Whole C D W K ε L Nat
  | outside {β : Type} (command : C β) : Whole C D W K ε L β

section

variable {C : Type → Type 1} {D W K ε L X ι : Type} [Database D W K]

/-- Run a body in one piece; an error leaves the database as it was. -/
def Room.execute {β : Type} (check : D → Option ε) (body : Tx D W K ε L β) (failure : Option ε)
    (room : Room D X) : Except ε β × Room D X :=
  match failure with
  | some error => (.error error, room)
  | none =>
      match body.run check room.clock room.state with
      | .ok (value, state) => (.ok value, { room with state })
      | .error error => (.error error, room)

/-- Answer a command. -/
def Whole.exec (check : D → Option ε) (answer : {β : Type} → C β → ι → Nat → X → β × X) {β : Type}
    (whole : Whole C D W K ε L β) (outcome : Outcome ε ι) (room : Room D X) : β × Room D X :=
  match whole with
  | .transaction body => room.execute check body outcome.failure
  | .randomUUID => (room.state.nextId, { room with state := room.state.issue })
  | .now => (room.clock, room)
  | .outside command =>
      let (value, after) := answer command outcome.outside room.clock room.outside
      (value, { room with outside := after })

/-- The machine of the programs.  What was committed survives a process that stops. -/
def atomic (check : D → Option ε) (answer : {β : Type} → C β → ι → Nat → X → β × X) :
    Machine (Whole C D W K ε L) L ε (Room D X) (Outcome ε ι) where
  exec _ whole outcome room := some (whole.exec check answer outcome room)

/-- Time passes. -/
def passes (milliseconds : Nat) (room : Room D X) : Option (Room D X) :=
  some { room with clock := room.clock + milliseconds }

variable [Inhabited L]

namespace Contract

variable {check : D → Option ε} {answer : {β : Type} → C β → ι → Nat → X → β × X}
  {contract : Contract (Whole C D W K ε L) L ε (Room D X) (Outcome ε ι)} {self : Nat} {α β : Type}
  {pre : View L (Room D X) → Prop} {returns : α → View L (Room D X) → Prop}
  {throws : ε → View L (Room D X) → Prop}

variable (contract self) in
/-- A step that the contract allows the call to take. -/
structure Goes (before after : View L (Room D X)) : Prop where
  inv : contract.Inv after
  rely : ∀ other, other ≠ self → contract.Rely other before after

/-- A transaction: it fails and nothing changes, or its body runs. -/
theorem triple_transaction {body : Tx D W K ε L β} {note : Except ε β → Option L}
    {next : Except ε β → Program (Whole C D W K ε L) L ε α}
    (middle : Except ε β → View L (Room D X) → Prop)
    (stable : Contract.Stable contract self pre)
    (fails : ∀ before error, pre before → contract.Inv before →
      Goes contract self before (before.answer self (note (.error error)) before.shared) ∧
        middle (.error error) (before.answer self (note (.error error)) before.shared))
    (commits : ∀ before outcome, pre before → contract.Inv before →
      contract.Allowed self (.transaction body) outcome before →
      body.wp check before.shared.clock
        (fun value state =>
          let after := before.answer self (note (.ok value)) { before.shared with state }
          Goes contract self before after ∧ middle (.ok value) after)
        (fun _ => True) before.shared.state)
    (continues : ∀ result, Contract.Triple (atomic check answer) contract self (middle result)
      (next result) returns throws) :
    Contract.Triple (atomic check answer) contract self pre
      (.perform (.transaction body) note next) returns throws := by
  apply Contract.Triple.perform stable
  intro before holds inv outcome allowed answered shared exec
  simp only [atomic, List.map_nil, View.fork_nil]
  have failed : ∀ error, (Except.error error, before.shared) = (answered, shared) →
      Goes contract self before (before.answer self (note answered) shared) ∧
        middle answered (before.answer self (note answered) shared) := by
    intro error same
    obtain ⟨rfl, rfl⟩ := Prod.mk.inj same
    exact fails before error holds inv
  have reached : Goes contract self before (before.answer self (note answered) shared) ∧
      middle answered (before.answer self (note answered) shared) := by
    have runs := commits before outcome holds inv allowed
    have executed := Option.some.inj exec
    simp only [Whole.exec, Room.execute] at executed
    unfold Tx.wp at runs
    split at executed
    · exact failed _ executed
    · split at executed
      · rename_i ran
        rw [ran] at runs
        obtain ⟨rfl, rfl⟩ := Prod.mk.inj executed
        exact runs
      · exact failed _ executed
  obtain ⟨⟨kept, rely⟩, ended⟩ := reached
  exact ⟨kept, rely, nofun, continues answered _ ended⟩

/-- A command that does not reach the database. -/
theorem triple_outside {command : C β} {note : β → Option L}
    {next : β → Program (Whole C D W K ε L) L ε α} (middle : β → View L (Room D X) → Prop)
    (stable : Contract.Stable contract self pre)
    (answers : ∀ before outcome, pre before → contract.Inv before →
      let answered := answer command outcome before.shared.clock before.shared.outside
      let after := before.answer self (note answered.1)
        { before.shared with outside := answered.2 }
      Goes contract self before after ∧ middle answered.1 after)
    (continues : ∀ value, Contract.Triple (atomic check answer) contract self (middle value)
      (next value) returns throws) :
    Contract.Triple (atomic check answer) contract self pre
      (.perform (.outside command) note next) returns throws := by
  apply Contract.Triple.perform stable
  intro before holds inv outcome _ answered shared exec
  simp only [atomic, List.map_nil, View.fork_nil]
  obtain ⟨rfl, rfl⟩ := Prod.mk.inj (Option.some.inj exec)
  obtain ⟨⟨kept, rely⟩, ended⟩ := answers before outcome.outside holds inv
  exact ⟨kept, rely, nofun, continues _ _ ended⟩

/-- The call looks at its clock. -/
theorem triple_now {next : Nat → Program (Whole C D W K ε L) L ε α}
    (stable : Contract.Stable contract self pre)
    (continues : ∀ time, Contract.Triple (atomic check answer) contract self pre (next time)
      returns throws) :
    Contract.Triple (atomic check answer) contract self pre
      (.perform .now (fun _ => none) next) returns throws := by
  apply Contract.Triple.perform stable
  intro before holds inv outcome _ answered shared exec
  simp only [atomic, List.map_nil, View.fork_nil]
  obtain ⟨rfl, rfl⟩ := Prod.mk.inj (Option.some.inj exec)
  exact ⟨inv, fun other _ => contract.rely_refl other before, nofun, continues _ before holds⟩

end Contract

/-! ## Runs -/

variable {R : Type}

/-- The steps of a run that starts only requests, and in which a call acts only under a
condition. -/
def Whole.Permitted (program : R → Program (Whole C D W K ε L) L ε Unit)
    (condition : Nat → View L (Room D X) → Prop)
    (calls : Pool (Whole C D W K ε L) L ε (Room D X)) :
    Event (Whole C D W K ε L) L ε (Outcome ε ι) Nat → Prop
  | .start started => ∃ request, started = program request
  | .act self _ => condition self calls.view
  | .stop _ | .environment _ => True

/-- What a run can reach from a room in which no call is in progress. -/
def Whole.Reaches (check : D → Option ε) (answer : {β : Type} → C β → ι → Nat → X → β × X)
    (program : R → Program (Whole C D W K ε L) L ε Unit)
    (condition : Nat → View L (Room D X) → Prop) (start : Room D X)
    (calls : Pool (Whole C D W K ε L) L ε (Room D X)) : Prop :=
  Pool.Reachable (atomic check answer) passes (Whole.Permitted program condition) ⟨start, []⟩ calls

/-- A system whose requests follow a contract respects it. -/
theorem Contract.respects_whole {check : D → Option ε}
    {answer : {β : Type} → C β → ι → Nat → X → β × X}
    {program : R → Program (Whole C D W K ε L) L ε Unit}
    {condition : Nat → View L (Room D X) → Prop}
    {contract : Contract (Whole C D W K ε L) L ε (Room D X) (Outcome ε ι)}
    (runs : ∀ request self, Contract.Triple (atomic check answer) contract self
      (fun view => view.phases[self]? = some default) (program request) (fun _ _ => True)
      fun _ _ => True)
    (permits : ∀ self view, condition self view →
      ∀ {β : Type} (whole : Whole C D W K ε L β) outcome, contract.Allowed self whole outcome view)
    (unforked : ∀ self child view, ¬contract.Forked self child view)
    (stops : ∀ view self, contract.Inv view →
      contract.Inv { view with phases := view.phases.set self default } ∧
        ∀ other, contract.Rely other view { view with phases := view.phases.set self default })
    (passing : ∀ (view : View L (Room D X)) milliseconds, contract.Inv view →
      contract.Inv { view with shared := { view.shared with clock := view.shared.clock + milliseconds } } ∧
        ∀ other, contract.Rely other view
          { view with shared := { view.shared with clock := view.shared.clock + milliseconds } }) :
    Contract.Respects (atomic check answer) passes (Whole.Permitted program condition) contract where
  start := by
    rintro pool _ ⟨request, rfl⟩ self view idle _
    exact runs request self view idle
  forked child self view forked := absurd forked (unforked self child view)
  act pool self _ allowed _ _ _ command _ _ _ := permits self pool.view allowed command _
  stop _ _ _ view self inv := by
    obtain ⟨kept, rely⟩ := stops view self inv
    exact ⟨kept, fun other _ => rely other⟩
  environment := by
    intro _ milliseconds _ view shared inv passed
    obtain rfl := Option.some.inj passed
    exact passing view milliseconds inv

end

end Mosp.Sql
