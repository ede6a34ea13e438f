import Mosp.Concurrency.Soundness
import Mosp.Sql.ReadCommitted

/-!
# Reasoning about transactions next to each other

A protocol says what holds of the committed database and how it may develop.
Within its transaction a call knows its own writes, and it knows the rows whose
locks it holds: nobody else changes them before it ends.  Everything else it
has read may be stale, up to the development that the protocol allows.

The rules take a transaction body apart, one statement at a time.  The
committed database changes at the commit alone.
-/

namespace Mosp.Sql

open Mosp.Concurrency

/-- What a lock protects from the writes that do not need it. -/
class Guarded (D : Type) {W K : outParam Type} [Database D W K] where
  /-- What the lock protects is the same. -/
  Same : K → D → D → Prop
  same_refl : ∀ lock db, Same lock db db
  same_trans : ∀ {lock first second third},
    Same lock first second → Same lock second third → Same lock first third
  same_write : ∀ {lock} db (write : W), lock ∉ Database.locks D write →
    Same lock db (Database.write db write)

namespace Store

variable {D W K X : Type} {store : Store D W K X} {self other : Nat}

@[simp]
theorem rollback_committed : (store.rollback self).committed = store.committed :=
  rfl

@[simp]
theorem rollback_pending_self : (store.rollback self).pending self = [] := by
  simp [rollback]

theorem rollback_pending_ne (distinct : other ≠ self) :
    (store.rollback self).pending other = store.pending other := by
  simp [rollback, distinct]

theorem rollback_owner (distinct : other ≠ self) {lock : K}
    (held : store.owner lock = some other) : (store.rollback self).owner lock = some other := by
  have apart : store.owner lock ≠ some self := by
    rw [held]
    exact fun same => distinct (Option.some.inj same)
  simp only [rollback, if_neg apart]
  exact held

variable [DecidableEq K] {writes : List W} {locks : List K}

@[simp]
theorem record_committed : (store.record self writes locks).committed = store.committed :=
  rfl

@[simp]
theorem record_pending_self :
    (store.record self writes locks).pending self = store.pending self ++ writes := by
  simp [record]

theorem record_pending_ne (distinct : other ≠ self) :
    (store.record self writes locks).pending other = store.pending other := by
  simp [record, distinct]

/-- Locks that were free were nobody else's. -/
theorem record_owner (distinct : other ≠ self) (free : locks.all (store.free self) = true)
    {lock : K} (held : store.owner lock = some other) :
    (store.record self writes locks).owner lock = some other := by
  have apart : lock ∉ locks := by
    intro member
    have open_ := List.all_eq_true.mp free lock member
    simp only [Store.free, held, Option.all_some, beq_iff_eq] at open_
    exact distinct open_
  simp only [record, if_neg apart]
  exact held

theorem record_owner_self {lock : K} (held : store.owner lock = some self ∨ lock ∈ locks) :
    (store.record self writes locks).owner lock = some self := by
  simp only [record]
  split
  · rfl
  · rename_i apart
    exact held.resolve_right apart

end Store

namespace Store

variable {D W K X : Type} [Database D W K] {store : Store D W K X} {self : Nat}

/-- Whoever has written holds the locks of the writes. -/
def Fits (store : Store D W K X) : Prop :=
  ∀ self, ∀ write ∈ store.pending self, ∀ lock ∈ Database.locks D write,
    store.owner lock = some self

@[simp]
theorem commit_committed : (store.commit self).committed = store.visible self :=
  rfl

theorem Fits.rollback (fits : store.Fits) (self : Nat) : (store.rollback self).Fits := by
  intro other write member lock lockMember
  by_cases same : other = self
  · subst same
    simp at member
  · rw [rollback_pending_ne same] at member
    exact rollback_owner same (fits other write member lock lockMember)

theorem Fits.commit (fits : store.Fits) (self : Nat) : (store.commit self).Fits := by
  have advanced : Fits { store with committed := store.visible self } := fits
  exact fun other write member lock lockMember =>
    advanced.rollback self other write member lock lockMember

theorem Fits.record [DecidableEq K] {writes : List W} {locks : List K} (fits : store.Fits)
    (free : locks.all (store.free self) = true)
    (covered : ∀ write ∈ writes, ∀ lock ∈ Database.locks D write, lock ∈ locks) :
    (store.record self writes locks).Fits := by
  intro other write member lock lockMember
  by_cases same : other = self
  · subst same
    rw [record_pending_self, List.mem_append] at member
    refine record_owner_self ?_
    cases member with
    | inl old => exact .inl (fits other write old lock lockMember)
    | inr new => exact .inr (covered write new lock lockMember)
  · rw [record_pending_ne same] at member
    exact record_owner same free (fits other write member lock lockMember)

end Store

/-- Some writes leave what a lock protects alone. -/
theorem Guarded.same_writes {D W K : Type} [Database D W K] [Guarded D] {lock : K}
    {writes : List W} (apart : ∀ write ∈ writes, lock ∉ Database.locks D write)
    (state : State D) : Guarded.Same lock state.db (state.write writes).db := by
  induction writes generalizing state with
  | nil => exact Guarded.same_refl _ _
  | cons write rest ih =>
      obtain ⟨first, others⟩ := List.forall_mem_cons.mp apart
      exact Guarded.same_trans (Guarded.same_write state.db write first)
        (ih others { state with db := Database.write state.db write })

/-! ## Protocols -/

/-- What holds of the phases and the committed database, how the committed
database may develop, and when a statement of a call may be carried out. -/
structure Protocol (D L : Type) [Inhabited L] where
  Good : View L (State D) → Prop
  Develops : State D → State D → Prop
  /-- What the phases may come to show. -/
  Shows : View L (State D) → View L (State D) → Prop := fun _ _ => True
  Permits : Nat → View L (State D) → Prop := fun _ _ => True
  /-- Whether processes may stop. -/
  Stops : Prop := True
  develops_refl : ∀ state, Develops state state
  develops_trans : ∀ {first second third},
    Develops first second → Develops second third → Develops first third
  develops_issue : ∀ state, Develops state state.issue
  good_idle : ∀ {view}, Good view → Good (view.fork [default])
  good_stop : ∀ {view : View L (State D)} self, Stops → Good view →
    Good { view with phases := view.phases.set self default }
  shows_refl : ∀ view, Shows view view := by exact fun _ => trivial
  shows_trans : ∀ {first second third : View L (State D)}, Develops first.shared second.shared →
    Shows first second → Shows second third → Shows first third := by exact fun _ _ _ => trivial
  shows_issue : ∀ view, Shows view { view with shared := view.shared.issue } := by
    exact fun _ => trivial
  shows_idle : ∀ view, Shows view (view.fork [default]) := by exact fun _ => trivial
  shows_stop : ∀ (view : View L (State D)) self,
    Shows view { view with phases := view.phases.set self default } := by
      exact fun _ _ => trivial

section

variable {C : Type → Type 1} {D W K ε L X ι : Type}

/-- The phases and what is committed. -/
def seen (view : View L (Store D W K X)) : View L (State D) :=
  ⟨view.phases, view.shared.committed⟩

@[simp]
theorem seen_phases (view : View L (Store D W K X)) : (seen view).phases = view.phases :=
  rfl

@[simp]
theorem seen_shared (view : View L (Store D W K X)) :
    (seen view).shared = view.shared.committed :=
  rfl

namespace Protocol

variable [Database D W K] [Guarded D] [Inhabited L] (protocol : Protocol D L)

/-- What a call knows of the database between two of its own steps stays. -/
structure Keeps (call : Nat) (before after : View L (Store D W K X)) : Prop where
  pending : after.shared.pending call = before.shared.pending call
  owner : ∀ lock, before.shared.owner lock = some call → after.shared.owner lock = some call
  same : ∀ lock, before.shared.owner lock = some call →
    Guarded.Same lock before.shared.committed.db after.shared.committed.db
  develops : protocol.Develops before.shared.committed after.shared.committed
  shows : protocol.Shows (seen before) (seen after)

/-- A step to a good state that shows what may be shown. -/
structure Moves (before after : View L (State D)) : Prop where
  good : protocol.Good after
  shows : protocol.Shows before after

/-- The contract of the calls that follow a protocol. -/
def contract : Contract (Exchange C D W K ε) L ε (Store D W K X) (Outcome ε ι) where
  Inv view := view.shared.Fits ∧ protocol.Good (seen view)
  Rely := protocol.Keeps
  Allowed self _ exchange outcome view :=
    exchange.acts outcome = true → protocol.Permits self (seen view)
  Forked _ _ _ := False
  rely_refl _ _ :=
    ⟨rfl, fun _ held => held, fun _ _ => Guarded.same_refl _ _, protocol.develops_refl _,
      protocol.shows_refl _⟩
  rely_trans {_ one two _} first second :=
    ⟨second.pending.trans first.pending,
      fun lock held => second.owner lock (first.owner lock held),
      fun lock held =>
        Guarded.same_trans (first.same lock held) (second.same lock (first.owner lock held)),
      protocol.develops_trans first.develops second.develops,
      protocol.shows_trans
        (show protocol.Develops (seen one).shared (seen two).shared from first.develops)
        first.shows second.shows⟩
  inv_idle inv := ⟨inv.1, protocol.good_idle inv.2⟩
  rely_idle _ _ :=
    ⟨rfl, fun _ held => held, fun _ _ => Guarded.same_refl _ _, protocol.develops_refl _,
      protocol.shows_idle _⟩

variable {protocol}

/-- A step that changes and shows nothing. -/
theorem moves_refl {view : View L (State D)} (good : protocol.Good view) :
    protocol.Moves view view :=
  ⟨good, protocol.shows_refl view⟩

/-- Ending a transaction without its writes disturbs nobody else. -/
theorem keeps_rollback {self other : Nat} (distinct : other ≠ self)
    (view : View L (Store D W K X)) (note : Option L)
    (shows : protocol.Shows (seen view) ((seen view).answer self note view.shared.committed)) :
    protocol.Keeps other view (view.answer self note (view.shared.rollback self)) where
  pending := Store.rollback_pending_ne distinct
  owner _ held := Store.rollback_owner distinct held
  same _ _ := Guarded.same_refl _ _
  develops := protocol.develops_refl _
  shows := shows

/-- A commit changes nothing that another call has locked. -/
theorem keeps_commit {self other : Nat} (distinct : other ≠ self)
    (view : View L (Store D W K X)) (note : Option L) (fits : view.shared.Fits)
    (develops : protocol.Develops view.shared.committed (view.shared.visible self))
    (shows : protocol.Shows (seen view) ((seen view).answer self note (view.shared.visible self))) :
    protocol.Keeps other view (view.answer self note (view.shared.commit self)) where
  pending := Store.rollback_pending_ne distinct
  owner _ held := Store.rollback_owner distinct held
  same lock held := by
    refine Guarded.same_writes (fun write member inside => ?_) view.shared.committed
    have mine := fits self write member lock inside
    rw [held] at mine
    exact distinct (Option.some.inj mine)
  develops := develops
  shows := shows

/-- A statement changes nothing that another call can see. -/
theorem keeps_record [DecidableEq K] {self other : Nat} (distinct : other ≠ self)
    (view : View L (Store D W K X)) (note : Option L) {writes : List W} {locks : List K}
    (free : locks.all (view.shared.free self) = true)
    (shows : protocol.Shows (seen view) ((seen view).answer self note view.shared.committed)) :
    protocol.Keeps other view (view.answer self note (view.shared.record self writes locks)) where
  pending := Store.record_pending_ne distinct
  owner _ held := Store.record_owner distinct free held
  same _ _ := Guarded.same_refl _ _
  develops := protocol.develops_refl _
  shows := shows

/-- A step that leaves the store alone. -/
theorem keeps_same {self other : Nat} (view : View L (Store D W K X)) (note : Option L)
    (shows : protocol.Shows (seen view) ((seen view).answer self note view.shared.committed)) :
    protocol.Keeps other view (view.answer self note view.shared) where
  pending := rfl
  owner _ held := held
  same _ _ := Guarded.same_refl _ _
  develops := protocol.develops_refl _
  shows := shows

/-- Drawing an identifier disturbs nobody. -/
theorem keeps_issue {self other : Nat} (view : View L (Store D W K X)) (note : Option L)
    (shows : protocol.Shows (seen view) ((seen view).answer self note view.shared.committed.issue)) :
    protocol.Keeps other view (view.answer self note view.shared.issue) where
  pending := rfl
  owner _ held := held
  same _ _ := Guarded.same_refl _ _
  develops := protocol.develops_issue _
  shows := shows

/-! ## What a call knows -/

/-- What a call knows within a transaction: its phase, its writes, locks that it
holds and a fact about the committed database. -/
structure Knows (call : Nat) (phase : L) (pending : List W) (locks : List K)
    (fact : State D → Prop) (view : View L (Store D W K X)) : Prop where
  phase : view.phases[call]? = some phase
  pending : view.shared.pending call = pending
  locks : ∀ lock ∈ locks, view.shared.owner lock = some call
  fact : fact view.shared.committed

/-- What a call knows between two transactions. -/
structure Stands (call : Nat) (phase : L) (fact : State D → Prop) (view : View L (State D)) :
    Prop where
  phase : view.phases[call]? = some phase
  fact : fact view.shared

variable (protocol) in
/-- A fact that nobody else makes false while the locks are held. -/
def Stays (locks : List K) (fact : State D → Prop) : Prop :=
  ∀ before after : State D, protocol.Develops before after →
    (∀ lock ∈ locks, Guarded.Same lock before.db after.db) → fact before → fact after

variable {self : Nat} {phase : L} {pending : List W} {locks : List K} {fact : State D → Prop}

theorem Knows.stable (stays : protocol.Stays locks fact) :
    Contract.Stable (protocol.contract (C := C) (ε := ε) (X := X) (ι := ι)) self
      (Knows self phase pending locks fact) := by
  intro view later phaseEq keeps _ knows
  constructor
  · exact phaseEq.trans knows.phase
  · exact keeps.pending.trans knows.pending
  · exact fun lock member => keeps.owner lock (knows.locks lock member)
  · exact stays _ _ keeps.develops
      (fun lock member => keeps.same lock (knows.locks lock member)) knows.fact

theorem Stands.stable (stays : protocol.Stays [] fact) :
    Contract.Stable (protocol.contract (C := C) (ε := ε) (X := X) (ι := ι)) self
      fun view => Stands self phase fact (seen view) := by
  intro view later phaseEq keeps _ stands
  constructor
  · exact phaseEq.trans stands.phase
  · exact stays _ _ keeps.develops (by simp) stands.fact

end Protocol

end

end Mosp.Sql
