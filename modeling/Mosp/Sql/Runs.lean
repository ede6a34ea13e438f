import Mosp.Sql.Isolation

/-!
# Runs of transactions next to each other

A run starts requests, lets calls perform their commands under a condition,
stops processes and lets time pass.  A protocol that every request follows
holds along every run.
-/

namespace Mosp.Sql

open Mosp.Concurrency

/-- What happens outside the calls. -/
inductive Surrounding (κ : Type) where
  /-- Time passes. -/
  | pass (milliseconds : Nat)
  | outside (action : κ)

section

variable {C : Type → Type 1} {D W K ε L X ι κ R : Type}

def surround (act : κ → X → X) : Surrounding κ → Store D W K X → Option (Store D W K X)
  | .pass milliseconds, store => some { store with clock := store.clock + milliseconds }
  | .outside action, store => some { store with outside := act action store.outside }

/-- The steps of a run that starts only requests of a kind, and in which a
statement of a call is carried out only under a condition on what is
committed. -/
def Permitted (program : R → Program (Exchange C D W K ε) L ε Unit) (requests : R → Prop)
    (condition : Nat → View L (State D) → Prop)
    (calls : Pool (Exchange C D W K ε) L ε (Store D W K X)) :
    Event (Exchange C D W K ε) L ε (Outcome ε ι) (Surrounding κ) → Prop
  | .start started => ∃ request, requests request ∧ started = program request
  | .act self outcome =>
      ∀ process phase β (exchange : Exchange C D W K ε β) note next,
        calls.calls[self]? = some ⟨process, phase, .perform exchange note next⟩ →
        exchange.acts outcome = true → condition self (seen calls.view)
  | .stop _ | .environment _ => True

/-- The steps of a run in which no process stops. -/
def Uninterrupted (program : R → Program (Exchange C D W K ε) L ε Unit) (requests : R → Prop)
    (condition : Nat → View L (State D) → Prop)
    (calls : Pool (Exchange C D W K ε) L ε (Store D W K X))
    (event : Event (Exchange C D W K ε) L ε (Outcome ε ι) (Surrounding κ)) : Prop :=
  Permitted program requests condition calls event ∧ ∀ process, event ≠ .stop process

/-- Requests and steps of calls, in order. -/
inductive Script (R ε ι κ : Type) where
  | start (request : R)
  | act (self : Nat) (outcome : Outcome ε ι) (times : Nat)
  | outside (action : Surrounding κ)

/-- The steps of a script. -/
def Script.steps (program : R → Program (Exchange C D W K ε) L ε Unit) :
    Script R ε ι κ → List (Event (Exchange C D W K ε) L ε (Outcome ε ι) (Surrounding κ))
  | .start request => [.start (program request)]
  | .act self outcome times => List.replicate times (.act self outcome)
  | .outside action => [.environment action]

variable [Database D W K] [DecidableEq K] [Inhabited L]

/-- What a run can reach. -/
def Reaches (check : D → Option ε) (answer : {β : Type} → C β → ι → Nat → X → β × X)
    (act : κ → X → X) (program : R → Program (Exchange C D W K ε) L ε Unit)
    (requests : R → Prop) (condition : Nat → View L (State D) → Prop)
    (start calls : Pool (Exchange C D W K ε) L ε (Store D W K X)) : Prop :=
  Pool.Reachable (readCommitted check answer L) (surround act)
    (Permitted program requests condition) start calls

/-- What a run in which no process stops can reach. -/
def ReachesUninterrupted (check : D → Option ε)
    (answer : {β : Type} → C β → ι → Nat → X → β × X) (act : κ → X → X)
    (program : R → Program (Exchange C D W K ε) L ε Unit) (requests : R → Prop)
    (condition : Nat → View L (State D) → Prop)
    (start calls : Pool (Exchange C D W K ε) L ε (Store D W K X)) : Prop :=
  Pool.Reachable (readCommitted check answer L) (surround act)
    (Uninterrupted program requests condition) start calls

variable {check : D → Option ε} {answer : {β : Type} → C β → ι → Nat → X → β × X}
  {act : κ → X → X} {program : R → Program (Exchange C D W K ε) L ε Unit}
  {requests : R → Prop} {condition : Nat → View L (State D) → Prop}
  {start calls : Pool (Exchange C D W K ε) L ε (Store D W K X)}

variable (check answer act program) in
/-- Run scripts.  The condition is checked before each step of a call. -/
def runScripts (condition : Nat → View L (State D) → Bool)
    (start : Pool (Exchange C D W K ε) L ε (Store D W K X)) (scripts : List (Script R ε ι κ)) :
    Option (Pool (Exchange C D W K ε) L ε (Store D W K X)) :=
  Pool.runWhere (readCommitted check answer L) (surround act)
    (fun calls event => match event with
      | .act self _ => condition self (seen calls.view)
      | _ => true)
    start (scripts.flatMap (Script.steps program))

/-- What scripts lead to is reachable; they stop no process. -/
theorem uninterrupted_runScripts {passes : Nat → View L (State D) → Bool}
    {scripts : List (Script R ε ι κ)}
    (ran : runScripts check answer act program passes start scripts = some calls)
    (requested : ∀ request, .start request ∈ scripts → requests request)
    (passed : ∀ self view, passes self view = true → condition self view) :
    ReachesUninterrupted check answer act program requests condition start calls := by
  unfold runScripts at ran
  apply Pool.Reachable.runWhere .refl _ ran
  intro event member pool checked
  obtain ⟨script, scriptMem, inSteps⟩ := List.mem_flatMap.mp member
  cases script with
  | start request =>
      rw [List.mem_singleton.mp inSteps]
      exact ⟨⟨request, requested request scriptMem, rfl⟩, nofun⟩
  | act self outcome times =>
      obtain rfl := List.eq_of_mem_replicate inSteps
      exact ⟨fun _ _ _ _ _ _ _ _ => passed self _ checked, nofun⟩
  | outside action =>
      rw [List.mem_singleton.mp inSteps]
      exact ⟨trivial, nofun⟩

theorem ReachesUninterrupted.reaches
    (reached : ReachesUninterrupted check answer act program requests condition start calls) :
    Reaches check answer act program requests condition start calls := by
  induction reached with
  | refl => exact .refl
  | tail _ allowed stepped ih => exact .tail ih allowed.1 stepped

/-- What scripts lead to is reachable. -/
theorem reaches_runScripts {passes : Nat → View L (State D) → Bool}
    {scripts : List (Script R ε ι κ)}
    (ran : runScripts check answer act program passes start scripts = some calls)
    (requested : ∀ request, .start request ∈ scripts → requests request)
    (passed : ∀ self view, passes self view = true → condition self view) :
    Reaches check answer act program requests condition start calls :=
  (uninterrupted_runScripts ran requested passed).reaches

namespace Protocol

variable [Guarded D] {protocol : Protocol D L}

/-- A system whose requests follow a protocol respects its contract. -/
theorem respects_where {Allowed : Pool (Exchange C D W K ε) L ε (Store D W K X) →
      Event (Exchange C D W K ε) L ε (Outcome ε ι) (Surrounding κ) → Prop}
    (permitted : ∀ pool event, Allowed pool event → Permitted program requests condition pool event)
    (stops : ∀ pool process, Allowed pool (.stop process) → protocol.Stops)
    (runs : ∀ request, requests request → ∀ self,
      protocol.Runs (X := X) check answer self default (fun _ => True) (program request)
        (fun _ _ => True) (fun _ _ => True))
    (permits : ∀ self view, condition self view → protocol.Permits self view) :
    Contract.Respects (readCommitted check answer L) (surround act) Allowed
      (protocol.contract (X := X)) where
  start := by
    intro pool program allowed self view idle _
    obtain ⟨request, requested, rfl⟩ := permitted pool _ allowed
    exact runs request requested self view ⟨idle, trivial⟩
  forked := fun _ _ _ forked => forked.elim
  act := fun pool self _ allowed process phase β exchange note next found acts =>
    permits self _ (permitted pool _ allowed process phase β exchange note next found acts)
  stop := by
    intro pool process allowed view self inv
    refine ⟨⟨inv.1.rollback self, protocol.good_stop self (stops pool process allowed) inv.2⟩, fun other distinct => ?_⟩
    exact ⟨Store.rollback_pending_ne distinct, fun _ held => Store.rollback_owner distinct held,
      fun _ _ => Guarded.same_refl _ _, protocol.develops_refl _, protocol.shows_stop _ _⟩
  environment := by
    intro _ action _ view shared inv acted
    cases action with
    | pass milliseconds =>
        obtain rfl := Option.some.inj acted
        exact ⟨inv, fun other => ⟨rfl, fun _ held => held, fun _ _ => Guarded.same_refl _ _,
          protocol.develops_refl _, protocol.shows_refl _⟩⟩
    | outside action =>
        obtain rfl := Option.some.inj acted
        exact ⟨inv, fun other => ⟨rfl, fun _ held => held, fun _ _ => Guarded.same_refl _ _,
          protocol.develops_refl _, protocol.shows_refl _⟩⟩

theorem respects (stops : protocol.Stops)
    (runs : ∀ request, requests request → ∀ self,
      protocol.Runs (X := X) check answer self default (fun _ => True) (program request)
        (fun _ _ => True) (fun _ _ => True))
    (permits : ∀ self view, condition self view → protocol.Permits self view) :
    Contract.Respects (readCommitted check answer L) (surround act)
      (Permitted program requests condition) (protocol.contract (X := X)) :=
  respects_where (fun _ _ permitted => permitted) (fun _ _ _ => stops) runs permits

/-- From some moment on a protocol may ask for more, if what it adds is broken only
by the calls that start later. -/
theorem holds_since {later : Protocol D L}
    (holds : Contract.Holds (readCommitted check answer L) (protocol.contract (X := X)) start)
    (develops : ∀ {first second}, protocol.Develops first second ↔ later.Develops first second)
    (shows : ∀ {first second}, protocol.Shows first second ↔ later.Shows first second)
    (permits : ∀ {self view}, later.Permits self view → protocol.Permits self view)
    (good : ∀ {view}, later.Good view → protocol.Good view)
    (keeps : ∀ before after : View L (State D), later.Good before → protocol.Good after →
      protocol.Develops before.shared after.shared →
      (∀ index, start.calls.length ≤ index → after.phases[index]? = before.phases[index]?) →
      later.Good after)
    (now : later.Good (seen start.view)) :
    Contract.Holds (readCommitted check answer L) (later.contract (X := X)) start := by
  constructor
  · exact ⟨holds.inv.1, now⟩
  intro self call callAt
  have inside : self < start.calls.length := (List.getElem?_eq_some_iff.mp callAt).1
  refine Contract.wp_strengthen (holds.calls self call callAt) (fun _ => rfl)
    (fun keeps => ⟨keeps.pending, keeps.owner, keeps.same, develops.mpr keeps.develops,
      shows.mpr keeps.shows⟩)
    (fun inv => ⟨inv.1, good inv.2⟩) (fun _ _ _ allowed acts => permits (allowed acts)) ?_
  intro before after inv kept guarantee phases
  constructor
  · refine ⟨kept.1, keeps (seen before) (seen after) inv.2 kept.2
      (guarantee (self + 1) (Nat.succ_ne_self self)).develops fun index late => ?_⟩
    exact phases index (Nat.ne_of_gt (Nat.lt_of_lt_of_le inside late))
  · intro other distinct
    have kept := guarantee other distinct
    exact ⟨kept.pending, kept.owner, kept.same, develops.mp kept.develops, shows.mp kept.shows⟩

end Protocol

end

end Mosp.Sql
