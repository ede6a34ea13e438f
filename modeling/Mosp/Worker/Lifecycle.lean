import Mathlib.Data.List.Basic

/-!
# The life of a worker

The timer, the passes and the shutdown of `main`.  What a pass does is not of
interest here: it runs for some time, and an error in it is caught.
-/

namespace Mosp.Worker

/-- How far the promise of a pass is. -/
inductive PassState where
  | running
  /-- The promise is fulfilled, and those who wait for it have still to go on. -/
  | fulfilled
  /-- `reconcileUploads` has gone on. -/
  | finished
  deriving DecidableEq

/-- How far `shutdown` is. -/
inductive Shutdown where
  /-- It waits for a pass or for its timeout, which may have run out. -/
  | draining (pass : Nat) (timedOut : Bool)
  | disconnected (timedOut : Bool)
  deriving DecidableEq

structure Lifecycle where
  reconciliationRunning : Bool := false
  activeReconciliation : Option Nat := none
  shutdownPromise : Option Shutdown := none
  /-- `setInterval` has been called, and `clearInterval` has not. -/
  reconciliationTimer : Bool := false
  /-- The listeners that `process.once` left. -/
  onSigint : Bool := false
  onSigterm : Bool := false
  passes : List PassState := []
  /-- How often `database.$disconnect` was called. -/
  disconnects : Nat := 0
  deriving DecidableEq

/-- What happens to a worker. -/
inductive LifecycleEvent where
  /-- The first pass, before the timer is set. -/
  | boot
  /-- The first pass was waited for, and the timer and the listeners are set. -/
  | ready
  | tick
  | fulfil (pass : Nat)
  | resume (pass : Nat)
  | sigint
  | sigterm
  | timeout
  | drained

namespace Lifecycle

def reconcileUploads (worker : Lifecycle) : Lifecycle :=
  if worker.reconciliationRunning || worker.shutdownPromise.isSome then
    worker
  else
    { worker with
      reconciliationRunning := true
      passes := worker.passes ++ [.running]
      activeReconciliation := some worker.passes.length }

/-- What `reconcileUploads` does after its pass. -/
def finishPass (worker : Lifecycle) (pass : Nat) : Lifecycle :=
  { worker with
    passes := worker.passes.set pass .finished
    activeReconciliation := none
    reconciliationRunning := false }

def disconnect (worker : Lifecycle) (timedOut : Bool) : Lifecycle :=
  { worker with
    shutdownPromise := some (.disconnected timedOut)
    disconnects := worker.disconnects + 1 }

def shutdown (worker : Lifecycle) : Lifecycle :=
  if worker.shutdownPromise.isSome then
    worker
  else
    match worker.activeReconciliation with
    | some pass =>
        { worker with
          reconciliationTimer := false
          shutdownPromise := some (.draining pass false) }
    | none => disconnect { worker with reconciliationTimer := false } false

/-- What `shutdown` does once the race is decided. -/
def finishDrain (worker : Lifecycle) : Lifecycle :=
  match worker.shutdownPromise with
  | some (.draining pass timedOut) =>
      if timedOut || worker.passes[pass]? != some .running then
        worker.disconnect timedOut
      else
        worker
  | _ => worker

def timeOut (worker : Lifecycle) : Lifecycle :=
  match worker.shutdownPromise with
  | some (.draining pass _) => { worker with shutdownPromise := some (.draining pass true) }
  | _ => worker

/-- An event that cannot happen changes nothing. -/
def onlyIf (worker : Lifecycle) (possible : Bool) (after : Lifecycle) : Lifecycle :=
  if possible then after else worker

def step (worker : Lifecycle) : LifecycleEvent → Lifecycle
  | .boot => worker.onlyIf worker.passes.isEmpty worker.reconcileUploads
  | .ready =>
      worker.onlyIf
        (worker.passes = [.finished] ∧ worker.shutdownPromise = none ∧
          worker.reconciliationTimer = false)
        { worker with reconciliationTimer := true, onSigint := true, onSigterm := true }
  | .tick => worker.onlyIf worker.reconciliationTimer worker.reconcileUploads
  | .fulfil pass =>
      worker.onlyIf (worker.passes[pass]? = some .running)
        { worker with passes := worker.passes.set pass .fulfilled }
  | .resume pass =>
      worker.onlyIf (worker.passes[pass]? = some .fulfilled) (worker.finishPass pass)
  | .sigint => worker.onlyIf worker.onSigint (shutdown { worker with onSigint := false })
  | .sigterm => worker.onlyIf worker.onSigterm (shutdown { worker with onSigterm := false })
  | .timeout => worker.timeOut
  | .drained => worker.finishDrain

def run (worker : Lifecycle) (events : List LifecycleEvent) : Lifecycle :=
  events.foldl step worker

/-! ## What the events keep -/

/-- A pass at an index whose promise is pending. -/
def IsRunning (worker : Lifecycle) (pass : Nat) : Prop :=
  worker.passes[pass]? = some .running

structure Sound (worker : Lifecycle) : Prop where
  flag : worker.reconciliationRunning = worker.activeReconciliation.isSome
  active : ∀ pass, worker.activeReconciliation = some pass →
    ∃ state, worker.passes[pass]? = some state ∧ state ≠ .finished
  others : ∀ (pass : Nat) state, worker.passes[pass]? = some state →
    worker.activeReconciliation ≠ some pass → state = .finished
  draining : ∀ pass timedOut, worker.shutdownPromise = some (.draining pass timedOut) →
    ∀ other, worker.IsRunning other → other = pass
  disconnected : worker.shutdownPromise = some (.disconnected false) →
    ∀ pass, ¬worker.IsRunning pass
  once : worker.disconnects =
    match worker.shutdownPromise with
    | some (.disconnected _) => 1
    | _ => 0

theorem sound_start : Sound {} := by
  constructor <;> simp [IsRunning]

namespace Sound

variable {worker : Lifecycle}

/-- Only the active pass runs. -/
theorem isRunning (sound : Sound worker) {pass : Nat} (running : worker.IsRunning pass) :
    worker.activeReconciliation = some pass := by
  by_contra inactive
  have finished := sound.others pass .running running inactive
  contradiction

/-- A worker that is shutting down starts no pass. -/
theorem reconcileUploads (sound : Sound worker) : Sound worker.reconcileUploads := by
  unfold Lifecycle.reconcileUploads
  by_cases busy : (worker.reconciliationRunning || worker.shutdownPromise.isSome) = true
  · rw [if_pos busy]
    exact sound
  · rw [if_neg busy]
    simp only [Bool.or_eq_true, not_or, Bool.not_eq_true, Option.isSome_eq_false_iff,
      Option.isNone_iff_eq_none] at busy
    have idle : worker.activeReconciliation = none := by
      have flag := sound.flag
      rw [busy.1] at flag
      simpa using flag.symm
    constructor
    · rfl
    · intro pass started
      obtain rfl := Option.some.inj started
      exact ⟨.running, by simp, by decide⟩
    · intro pass state found inactive
      have old : worker.passes[pass]? = some state := by
        rw [List.getElem?_append] at found
        split at found
        · exact found
        · rename_i outside
          have last : pass ≠ worker.passes.length := fun same => inactive (same ▸ rfl)
          have beyond : pass - worker.passes.length ≠ 0 := by omega
          simp [beyond] at found
      have unlike : worker.activeReconciliation ≠ some pass := by
        rw [idle]
        exact (Option.some_ne_none pass).symm
      exact sound.others pass state old unlike
    · intro pass timedOut draining
      rw [busy.2] at draining
      contradiction
    · intro disconnected
      rw [busy.2] at disconnected
      contradiction
    · exact sound.once

/-- A pass that gets further no longer runs. -/
theorem isRunning_set {pass other : Nat} {state : PassState} (further : state ≠ .running)
    (found : (worker.passes.set pass state)[other]? = some .running) : worker.IsRunning other := by
  rw [List.getElem?_set] at found
  by_cases same : pass = other
  · rw [if_pos same] at found
    split at found
    · exact absurd (Option.some.inj found) further
    · contradiction
  · rwa [if_neg same] at found

/-- The promise of a pass that runs is fulfilled. -/
theorem fulfil (sound : Sound worker) {pass : Nat} (running : worker.IsRunning pass) :
    Sound { worker with passes := worker.passes.set pass .fulfilled } := by
  have inside : pass < worker.passes.length := (List.getElem?_eq_some_iff.mp running).1
  have isActive := sound.isRunning running
  constructor
  · exact sound.flag
  · intro other active
    obtain rfl : pass = other := Option.some.inj (isActive.symm.trans active)
    exact ⟨.fulfilled, List.getElem?_set_self inside, by decide⟩
  · intro other state found inactive
    have distinct : pass ≠ other := fun same => inactive (same ▸ isActive)
    rw [List.getElem?_set_ne distinct] at found
    exact sound.others other state found inactive
  · exact fun draining timedOut isDraining other found =>
      sound.draining draining timedOut isDraining other (isRunning_set (by decide) found)
  · exact fun disconnected other found =>
      sound.disconnected disconnected other (isRunning_set (by decide) found)
  · exact sound.once

theorem finishPass (sound : Sound worker) {pass : Nat}
    (fulfilled : worker.passes[pass]? = some .fulfilled) : Sound (worker.finishPass pass) := by
  have inside : pass < worker.passes.length := (List.getElem?_eq_some_iff.mp fulfilled).1
  have isActive : worker.activeReconciliation = some pass := by
    by_contra inactive
    have finished := sound.others pass .fulfilled fulfilled inactive
    contradiction
  constructor
  · rfl
  · intro other active
    contradiction
  · intro other state found _
    by_cases same : pass = other
    · subst same
      rw [Lifecycle.finishPass, List.getElem?_set_self inside] at found
      exact (Option.some.inj found).symm
    · rw [Lifecycle.finishPass, List.getElem?_set_ne same] at found
      apply sound.others other state found
      rw [isActive]
      exact fun active => same (Option.some.inj active)
  · exact fun draining timedOut isDraining other found =>
      sound.draining draining timedOut isDraining other (isRunning_set (by decide) found)
  · exact fun disconnected other found =>
      sound.disconnected disconnected other (isRunning_set (by decide) found)
  · exact sound.once

/-- The database is disconnected once, and not while a pass runs, unless it took too long. -/
theorem disconnect (sound : Sound worker) {timedOut : Bool} (first : worker.disconnects = 0)
    (ended : timedOut = false → ∀ pass, ¬worker.IsRunning pass) :
    Sound (worker.disconnect timedOut) := by
  constructor
  · exact sound.flag
  · exact sound.active
  · exact sound.others
  · intro pass late draining
    cases draining
  · intro disconnected
    obtain rfl : timedOut = false := by
      simpa [Lifecycle.disconnect] using disconnected
    exact ended rfl
  · simp [Lifecycle.disconnect, first]

theorem shutdown (sound : Sound worker) : Sound worker.shutdown := by
  unfold Lifecycle.shutdown
  by_cases begun : worker.shutdownPromise.isSome = true
  · rw [if_pos begun]
    exact sound
  · rw [if_neg begun]
    have fresh : worker.shutdownPromise = none := by simpa using begun
    have first : worker.disconnects = 0 := by
      rw [sound.once, fresh]
    have stopped : Sound { worker with reconciliationTimer := false } :=
      ⟨sound.flag, sound.active, sound.others, sound.draining, sound.disconnected, sound.once⟩
    split
    · rename_i pass active
      constructor
      · exact sound.flag
      · exact sound.active
      · exact sound.others
      · intro other timedOut draining running isRunning
        cases draining
        exact (Option.some.inj (active.symm.trans (sound.isRunning isRunning))).symm
      · intro disconnected
        cases disconnected
      · exact first
    · rename_i idle
      apply stopped.disconnect first
      intro _ pass running
      have active := sound.isRunning running
      rw [idle] at active
      contradiction

theorem timeOut (sound : Sound worker) : Sound worker.timeOut := by
  unfold Lifecycle.timeOut
  split
  · rename_i pass timedOut draining
    constructor
    · exact sound.flag
    · exact sound.active
    · exact sound.others
    · intro other late drains
      cases drains
      exact sound.draining pass timedOut draining
    · intro disconnected
      cases disconnected
    · have once := sound.once
      rw [draining] at once
      exact once
  · exact sound

theorem finishDrain (sound : Sound worker) : Sound worker.finishDrain := by
  unfold Lifecycle.finishDrain
  split
  · rename_i pass timedOut draining
    split
    · rename_i decided
      have first : worker.disconnects = 0 := by
        rw [sound.once, draining]
      apply sound.disconnect first
      rintro rfl other running
      obtain rfl := sound.draining pass false draining other running
      rw [running] at decided
      simp at decided
    · exact sound
  · exact sound

theorem onlyIf (sound : Sound worker) {possible : Bool} {after : Lifecycle}
    (happens : possible = true → Sound after) : Sound (worker.onlyIf possible after) := by
  unfold Lifecycle.onlyIf
  by_cases can : possible = true
  · rw [if_pos can]
    exact happens can
  · rw [if_neg can]
    exact sound

theorem step (sound : Sound worker) (event : LifecycleEvent) : Sound (worker.step event) := by
  cases event with
  | boot => exact sound.onlyIf fun _ => sound.reconcileUploads
  | ready =>
      apply sound.onlyIf
      intro _
      exact ⟨sound.flag, sound.active, sound.others, sound.draining, sound.disconnected, sound.once⟩
  | tick => exact sound.onlyIf fun _ => sound.reconcileUploads
  | fulfil pass =>
      apply sound.onlyIf
      intro running
      have isRunning : worker.IsRunning pass := by simpa [IsRunning] using running
      exact sound.fulfil isRunning
  | resume pass => exact sound.onlyIf fun fulfilled => sound.finishPass (of_decide_eq_true fulfilled)
  | sigint =>
      apply sound.onlyIf
      intro _
      exact shutdown
        ⟨sound.flag, sound.active, sound.others, sound.draining, sound.disconnected, sound.once⟩
  | sigterm =>
      apply sound.onlyIf
      intro _
      exact shutdown
        ⟨sound.flag, sound.active, sound.others, sound.draining, sound.disconnected, sound.once⟩
  | timeout => exact sound.timeOut
  | drained => exact sound.finishDrain

theorem run (sound : Sound worker) (events : List LifecycleEvent) : Sound (worker.run events) := by
  induction events generalizing worker with
  | nil => exact sound
  | cons event rest ih => exact ih (sound.step event)

end Sound

/-! ## From the shutdown on -/

/-- A worker that is shutting down goes on to shut down, and starts no pass. -/
structure Winds (before after : Lifecycle) : Prop where
  stays : before.shutdownPromise ≠ none → after.shutdownPromise ≠ none
  passes : before.shutdownPromise ≠ none → after.passes.length = before.passes.length
  ended : ∀ timedOut, before.shutdownPromise = some (.disconnected timedOut) →
    after.shutdownPromise = some (.disconnected timedOut)

theorem Winds.refl (worker : Lifecycle) : Winds worker worker :=
  ⟨id, fun _ => rfl, fun _ => id⟩

theorem Winds.trans {first second third : Lifecycle} (early : Winds first second)
    (late : Winds second third) : Winds first third where
  stays begun := late.stays (early.stays begun)
  passes begun := (late.passes (early.stays begun)).trans (early.passes begun)
  ended timedOut disconnected := late.ended timedOut (early.ended timedOut disconnected)

theorem winds_reconcileUploads (worker : Lifecycle) : Winds worker worker.reconcileUploads := by
  unfold Lifecycle.reconcileUploads
  split
  · exact .refl worker
  · rename_i idle
    have fresh : worker.shutdownPromise = none := by
      simp at idle
      exact idle.2
    exact ⟨id, fun begun => absurd fresh begun, fun _ => id⟩

theorem winds_shutdown (worker : Lifecycle) : Winds worker worker.shutdown := by
  unfold Lifecycle.shutdown
  by_cases begun : worker.shutdownPromise.isSome = true
  · rw [if_pos begun]
    exact .refl worker
  · rw [if_neg begun]
    have fresh : worker.shutdownPromise = none := by simpa using begun
    constructor
    · exact absurd fresh
    · exact absurd fresh
    · intro timedOut disconnected
      rw [fresh] at disconnected
      contradiction

theorem winds_finishDrain (worker : Lifecycle) : Winds worker worker.finishDrain := by
  unfold Lifecycle.finishDrain
  split
  · rename_i draining
    split
    · constructor
      · exact fun _ => Option.some_ne_none _
      · exact fun _ => rfl
      · intro _ disconnected
        rw [draining] at disconnected
        cases disconnected
    · exact .refl worker
  · exact .refl worker

theorem winds_timeOut (worker : Lifecycle) : Winds worker worker.timeOut := by
  unfold timeOut
  split
  · rename_i draining
    constructor
    · exact fun _ => Option.some_ne_none _
    · exact fun _ => rfl
    · intro _ disconnected
      rw [draining] at disconnected
      cases disconnected
  · exact .refl worker

theorem winds_onlyIf {worker after : Lifecycle} {possible : Bool} (winds : Winds worker after) :
    Winds worker (worker.onlyIf possible after) := by
  cases possible with
  | true => exact winds
  | false => exact .refl worker

theorem winds_step (worker : Lifecycle) (event : LifecycleEvent) :
    Winds worker (worker.step event) := by
  cases event with
  | boot => exact winds_onlyIf (winds_reconcileUploads worker)
  | ready => exact winds_onlyIf ⟨id, fun _ => rfl, fun _ => id⟩
  | tick => exact winds_onlyIf (winds_reconcileUploads worker)
  | fulfil pass => exact winds_onlyIf ⟨id, fun _ => List.length_set, fun _ => id⟩
  | resume pass => exact winds_onlyIf ⟨id, fun _ => List.length_set, fun _ => id⟩
  | sigint =>
      have listened : Winds worker { worker with onSigint := false } :=
        ⟨id, fun _ => rfl, fun _ => id⟩
      exact winds_onlyIf (listened.trans (winds_shutdown _))
  | sigterm =>
      have listened : Winds worker { worker with onSigterm := false } :=
        ⟨id, fun _ => rfl, fun _ => id⟩
      exact winds_onlyIf (listened.trans (winds_shutdown _))
  | timeout => exact winds_timeOut worker
  | drained => exact winds_finishDrain worker

theorem winds_run (worker : Lifecycle) (events : List LifecycleEvent) :
    Winds worker (worker.run events) := by
  induction events generalizing worker with
  | nil => exact .refl worker
  | cons event rest ih => exact (winds_step worker event).trans (ih (worker.step event))

/-- A drain that runs out of time ends. -/
theorem disconnects_of_timeout {worker : Lifecycle} (sound : Sound worker)
    (begun : worker.shutdownPromise ≠ none) :
    (worker.run [.timeout, .drained]).disconnects = 1 := by
  obtain ⟨shutdown, isBegun⟩ := Option.ne_none_iff_exists'.mp begun
  have once := sound.once
  cases shutdown with
  | draining pass timedOut =>
      rw [isBegun] at once
      simp only [run, List.foldl_cons, List.foldl_nil, step, timeOut, isBegun, finishDrain,
        Bool.true_or, if_true, disconnect]
      rw [once]
  | disconnected timedOut =>
      rw [isBegun] at once
      simp only [run, List.foldl_cons, List.foldl_nil, step, timeOut, isBegun, finishDrain]
      exact once

end Lifecycle

end Mosp.Worker
