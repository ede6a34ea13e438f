import Mosp.Conduct.Contract

/-!
# Rules for programs under the contract

A program is judged from the phase its call shows and from what the call knows.
What a call knows has to survive the steps of the others.  Most of what a
service does between its transactions leaves the catalog as it is; such a
program is quiet, and needs no more than that.
-/

namespace Mosp.Conduct

open Mosp.Concurrency Mosp.Data Mosp.Sql Mosp.Database Mosp.Index Mosp.Services Mosp.Worker
open Mosp.System hiding Action

/-- What stays true while others move. -/
def Steady (mode : Mode) (caller : Nat) (known : Scene → Prop) : Prop :=
  ∀ before after, Relies mode caller before after → Upheld mode after → known before → known after

/-- What stays true whoever moves. -/
def Lasting (mode : Mode) (known : Scene → Prop) : Prop :=
  ∀ before after, Preserves mode before after → known before → known after

theorem Lasting.steady {mode : Mode} {caller : Nat} {known : Scene → Prop}
    (lasting : Lasting mode known) : Steady mode caller known :=
  fun before after relies _ holds => lasting before after relies.toPreserves holds

theorem Lasting.and {mode : Mode} {first second : Scene → Prop} (left : Lasting mode first)
    (right : Lasting mode second) : Lasting mode fun scene => first scene ∧ second scene :=
  fun before after preserves holds =>
    ⟨left before after preserves holds.1, right before after preserves holds.2⟩

theorem lasting_const (mode : Mode) (fact : Prop) : Lasting mode fun _ => fact :=
  fun _ _ _ holds => holds

theorem lasting_session (mode : Mode) (session : UploadSession) :
    Lasting mode (SessionKnown session) :=
  fun _ _ preserves => preserves.toPersists.sessionKnown

theorem lasting_ended (mode : Mode) (session : UploadSession) :
    Lasting mode (SessionEnded session) :=
  fun _ _ preserves => preserves.toPersists.sessionEnded

theorem lasting_record (mode : Mode) (record : ObjectRecord) (location : ObjectLocation) :
    Lasting mode (RecordKnown record location) :=
  fun _ _ preserves => preserves.toPersists.recordKnown

theorem lasting_item (mode : Mode) (item : MigrationItem) : Lasting mode (ItemKnown item) :=
  fun _ _ preserves => preserves.toPersists.itemKnown

theorem lasting_doomed (mode : Mode) (location : ObjectLocation) :
    Lasting mode fun scene => mode.careful → Doomed location scene :=
  fun _ _ preserves doomed careful =>
    (preserves.spares careful).doomed preserves.toPersists (doomed careful)

theorem lasting_bucket (mode : Mode) (bucket : BucketConnection) :
    Lasting mode fun scene => bucket ∈ scene.catalog.buckets :=
  fun _ _ preserves => (congrArg (bucket ∈ ·) preserves.buckets).mpr

theorem lasting_namespace (mode : Mode) (row : VirtualNamespace) :
    Lasting mode fun scene => row ∈ scene.catalog.namespaces :=
  fun _ _ preserves => (congrArg (row ∈ ·) preserves.namespaces).mpr

theorem lasting_below (mode : Mode) (id : Id) : Lasting mode fun scene => id < scene.nextId :=
  fun _ _ preserves below => Nat.lt_of_lt_of_le below preserves.later

/-! ## Judgements -/

section

variable (mode : Mode) (constraints : Db → Option Failure) (caller : Nat)

/-- From a phase and what is known the program may run, and ends in a phase with what
is known then. -/
def Conducts {α : Type} (phase : Phase) (known : Scene → Prop) (program : Service α)
    (returns : α → Phase → Scene → Prop) (throws : Failure → Phase → Scene → Prop) : Prop :=
  Contract.Triple (machine constraints) (contract mode) caller
    (fun view => (sceneOf view).Shows caller phase ∧ known (sceneOf view)) program
    (fun value view => ∃ new, (sceneOf view).Shows caller new ∧ returns value new (sceneOf view))
    fun error view => ∃ new, (sceneOf view).Shows caller new ∧ throws error new (sceneOf view)

end

/-- The phase is unchanged and something is known. -/
def Stays {α : Type} (phase : Phase) (known : α → Scene → Prop) (value : α) (new : Phase)
    (scene : Scene) : Prop :=
  new = phase ∧ known value scene

namespace Conducts

variable {mode : Mode} {constraints : Db → Option Failure} {caller : Nat} {α β : Type}
  {phase : Phase} {known known' : Scene → Prop} {returns returns' : α → Phase → Scene → Prop}
  {throws throws' : Failure → Phase → Scene → Prop}

theorem pure {value : α} (ends : ∀ scene, known scene → returns value phase scene) :
    Conducts mode constraints caller phase known (.pure value) returns throws :=
  fun _ ⟨shown, holds⟩ => ⟨phase, shown, ends _ holds⟩

theorem throw {error : Failure} (ends : ∀ scene, known scene → throws error phase scene) :
    Conducts mode constraints caller phase known (.throw error : Service α) returns throws :=
  fun _ ⟨shown, holds⟩ => ⟨phase, shown, ends _ holds⟩

theorem weaken {program : Service α}
    (conducts : Conducts mode constraints caller phase known program returns throws)
    (stronger : ∀ scene, known' scene → known scene)
    (weaker : ∀ value new scene, returns value new scene → returns' value new scene)
    (weaker' : ∀ error new scene, throws error new scene → throws' error new scene) :
    Conducts mode constraints caller phase known' program returns' throws' :=
  Contract.Triple.weaken conducts (fun _ ⟨shown, holds⟩ => ⟨shown, stronger _ holds⟩)
    (fun _ _ ⟨new, shown, holds⟩ => ⟨new, shown, weaker _ _ _ holds⟩)
    fun _ _ ⟨new, shown, holds⟩ => ⟨new, shown, weaker' _ _ _ holds⟩

/-- A program from whatever phase was reached. -/
theorem of_phases {middle : Phase → Scene → Prop} {program : Service α}
    (each : ∀ new, Conducts mode constraints caller new (middle new) program returns throws) :
    Contract.Triple (machine constraints) (contract mode) caller
      (fun view => ∃ new, (sceneOf view).Shows caller new ∧ middle new (sceneOf view)) program
      (fun value view => ∃ new, (sceneOf view).Shows caller new ∧ returns value new (sceneOf view))
      fun error view => ∃ new, (sceneOf view).Shows caller new ∧ throws error new (sceneOf view) :=
  fun view ⟨new, shown, holds⟩ => each new view ⟨shown, holds⟩

theorem bind {middle : β → Phase → Scene → Prop} {program : Service β} {rest : β → Service α}
    (first : Conducts mode constraints caller phase known program middle throws)
    (second : ∀ value new, Conducts mode constraints caller new (middle value new) (rest value)
      returns throws) :
    Conducts mode constraints caller phase known (program.bind rest) returns throws :=
  Contract.Triple.bind first fun value => of_phases (second value)

theorem catchWith {middle : Failure → Phase → Scene → Prop} {program : Service α}
    {handler : Failure → Service α}
    (first : Conducts mode constraints caller phase known program returns middle)
    (second : ∀ error new, Conducts mode constraints caller new (middle error new) (handler error)
      returns throws) :
    Conducts mode constraints caller phase known (program.catchWith handler) returns throws :=
  Contract.Triple.catchWith first fun error => of_phases (second error)

/-- Sequencing, where the phase after the first part is known. -/
theorem bind_stays {reached : Phase} {middle : β → Scene → Prop} {program : Service β}
    {rest : β → Service α}
    (first : Conducts mode constraints caller phase known program (Stays reached middle) throws)
    (second : ∀ value, Conducts mode constraints caller reached (middle value) (rest value)
      returns throws) :
    Conducts mode constraints caller phase known (program.bind rest) returns throws := by
  apply bind first
  rintro value new view ⟨shown, rfl, holds⟩
  exact second value view ⟨shown, holds⟩

/-- Sequencing, where the first part does not fail. -/
theorem bind_sure {reached : Phase} {middle : β → Scene → Prop} {program : Service β}
    {rest : β → Service α}
    (first : Conducts mode constraints caller phase known program (Stays reached middle)
      fun _ _ _ => False)
    (second : ∀ value, Conducts mode constraints caller reached (middle value) (rest value)
      returns throws) :
    Conducts mode constraints caller phase known (program.bind rest) returns throws :=
  bind_stays (first.weaken (fun _ holds => holds) (fun _ _ _ returned => returned)
    fun _ _ _ impossible => impossible.elim) second

theorem catch_stays {reached : Phase} {middle : Failure → Scene → Prop} {program : Service α}
    {handler : Failure → Service α}
    (first : Conducts mode constraints caller phase known program returns (Stays reached middle))
    (second : ∀ error, Conducts mode constraints caller reached (middle error) (handler error)
      returns throws) :
    Conducts mode constraints caller phase known (program.catchWith handler) returns throws := by
  apply catchWith first
  rintro error new view ⟨shown, rfl, holds⟩
  exact second error view ⟨shown, holds⟩

theorem ite {condition : Prop} [Decidable condition] {first second : Service α}
    (holds : condition → Conducts mode constraints caller phase known first returns throws)
    (fails : ¬condition → Conducts mode constraints caller phase known second returns throws) :
    Conducts mode constraints caller phase known (if condition then first else second) returns
      throws := by
  split
  · exact holds ‹_›
  · exact fails ‹_›

/-- What is assumed about values need not be carried in the scene. -/
theorem assuming {fact : Prop} {program : Service α}
    (conducts : fact → Conducts mode constraints caller phase known program returns throws) :
    Conducts mode constraints caller phase (fun scene => fact ∧ known scene) program returns
      throws :=
  fun view ⟨shown, holds, rest⟩ => conducts holds view ⟨shown, rest⟩

/-- One command that starts no calls. -/
theorem perform {command : Command β} {note : β → Option Phase} {next : β → Service α}
    (steady : Steady mode caller known) (alone : children command = [])
    (runs : ∀ before : Observation, (sceneOf before).Shows caller phase → known (sceneOf before) →
      Upheld mode (sceneOf before) → (mode.careful → Considerate mode command before) →
      ∀ choice answer world, exec constraints command choice before.shared = (answer, world) →
        Step mode caller (sceneOf before) (sceneOf (before.answer caller (note answer) world)) ∧
          ∃ middle : Scene → Prop, middle (sceneOf (before.answer caller (note answer) world)) ∧
            Conducts mode constraints caller ((note answer).getD phase) middle (next answer)
              returns throws) :
    Conducts mode constraints caller phase known (.perform command note next) returns throws := by
  apply Contract.Triple.perform
  · rintro view later phaseEq relies upheld ⟨shown, holds⟩
    exact ⟨phaseEq.trans shown, steady _ _ relies upheld holds⟩
  · rintro before ⟨shown, holds⟩ upheld choice allowed answer world ran
    have noForks : (machine constraints).children command = [] := alone
    rw [noForks, List.map_nil, View.fork_nil]
    obtain ⟨step, middle, reached, rest⟩ := runs before shown holds upheld allowed choice answer world
      (Option.some.inj ran)
    refine ⟨step.upheld, step.relies, fun index child at_ => ?_, rest _ ⟨?_, reached⟩⟩
    · rw [List.getElem?_nil] at at_
      contradiction
    · have inside := (List.getElem?_eq_some_iff.mp shown).1
      cases noteEq : note answer with
      | none => exact shown
      | some new => exact List.getElem?_set_self inside

end Conducts

/-! ## Commands with a note -/

/-- A note on a single command is the note of that command. -/
theorem noting_attempt {α : Type} (command : Command (Except Failure α))
    (note : Except Failure α → Option Phase) :
    (attempt command).noting note = .perform command note .ofExcept := by
  unfold attempt Program.noting
  congr 1
  · funext answer
    cases answer <;> rfl
  · funext answer
    cases answer <;> rfl

/-- What a scene looks like once a command was answered. -/
theorem sceneOf_answer {before : Observation} {caller : Nat} {phase : Phase}
    (shown : (sceneOf before).Shows caller phase) (note : Option Phase) (world : World) :
    sceneOf (before.answer caller note world) =
      { phases := (sceneOf before).phases.set caller (note.getD phase)
        catalog := catalogOf world.db
        nextId := world.nextId
        objects := world.objects } := by
  cases note with
  | some new => rfl
  | none =>
      have unchanged : (sceneOf before).phases.set caller phase = (sceneOf before).phases := by
        obtain ⟨inside, at_⟩ := List.getElem?_eq_some_iff.mp shown
        rw [← at_]
        exact List.set_getElem_self inside
      rw [Option.getD_none, unchanged]
      rfl

namespace Conducts

variable {mode : Mode} {constraints : Db → Option Failure} {caller : Nat} {α β : Type}
  {phase : Phase} {known known' : Scene → Prop} {returns returns' : α → Phase → Scene → Prop}
  {throws throws' : Failure → Phase → Scene → Prop}

/-- A transaction or a query: what it does when it succeeds, and its phase when it
fails. -/
theorem execute {body : Database.Tx α} {command : Command (Except Failure α)}
    {note : Except Failure α → Option Phase}
    (isBody : command = .transaction body ∨ command = .query body)
    (steady : Steady mode caller known)
    (succeeds : ∀ before : Observation, (sceneOf before).Shows caller phase →
      known (sceneOf before) → Upheld mode (sceneOf before) →
      (mode.careful → Considerate mode command before) →
      Tx.wp constraints before.shared.clock body (fun value state =>
        ∀ after, after = sceneOf (before.answer caller (note (.ok value)) { before.shared with state }) →
        Step mode caller (sceneOf before) after ∧ returns value ((note (.ok value)).getD phase) after)
        (fun _ => True) before.shared.state)
    (fails : ∀ before : Observation, (sceneOf before).Shows caller phase →
      known (sceneOf before) → Upheld mode (sceneOf before) → ∀ error,
      ∀ after, after = sceneOf (before.answer caller (note (.error error)) before.shared) →
        Step mode caller (sceneOf before) after ∧
          throws error ((note (.error error)).getD phase) after) :
    Conducts mode constraints caller phase known ((attempt command).noting note) returns
      throws := by
  rw [noting_attempt]
  apply perform steady
  · rcases isBody with rfl | rfl <;> rfl
  · intro before shown holds upheld considerate choice answer world ran
    have executed : before.shared.execute constraints body choice = (answer, world) := by
      rcases isBody with rfl | rfl <;> exact ran
    have failed : ∀ error, (answer, world) = (.error error, before.shared) →
        Step mode caller (sceneOf before) (sceneOf (before.answer caller (note answer) world)) ∧
          ∃ middle : Scene → Prop, middle (sceneOf (before.answer caller (note answer) world)) ∧
            Conducts mode constraints caller ((note answer).getD phase) middle
              (Program.ofExcept answer) returns throws := by
      rintro error ⟨⟩
      obtain ⟨step, thrown⟩ := fails before shown holds upheld error _ rfl
      exact ⟨step, (· = _), rfl, Conducts.throw fun scene eq => eq ▸ thrown⟩
    unfold World.execute at executed
    split at executed
    · exact failed _ executed.symm
    · have spec := succeeds before shown holds upheld considerate
      unfold Tx.wp at spec
      split at executed
      · rename_i value state outcome
        rw [outcome] at spec
        obtain ⟨rfl, rfl⟩ := Prod.mk.inj executed
        obtain ⟨step, returned⟩ := spec _ rfl
        exact ⟨step, (· = _), rfl, Conducts.pure fun scene eq => eq ▸ returned⟩
      · exact failed _ executed.symm

end Conducts

end Mosp.Conduct
