import Mosp.Conduct.Quiet

/-!
# Transactions under the contract

Most transactions leave the phase of their call as it is, and what they do
disturbs nobody.  The others say which action they take and which phase comes
next.
-/

namespace Mosp.Conduct

open Mosp.Concurrency Mosp.Data Mosp.Sql Mosp.Database Mosp.Index Mosp.Services Mosp.Worker
open Mosp.System hiding Action

/-! ## Plain actions -/

/-- An action for which nothing at the providers is needed. -/
def Quiescent : Action → Prop
  | .openSession _ | .complete _ _ | .upload _ _ | .revert _ | .finalize _ _ | .migrate _ _ _ _ =>
      False
  | _ => True

theorem Quiescent.respects {mode : Mode} {before after : Scene} {action : Action} {old new : Phase}
    (quiescent : Quiescent action)
    (objects : ∀ address, before.objects.Holds address → after.objects.Holds address)
    (draws : ∀ key, keyOf new = some key →
      keyOf old = some key ∨ before.nextId ≤ key.uuid ∧ key.uuid < after.nextId)
    (claims : ∀ recordId locationId, new = .deleting recordId locationId → old = new ∨
      mode.deletes ∧ ∃ record, action = .claim record ∧ record.id = recordId ∧
        record.activeObjectLocationId = some locationId)
    (verifies : ∀ uploadId, new = .verified uploadId → old = new ∨
      action = .rest ∧ uploadId < before.nextId ∧
        (∀ i key, ¬before.Shows i (.initiating uploadId key)) ∧
        ∀ session ∈ before.catalog.sessions, session.id = uploadId →
          before.Stored mode session.bucketConnectionId session.physicalKey) :
    Respects mode before after action old new where
  objects := objects
  draws := draws
  opens _ actionEq := by
    subst actionEq
    exact quiescent.elim
  completes _ _ actionEq := by
    subst actionEq
    exact quiescent.elim
  uploads _ _ actionEq := by
    subst actionEq
    exact quiescent.elim
  reverts _ actionEq := by
    subst actionEq
    exact quiescent.elim
  finalizes _ _ actionEq := by
    subst actionEq
    exact quiescent.elim
  migrates _ _ _ _ actionEq := by
    subst actionEq
    exact quiescent.elim
  claims := claims
  verifies := verifies

/-- An action that needs no phase and disturbs no other call. -/
inductive Plain : Action → Prop
  | rest : Plain .rest
  | progress {session : UploadSession} : Plain (.progress session)
  | closeSession {session : UploadSession} : Plain (.closeSession session)
  | prune {sessionId : Id} : Plain (.prune sessionId)
  | retire {location : ObjectLocation} : Plain (.retire location)
  | work {item : MigrationItem} : Plain (.work item)
  | schedule {item : MigrationItem} : Plain (.schedule item)

section

variable {mode : Mode} {scene : Scene} {caller : Nat} {phase : Phase} {action : Action}
  {nextId : Id}

theorem Plain.move (plain : Plain action) (shown : scene.Shows caller phase)
    (tokens : Tokens scene) (later : scene.nextId ≤ nextId)
    (enabled : action.Enabled scene.catalog nextId) :
    Move caller scene { scene with catalog := scene.catalog.after action, nextId } action phase
      phase where
  later := later
  enabled := enabled
  admitted := by cases plain <;> trivial
  catalog := rfl
  own := shown
  phases := by
    obtain ⟨inside, at_⟩ := List.getElem?_eq_some_iff.mp shown
    rw [← at_]
    exact (List.set_getElem_self inside).symm
  hold _ _ := by cases plain <;> exact (Int.add_zero _).symm
  size organizationId namespaceId sizeBytes key phaseEq :=
    tokens.size caller organizationId namespaceId sizeBytes key (phaseEq ▸ shown)
  opens session opens := by cases plain <;> contradiction
  initiates _ key phaseEq := .inl ⟨key, phaseEq⟩

theorem Plain.respects (plain : Plain action) :
    Respects mode scene { scene with catalog := scene.catalog.after action, nextId } action phase
      phase := by
  have quiescent : Quiescent action := by cases plain <;> trivial
  apply quiescent.respects
  · exact fun _ holds => holds
  · exact fun _ drew => .inl drew
  · exact fun _ _ _ => .inl rfl
  · exact fun _ _ => .inl rfl

/-- A step that disturbs nobody, its own call included. -/
structure Calm (mode : Mode) (caller : Nat) (before after : Scene) : Prop
    extends Step mode caller before after where
  undisturbed : Relies mode caller before after

theorem Calm.refl (upheld : Upheld mode scene) : Calm mode caller scene scene where
  upheld := upheld
  preserves := .refl mode scene
  relies other _ := .refl mode other scene
  undisturbed := .refl mode caller scene

theorem Calm.trans {first second third : Scene} (early : Calm mode caller first second)
    (late : Calm mode caller second third) : Calm mode caller first third where
  upheld := late.upheld
  preserves := early.preserves.trans late.preserves
  relies other apart := (early.relies other apart).trans (late.relies other apart)
  undisturbed := early.undisturbed.trans late.undisturbed

/-- A move under which the phase and the objects stay. -/
theorem calm_of_move {before after : Scene} (move : Move caller before after action phase phase)
    (upheld : Upheld mode before)
    (respects : mode.careful → Respects mode before after action phase phase)
    (objects : after.objects = before.objects) : Calm mode caller before after where
  toStep := move.step upheld respects
  undisturbed :=
    { (move.step upheld respects).preserves with
      keeps := fun _ =>
        { own := fun other shown => by
            have same : phase = other := Option.some.inj (move.own.symm.trans shown)
            exact move.shows_caller.mpr same
          object := fun _ _ _ _ address _ holds => by rw [objects]; exact holds } }

theorem Plain.calm (plain : Plain action) (upheld : Upheld mode scene)
    (shown : scene.Shows caller phase) (later : scene.nextId ≤ nextId)
    (enabled : action.Enabled scene.catalog nextId) :
    Calm mode caller scene { scene with catalog := scene.catalog.after action, nextId } :=
  calm_of_move (plain.move shown upheld.tokens later enabled) upheld (fun _ => plain.respects) rfl

/-- Plain actions one after the other. -/
theorem calm_actions {actions : List Action} (plain : ∀ action ∈ actions, Plain action)
    (upheld : Upheld mode scene) (shown : scene.Shows caller phase)
    (later : scene.nextId ≤ nextId) (enabled : scene.catalog.Enables nextId actions) :
    Calm mode caller scene
      { scene with catalog := actions.foldl Catalog.after scene.catalog, nextId } := by
  induction actions generalizing scene with
  | nil =>
      have settles : Settles scene { scene with nextId } :=
        ⟨rfl, later, fun _ _ shown => .inl shown, fun _ _ => le_refl _⟩
      have step : ∀ someone, Conduct.Step mode someone scene { scene with nextId } := fun someone =>
        settles.step upheld (fun _ => ⟨none, settles.removes fun _ holds => holds⟩)
          fun _ _ _ shown => shown
      exact ⟨step caller, (step (caller + 1)).relies caller (Nat.succ_ne_self caller).symm⟩
  | cons first rest ih =>
      obtain ⟨firstPlain, restPlain⟩ := List.forall_mem_cons.mp plain
      have calm := firstPlain.calm upheld shown later enabled.1
      exact calm.trans (ih restPlain calm.upheld shown (Nat.le_refl nextId) enabled.2)

end

theorem Plain.calm_performs {mode : Mode} {before : Observation} {caller : Nat} {phase : Phase}
    {action : Action} {state : State Db} (plain : Plain action) (upheld : Upheld mode (sceneOf before))
    (shown : (sceneOf before).Shows caller phase)
    (performs : Performs before.shared.state state action) :
    Calm mode caller (sceneOf before)
      { sceneOf before with catalog := catalogOf state.db, nextId := state.nextId } := by
  rw [performs.catalog]
  exact plain.calm upheld shown performs.later performs.enabled

/-- A scene in which the database has another state. -/
theorem sceneOf_answer_state (before : Observation) (caller : Nat) (state : State Db) :
    sceneOf (before.answer caller none { before.shared with state }) =
      { sceneOf before with catalog := catalogOf state.db, nextId := state.nextId } :=
  rfl

namespace Conducts

variable {mode : Mode} {constraints : Db → Option Failure} {caller : Nat} {α β : Type}
  {phase : Phase} {known : Scene → Prop} {post : α → Scene → Prop} {body : Database.Tx α}
  {command : Command (Except Failure α)}

/-- A body that disturbs nobody, and what is known after it. -/
theorem calm (isBody : command = .transaction body ∨ command = .query body)
    (steady : Steady mode caller known)
    (spec : ∀ before : Observation, (sceneOf before).Shows caller phase →
      known (sceneOf before) → Upheld mode (sceneOf before) →
      (mode.careful → Considerate mode command before) →
      Tx.wp constraints before.shared.clock body
        (fun value after => Calm mode caller (sceneOf before)
            { sceneOf before with catalog := catalogOf after.db, nextId := after.nextId } ∧
          post value { sceneOf before with catalog := catalogOf after.db, nextId := after.nextId })
        (fun _ => True) before.shared.state) :
    Conducts mode constraints caller phase known (attempt command)
      (Stays phase fun value scene => known scene ∧ post value scene)
      (Stays phase fun _ => known) := by
  have unnoted : (attempt command).noting (fun _ => none) = (attempt command : Service α) :=
    noting_attempt command fun _ => none
  rw [← unnoted]
  apply execute isBody steady
  · intro before shown holds upheld considerate
    apply Tx.wp_mono (spec before shown holds upheld considerate) _ fun _ _ => trivial
    rintro value state ⟨calm, learnt⟩ after rfl
    rw [sceneOf_answer_state]
    exact ⟨calm.toStep, rfl, steady _ _ calm.undisturbed calm.upheld holds, learnt⟩
  · rintro before shown holds upheld error after rfl
    exact ⟨(Calm.refl upheld).toStep, rfl, holds⟩

/-- A body that reads. -/
theorem reads (isBody : command = .transaction body ∨ command = .query body)
    (steady : Steady mode caller known)
    (spec : ∀ before : Observation, (sceneOf before).Shows caller phase →
      known (sceneOf before) → Upheld mode (sceneOf before) →
      (mode.careful → Considerate mode command before) →
      Tx.wp constraints before.shared.clock body
        (fun value after => after = before.shared.state ∧ post value (sceneOf before))
        (fun _ => True) before.shared.state) :
    Conducts mode constraints caller phase known (attempt command)
      (Stays phase fun value scene => known scene ∧ post value scene)
      (Stays phase fun _ => known) := by
  apply calm isBody steady
  intro before shown holds upheld considerate
  apply Tx.wp_mono (spec before shown holds upheld considerate) _ fun _ _ => trivial
  rintro value state ⟨rfl, learnt⟩
  exact ⟨.refl upheld, learnt⟩

/-- A body that takes plain actions. -/
theorem plain (isBody : command = .transaction body ∨ command = .query body)
    (steady : Steady mode caller known)
    (spec : ∀ before : Observation, known (sceneOf before) → Upheld mode (sceneOf before) →
      Tx.wp constraints before.shared.clock body
        (fun _ after => ∃ actions, (∀ action ∈ actions, Plain action) ∧
          PerformsAll before.shared.state after actions)
        (fun _ => True) before.shared.state) :
    Conducts mode constraints caller phase known (attempt command)
      (Stays phase fun _ => known) (Stays phase fun _ => known) := by
  have stays : Conducts mode constraints caller phase known (attempt command)
      (Stays phase fun _ scene => known scene ∧ True) (Stays phase fun _ => known) := by
    apply calm isBody steady
    intro before shown holds upheld _
    apply Tx.wp_mono (spec before holds upheld) _ fun _ _ => trivial
    rintro value after ⟨actions, plain, performs⟩
    rw [performs.catalog]
    exact ⟨calm_actions plain upheld shown performs.later performs.enabled, trivial⟩
  exact stays.weaken (fun _ holds => holds) (fun _ _ _ ⟨same, holds, _⟩ => ⟨same, holds⟩)
    fun _ _ _ thrown => thrown

/-- A body that takes one plain action. -/
theorem plainOne (isBody : command = .transaction body ∨ command = .query body)
    (steady : Steady mode caller known)
    (spec : ∀ before : Observation, known (sceneOf before) → Upheld mode (sceneOf before) →
      Tx.wp constraints before.shared.clock body
        (fun _ after => ∃ action, Plain action ∧ Performs before.shared.state after action)
        (fun _ => True) before.shared.state) :
    Conducts mode constraints caller phase known (attempt command)
      (Stays phase fun _ => known) (Stays phase fun _ => known) := by
  apply plain isBody steady
  intro before holds upheld
  apply Tx.wp_mono (spec before holds upheld) _ fun _ _ => trivial
  rintro value after ⟨action, plain, performs⟩
  exact ⟨[action], by simpa using plain, performs.later, ⟨performs.enabled, trivial⟩,
    performs.catalog⟩

end Conducts

/-! ## Programs that leave the phase as it is -/

section

variable (mode : Mode) (constraints : Db → Option Failure) (caller : Nat)

/-- A program under which the phase stays and what is known stays known. -/
def Leaves {α : Type} (phase : Phase) (known : Scene → Prop) (program : Service α) : Prop :=
  Conducts mode constraints caller phase known program (Stays phase fun _ => known)
    (Stays phase fun _ => known)

end

namespace Leaves

variable {mode : Mode} {constraints : Db → Option Failure} {caller : Nat} {α β : Type}
  {phase : Phase} {known known' : Scene → Prop}

theorem pure {value : α} : Leaves mode constraints caller phase known (.pure value) :=
  Conducts.pure fun _ holds => ⟨rfl, holds⟩

theorem throw {error : Failure} :
    Leaves mode constraints caller phase known (.throw error : Service α) :=
  Conducts.throw fun _ holds => ⟨rfl, holds⟩

theorem bind {program : Service β} {rest : β → Service α}
    (first : Leaves mode constraints caller phase known program)
    (second : ∀ value, Leaves mode constraints caller phase known (rest value)) :
    Leaves mode constraints caller phase known (program.bind rest) :=
  Conducts.bind_stays first second

theorem catchWith {program : Service α} {handler : Failure → Service α}
    (first : Leaves mode constraints caller phase known program)
    (second : ∀ error, Leaves mode constraints caller phase known (handler error)) :
    Leaves mode constraints caller phase known (program.catchWith handler) :=
  Conducts.catch_stays first second

theorem swallow {program : Service α} (leaves : Leaves mode constraints caller phase known program) :
    Leaves mode constraints caller phase known program.swallow :=
  (leaves.bind fun _ => .pure).catchWith fun _ => .pure

theorem ensuring {program : Service α} {cleanup : Service Unit}
    (first : Leaves mode constraints caller phase known program)
    (second : Leaves mode constraints caller phase known cleanup) :
    Leaves mode constraints caller phase known (program.ensuring cleanup) :=
  (first.catchWith fun _ => second.bind fun _ => .throw).bind fun _ => second.bind fun _ => .pure

theorem runIf {condition : Prop} [Decidable condition] {program : Service Unit}
    (leaves : Leaves mode constraints caller phase known program) :
    Leaves mode constraints caller phase known (Program.runIf condition program) := by
  unfold Program.runIf
  split
  · exact leaves
  · exact .pure

theorem ofExcept {outcome : Except Failure α} :
    Leaves mode constraints caller phase known (Program.ofExcept outcome) := by
  cases outcome with
  | ok value => exact .pure
  | error failure => exact .throw

theorem ite {condition : Prop} [Decidable condition] {first second : Service α}
    (holds : condition → Leaves mode constraints caller phase known first)
    (fails : ¬condition → Leaves mode constraints caller phase known second) :
    Leaves mode constraints caller phase known (if condition then first else second) :=
  Conducts.ite holds fails

theorem throwIf {condition : Prop} [Decidable condition] {error : Failure} :
    Leaves mode constraints caller phase known (Program.throwIf condition error) :=
  ite (fun _ => .throw) fun _ => .pure

/-- Not everything that is known has to be kept. -/
theorem less {program : Service α} (leaves : Leaves mode constraints caller phase known' program)
    (weaker : ∀ scene, known' scene → known scene) :
    Conducts mode constraints caller phase known' program (Stays phase fun _ => known)
      (Stays phase fun _ => known) :=
  leaves.weaken (fun _ holds => holds) (fun _ _ _ ⟨same, holds⟩ => ⟨same, weaker _ holds⟩)
    fun _ _ _ ⟨same, holds⟩ => ⟨same, weaker _ holds⟩

theorem quiet {post : α → Prop} {program : Service α} (quiet : Quiet post program)
    (steady : Steady mode caller known) : Leaves mode constraints caller phase known program :=
  (Conducts.quiet quiet steady).weaken (fun _ holds => holds)
    (fun _ _ _ ⟨same, _, holds⟩ => ⟨same, holds⟩) fun _ _ _ thrown => thrown

end Leaves

namespace Conducts

variable {mode : Mode} {constraints : Db → Option Failure} {caller : Nat} {α β : Type}
  {phase : Phase} {known : Scene → Prop} {returns : α → Phase → Scene → Prop}
  {throws : Failure → Phase → Scene → Prop}

/-- What a quiet program returns is known from then on. -/
theorem bind_quiet {post : β → Prop} {program : Service β} {rest : β → Service α}
    (first : Quiet post program) (steady : Steady mode caller known)
    (second : ∀ value, post value → Conducts mode constraints caller phase known (rest value)
      returns throws)
    (thrown : ∀ error scene, known scene → throws error phase scene) :
    Conducts mode constraints caller phase known (program.bind rest) returns throws := by
  have runs : Conducts mode constraints caller phase known program
      (Stays phase fun value scene => post value ∧ known scene) throws := by
    apply (quiet first steady).weaken (fun _ holds => holds) fun _ _ _ returned => returned
    rintro error new scene ⟨rfl, holds⟩
    exact thrown error scene holds
  exact bind_stays runs fun value => assuming (second value)

end Conducts

/-! ## Programs that only fail -/

section

variable (mode : Mode) (constraints : Db → Option Failure) (caller : Nat)

/-- A program that leaves the phase as it is and throws. -/
def Fails {α : Type} (phase : Phase) (known : Scene → Prop) (program : Service α) : Prop :=
  Conducts mode constraints caller phase known program (fun _ _ _ => False)
    (Stays phase fun _ => known)

end

namespace Fails

variable {mode : Mode} {constraints : Db → Option Failure} {caller : Nat} {α β : Type}
  {phase : Phase} {known : Scene → Prop}

theorem throw {error : Failure} :
    Fails mode constraints caller phase known (.throw error : Service α) :=
  Conducts.throw fun _ holds => ⟨rfl, holds⟩

theorem after {program : Service β} {rest : β → Service α}
    (first : Leaves mode constraints caller phase known program)
    (second : ∀ value, Fails mode constraints caller phase known (rest value)) :
    Fails mode constraints caller phase known (program.bind rest) :=
  Conducts.bind_stays first second

end Fails

namespace Conducts

variable {mode : Mode} {constraints : Db → Option Failure} {caller : Nat} {α : Type}
  {phase middle : Phase} {known known' : Scene → Prop} {returns : α → Phase → Scene → Prop}

/-- An error is handled by failing again. -/
theorem catch_fails {program : Service α} {handler : Failure → Service α}
    (first : Conducts mode constraints caller phase known program returns
      (Stays middle fun _ => known'))
    (second : ∀ error, Fails mode constraints caller middle known' (handler error)) :
    Conducts mode constraints caller phase known (program.catchWith handler) returns
      (Stays middle fun _ => known') := by
  apply catchWith first
  rintro error new view ⟨shown, rfl, holds⟩
  exact ((second error).weaken (fun _ holds => holds) (fun _ _ _ impossible => impossible.elim)
    fun _ _ _ thrown => thrown) view ⟨shown, holds⟩

/-- Sequencing, where the result of the first part tells the phase. -/
theorem bind_at {β : Type} {program : Service β} {rest : β → Service α} {reached : β → Phase}
    {learnt : β → Scene → Prop} {throws : Failure → Phase → Scene → Prop}
    (first : Conducts mode constraints caller phase known program
      (fun value new scene => new = reached value ∧ learnt value scene) throws)
    (second : ∀ value, Conducts mode constraints caller (reached value) (learnt value) (rest value)
      returns throws) :
    Conducts mode constraints caller phase known (program.bind rest) returns throws := by
  apply bind first
  rintro value new view ⟨shown, rfl, holds⟩
  exact second value view ⟨shown, holds⟩

end Conducts

/-! ## Programs that end a call -/

section

variable (mode : Mode) (constraints : Db → Option Failure) (caller : Nat)

/-- A program that runs to its end, whatever is known then. -/
def Runs {α : Type} (phase : Phase) (known : Scene → Prop) (program : Service α) : Prop :=
  Conducts mode constraints caller phase known program (fun _ _ _ => True) fun _ _ _ => True

end

namespace Runs

variable {mode : Mode} {constraints : Db → Option Failure} {caller : Nat} {α β : Type}
  {phase middle : Phase} {known known' : Scene → Prop}

theorem of {program : Service α} {returns : α → Phase → Scene → Prop}
    {throws : Failure → Phase → Scene → Prop}
    (conducts : Conducts mode constraints caller phase known program returns throws) :
    Runs mode constraints caller phase known program :=
  conducts.weaken (fun _ holds => holds) (fun _ _ _ _ => trivial) fun _ _ _ _ => trivial

theorem stronger {program : Service α} (runs : Runs mode constraints caller phase known program)
    (stronger : ∀ scene, known' scene → known scene) :
    Runs mode constraints caller phase known' program :=
  Conducts.weaken runs stronger (fun _ _ _ _ => trivial) fun _ _ _ _ => trivial

theorem bind {program : Service β} {rest : β → Service α} {learnt : β → Scene → Prop}
    {throws : Failure → Phase → Scene → Prop}
    (first : Conducts mode constraints caller phase known program (Stays middle learnt) throws)
    (second : ∀ value, Runs mode constraints caller middle (learnt value) (rest value)) :
    Runs mode constraints caller phase known (program.bind rest) :=
  Conducts.bind_stays (first.weaken (fun _ holds => holds) (fun _ _ _ returned => returned)
    fun _ _ _ _ => trivial) second

theorem bind_at {program : Service β} {rest : β → Service α} {reached : β → Phase}
    {learnt : β → Scene → Prop} {throws : Failure → Phase → Scene → Prop}
    (first : Conducts mode constraints caller phase known program
      (fun value new scene => new = reached value ∧ learnt value scene) throws)
    (second : ∀ value, Runs mode constraints caller (reached value) (learnt value) (rest value)) :
    Runs mode constraints caller phase known (program.bind rest) :=
  Conducts.bind_at (first.weaken (fun _ holds => holds) (fun _ _ _ returned => returned)
    fun _ _ _ _ => trivial) second

theorem bind_quiet {post : β → Prop} {program : Service β} {rest : β → Service α}
    (first : Quiet post program) (steady : Steady mode caller known)
    (second : ∀ value, post value → Runs mode constraints caller phase known (rest value)) :
    Runs mode constraints caller phase known (program.bind rest) :=
  Conducts.bind_quiet first steady second fun _ _ _ => trivial

theorem pure {value : α} : Runs mode constraints caller phase known (.pure value) :=
  Conducts.pure fun _ _ => trivial

theorem throw {error : Failure} :
    Runs mode constraints caller phase known (.throw error : Service α) :=
  Conducts.throw fun _ _ => trivial

end Runs

section

variable (mode : Mode) (constraints : Db → Option Failure) (caller : Nat)

/-- A program that runs to its end and throws. -/
def Aborts {α : Type} (phase : Phase) (known : Scene → Prop) (program : Service α) : Prop :=
  Conducts mode constraints caller phase known program (fun _ _ _ => False) fun _ _ _ => True

end

namespace Aborts

variable {mode : Mode} {constraints : Db → Option Failure} {caller : Nat} {α β : Type}
  {phase middle : Phase} {known : Scene → Prop}

theorem throw {error : Failure} :
    Aborts mode constraints caller phase known (.throw error : Service α) :=
  Conducts.throw fun _ _ => trivial

theorem bind {program : Service β} {rest : β → Service α} {learnt : β → Scene → Prop}
    {throws : Failure → Phase → Scene → Prop}
    (first : Conducts mode constraints caller phase known program (Stays middle learnt) throws)
    (second : ∀ value, Aborts mode constraints caller middle (learnt value) (rest value)) :
    Aborts mode constraints caller phase known (program.bind rest) :=
  Conducts.bind_stays (first.weaken (fun _ holds => holds) (fun _ _ _ returned => returned)
    fun _ _ _ _ => trivial) second

/-- An error is handled by throwing in the end. -/
theorem catching {program : Service α} {handler : Failure → Service α} {known' : Scene → Prop}
    {returns : α → Phase → Scene → Prop}
    (first : Conducts mode constraints caller phase known program returns
      (Stays middle fun _ => known'))
    (second : ∀ error, Aborts mode constraints caller middle known' (handler error)) :
    Conducts mode constraints caller phase known (program.catchWith handler) returns
      fun _ _ _ => True := by
  apply Conducts.catch_stays first
  exact fun error => (second error).weaken (fun _ holds => holds)
    (fun _ _ _ impossible => impossible.elim) fun _ _ _ thrown => thrown

end Aborts

section

variable (mode : Mode) (constraints : Db → Option Failure) (caller : Nat)

/-- A program that runs to its end, and what its answer says. -/
def Tells {α : Type} (phase : Phase) (known : Scene → Prop) (program : Service α)
    (post : α → Scene → Prop) : Prop :=
  Conducts mode constraints caller phase known program (fun value _ scene => post value scene)
    fun _ _ _ => True

end

namespace Tells

variable {mode : Mode} {constraints : Db → Option Failure} {caller : Nat} {α β : Type}
  {phase middle : Phase} {known known' : Scene → Prop} {post post' : α → Scene → Prop}

theorem throw {error : Failure} :
    Tells mode constraints caller phase known (.throw error : Service α) post :=
  Conducts.throw fun _ _ => trivial

theorem runs {program : Service α} (tells : Tells mode constraints caller phase known program post) :
    Runs mode constraints caller phase known program :=
  .of tells

theorem weaken {program : Service α} (tells : Tells mode constraints caller phase known program post)
    (stronger : ∀ scene, known' scene → known scene)
    (weaker : ∀ value scene, post value scene → post' value scene) :
    Tells mode constraints caller phase known' program post' :=
  Conducts.weaken tells stronger (fun value _ scene => weaker value scene) fun _ _ _ _ => trivial

/-- What is known when a program stays in its phase is what its answer says. -/
theorem of_stays {program : Service α} {throws : Failure → Phase → Scene → Prop}
    (conducts : Conducts mode constraints caller phase known program (Stays middle post) throws) :
    Tells mode constraints caller phase known program post :=
  Conducts.weaken conducts (fun _ holds => holds) (fun _ _ _ ends => ends.2) fun _ _ _ _ => trivial

theorem bind {program : Service β} {rest : β → Service α} {learnt : β → Scene → Prop}
    {throws : Failure → Phase → Scene → Prop}
    (first : Conducts mode constraints caller phase known program (Stays middle learnt) throws)
    (second : ∀ value, Tells mode constraints caller middle (learnt value) (rest value) post) :
    Tells mode constraints caller phase known (program.bind rest) post :=
  Conducts.bind_stays (first.weaken (fun _ holds => holds) (fun _ _ _ returned => returned)
    fun _ _ _ _ => trivial) second

theorem bind_at {program : Service β} {rest : β → Service α} {reached : β → Phase}
    {learnt : β → Scene → Prop} {throws : Failure → Phase → Scene → Prop}
    (first : Conducts mode constraints caller phase known program
      (fun value new scene => new = reached value ∧ learnt value scene) throws)
    (second : ∀ value, Tells mode constraints caller (reached value) (learnt value) (rest value)
      post) :
    Tells mode constraints caller phase known (program.bind rest) post :=
  Conducts.bind_at (first.weaken (fun _ holds => holds) (fun _ _ _ returned => returned)
    fun _ _ _ _ => trivial) second

theorem bind_quiet {answers : β → Prop} {program : Service β} {rest : β → Service α}
    (first : Quiet answers program) (steady : Steady mode caller known)
    (second : ∀ value, answers value → Tells mode constraints caller phase known (rest value) post) :
    Tells mode constraints caller phase known (program.bind rest) post :=
  Conducts.bind_quiet first steady second fun _ _ _ => trivial

theorem quiet {answers : α → Prop} {program : Service α} (quiet : Quiet answers program)
    (steady : Steady mode caller known) :
    Tells mode constraints caller phase known program fun value scene =>
      answers value ∧ known scene :=
  of_stays (Conducts.quiet quiet steady)

end Tells

/-- What lasts is not disturbed after the end of a program. -/
theorem stable_lasting {mode : Mode} {caller : Nat} {known : Scene → Prop}
    (lasting : Lasting mode known) : Contract.Stable (contract mode) caller
      fun view => ∃ new, (sceneOf view).Shows caller new ∧ known (sceneOf view) := by
  rintro view later phaseEq relies _ ⟨new, shown, holds⟩
  exact ⟨new, phaseEq.trans shown, lasting _ _ relies.toPreserves holds⟩

/-! ## Actions with a new phase -/

/-- What a transaction that succeeds has moved. -/
theorem move_of_performs {before : Observation} {caller : Nat} {old new : Phase} {action : Action}
    {state : State Db} (performs : Performs before.shared.state state action)
    (shown : (sceneOf before).Shows caller old) (admitted : action.Admitted (sceneOf before).catalog)
    (hold : ∀ organizationId namespaceId, heldBy new organizationId namespaceId =
      heldBy old organizationId namespaceId + action.hold organizationId namespaceId)
    (size : ∀ organizationId namespaceId sizeBytes key,
      new = .reserved organizationId namespaceId sizeBytes key → 0 ≤ sizeBytes)
    (opens : ∀ session, action = .openSession session →
      (∃ key, old = .initiating session.id key) ∧ ∀ uploadId key, new ≠ .initiating uploadId key)
    (initiates : ∀ uploadId key, new = .initiating uploadId key →
      ∃ other, old = .initiating uploadId other) :
    Move caller (sceneOf before)
      { phases := (sceneOf before).phases.set caller new
        catalog := catalogOf state.db
        nextId := state.nextId
        objects := (sceneOf before).objects } action old new where
  later := performs.later
  enabled := performs.enabled
  admitted := admitted
  catalog := performs.catalog
  own := shown
  phases := rfl
  hold := hold
  size := size
  opens := opens
  initiates uploadId key phaseEq := .inl (initiates uploadId key phaseEq)

/-- One call settles down: the catalog stays, and its phase too or it becomes idle. -/
theorem settles_answer {before : Observation} {caller : Nat} {note : Option Phase} {world : World}
    (dismisses : ∀ phase, note = some phase → phase = .idle)
    (catalog : catalogOf world.db = catalogOf before.shared.db)
    (later : before.shared.nextId ≤ world.nextId)
    (shown : ∃ phase, (sceneOf before).Shows caller phase ∧ ∀ organizationId namespaceId,
      0 ≤ heldBy phase organizationId namespaceId) :
    Settles (sceneOf before) (sceneOf (before.answer caller note world)) := by
  cases noteEq : note with
  | none => exact settles_world caller catalog later
  | some shows =>
      obtain rfl := dismisses shows noteEq
      obtain ⟨phase, at_, holds⟩ := shown
      constructor
      · exact catalog
      · exact later
      · intro i other shownAfter
        have after : (before.phases.set caller .idle)[i]? = some other := shownAfter
        by_cases same : i = caller
        · subst same
          have inside : i < before.phases.length := (List.getElem?_eq_some_iff.mp at_).1
          rw [List.getElem?_set_self inside] at after
          exact .inr (.inl (Option.some.inj after).symm)
        · rw [List.getElem?_set_ne (Ne.symm same)] at after
          exact .inl after
      · intro organizationId namespaceId
        have moved : held ((sceneOf before).phases.set caller .idle) organizationId namespaceId = _ :=
          held_set at_ organizationId namespaceId
        have nonneg := holds organizationId namespaceId
        have none_ : heldBy .idle organizationId namespaceId = 0 := rfl
        show held (before.phases.set caller .idle) organizationId namespaceId ≤ _
        rw [show before.phases = (sceneOf before).phases from rfl, moved, none_]
        omega

theorem heldBy_nonneg {mode : Mode} {scene : Scene} (sound : Sound mode scene) {caller : Nat}
    {phase : Phase} (shown : scene.Shows caller phase) (organizationId namespaceId : Id) :
    0 ≤ heldBy phase organizationId namespaceId := by
  cases phase with
  | reserved ownOrganization ownNamespace sizeBytes key =>
      have nonneg := sound.tokens.size caller _ _ sizeBytes key shown
      unfold heldBy inNamespace
      dsimp only
      split
      · exact nonneg
      · exact le_refl _
  | _ => exact le_refl _

/-- A step after which the call is idle, or as it was, and nothing else has changed. -/
theorem step_dismissed {mode : Mode} {before : Observation} {caller : Nat} {phase : Phase}
    {note : Option Phase} (upheld : Upheld mode (sceneOf before))
    (shown : (sceneOf before).Shows caller phase)
    (dismisses : ∀ new, note = some new → new = .idle) :
    Conduct.Step mode caller (sceneOf before)
      (sceneOf (before.answer caller note before.shared)) := by
  have settles : Settles (sceneOf before) (sceneOf (before.answer caller note before.shared)) :=
    settles_answer dismisses rfl (Nat.le_refl _)
      ⟨phase, shown, heldBy_nonneg upheld.toSound shown⟩
  apply settles.step upheld
  · exact fun _ => ⟨none, settles.removes fun _ holds => holds⟩
  · intro other apart was shownOther
    exact (before.answer_phases_ne note before.shared apart).trans shownOther

/-- A transaction that takes an action and shows a new phase, and what is known then. -/
theorem Conducts.moves {mode : Mode} {constraints : Db → Option Failure} {caller : Nat} {α : Type}
    {phase new : Phase} {known : Scene → Prop} {post : α → Scene → Prop} {body : Database.Tx α}
    {command : Command (Except Failure α)} {note : Except Failure α → Option Phase}
    (isBody : command = .transaction body ∨ command = .query body) (lasting : Lasting mode known)
    (noted : ∀ value, note (.ok value) = some new)
    (dismisses : ∀ error phase, note (.error error) = some phase → phase = .idle)
    (spec : ∀ before : Observation, (sceneOf before).Shows caller phase →
      known (sceneOf before) → Upheld mode (sceneOf before) →
      Tx.wp constraints before.shared.clock body
        (fun value state => ∀ after : Scene, after =
            { phases := (sceneOf before).phases.set caller new
              catalog := catalogOf state.db
              nextId := state.nextId
              objects := (sceneOf before).objects } →
          (∃ action, Move caller (sceneOf before) after action phase new ∧
            (mode.careful → Respects mode (sceneOf before) after action phase new)) ∧
          post value after)
        (fun _ => True) before.shared.state) :
    Conducts mode constraints caller phase known ((attempt command).noting note)
      (Stays new fun value scene => known scene ∧ post value scene)
      (fun error now scene => now = (note (.error error)).getD phase ∧ known scene) := by
  apply execute isBody lasting.steady
  · intro before shown holds upheld _
    apply Tx.wp_mono (spec before shown holds upheld) _ fun _ _ => trivial
    rintro value state moved after rfl
    rw [sceneOf_answer shown, noted value]
    obtain ⟨⟨action, move, respects⟩, learnt⟩ := moved _ rfl
    have step := move.step upheld respects
    exact ⟨step, rfl, lasting _ _ step.preserves holds, learnt⟩
  · rintro before shown holds upheld error after rfl
    have step : Conduct.Step mode caller (sceneOf before)
        (sceneOf (before.answer caller (note (.error error)) before.shared)) :=
      step_dismissed upheld shown (dismisses error)
    exact ⟨step, rfl, lasting _ _ step.preserves holds⟩

/-- A transaction that takes an action and shows a new phase. -/
theorem Conducts.moves_only {mode : Mode} {constraints : Db → Option Failure} {caller : Nat}
    {α : Type} {phase new : Phase} {known : Scene → Prop} {body : Database.Tx α}
    {command : Command (Except Failure α)} {note : Except Failure α → Option Phase}
    (isBody : command = .transaction body ∨ command = .query body) (lasting : Lasting mode known)
    (noted : ∀ value, note (.ok value) = some new)
    (dismisses : ∀ error phase, note (.error error) = some phase → phase = .idle)
    (spec : ∀ before : Observation, (sceneOf before).Shows caller phase →
      known (sceneOf before) → Upheld mode (sceneOf before) →
      Tx.wp constraints before.shared.clock body
        (fun _ state => ∀ after : Scene, after =
            { phases := (sceneOf before).phases.set caller new
              catalog := catalogOf state.db
              nextId := state.nextId
              objects := (sceneOf before).objects } →
          ∃ action, Move caller (sceneOf before) after action phase new ∧
            (mode.careful → Respects mode (sceneOf before) after action phase new))
        (fun _ => True) before.shared.state) :
    Conducts mode constraints caller phase known ((attempt command).noting note)
      (Stays new fun _ => known)
      (fun error now scene => now = (note (.error error)).getD phase ∧ known scene) := by
  have moves : Conducts mode constraints caller phase known ((attempt command).noting note)
      (Stays new fun _ scene => known scene ∧ True)
      (fun error now scene => now = (note (.error error)).getD phase ∧ known scene) := by
    apply Conducts.moves isBody lasting noted dismisses
    intro before shown holds upheld
    apply Tx.wp_mono (spec before shown holds upheld) _ fun _ _ => trivial
    exact fun _ _ moved after afterEq => ⟨moved after afterEq, trivial⟩
  exact moves.weaken (fun _ holds => holds) (fun _ _ _ ⟨same, holds, _⟩ => ⟨same, holds⟩)
    fun _ _ _ thrown => thrown

/-- What a step has to respect that only shows a new phase. -/
theorem respects_rest {mode : Mode} {before after : Scene} {old new : Phase}
    (objects : ∀ address, before.objects.Holds address → after.objects.Holds address)
    (draws : ∀ key, keyOf new = some key →
      keyOf old = some key ∨ before.nextId ≤ key.uuid ∧ key.uuid < after.nextId)
    (claims : ∀ recordId locationId, new ≠ .deleting recordId locationId)
    (verifies : ∀ uploadId, new = .verified uploadId → old = new ∨ uploadId < before.nextId ∧
      (∀ i key, ¬before.Shows i (.initiating uploadId key)) ∧
      ∀ session ∈ before.catalog.sessions, session.id = uploadId →
        before.Stored mode session.bucketConnectionId session.physicalKey) :
    Respects mode before after .rest old new := by
  have quiescent : Quiescent .rest := trivial
  apply quiescent.respects objects draws
  · exact fun recordId locationId phaseEq => absurd phaseEq (claims recordId locationId)
  · exact fun uploadId phaseEq => (verifies uploadId phaseEq).imp id fun known => ⟨rfl, known⟩

/-! ## Drawing identifiers -/

/-- What a phase may say that names a new identifier. -/
structure Draws (phase : Phase) (note : Id → Phase) : Prop where
  hold : ∀ id organizationId namespaceId,
    heldBy (note id) organizationId namespaceId = heldBy phase organizationId namespaceId
  size : ∀ id organizationId namespaceId sizeBytes key,
    note id ≠ .reserved organizationId namespaceId sizeBytes key
  initiates : ∀ id uploadId key, note id = .initiating uploadId key →
    (∃ other, phase = .initiating uploadId other) ∨ uploadId = id
  draws : ∀ id key, keyOf (note id) = some key → keyOf phase = some key ∨ key.uuid = id
  claims : ∀ id recordId locationId, note id ≠ .deleting recordId locationId
  verifies : ∀ id uploadId, note id ≠ .verified uploadId

theorem Draws.step {mode : Mode} {before : Observation} {caller : Nat} {phase : Phase}
    {note : Id → Phase} (draws : Draws phase note) (upheld : Upheld mode (sceneOf before))
    (shown : (sceneOf before).Shows caller phase) :
    Conduct.Step mode caller (sceneOf before)
      (sceneOf (before.answer caller (some (note before.shared.nextId))
        { before.shared with state := before.shared.state.issue })) := by
  have move : Move caller (sceneOf before)
      (sceneOf (before.answer caller (some (note before.shared.nextId))
        { before.shared with state := before.shared.state.issue })) .rest phase
      (note before.shared.nextId) :=
    { later := Nat.le_succ _
      enabled := trivial
      admitted := trivial
      catalog := rfl
      own := shown
      phases := rfl
      hold := fun organizationId namespaceId =>
        (draws.hold _ organizationId namespaceId).trans (Int.add_zero _).symm
      size := fun _ _ _ _ phaseEq => absurd phaseEq (draws.size _ _ _ _ _)
      opens := by simp
      initiates := fun uploadId key phaseEq => by
        rcases draws.initiates _ uploadId key phaseEq with was | rfl
        · exact .inl was
        · exact .inr ⟨Nat.le_refl _, Nat.lt_succ_self _⟩ }
  apply move.step upheld
  intro careful
  apply respects_rest
  · exact fun _ holds => holds
  · intro key drew
    rcases draws.draws _ key drew with was | same
    · exact .inl was
    · rw [same]
      exact .inr ⟨Nat.le_refl _, Nat.lt_succ_self _⟩
  · exact draws.claims _
  · exact fun _ phaseEq => absurd phaseEq (draws.verifies _ _)

theorem Conducts.randomUUIDNoting {mode : Mode} {constraints : Db → Option Failure} {caller : Nat}
    {phase : Phase} {known : Scene → Prop} {note : Id → Phase} (draws : Draws phase note)
    (lasting : Lasting mode known) :
    Conducts mode constraints caller phase known (Services.randomUUIDNoting note)
      (fun id new scene => new = note id ∧ known scene ∧ id < scene.nextId)
      fun _ _ _ => False := by
  apply perform lasting.steady rfl
  intro before shown holds upheld _ choice answer world ran
  obtain ⟨rfl, rfl⟩ := Prod.mk.inj ran
  have step := draws.step upheld shown
  refine ⟨step, fun scene => known scene ∧ before.shared.nextId < scene.nextId,
    ⟨lasting _ _ step.preserves holds, Nat.lt_succ_self _⟩, ?_⟩
  exact Conducts.pure fun scene holds => ⟨rfl, holds⟩

end Mosp.Conduct
