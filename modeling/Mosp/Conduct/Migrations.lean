import Mosp.Conduct.Worker
import Mosp.Index.MigrationTransactions

/-!
# Migrations under the contract

Migrations hold no bytes of a namespace, so their phases matter only to
statements about migrations.  Where objects are watched there are none.
-/

namespace Mosp.Conduct

open Mosp.Concurrency Mosp.Data Mosp.Sql Mosp.Database Mosp.Index Mosp.Services Mosp.Worker
open Mosp.System hiding Action

/-! ## Programs with phases that say nothing -/

section

variable (mode : Mode) (constraints : Db → Option Failure) (caller : Nat)

/-- A program of which only what it knows matters: its phases say nothing. -/
def Roams {α : Type} (known : Scene → Prop) (program : Service α) : Prop :=
  ∀ phase, Inert phase → Conducts mode constraints caller phase known program
    (fun _ new scene => Inert new ∧ known scene) fun _ new scene => Inert new ∧ known scene

end

/-- An action that neither reserves nor returns bytes of an upload. -/
def Unheld : Action → Prop
  | .openSession _ | .reserve _ _ _ | .release _ _ _ | .upload _ _ => False
  | _ => True

theorem Inert.not_initiating {phase : Phase} (inert : Inert phase) (uploadId : Id)
    (key : Option PhysicalKey) : phase ≠ .initiating uploadId key := by
  rcases inert with rfl | ⟨_, rfl⟩ <;> simp

theorem Inert.not_reserved {phase : Phase} (inert : Inert phase) (organizationId namespaceId : Id)
    (sizeBytes : Int) (key : PhysicalKey) :
    phase ≠ .reserved organizationId namespaceId sizeBytes key := by
  rcases inert with rfl | ⟨_, rfl⟩ <;> simp

/-- Actions between phases that say nothing. -/
theorem move_inert {before : Observation} {caller : Nat} {old new : Phase} {action : Action}
    {state : State Db} (performs : Performs before.shared.state state action)
    (unheld : Unheld action) (shown : (sceneOf before).Shows caller old) (inertOld : Inert old)
    (inertNew : Inert new) :
    Move caller (sceneOf before)
      { phases := (sceneOf before).phases.set caller new
        catalog := catalogOf state.db
        nextId := state.nextId
        objects := (sceneOf before).objects } action old new := by
  apply move_of_performs performs shown
  · cases action <;> trivial
  · intro organizationId namespaceId
    rw [inertNew.heldBy, inertOld.heldBy]
    cases action <;> first | rfl | exact unheld.elim
  · exact fun _ _ _ _ phaseEq => absurd phaseEq (inertNew.not_reserved _ _ _ _)
  · intro session actionEq
    subst actionEq
    exact unheld.elim
  · exact fun _ _ phaseEq => absurd phaseEq (inertNew.not_initiating _ _)

/-- The phase that a call shows once it was answered. -/
theorem shows_answer {before : Observation} {caller : Nat} {phase : Phase}
    (shown : (sceneOf before).Shows caller phase) (note : Option Phase) (world : World) :
    (sceneOf (before.answer caller note world)).Shows caller (note.getD phase) := by
  rw [sceneOf_answer shown]
  exact List.getElem?_set_self (List.getElem?_eq_some_iff.mp shown).1

/-- The phases that forked calls show. -/
theorem shows_forked (view : Observation) {phases : List Phase} {length : Nat}
    (lengthEq : view.phases.length = length) (index : Nat) {phase : Phase}
    (at_ : phases[index]? = some phase) :
    (sceneOf (view.fork phases)).Shows (length + index) phase := by
  subst lengthEq
  exact (List.getElem?_append_right (Nat.le_add_right _ _)).trans
    ((congrArg (phases[·]?) (Nat.add_sub_cancel_left _ _)).trans at_)

namespace Roams

variable {mode : Mode} {constraints : Db → Option Failure} {caller : Nat} {α β : Type}
  {known known' : Scene → Prop}

theorem pure {value : α} : Roams mode constraints caller known (.pure value) :=
  fun _ inert => Conducts.pure fun _ holds => ⟨inert, holds⟩

theorem throw {error : Failure} :
    Roams mode constraints caller known (.throw error : Service α) :=
  fun _ inert => Conducts.throw fun _ holds => ⟨inert, holds⟩

theorem bind {program : Service β} {rest : β → Service α}
    (first : Roams mode constraints caller known program)
    (second : ∀ value, Roams mode constraints caller known (rest value)) :
    Roams mode constraints caller known (program.bind rest) := by
  intro phase inert
  apply Conducts.bind (first phase inert)
  rintro value new view ⟨shown, inertNew, holds⟩
  exact second value new inertNew view ⟨shown, holds⟩

theorem catchWith {program : Service α} {handler : Failure → Service α}
    (first : Roams mode constraints caller known program)
    (second : ∀ error, Roams mode constraints caller known (handler error)) :
    Roams mode constraints caller known (program.catchWith handler) := by
  intro phase inert
  apply Conducts.catchWith (first phase inert)
  rintro error new view ⟨shown, inertNew, holds⟩
  exact second error new inertNew view ⟨shown, holds⟩

theorem swallow {program : Service α} (roams : Roams mode constraints caller known program) :
    Roams mode constraints caller known program.swallow :=
  (roams.bind fun _ => .pure).catchWith fun _ => .pure

theorem ite {condition : Prop} [Decidable condition] {first second : Service α}
    (holds : condition → Roams mode constraints caller known first)
    (fails : ¬condition → Roams mode constraints caller known second) :
    Roams mode constraints caller known (if condition then first else second) := by
  split
  · exact holds ‹_›
  · exact fails ‹_›

theorem runIf {condition : Prop} [Decidable condition] {program : Service Unit}
    (roams : Roams mode constraints caller known program) :
    Roams mode constraints caller known (Program.runIf condition program) :=
  ite (fun _ => roams) fun _ => .pure

theorem throwIf {condition : Prop} [Decidable condition] {error : Failure} :
    Roams mode constraints caller known (Program.throwIf condition error) :=
  ite (fun _ => .throw) fun _ => .pure

theorem ofExcept {outcome : Except Failure α} :
    Roams mode constraints caller known (Program.ofExcept outcome) := by
  cases outcome with
  | ok value => exact .pure
  | error failure => exact .throw

theorem forEach {items : List β} {body : β → Service Unit}
    (each : ∀ item ∈ items, Roams mode constraints caller known (body item)) :
    Roams mode constraints caller known (Program.forEach items body) := by
  induction items with
  | nil => exact .pure
  | cons item rest ih =>
      obtain ⟨first, others⟩ := List.forall_mem_cons.mp each
      exact first.bind fun _ => ih others

theorem leaves {program : Service α}
    (leaves : ∀ phase, Leaves mode constraints caller phase known program) :
    Roams mode constraints caller known program := by
  intro phase inert
  apply Conducts.weaken (leaves phase) (fun _ holds => holds)
  · rintro value new scene ⟨rfl, holds⟩
    exact ⟨inert, holds⟩
  · rintro error new scene ⟨rfl, holds⟩
    exact ⟨inert, holds⟩

theorem quiet {post : α → Prop} {program : Service α} (quiet : Quiet post program)
    (steady : Steady mode caller known) : Roams mode constraints caller known program :=
  leaves fun _ => .quiet quiet steady

/-- What is read is known from then on. -/
theorem bind_learn {learnt : β → Scene → Prop} {program : Service β} {rest : β → Service α}
    (first : ∀ phase, Conducts mode constraints caller phase known program
      (Stays phase fun value scene => known scene ∧ learnt value scene)
      (Stays phase fun _ => known))
    (second : ∀ value, Roams mode constraints caller
      (fun scene => known scene ∧ learnt value scene) (rest value)) :
    Roams mode constraints caller known (program.bind rest) := by
  intro phase inert
  have reads : Conducts mode constraints caller phase known program
      (Stays phase fun value scene => known scene ∧ learnt value scene)
      fun _ new scene => Inert new ∧ known scene := by
    apply (first phase).weaken (fun _ holds => holds) fun _ _ _ returned => returned
    rintro error new scene ⟨rfl, holds⟩
    exact ⟨inert, holds⟩
  apply Conducts.bind_stays reads
  intro value
  apply Conducts.weaken (second value phase inert) fun _ holds => holds
  · exact fun _ _ _ ⟨inert, holds, _⟩ => ⟨inert, holds⟩
  · exact fun _ _ _ ⟨inert, holds, _⟩ => ⟨inert, holds⟩

/-- A body that takes an action, with a note that says nothing. -/
theorem execute {body : Database.Tx α} {command : Command (Except Failure α)}
    {note : Except Failure α → Option Phase} (careless : ¬mode.careful)
    (isBody : command = .transaction body ∨ command = .query body) (lasting : Lasting mode known)
    (tells : ∀ outcome phase, note outcome = some phase → Inert phase)
    (spec : ∀ before : Observation, known (sceneOf before) → Upheld mode (sceneOf before) →
      Tx.wp constraints before.shared.clock body
        (fun _ after => ∃ action, Unheld action ∧ Performs before.shared.state after action)
        (fun _ => True) before.shared.state) :
    Roams mode constraints caller known ((attempt command).noting note) := by
  intro phase inert
  have noted : ∀ outcome, Inert ((note outcome).getD phase) := by
    intro outcome
    cases noteEq : note outcome with
    | none => exact inert
    | some new => exact tells outcome new noteEq
  have steps : ∀ before : Observation, (sceneOf before).Shows caller phase →
      known (sceneOf before) → Upheld mode (sceneOf before) → ∀ outcome state action,
      Unheld action → Performs before.shared.state state action →
      Conduct.Step mode caller (sceneOf before)
        (sceneOf (before.answer caller (note outcome) { before.shared with state })) := by
    intro before shown holds upheld outcome state action unheld performs
    rw [sceneOf_answer shown]
    exact (move_inert performs unheld shown inert (noted outcome)).step upheld
      fun careful => absurd careful careless
  apply Conducts.execute isBody lasting.steady
  · intro before shown holds upheld _
    apply Tx.wp_mono (spec before holds upheld) _ fun _ _ => trivial
    rintro value state ⟨action, unheld, performs⟩ after rfl
    have step := steps before shown holds upheld (.ok value) state action unheld performs
    exact ⟨step, noted _, lasting _ _ step.preserves holds⟩
  · rintro before shown holds upheld error after rfl
    have step := steps before shown holds upheld (.error error) before.shared.state .rest trivial
      (.rest (Nat.le_refl _) rfl)
    exact ⟨step, noted _, lasting _ _ step.preserves holds⟩

/-- A body that takes an action, without a note. -/
theorem acts {body : Database.Tx α} {command : Command (Except Failure α)}
    (careless : ¬mode.careful) (isBody : command = .transaction body ∨ command = .query body)
    (lasting : Lasting mode known)
    (spec : ∀ before : Observation, known (sceneOf before) → Upheld mode (sceneOf before) →
      Tx.wp constraints before.shared.clock body
        (fun _ after => ∃ action, Unheld action ∧ Performs before.shared.state after action)
        (fun _ => True) before.shared.state) :
    Roams mode constraints caller known (attempt command : Service α) := by
  have unnoted : (attempt command).noting (fun _ => none) = (attempt command : Service α) :=
    noting_attempt command fun _ => none
  rw [← unnoted]
  exact execute careless isBody lasting nofun spec

/-- Removing an object where objects are not watched. -/
theorem deleteObject {adapter : S3ProviderAdapter} {bucketName : String} {key : PhysicalKey}
    {note : Except Failure Unit → Option Phase} (careless : ¬mode.careful)
    (dismisses : Dismisses note) (lasting : Lasting mode known) :
    Roams mode constraints caller known ((adapter.deleteObject bucketName key).noting note) := by
  intro phase inert
  have idle : ∀ outcome, Inert ((note outcome).getD phase) := by
    intro outcome
    cases noteEq : note outcome with
    | none => exact inert
    | some new => exact .inl (dismisses outcome new noteEq)
  have removes : Conducts mode constraints caller phase known
      ((adapter.deleteObject bucketName key).noting note)
      (fun _ new scene => new = (note (.ok ())).getD phase ∧ known scene ∧ True)
      (fun error new scene => new = (note (.error error)).getD phase ∧ known scene) :=
    Conducts.deleteObject dismisses lasting.steady lasting
      (fun _ _ _ _ careful => absurd careful careless) fun _ _ _ _ _ _ _ => trivial
  apply removes.weaken fun _ holds => holds
  · rintro _ new scene ⟨rfl, holds, _⟩
    exact ⟨idle _, holds⟩
  · rintro error new scene ⟨rfl, holds⟩
    exact ⟨idle _, holds⟩

/-- Starting the programs that process items. -/
theorem processItems {work : List (MigrationItem × MigrationItemState)} {retryDelayMs : Nat}
    {note : Unit → Option Phase} (careless : ¬mode.careful) (lasting : Lasting mode known)
    (tells : ∀ phase, note () = some phase → Inert phase)
    (knows : ∀ scene, known scene → ∀ entry ∈ work, ItemKnown entry.1 scene) :
    Roams mode constraints caller known
      (.perform (.processItems work retryDelayMs) note .pure) := by
  intro phase inert
  have idle : Inert ((note ()).getD phase) := by
    cases noteEq : note () with
    | none => exact inert
    | some new => exact tells new noteEq
  apply Contract.Triple.perform
  · rintro view later phaseEq relies upheld ⟨shown, holds⟩
    exact ⟨phaseEq.trans shown, lasting.steady _ _ relies upheld holds⟩
  · rintro before ⟨shown, holds⟩ upheld choice _ answer world ran
    obtain ⟨rfl, rfl⟩ := Prod.mk.inj (Option.some.inj ran)
    have noted : Conduct.Step mode caller (sceneOf before)
        (sceneOf (before.answer caller (note ()) before.shared)) := by
      rw [sceneOf_answer shown]
      exact (move_inert (.rest (Nat.le_refl _) rfl) trivial shown inert idle).step upheld
        fun careful => absurd careful careless
    have holding : ∀ phase ∈ (children (.processItems work retryDelayMs)).map Prod.fst,
        Inert phase := by
      intro phase member
      obtain ⟨child, childMem, rfl⟩ := List.mem_map.mp member
      obtain ⟨entry, _, rfl⟩ := List.mem_map.mp childMem
      exact .inr ⟨_, rfl⟩
    have forked := step_append holding noted.upheld caller
    have later := lasting _ _ forked.preserves (lasting _ _ noted.preserves holds)
    refine ⟨forked.upheld, ?_, ?_, ?_⟩
    · exact fun other apart => (noted.relies other apart).trans (forked.relies other apart)
    · intro index child found
      obtain ⟨entry, entryAt, rfl⟩ :=
        Option.map_eq_some_iff.mp (List.getElem?_map.symm.trans found)
      refine ⟨careless, entry.1, entry.2, retryDelayMs, rfl, ?_, ?_⟩
      · exact knows _ later entry (List.mem_of_getElem? entryAt)
      · exact shows_forked _ (before.answer_length caller _ _) index
          (by rw [List.getElem?_map, found]; rfl)
    · exact ⟨_, shows_append _ (shows_answer shown _ _), idle, later⟩

/-- Waiting for the programs that were started. -/
theorem settled (lasting : Lasting mode known) :
    Roams mode constraints caller known (attempt .settled) := by
  apply leaves
  intro phase
  apply Conducts.perform lasting.steady rfl
  intro before shown holds upheld _ choice answer world ran
  obtain ⟨rfl, rfl⟩ := Prod.mk.inj ran
  refine ⟨(Calm.refl upheld).toStep, known, holds, ?_⟩
  exact Leaves.ofExcept

end Roams

section

variable {mode : Mode} {constraints : Db → Option Failure} {caller : Nat} {known : Scene → Prop}

/-- What a body that works on an item does under the contract. -/
theorem unheld_of_works {before after : State Db}
    (performs : ∃ action, Works action ∧ Performs before after action) :
    ∃ action, Unheld action ∧ Performs before after action := by
  obtain ⟨action, works, performs⟩ := performs
  refine ⟨action, ?_, performs⟩
  rcases works with rfl | ⟨_, rfl⟩ <;> trivial

/-! ## The pass -/

open MigrationReconciliationService

theorem roams_claim {held : List Id} {id organizationId : Id} {previousState : MigrationItemState}
    (careless : ¬mode.careful) (lasting : Lasting mode known) :
    Roams mode constraints caller known (claim held id organizationId previousState) := by
  apply Roams.bind
  · apply Roams.execute careless (.inr rfl) lasting
    · intro outcome phase noted
      split at noted
      · split at noted
        · exact Option.some.inj noted ▸ .inr ⟨_, rfl⟩
        · contradiction
      · contradiction
    · intro before _ _
      exact Tx.wp_mono wp_claimStatement (fun _ _ => unheld_of_works) fun _ _ => trivial
  · exact fun _ => .pure

theorem quiet_providerKeysForItem {item : MigrationItem} :
    Quiet (fun _ => True) (providerKeysForItem item) := by
  apply Quiet.bind (.query .findMany)
  exact fun _ _ => .pure trivial

/-- Claiming items, and working through them as long as they are known. -/
theorem roams_claimItems {items : List MigrationItem} {claimedItems : List ClaimedItem}
    {rest : List ClaimedItem → Service Unit} (careless : ¬mode.careful)
    (lasting : Lasting mode known)
    (claimed : ∀ work ∈ claimedItems, ∀ scene, known scene → ItemKnown work.item scene)
    (knows : ∀ item ∈ items, ∀ scene, known scene → ItemKnown item scene)
    (continues : ∀ claimedItems : List ClaimedItem,
      (∀ work ∈ claimedItems, ∀ scene, known scene → ItemKnown work.item scene) →
      Roams mode constraints caller known (rest claimedItems)) :
    Roams mode constraints caller known ((claimItems claimedItems items).bind rest) := by
  induction items generalizing claimedItems with
  | nil => exact continues claimedItems claimed
  | cons item others ih =>
      obtain ⟨itemKnown, othersKnown⟩ := List.forall_mem_cons.mp knows
      simp only [claimItems, Program.bind_eq, Program.bind_assoc]
      apply Roams.bind (roams_claim careless lasting)
      intro changed
      split
      · rw [Program.bind_assoc]
        apply Roams.bind (.quiet quiet_providerKeysForItem lasting.steady)
        intro providerKeys
        apply ih _ othersKnown
        intro work member
        rcases List.mem_append.mp member with old | new
        · exact claimed work old
        · rw [List.mem_singleton.mp new]
          exact itemKnown
      · exact ih claimed othersKnown

/-- Every item that a schedule chooses or defers was pending. -/
theorem mem_schedule {maxConcurrentPerProvider : Nat} {selected pending : List ClaimedItem}
    {work : ClaimedItem}
    (member : work ∈ (schedule maxConcurrentPerProvider selected pending).1 ∨
      work ∈ (schedule maxConcurrentPerProvider selected pending).2) :
    work ∈ selected ∨ work ∈ pending := by
  induction pending generalizing selected with
  | nil => simpa [schedule] using member
  | cons first rest ih =>
      unfold schedule at member
      split at member
      · rcases member with chosen | deferred
        · exact (ih (.inl chosen)).imp_right (List.mem_cons_of_mem _)
        · rcases List.mem_cons.mp deferred with rfl | deferred
          · exact .inr (List.mem_cons_self ..)
          · exact (ih (.inr deferred)).imp_right (List.mem_cons_of_mem _)
      · rcases ih member with old | new
        · rcases List.mem_append.mp old with old | new
          · exact .inl old
          · exact .inr (List.mem_singleton.mp new ▸ List.mem_cons_self ..)
        · exact .inr (List.mem_cons_of_mem _ new)

theorem roams_runRounds {maxConcurrentPerProvider retryDelayMs rounds : Nat}
    {pending : List ClaimedItem} (careless : ¬mode.careful) (lasting : Lasting mode known)
    (knows : ∀ work ∈ pending, ∀ scene, known scene → ItemKnown work.item scene) :
    Roams mode constraints caller known
      (runRounds maxConcurrentPerProvider retryDelayMs rounds pending) := by
  induction rounds generalizing pending with
  | zero => exact .pure
  | succ rounds ih =>
      unfold runRounds
      apply Roams.ite (fun _ => .pure) fun _ => ?_
      simp only [Program.bind_eq]
      apply Roams.bind
      · apply Roams.processItems careless lasting
        · exact fun _ noted => .inr ⟨_, (Option.some.inj noted).symm⟩
        · intro scene holds entry member
          obtain ⟨work, workMem, rfl⟩ := List.mem_map.mp member
          rcases mem_schedule (.inl workMem) with none_ | pending_
          · contradiction
          · exact knows work pending_ scene holds
      · intro _
        apply Roams.bind (.settled lasting)
        intro _
        apply ih
        intro work member
        rcases mem_schedule (.inr member) with none_ | pending_
        · contradiction
        · exact knows work pending_

/-! ## One item -/

theorem quiet_copyItem {item : MigrationItem} : Quiet (fun _ => True) (copyItem item) := by
  unfold copyItem
  apply Quiet.bind (.query .findFirst)
  intro sourceBucket _
  apply Quiet.bind (.query .findFirst)
  intro targetBucket _
  split
  · apply Quiet.bind quiet_workerAdapterFor
    intro sourceAdapter _
    apply Quiet.bind quiet_workerAdapterFor
    intro targetAdapter _
    apply Quiet.bind (.call (harmless_of_same fun _ _ _ => rfl))
    intro metadata _
    apply Quiet.bind (.ofExcept fun _ _ => trivial)
    intro _ _
    apply Quiet.bind (.ofExcept fun _ _ => trivial)
    intro contentLengthBytes _
    apply Quiet.bind (.call harmless_put)
    exact fun _ _ => .pure trivial
  · exact .throw

theorem roams_markFailed {item : MigrationItem} {previousState : MigrationItemState}
    {error : Failure} {retryDelayMs : Nat} (careless : ¬mode.careful) (lasting : Lasting mode known) :
    Roams mode constraints caller known (markFailed item previousState error retryDelayMs) := by
  apply Roams.bind (.quiet .currentTime lasting.steady)
  intro now
  apply Roams.execute careless (.inl rfl) lasting
  · exact fun _ _ noted => .inl (Option.some.inj noted).symm
  · intro before _ _
    exact Tx.wp_mono wp_markFailedTransaction (fun _ _ => unheld_of_works) fun _ _ => trivial

theorem roams_switchLocation {item : MigrationItem} {wasPreviouslyFailed : Bool}
    (careless : ¬mode.careful) (lasting : Lasting mode known)
    (knows : ∀ scene, known scene → ItemKnown item scene) :
    Roams mode constraints caller known (switchLocation item wasPreviouslyFailed) := by
  apply Roams.execute careless (.inl rfl) lasting
  · intro outcome phase noted
    split at noted
    · exact Option.some.inj noted ▸ .inl rfl
    · contradiction
  · intro before holds upheld
    apply Tx.wp_mono (wp_switchTransaction upheld.consistent (knows _ holds)) _ fun _ _ => trivial
    intro switched after outcome
    cases outcome with
    | stays works performs => exact unheld_of_works ⟨_, works, performs⟩
    | moves row sameId performs =>
        refine ⟨_, ?_, performs⟩
        trivial

/-- Removing the copy, with a note that says nothing or without one. -/
theorem roams_deleteObject {adapter : S3ProviderAdapter} {bucketName : String} {key : PhysicalKey}
    (careless : ¬mode.careful) (lasting : Lasting mode known) :
    Roams mode constraints caller known (adapter.deleteObject bucketName key) := by
  have unnoted : (adapter.deleteObject bucketName key).noting (fun _ => none) =
      adapter.deleteObject bucketName key := noting_attempt _ fun _ => none
  rw [← unnoted]
  exact .deleteObject careless nofun lasting

theorem roams_verifyAndSwitch {item : MigrationItem} {previousState : MigrationItemState}
    {source target : Endpoint} {metadata : ProviderObjectMetadata}
    (careless : ¬mode.careful) (lasting : Lasting mode known)
    (knows : ∀ scene, known scene → ItemKnown item scene) :
    Roams mode constraints caller known
      (verifyAndSwitch item previousState source target metadata) := by
  apply Roams.bind (.quiet (.call (harmless_of_same fun _ _ _ => rfl)) lasting.steady)
  intro sourceAfterCopy
  apply Roams.bind .ofExcept
  intro _
  apply Roams.bind (.quiet (.call (harmless_of_same fun _ _ _ => rfl)) lasting.steady)
  intro destination
  apply Roams.bind .throwIf
  intro _
  apply Roams.bind .throwIf
  intro _
  apply Roams.bind (roams_switchLocation careless lasting knows)
  intro switched
  apply Roams.runIf
  apply Roams.swallow
  exact .deleteObject careless (fun _ _ noted => (Option.some.inj noted).symm) lasting

theorem roams_processItem {item : MigrationItem} {previousState : MigrationItemState}
    {retryDelayMs : Nat} (careless : ¬mode.careful) (lasting : Lasting mode known)
    (knows : ∀ scene, known scene → ItemKnown item scene) :
    Roams mode constraints caller known (processItem item previousState retryDelayMs) := by
  apply Roams.bind
  · apply Roams.catchWith
    · apply Roams.bind (.quiet quiet_copyItem lasting.steady)
      exact fun _ => .pure
    · intro error
      apply Roams.bind (roams_markFailed careless lasting)
      exact fun _ => .pure
  · intro copied
    split
    · exact .pure
    · apply Roams.catchWith (roams_verifyAndSwitch careless lasting knows)
      intro error
      apply Roams.bind (roams_deleteObject careless lasting).swallow
      exact fun _ => roams_markFailed careless lasting

/-! ## Cancelled and finished runs -/

theorem roams_reconcileCancelledItem {item : MigrationItem} (careless : ¬mode.careful)
    (lasting : Lasting mode known) :
    Roams mode constraints caller known (reconcileCancelledItem item) := by
  apply Roams.swallow
  apply Roams.bind (.quiet (.query .findFirst) lasting.steady)
  intro bucket
  apply Roams.bind
  · cases bucket with
    | none => exact .pure
    | some bucket =>
        apply Roams.bind (.quiet quiet_workerAdapterFor lasting.steady)
        exact fun adapter => roams_deleteObject careless lasting
  · intro _
    apply Roams.acts careless (.inl rfl) lasting
    intro before _ _
    exact Tx.wp_mono wp_cancelTransaction (fun _ _ => unheld_of_works) fun _ _ => trivial

theorem roams_reconcileCancelledItems {batchSize : Nat} (careless : ¬mode.careful)
    (lasting : Lasting mode known) :
    Roams mode constraints caller known (reconcileCancelledItems batchSize) := by
  apply Roams.bind (.quiet (.query .read_any) lasting.steady)
  intro items
  apply Roams.forEach
  exact fun item _ => roams_reconcileCancelledItem careless lasting

/-- Updating runs changes nothing of the catalog. -/
theorem roams_updateRuns {condition : MigrationRun → Bool} {data : MigrationRun → MigrationRun}
    (careless : ¬mode.careful) (lasting : Lasting mode known) :
    Roams mode constraints caller known (query (migrationRun.updateMany condition data)) := by
  apply Roams.acts careless (.inr rfl) lasting
  intro before _ _
  exact Tx.wp_mono wp_updateRuns (fun _ _ rest => ⟨.rest, trivial, rest⟩) fun _ _ => trivial

theorem roams_completeRun {run : MigrationRun} (careless : ¬mode.careful)
    (lasting : Lasting mode known) : Roams mode constraints caller known (completeRun run) := by
  apply Roams.ite (fun _ => .pure) fun _ => ?_
  apply Roams.bind (.quiet .currentTime lasting.steady)
  intro completedAt
  apply Roams.bind (roams_updateRuns careless lasting)
  exact fun _ => .pure

theorem roams_completeEmptyRuns (careless : ¬mode.careful) (lasting : Lasting mode known) :
    Roams mode constraints caller known completeEmptyRuns := by
  apply Roams.bind (.quiet .currentTime lasting.steady)
  intro completedAt
  apply Roams.bind (roams_updateRuns careless lasting)
  intro _
  apply Roams.bind (.quiet (.query .findMany) lasting.steady)
  intro runs
  apply Roams.forEach
  exact fun run _ => roams_completeRun careless lasting

/-- The pass of the worker over the migrations. -/
theorem roams_reconcile {options : MigrationReconciliationOptions} (careless : ¬mode.careful)
    (lasting : Lasting mode known) :
    Roams mode constraints caller known (reconcile options) := by
  unfold reconcile
  simp only [Program.bind_eq]
  apply Roams.bind
  · cases options.now with
    | none => exact .quiet .currentTime lasting.steady
    | some now => exact .pure
  intro now
  apply Roams.bind .ofExcept
  intro batchSize
  apply Roams.bind .ofExcept
  intro maxConcurrentPerProvider
  apply Roams.bind .ofExcept
  intro retryDelayMs
  have finds : ∀ phase, Conducts mode constraints caller phase known
      (query (findItems now batchSize))
      (Stays phase fun items scene => known scene ∧ ∀ item ∈ items, ItemKnown item scene)
      (Stays phase fun _ => known) := by
    intro phase
    apply Conducts.reads (.inr rfl) lasting.steady
    intro before _ _ _ _
    refine ⟨rfl, fun item member => ⟨item, ?_, rfl⟩⟩
    exact (mem_select.mp (List.mem_of_mem_take member)).1
  apply Roams.bind_learn finds
  intro items
  have lasting' : Lasting mode fun scene => known scene ∧ ∀ item ∈ items, ItemKnown item scene :=
    lasting.and (lasting_all (lasting_item mode))
  apply roams_claimItems careless lasting'
  · exact fun _ member => absurd member List.not_mem_nil
  · exact fun item member _ holds => holds.2 item member
  · intro claimedItems knows
    apply Roams.bind (roams_runRounds careless lasting' knows)
    intro _
    apply Roams.bind (roams_reconcileCancelledItems careless lasting')
    exact fun _ => roams_completeEmptyRuns careless lasting'

/-! ## Creating and controlling runs -/

/-- The locations that a run starts from. -/
def SourcesKnown (objects : List (ObjectRecord × Option ObjectLocation)) (scene : Scene) : Prop :=
  ∀ entry ∈ objects, ∀ location ∈ entry.2, LocationKnown location scene

theorem lasting_sources (mode : Mode) (objects : List (ObjectRecord × Option ObjectLocation)) :
    Lasting mode (SourcesKnown objects) :=
  lasting_all fun entry => by
    intro before after preserves holds location member
    exact preserves.toPersists.locationKnown (holds location member)

theorem conducts_findObjects {organizationId : Id} {input : MigrationCreateRequest} {phase : Phase}
    (steady : Steady mode caller known) :
    Conducts mode constraints caller phase known
      (query (MigrationService.findObjects organizationId input))
      (Stays phase fun objects scene => known scene ∧ SourcesKnown objects scene)
      (Stays phase fun _ => known) := by
  apply Conducts.reads (.inr rfl) steady
  intro before _ _ _ _
  simp only [MigrationService.findObjects, Program.bind_eq, Program.pure_eq, Tx.wp_bind,
    Tx.wp_read, Tx.wp_pure]
  apply wp_findMany
  intro locations selected
  refine ⟨rfl, fun entry member location isLocation => ?_⟩
  obtain ⟨record, _, rfl⟩ := List.mem_map.mp member
  have found := List.mem_of_find?_eq_some isLocation
  exact ⟨location, (selected location found).1, rfl⟩

theorem leaves_createMigration {organizationId : Id} {input : MigrationCreateRequest}
    {metadata : MigrationActionMetadata} {phase : Phase} (lasting : Lasting mode known) :
    Leaves mode constraints caller phase known
      (MigrationService.create organizationId input metadata) := by
  apply Leaves.bind .throwIf
  intro _
  apply Leaves.bind (.quiet (.query .findFirst) lasting.steady)
  intro found
  apply Leaves.bind (.quiet (.query .read_any) lasting.steady)
  intro source
  apply Leaves.bind (.quiet (.query .read_any) lasting.steady)
  intro target
  apply Leaves.bind (.quiet (.query .findFirst) lasting.steady)
  intro activeRun
  apply Leaves.bind .throwIf
  intro _
  apply Leaves.bind .throwIf
  intro _
  apply Conducts.bind_stays (conducts_findObjects lasting.steady)
  intro objects
  have lasting' : Lasting mode fun scene => known scene ∧ SourcesKnown objects scene :=
    lasting.and (lasting_sources mode objects)
  apply Leaves.less _ fun _ holds => holds.1
  apply Leaves.bind .throwIf
  intro _
  apply Conducts.bind_sure (Conducts.randomUUID lasting'.steady)
  intro migrationId
  apply Conducts.plain (.inl rfl) lasting'.steady
  intro before holds upheld
  have sources : ∀ entry ∈ objects, ∀ location ∈ entry.2,
      ∃ row ∈ before.shared.db.objectLocation, row.id = location.id := by
    intro entry member location isLocation
    obtain ⟨row, rowMem, terms⟩ := holds.2 entry member location isLocation
    exact ⟨row, rowMem, (congrArg ObjectLocation.id terms :)⟩
  apply Tx.wp_mono (wp_createTransaction upheld.consistent sources) _ fun _ _ => trivial
  rintro _ after ⟨rows, performs⟩
  refine ⟨_, fun action member => ?_, performs⟩
  obtain ⟨row, _, rfl⟩ := List.mem_map.mp member
  exact .schedule

theorem leaves_control {organizationId migrationId : Id} {action : MigrationAction}
    {metadata : MigrationActionMetadata} {phase : Phase} (lasting : Lasting mode known) :
    Leaves mode constraints caller phase known
      (MigrationService.control organizationId migrationId action metadata) := by
  apply Leaves.bind (.quiet (.query .findFirst) lasting.steady)
  intro current
  cases current with
  | none => exact .throw
  | some current =>
      apply Leaves.ite
      · intro _
        apply Conducts.plainOne (.inl rfl) lasting.steady
        intro before _ _
        exact Tx.wp_mono wp_controlTransaction (fun _ _ rest => ⟨_, .rest, rest⟩) fun _ _ => trivial
      · exact fun _ => .throw

end

end Mosp.Conduct
