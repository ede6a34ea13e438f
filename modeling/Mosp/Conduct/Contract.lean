import Mosp.Conduct.Progress
import Mosp.Index.Lookups

/-!
# The contract of the services

Between its own steps a call relies on what it has read and, where objects are
watched, on the object under its own key and on a record that nobody will
publish again at a location whose object is to be removed.
-/

namespace Mosp.Conduct

open Mosp.Concurrency Mosp.Data Mosp.Database Mosp.Index Mosp.Services Mosp.Worker
open Mosp.System hiding Action

/-- What no step does to a record whose object may be gone: it does not make it
available again, unless a call had claimed it. -/
structure Spares (before after : Scene) : Prop where
  restored : ∀ record ∈ after.catalog.records, record.state = .available →
    ∀ location ∈ before.catalog.locations, record.activeObjectLocationId = some location.id →
      ∃ old ∈ before.catalog.records, old.id = record.id ∧
        old.activeObjectLocationId = some location.id ∧
        (old.state = .available ∨ ∃ i, before.Shows i (.deleting old.id location.id))
  claimed : ∀ i recordId locationId, after.Shows i (.deleting recordId locationId) →
    (∃ j, before.Shows j (.deleting recordId locationId)) ∨
      (∃ old ∈ before.catalog.records, old.id = recordId ∧ old.state = .available ∧
        old.activeObjectLocationId = some locationId) ∨
      ∀ location ∈ before.catalog.locations, location.id ≠ locationId

namespace Spares

theorem refl (scene : Scene) : Spares scene scene where
  restored record member available _ _ pointer := ⟨record, member, rfl, pointer, .inl available⟩
  claimed i _ _ shown := .inl ⟨i, shown⟩

theorem trans {first second third : Scene} (persists : Persists first second)
    (early : Spares first second) (late : Spares second third) : Spares first third where
  restored record member available location locationMem pointer := by
    obtain ⟨middle, middleMem, terms⟩ := persists.location location locationMem
    have sameId : middle.id = location.id := (congrArg ObjectLocation.id terms :)
    obtain ⟨was, wasMem, wasId, wasPointer, wasState⟩ :=
      late.restored record member available middle middleMem
        (pointer.trans (congrArg some sameId.symm))
    rw [sameId] at wasPointer wasState
    rcases wasState with wasAvailable | ⟨i, shown⟩
    · obtain ⟨old, oldMem, oldId, rest⟩ :=
        early.restored was wasMem wasAvailable location locationMem wasPointer
      exact ⟨old, oldMem, oldId.trans wasId, rest⟩
    · obtain ⟨old, oldMem, oldId, oldPointer, _⟩ :=
        persists.pointer was wasMem location locationMem wasPointer
      refine ⟨old, oldMem, oldId.trans wasId, oldPointer, ?_⟩
      rcases early.claimed i was.id location.id shown with
        ⟨j, before⟩ | ⟨row, rowMem, rowId, open_, _⟩ | new
      · exact .inr ⟨j, oldId ▸ before⟩
      · rw [← Table.eq_of_id_eq rowMem oldMem (rowId.trans oldId.symm)]
        exact .inl open_
      · exact absurd rfl (new location locationMem)
  claimed i recordId locationId shown := by
    have gone : (∀ location ∈ second.catalog.locations, location.id ≠ locationId) →
        ∀ location ∈ first.catalog.locations, location.id ≠ locationId := by
      intro new location member sameId
      obtain ⟨kept, keptMem, terms⟩ := persists.location location member
      exact new kept keptMem ((congrArg ObjectLocation.id terms :).trans sameId)
    rcases late.claimed i recordId locationId shown with ⟨j, was⟩ | ⟨was, wasMem, wasId, open_, pointer⟩ | new
    · exact early.claimed j recordId locationId was
    · by_cases existed : ∃ location ∈ first.catalog.locations, location.id = locationId
      · obtain ⟨location, locationMem, rfl⟩ := existed
        obtain ⟨old, oldMem, oldId, oldPointer, oldState⟩ :=
          early.restored was wasMem open_ location locationMem pointer
        rcases oldState with available | ⟨j, shown⟩
        · exact .inr (.inl ⟨old, oldMem, oldId.trans wasId, available, oldPointer⟩)
        · rw [oldId, wasId] at shown
          exact .inl ⟨j, shown⟩
      · exact .inr (.inr fun location member sameId => existed ⟨location, member, sameId⟩)
    · exact .inr (.inr (gone new))

end Spares

theorem Respects.spares {mode : Mode} {before after : Scene} {caller : Nat} {action : Action}
    {old new : Phase} (respects : Respects mode before after action old new)
    (move : Move caller before after action old new) (custody : Custody mode before) :
    Spares before after where
  restored record member available location locationMem pointer := by
    rw [move.catalog] at member
    rcases Action.available_origin move.enabled respects.migrates member available with
      inTable | ⟨publication, publishes, rfl⟩ | reverts
    · exact ⟨record, inTable, rfl, pointer, .inl available⟩
    · have ready := publishes.ready move.enabled
      rw [ready.pointer, Option.some.injEq] at pointer
      exact absurd pointer.symm (ready.freshLocation location locationMem)
    · obtain ⟨⟨locationId, oldEq⟩, _⟩ := respects.reverts record reverts
      have shown : before.Shows caller (.deleting record.id locationId) := oldEq ▸ move.own
      obtain ⟨_, was, wasMem, wasId, _, wasPointer, _⟩ := custody.claimed caller _ _ shown
      rw [reverts] at move
      obtain ⟨row, rowMem, _, recordEq⟩ := move.enabled
      have same : was = row :=
        Table.eq_of_id_eq wasMem rowMem (wasId.trans (congrArg ObjectRecord.id recordEq :))
      have samePointer : record.activeObjectLocationId = row.activeObjectLocationId :=
        (congrArg ObjectRecord.activeObjectLocationId recordEq :)
      have wasAt : was.activeObjectLocationId = some location.id := by
        rw [same, ← samePointer]
        exact pointer
      refine ⟨was, wasMem, wasId, wasAt, .inr ⟨caller, ?_⟩⟩
      rw [wasPointer, Option.some.injEq] at wasAt
      rw [wasId, ← wasAt]
      exact shown
  claimed i recordId locationId shown := by
    by_cases ofCaller : i = caller
    · subst ofCaller
      rcases respects.claims recordId locationId (move.shows_caller.mp shown) with
        same | ⟨_, record, rfl, sameId, pointer⟩
      · have own := move.own
        rw [same, move.shows_caller.mp shown] at own
        exact .inl ⟨i, own⟩
      · obtain ⟨was, wasMem, available, recordEq⟩ := move.enabled
        exact .inr (.inl ⟨was, wasMem, (congrArg ObjectRecord.id recordEq :).symm.trans sameId,
          available, (congrArg ObjectRecord.activeObjectLocationId recordEq :).symm.trans pointer⟩)
    · exact .inl ⟨i, (move.shows_other ofCaller).mp shown⟩

theorem Removes.spares {before after : Scene} {caller : Nat} {key : Option PhysicalKey}
    (removes : Removes before after caller key) : Spares before after where
  restored record member available _ _ pointer :=
    ⟨record, removes.catalog ▸ member, rfl, pointer, .inl available⟩
  claimed i _ _ shown := .inl ⟨i, removes.toSettles.shown shown (by simp [Inert])⟩

/-- What the others leave to a call: its phase and the object under its own key. -/
structure Keeps (caller : Nat) (before after : Scene) : Prop where
  own : ∀ phase, before.Shows caller phase → after.Shows caller phase
  object : ∀ phase key, before.Shows caller phase → keyOf phase = some key →
    ∀ address : Address, address.physicalKey = key → before.objects.Holds address →
      after.objects.Holds address

theorem Keeps.trans {caller : Nat} {first second third : Scene} (early : Keeps caller first second)
    (late : Keeps caller second third) : Keeps caller first third where
  own phase shown := late.own phase (early.own phase shown)
  object phase key shown own address sameKey holds :=
    late.object phase key (early.own phase shown) own address sameKey
      (early.object phase key shown own address sameKey holds)

theorem Respects.keeps {mode : Mode} {before after : Scene} {caller other : Nat} {action : Action}
    {old new : Phase} (respects : Respects mode before after action old new)
    (move : Move caller before after action old new) (apart : other ≠ caller) :
    Keeps other before after where
  own _ shown := (move.shows_other apart).mpr shown
  object _ _ _ _ address _ holds := respects.objects address holds

theorem Removes.keeps {before after : Scene} {caller other : Nat} {key : Option PhysicalKey}
    (removes : Removes before after caller key) (apart : other ≠ caller)
    (own : ∀ phase, before.Shows other phase → after.Shows other phase) :
    Keeps other before after where
  own := own
  object phase drawn shown drew address sameKey holds := by
    apply removes.objects address holds
    rintro rfl
    rcases removes.own other phase apart shown with none_ | differs
    · rw [none_] at drew
      contradiction
    · exact differs (sameKey ▸ drew)

/-- A location that no available record will be at any more. -/
structure Doomed (location : ObjectLocation) (scene : Scene) : Prop where
  located : LocationKnown location scene
  unavailable : ∀ record ∈ scene.catalog.records,
    record.activeObjectLocationId = some location.id → record.state ≠ .available
  unclaimed : ∀ i recordId, ¬scene.Shows i (.deleting recordId location.id)

theorem Spares.doomed {before after : Scene} {location : ObjectLocation}
    (persists : Persists before after) (spares : Spares before after)
    (doomed : Doomed location before) : Doomed location after := by
  obtain ⟨row, rowMem, terms⟩ := doomed.located
  have sameId : row.id = location.id := (congrArg ObjectLocation.id terms :)
  constructor
  · exact persists.locationKnown doomed.located
  · intro record member pointer available
    obtain ⟨old, oldMem, _, oldPointer, state⟩ :=
      spares.restored record member available row rowMem (pointer.trans (congrArg some sameId.symm))
    rw [sameId] at oldPointer state
    rcases state with wasAvailable | ⟨i, shown⟩
    · exact doomed.unavailable old oldMem oldPointer wasAvailable
    · exact doomed.unclaimed i old.id shown
  · intro i recordId shown
    rcases spares.claimed i recordId location.id shown with
      ⟨j, was⟩ | ⟨old, oldMem, _, available, oldPointer⟩ | fresh
    · exact doomed.unclaimed j recordId was
    · exact doomed.unavailable old oldMem oldPointer available
    · exact fresh row rowMem sameId

/-! ## The contract -/

/-- What holds between two steps. -/
structure Upheld (mode : Mode) (scene : Scene) : Prop extends Sound mode scene where
  custody : mode.careful → Custody mode scene

/-- What every step leaves as it is. -/
structure Preserves (mode : Mode) (before after : Scene) : Prop
    extends Persists before after, Progresses before after where
  spares : mode.careful → Spares before after

/-- What a call relies on. -/
structure Relies (mode : Mode) (caller : Nat) (before after : Scene) : Prop
    extends Preserves mode before after where
  keeps : mode.careful → Keeps caller before after

/-- The session whose upload a command gives up. -/
def givenUp {β : Type} : Command β → Option Id
  | .provider (.deleteObject _ uploadId) => uploadId
  | _ => none

/-- An upload may be given up while its session is stored and not completed, and no
call has verified its object. -/
def MayGiveUp (view : Observation) (uploadId : Id) : Prop :=
  (∃ session ∈ view.shared.db.uploadSession, session.id = uploadId ∧
    session.state ≠ .completed) ∧
  ∀ i : Nat, view.phases[i]? ≠ some (.verified uploadId)

/-- A worker may take up records that no call has claimed. -/
def MayTakeUp (view : Observation) (batchSize : Nat) : Prop :=
  ∀ record ∈ takenUp batchSize view.shared.db, ∀ (i : Nat) locationId,
    view.phases[i]? ≠ some (.deleting record.id locationId)

/-- When a command may run in a system whose objects are watched. -/
structure Considerate (mode : Mode) {β : Type} (command : Command β) (view : Observation) :
    Prop where
  givesUp : ∀ uploadId, givenUp command = some uploadId → MayGiveUp view uploadId
  takesUp : mode.deletes → ∀ batchSize,
    (⟨β, command⟩ : Sigma Command) =
      ⟨_, .query (UploadReconciliationService.findDeleting batchSize)⟩ → MayTakeUp view batchSize

/-- One step of a call. -/
structure Step (mode : Mode) (caller : Nat) (before after : Scene) : Prop where
  upheld : Upheld mode after
  preserves : Preserves mode before after
  relies : ∀ other, other ≠ caller → Relies mode other before after

theorem Move.step {mode : Mode} {before after : Scene} {caller : Nat} {action : Action}
    {old new : Phase} (move : Move caller before after action old new)
    (upheld : Upheld mode before)
    (respects : mode.careful → Respects mode before after action old new) :
    Step mode caller before after := by
  have preserves : Preserves mode before after :=
    ⟨move.persists, move.progresses,
      fun careful => (respects careful).spares move (upheld.custody careful)⟩
  constructor
  · exact ⟨move.sound upheld.toSound, fun careful =>
      (respects careful).custody move upheld.consistent (upheld.custody careful)⟩
  · exact preserves
  · exact fun other apart => ⟨preserves, fun careful => (respects careful).keeps move apart⟩

theorem Settles.step {mode : Mode} {before after : Scene} {caller : Nat}
    (settles : Settles before after) (upheld : Upheld mode before)
    (removes : mode.careful → ∃ key, Removes before after caller key)
    (own : ∀ other, other ≠ caller → ∀ phase, before.Shows other phase → after.Shows other phase) :
    Step mode caller before after := by
  have preserves : Preserves mode before after := by
    refine ⟨settles.persists, settles.progresses, fun careful => ?_⟩
    obtain ⟨_, removes⟩ := removes careful
    exact removes.spares
  constructor
  · refine ⟨settles.sound upheld.toSound, fun careful => ?_⟩
    obtain ⟨_, removes⟩ := removes careful
    exact removes.custody (upheld.custody careful)
  · exact preserves
  · intro other apart
    refine ⟨preserves, fun careful => ?_⟩
    obtain ⟨_, removes⟩ := removes careful
    exact removes.keeps apart (own other apart)

theorem Preserves.refl (mode : Mode) (scene : Scene) : Preserves mode scene scene :=
  ⟨.refl scene, .refl scene, fun _ => .refl scene⟩

theorem Preserves.trans {mode : Mode} {first second third : Scene}
    (early : Preserves mode first second) (late : Preserves mode second third) :
    Preserves mode first third :=
  ⟨early.toPersists.trans late.toPersists, early.toProgresses.trans late.toProgresses,
    fun careful => (early.spares careful).trans early.toPersists (late.spares careful)⟩

theorem Relies.refl (mode : Mode) (caller : Nat) (scene : Scene) :
    Relies mode caller scene scene :=
  ⟨.refl mode scene, fun _ => ⟨fun _ shown => shown, fun _ _ _ _ _ _ holds => holds⟩⟩

theorem Relies.trans {mode : Mode} {caller : Nat} {first second third : Scene}
    (early : Relies mode caller first second) (late : Relies mode caller second third) :
    Relies mode caller first third :=
  ⟨early.toPreserves.trans late.toPreserves,
    fun careful => (early.keeps careful).trans (late.keeps careful)⟩

theorem Inert.heldBy {phase : Phase} (inert : Inert phase) (organizationId namespaceId : Id) :
    heldBy phase organizationId namespaceId = 0 := by
  rcases inert with rfl | ⟨_, rfl⟩
  · rfl
  · rfl

theorem held_inert {phases : List Phase} (inert : ∀ phase ∈ phases, Inert phase)
    (organizationId namespaceId : Id) : held phases organizationId namespaceId = 0 := by
  apply List.sum_eq_zero
  intro value member
  obtain ⟨phase, phaseMem, rfl⟩ := List.mem_map.mp member
  exact (inert phase phaseMem).heldBy organizationId namespaceId

/-- Phases that say nothing may be added. -/
theorem settles_append (scene : Scene) {phases : List Phase}
    (inert : ∀ phase ∈ phases, Inert phase) :
    Settles scene { scene with phases := scene.phases ++ phases } where
  catalog := rfl
  later := Nat.le_refl _
  others i phase shown := by
    simp only [Scene.Shows, List.getElem?_append] at shown
    split at shown
    · exact .inl shown
    · exact .inr (inert phase (List.mem_of_getElem? shown))
  held organizationId namespaceId := by
    rw [held_append, held_inert inert, Int.add_zero]

theorem shows_append {scene : Scene} (phases : List Phase) {i : Nat} {phase : Phase}
    (shown : scene.Shows i phase) :
    ({ scene with phases := scene.phases ++ phases } : Scene).Shows i phase := by
  simp only [Scene.Shows, List.getElem?_append]
  rw [if_pos (List.getElem?_eq_some_iff.mp shown).1]
  exact shown

theorem step_append {mode : Mode} {scene : Scene} {phases : List Phase}
    (inert : ∀ phase ∈ phases, Inert phase) (upheld : Upheld mode scene) (caller : Nat) :
    Step mode caller scene { scene with phases := scene.phases ++ phases } := by
  have settles := settles_append scene inert
  apply settles.step upheld
  · exact fun _ => ⟨none, settles.removes fun _ holds => holds⟩
  · exact fun _ _ _ shown => shows_append phases shown

/-- What the program of a started call is, and what it knows. -/
def Forked (mode : Mode) (child : Nat) (program : Service Unit) (view : Observation) : Prop :=
  ¬mode.careful ∧ ∃ item previousState retryDelayMs,
    program = MigrationReconciliationService.processItem item previousState retryDelayMs ∧
      ItemKnown item (sceneOf view) ∧ (sceneOf view).Shows child (.holding [item.id])

def contract (mode : Mode) : Contract Command Phase Failure World Choice where
  Inv view := Upheld mode (sceneOf view)
  Rely caller before after := Relies mode caller (sceneOf before) (sceneOf after)
  Allowed _ _ command _ view := mode.careful → Considerate mode command view
  Forked := Forked mode
  rely_refl caller view := .refl mode caller (sceneOf view)
  rely_trans := .trans
  inv_idle {view} upheld := (step_append (by simp [Inert, default]) upheld view.phases.length).upheld
  rely_idle caller view := by
    have settles := settles_append (sceneOf view)
      (show ∀ phase ∈ [default], Inert phase by simp [Inert, default])
    have removes : Removes (sceneOf view) (sceneOf (view.fork [default])) (caller + 1) none :=
      settles.removes fun _ holds => holds
    refine ⟨⟨settles.persists, settles.progresses, fun _ => removes.spares⟩, fun _ => ?_⟩
    exact removes.keeps (Nat.succ_ne_self caller).symm fun _ shown => shows_append [default] shown

end Mosp.Conduct
