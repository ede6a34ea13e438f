import Mosp.Index.Accounting
import Mosp.Index.SessionTransactions
import Mosp.System.Machine

/-!
# What the calls in progress may do

A scene is what the catalog, the phases of the calls and the objects at the
providers look like between two steps.  A move is what one call does in one
step.  The ledger then covers what explorer uploads hold in their phase, and
what a call has read about a session or a record stays true while others move.
-/

namespace Mosp.Conduct

open Mosp.Data Mosp.Database Mosp.Index
open Mosp.System hiding Action

/-- What a statement about interleaved calls is about. -/
structure Mode where
  /-- The namespaces whose limits are watched. -/
  watched : Id → Id → Prop
  /-- Whether the objects at the providers are watched, in a system without
  migrations. -/
  careful : Prop
  /-- The keys whose objects are watched. -/
  guarded : PhysicalKey → Prop
  /-- Whether objects are deleted through the services. -/
  deletes : Prop

structure Scene where
  phases : List Phase
  catalog : Catalog
  nextId : Id
  objects : Objects

/-- The call `i` shows a phase. -/
abbrev Scene.Shows (scene : Scene) (i : Nat) (phase : Phase) : Prop :=
  scene.phases[i]? = some phase

def sceneOf (view : Observation) : Scene where
  phases := view.phases
  catalog := catalogOf view.shared.db
  nextId := view.shared.nextId
  objects := view.shared.objects

/-! ## What the phases hold -/

/-- The bytes that an explorer upload in this phase has reserved in a namespace. -/
def heldBy (phase : Phase) (organizationId namespaceId : Id) : Int :=
  match phase with
  | .reserved ownOrganization ownNamespace sizeBytes _ =>
      inNamespace ownOrganization ownNamespace sizeBytes organizationId namespaceId
  | _ => 0

/-- The bytes that the explorer uploads in progress have reserved in a namespace. -/
def held (phases : List Phase) (organizationId namespaceId : Id) : Int :=
  (phases.map fun phase => heldBy phase organizationId namespaceId).sum

theorem held_set {phases : List Phase} {self : Nat} {old new : Phase}
    (own : phases[self]? = some old) (organizationId namespaceId : Id) :
    held (phases.set self new) organizationId namespaceId =
      held phases organizationId namespaceId +
        (heldBy new organizationId namespaceId - heldBy old organizationId namespaceId) := by
  unfold held
  induction phases generalizing self with
  | nil => simp at own
  | cons first rest ih =>
      cases self with
      | zero =>
          obtain rfl : first = old := by simpa using own
          simp only [List.set_cons_zero, List.map_cons, List.sum_cons]
          omega
      | succ index =>
          have inRest : ((rest.set index new).map fun phase =>
              heldBy phase organizationId namespaceId).sum = _ :=
            ih (by simpa using own)
          simp only [List.set_cons_succ, List.map_cons, List.sum_cons, inRest]
          omega

theorem held_append (first second : List Phase) (organizationId namespaceId : Id) :
    held (first ++ second) organizationId namespaceId =
      held first organizationId namespaceId + held second organizationId namespaceId := by
  unfold held
  rw [List.map_append, List.sum_append]

/-- Sessions that are being opened have identifiers of their own. -/
structure Tokens (scene : Scene) : Prop where
  below : ∀ i uploadId key, scene.Shows i (.initiating uploadId key) →
    uploadId < scene.nextId
  absent : ∀ i uploadId key, scene.Shows i (.initiating uploadId key) →
    ∀ session ∈ scene.catalog.sessions, session.id ≠ uploadId
  unique : ∀ i j uploadId key other, scene.Shows i (.initiating uploadId key) →
    scene.Shows j (.initiating uploadId other) → i = j
  size : ∀ (i : Nat) organizationId namespaceId sizeBytes key,
    scene.Shows i (.reserved organizationId namespaceId sizeBytes key) → 0 ≤ sizeBytes

/-- What holds of a scene between two steps. -/
structure Sound (mode : Mode) (scene : Scene) : Prop where
  consistent : Consistent scene.catalog scene.nextId
  ledger : Ledger scene.catalog (held scene.phases)
  limits : ∀ organizationId namespaceId, mode.watched organizationId namespaceId →
    WithinLimits scene.catalog organizationId namespaceId
  tokens : Tokens scene

/-- One call takes one action and shows a new phase. -/
structure Move (caller : Nat) (before after : Scene) (action : Action) (old new : Phase) : Prop where
  later : before.nextId ≤ after.nextId
  enabled : action.Enabled before.catalog after.nextId
  admitted : action.Admitted before.catalog
  catalog : after.catalog = before.catalog.after action
  own : before.Shows caller old
  phases : after.phases = before.phases.set caller new
  hold : ∀ organizationId namespaceId, heldBy new organizationId namespaceId =
    heldBy old organizationId namespaceId + action.hold organizationId namespaceId
  size : ∀ organizationId namespaceId sizeBytes key,
    new = .reserved organizationId namespaceId sizeBytes key → 0 ≤ sizeBytes
  opens : ∀ session, action = .openSession session →
    (∃ key, old = .initiating session.id key) ∧ ∀ uploadId key, new ≠ .initiating uploadId key
  initiates : ∀ uploadId key, new = .initiating uploadId key →
    (∃ other, old = .initiating uploadId other) ∨
      before.nextId ≤ uploadId ∧ uploadId < after.nextId

/-! ## Moves keep scenes sound -/

namespace Move

variable {caller : Nat} {before after : Scene} {action : Action} {old new : Phase}

theorem shows_caller (move : Move caller before after action old new) {phase : Phase} :
    after.Shows caller phase ↔ new = phase := by
  unfold Scene.Shows
  rw [move.phases, List.getElem?_set_self (List.getElem?_eq_some_iff.mp move.own).1,
    Option.some.injEq]

theorem shows_other (move : Move caller before after action old new) {i : Nat} {phase : Phase}
    (other : i ≠ caller) : after.Shows i phase ↔ before.Shows i phase := by
  unfold Scene.Shows
  rw [move.phases, List.getElem?_set_ne other.symm]

/-- A session that is being opened after the move was so before, or is new. -/
theorem initiating_origin (move : Move caller before after action old new) {i : Nat} {uploadId : Id}
    {key : Option PhysicalKey} (at_ : after.Shows i (.initiating uploadId key)) :
    (∃ other, before.Shows i (.initiating uploadId other)) ∨
      i = caller ∧ before.nextId ≤ uploadId ∧ uploadId < after.nextId := by
  by_cases same : i = caller
  · subst same
    rw [move.shows_caller] at at_
    rcases move.initiates uploadId key at_ with ⟨other, was⟩ | fresh
    · exact .inl ⟨other, was ▸ move.own⟩
    · exact .inr ⟨rfl, fresh⟩
  · rw [move.shows_other same] at at_
    exact .inl ⟨key, at_⟩

theorem tokens (move : Move caller before after action old new)
    (consistent : Consistent before.catalog before.nextId) (tokens : Tokens before) :
    Tokens after where
  below i uploadId key at_ := by
    rcases move.initiating_origin at_ with ⟨other, was⟩ | ⟨_, _, below⟩
    · exact Nat.lt_of_lt_of_le (tokens.below i uploadId other was) move.later
    · exact below
  absent i uploadId key at_ session member := by
    rintro rfl
    rw [move.catalog] at member
    rcases Action.session_origin move.enabled member with ⟨row, rowMem, terms⟩ | rfl
    · have sameId : row.id = session.id := (congrArg UploadSession.id terms :)
      rcases move.initiating_origin at_ with ⟨other, was⟩ | ⟨_, fresh, _⟩
      · exact tokens.absent i session.id other was row rowMem sameId
      · have below := consistent.sessionId row rowMem
        rw [sameId] at below
        exact Nat.not_le_of_lt below fresh
    · obtain ⟨⟨own, oldEq⟩, newNot⟩ := move.opens session rfl
      by_cases same : i = caller
      · subst same
        rw [move.shows_caller] at at_
        exact newNot _ _ at_
      · rw [move.shows_other same] at at_
        exact same (tokens.unique i caller session.id key own at_ (oldEq ▸ move.own))
  unique i j uploadId key other first second := by
    rcases move.initiating_origin first with ⟨key', wasFirst⟩ | ⟨rfl, fresh, _⟩
    · rcases move.initiating_origin second with ⟨other', wasSecond⟩ | ⟨rfl, fresh, _⟩
      · exact tokens.unique i j uploadId key' other' wasFirst wasSecond
      · exact absurd fresh (Nat.not_le_of_lt (tokens.below i uploadId key' wasFirst))
    · rcases move.initiating_origin second with ⟨other', wasSecond⟩ | ⟨rfl, _⟩
      · exact absurd fresh (Nat.not_le_of_lt (tokens.below j uploadId other' wasSecond))
      · rfl
  size i organizationId namespaceId sizeBytes key at_ := by
    by_cases same : i = caller
    · subst same
      rw [move.shows_caller] at at_
      exact move.size organizationId namespaceId sizeBytes key at_
    · rw [move.shows_other same] at at_
      exact tokens.size i organizationId namespaceId sizeBytes key at_

theorem sound {mode : Mode} (move : Move caller before after action old new)
    (sound : Sound mode before) : Sound mode after where
  consistent := by
    rw [move.catalog]
    exact (sound.consistent.mono move.later).after move.enabled
  ledger := by
    have moved := sound.ledger.after move.enabled
    rw [move.catalog, move.phases]
    convert moved using 3 with organizationId namespaceId
    rw [held_set move.own, move.hold]
    omega
  limits organizationId namespaceId watched := by
    rw [move.catalog]
    exact (sound.limits organizationId namespaceId watched).after
      (sound.consistent.mono move.later) move.enabled move.admitted
  tokens := move.tokens sound.consistent sound.tokens

end Move

end Mosp.Conduct
