import Mosp.Conduct.Custody
import Mosp.Index.Progress

/-!
# What no call takes back

Every step is a run of the catalog, which no call can turn back, and sessions that
have ended stay as they ended.
-/

namespace Mosp.Conduct

open Mosp.Data Mosp.Database Mosp.Index
open Mosp.System hiding Action

/-- A session is in this state or gone, and no call opens it. -/
structure Ended (sessionId : Id) (state : UploadSessionState) (scene : Scene) : Prop where
  below : sessionId < scene.nextId
  state : ∀ row ∈ scene.catalog.sessions, row.id = sessionId → row.state = state
  opened : ∀ i key, ¬scene.Shows i (.initiating sessionId key)

/-- A step is a run of the catalog, after which ended sessions are as they were. -/
structure Progresses (before after : Scene) : Prop where
  run : before.catalog.Run before.nextId after.catalog after.nextId
  ended : ∀ sessionId state, state ≠ .initiated → Ended sessionId state before →
    Ended sessionId state after

namespace Progresses

theorem refl (scene : Scene) : Progresses scene scene where
  run := .refl
  ended _ _ _ ended := ended

theorem trans {first second third : Scene} (early : Progresses first second)
    (late : Progresses second third) : Progresses first third where
  run := early.run.trans late.run
  ended sessionId state final ended :=
    late.ended sessionId state final (early.ended sessionId state final ended)

end Progresses

theorem Move.progresses {caller : Nat} {before after : Scene} {action : Action}
    {old new : Phase} (move : Move caller before after action old new) :
    Progresses before after where
  run := by
    rw [move.catalog]
    exact .single move.later move.enabled move.admitted
  ended sessionId state final ended := by
    constructor
    · exact Nat.lt_of_lt_of_le ended.below move.later
    · intro row member sameId
      rw [move.catalog] at member
      rcases Action.session_origin move.enabled member with ⟨was, wasMem, terms⟩ | rfl
      · have wasId : was.id = row.id := (congrArg UploadSession.id terms :)
        have wasState := ended.state was wasMem (wasId.trans sameId)
        have kept : row.state = was.state := Action.ended_kept move.enabled wasMem member wasId
          fun initiated => final (wasState.symm.trans initiated)
        exact kept.trans wasState
      · obtain ⟨⟨key, oldEq⟩, _⟩ := move.opens row rfl
        rw [← sameId] at ended
        exact absurd (oldEq ▸ move.own) (ended.opened caller key)
    · intro i key shown
      rcases move.initiating_origin shown with ⟨other, was⟩ | ⟨_, fresh, _⟩
      · exact ended.opened i other was
      · exact Nat.not_le_of_lt ended.below fresh

theorem Settles.progresses {before after : Scene} (settles : Settles before after) :
    Progresses before after where
  run := by
    rw [settles.catalog]
    exact .rest settles.later
  ended sessionId state _ ended := by
    constructor
    · exact Nat.lt_of_lt_of_le ended.below settles.later
    · rw [settles.catalog]
      exact ended.state
    · intro i key shown
      rcases settles.others i _ shown with was | inert
      · exact ended.opened i key was
      · simp [Inert] at inert

/-- A session that has ended is known to have done so when it is read. -/
theorem Sound.ended {mode : Mode} {scene : Scene} (sound : Sound mode scene)
    {session : UploadSession} (member : session ∈ scene.catalog.sessions) :
    Ended session.id session.state scene where
  below := sound.consistent.sessionId session member
  state row rowMem sameId := by rw [Table.eq_of_id_eq rowMem member sameId]
  opened i key shown := sound.tokens.absent i session.id key shown session member rfl

end Mosp.Conduct
