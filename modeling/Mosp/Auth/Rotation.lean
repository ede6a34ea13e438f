import Mosp.Auth.Sessions
import Mosp.Auth.TokenChains
import Mosp.Sql.Runs

/-!
# What the session operations keep

The tokens of every session form a chain, and the identifiers that calls have
drawn for sessions and tokens are their own until they are used.  As with
credentials, the protocol can also watch a token or an ended session from some
moment on.
-/

namespace Mosp.Auth

open Mosp.Concurrency Mosp.Data Mosp.Database Mosp.Sql
open Mosp.Sql.Protocol (Stands)
open PrismaAuthRepository AuthService

/-! ## Phases -/

/-- The session whose identifier a call has drawn and not used. -/
def Phase.session : Phase → Option Id
  | .issuing sessionId => some sessionId
  | .opening sessionId _ => some sessionId
  | _ => none

/-- The token whose identifier a call has drawn and not used. -/
def Phase.token : Phase → Option Id
  | .opening _ tokenId => some tokenId
  | .replacing replacementId => some replacementId
  | _ => none

/-- The token that a call has put in the place of another. -/
def Phase.replacement : Phase → Option Id
  | .rotated _ replacementId => some replacementId
  | _ => none

/-- Two calls have nothing in common. -/
structure Apart (first second : Phase) : Prop where
  session : ∀ id, first.session = some id → second.session ≠ some id
  token : ∀ id, first.token = some id → second.token ≠ some id
  replacement : ∀ id, first.replacement = some id → second.replacement ≠ some id

theorem Apart.symm {first second : Phase} (apart : Apart first second) : Apart second first := by
  constructor
  · exact fun id own other => apart.session id other own
  · exact fun id own other => apart.token id other own
  · exact fun id own other => apart.replacement id other own

/-! ## Watching -/

/-- What is watched from some call on. -/
inductive SessionWatch where
  /-- A logout with this token ends its session. -/
  | token (tokenId sessionId : Id) (since : Nat)
  /-- The session has ended. -/
  | ended (sessionId : Id) (since : Nat)

/-- What is known of the tokens that are watched. -/
def SessionWatch.Kept (table : Table RefreshToken) : SessionWatch → Prop
  | .token tokenId sessionId _ =>
      ∃ row, table.get? tokenId = some row ∧ row.sessionId = some sessionId
  | .ended sessionId _ => Begun table sessionId ∧ Ended table sessionId

/-- What a phase of the call `self` means for what is watched. -/
def SessionWatch.Allows (table : Table RefreshToken) (self : Nat) (phase : Phase) :
    SessionWatch → Prop
  | .token tokenId sessionId since => since ≤ self → ∀ row, table.get? tokenId = some row →
      phase = .left row.tokenHash → Ended table sessionId
  | .ended sessionId since => since ≤ self → phase ≠ .admitted sessionId

/-! ## The invariant -/

/-- What holds of the tokens. -/
structure TokensKept (state : State Db) : Prop where
  sessioned : ∀ row ∈ state.db.refreshToken, row.sessionId ≠ none
  chained : Chained state.db.refreshToken
  sessionIds : ∀ row ∈ state.db.refreshToken, ∀ sessionId, row.sessionId = some sessionId →
    sessionId < state.nextId
  tokenIds : ∀ row ∈ state.db.refreshToken, row.id < state.nextId

/-- What the phase of a call says about the tokens. -/
structure PhaseKept (state : State Db) (phase : Phase) : Prop where
  session : ∀ id, phase.session = some id →
    id < state.nextId ∧ ∀ row ∈ state.db.refreshToken, row.sessionId ≠ some id
  token : ∀ id, phase.token = some id →
    id < state.nextId ∧ state.db.refreshToken.get? id = none
  rotated : ∀ tokenId replacementId, phase = .rotated tokenId replacementId →
    (∃ row, state.db.refreshToken.get? tokenId = some row ∧ row.revokedAt ≠ none ∧
      row.replacedById = some replacementId) ∧
    ∃ row, state.db.refreshToken.get? replacementId = some row

/-- What the operations keep of the phases and the committed tokens. -/
structure SessionsKept (watch : Option SessionWatch) (view : View Phase (State Db)) : Prop where
  tokens : TokensKept view.shared
  phases : ∀ (self : Nat) phase, view.phases[self]? = some phase → PhaseKept view.shared phase
  apart : ∀ (self other : Nat) phase second, view.phases[self]? = some phase →
    view.phases[other]? = some second → self ≠ other → Apart phase second
  watched : ∀ watched, watch = some watched → watched.Kept view.shared.db.refreshToken
  allowed : ∀ watched, watch = some watched → ∀ (self : Nat) phase,
    view.phases[self]? = some phase → watched.Allows view.shared.db.refreshToken self phase

/-- How the committed tokens may develop. -/
structure TokensDevelop (before after : State Db) : Prop where
  grows : Grows before.db.refreshToken after.db.refreshToken
  nextId : before.nextId ≤ after.nextId

/-- A logout is carried out only with tokens that are the newest of their session, or whose
session has ended. -/
def LeavesNewest (self : Nat) (view : View Phase (State Db)) : Prop :=
  ∀ tokenHash, view.phases[self]? = some (.leaving tokenHash) →
    ∀ row ∈ view.shared.db.refreshToken, row.tokenHash = tokenHash →
      row.revokedAt = none ∨
        ∀ sessionId, row.sessionId = some sessionId → Ended view.shared.db.refreshToken sessionId

theorem SessionWatch.Kept.grows {watched : SessionWatch} {before after : Table RefreshToken}
    (kept : watched.Kept before) (grows : Grows before after) : watched.Kept after := by
  cases watched with
  | token tokenId sessionId since =>
      obtain ⟨row, found, session⟩ := kept
      obtain ⟨later, foundLater, ages⟩ := grows.ages tokenId row found
      exact ⟨later, foundLater, ages.session.trans session⟩
  | ended sessionId since =>
      exact ⟨grows.begun kept.1, grows.ended kept.1 kept.2⟩

theorem SessionWatch.Allows.grows {watched : SessionWatch} {before after : Table RefreshToken}
    {self : Nat} {phase : Phase} (allows : watched.Allows before self phase)
    (kept : watched.Kept before) (grows : Grows before after) :
    watched.Allows after self phase := by
  cases watched with
  | token tokenId sessionId since =>
      intro late row found left
      obtain ⟨old, foundOld, session⟩ := kept
      obtain ⟨later, foundLater, ages⟩ := grows.ages tokenId old foundOld
      obtain rfl := Option.some.inj (foundLater.symm.trans found)
      have ended := allows late old foundOld (ages.tokenHash ▸ left)
      exact grows.ended ⟨old, (Table.get?_some.mp foundOld).1, session⟩ ended
  | ended sessionId since => exact allows

/-- What a phase says stays, if nobody uses the identifiers that the call has drawn. -/
theorem PhaseKept.grows {before after : State Db} {phase : Phase} (kept : PhaseKept before phase)
    (develops : TokensDevelop before after)
    (session : ∀ id, phase.session = some id →
      ∀ row ∈ after.db.refreshToken, row.sessionId ≠ some id)
    (token : ∀ id, phase.token = some id → after.db.refreshToken.get? id = none) :
    PhaseKept after phase := by
  constructor
  · exact fun id own => ⟨Nat.lt_of_lt_of_le (kept.session id own).1 develops.nextId, session id own⟩
  · exact fun id own => ⟨Nat.lt_of_lt_of_le (kept.token id own).1 develops.nextId, token id own⟩
  · intro tokenId replacementId shown
    obtain ⟨⟨row, found, revoked, replaced⟩, other, foundOther⟩ :=
      kept.rotated tokenId replacementId shown
    obtain ⟨later, foundLater, ages⟩ := develops.grows.ages tokenId row found
    obtain ⟨last, foundLast, _⟩ := develops.grows.ages replacementId other foundOther
    obtain rfl := ages.revoked revoked
    exact ⟨⟨later, foundLater, revoked, replaced⟩, last, foundLast⟩

/-- A phase that says nothing of tokens. -/
structure Quiet (phase : Phase) : Prop where
  session : phase.session = none
  token : phase.token = none
  replacement : phase.replacement = none
  left : ∀ tokenHash, phase ≠ .left tokenHash
  admitted : ∀ sessionId, phase ≠ .admitted sessionId

theorem quiet_idle : Quiet .idle := by
  constructor <;> simp [Phase.session, Phase.token, Phase.replacement]

theorem quiet_leaving (tokenHash : String) : Quiet (.leaving tokenHash) := by
  constructor <;> simp [Phase.session, Phase.token, Phase.replacement]

theorem Quiet.not_rotated {phase : Phase} (quiet : Quiet phase) {tokenId replacementId : Id} :
    phase ≠ .rotated tokenId replacementId := by
  rintro rfl
  simpa [Phase.replacement] using quiet.replacement

theorem Quiet.kept {phase : Phase} (quiet : Quiet phase) (state : State Db) :
    PhaseKept state phase := by
  constructor
  · intro id own
    rw [quiet.session] at own
    contradiction
  · intro id own
    rw [quiet.token] at own
    contradiction
  · exact fun _ _ shown => absurd shown quiet.not_rotated

theorem Quiet.apart {phase : Phase} (quiet : Quiet phase) (other : Phase) : Apart phase other := by
  constructor
  · intro id own
    rw [quiet.session] at own
    contradiction
  · intro id own
    rw [quiet.token] at own
    contradiction
  · intro id own
    rw [quiet.replacement] at own
    contradiction

theorem Quiet.allows {phase : Phase} (quiet : Quiet phase) (watched : SessionWatch)
    (table : Table RefreshToken) (self : Nat) : watched.Allows table self phase := by
  cases watched with
  | token tokenId sessionId since =>
      exact fun _ _ _ left => absurd left (quiet.left _)
  | ended sessionId since =>
      exact fun _ => quiet.admitted _

variable {watch : Option SessionWatch} {view : View Phase (State Db)} {self : Nat}

/-- The invariant speaks of every call by its phase. -/
theorem SessionsKept.phases_of (kept : SessionsKept watch view) {phases : List Phase}
    (idle : ∀ (self : Nat) phase, phases[self]? = some phase →
      phase = .idle ∨ view.phases[self]? = some phase) :
    SessionsKept watch { view with phases } := by
  constructor
  · exact kept.tokens
  · intro self phase phaseAt
    rcases idle self phase phaseAt with rfl | old
    · exact quiet_idle.kept _
    · exact kept.phases self phase old
  · intro self other phase second phaseAt secondAt distinct
    rcases idle self phase phaseAt with rfl | old
    · exact quiet_idle.apart _
    · rcases idle other second secondAt with rfl | oldSecond
      · exact (quiet_idle.apart _).symm
      · exact kept.apart self other phase second old oldSecond distinct
  · exact kept.watched
  · intro watched same self phase phaseAt
    rcases idle self phase phaseAt with rfl | old
    · exact quiet_idle.allows _ _ _
    · exact kept.allowed watched same self phase old

/-- A call is answered, and the tokens develop. -/
theorem SessionsKept.answer {note : Option Phase} {shared : State Db}
    (kept : SessionsKept watch view) (develops : TokensDevelop view.shared shared)
    (tokens : TokensKept shared)
    (others : ∀ (other : Nat) phase, (other = self → note = none) →
      view.phases[other]? = some phase →
      (∀ id, phase.session = some id → ∀ row ∈ shared.db.refreshToken,
        row.sessionId ≠ some id) ∧
      ∀ id, phase.token = some id → shared.db.refreshToken.get? id = none)
    (own : ∀ phase, note = some phase → PhaseKept shared phase ∧
      (∀ (other : Nat) second, other ≠ self → view.phases[other]? = some second →
        Apart phase second) ∧
      ∀ watched, watch = some watched → watched.Allows shared.db.refreshToken self phase) :
    SessionsKept watch (view.answer self note shared) := by
  constructor
  · exact tokens
  · intro other phase phaseAt
    rcases View.answer_phase_cases phaseAt with ⟨_, noted⟩ | ⟨old, unnoted⟩
    · exact (own phase noted).1
    · obtain ⟨session, token⟩ := others other phase unnoted old
      exact (kept.phases other phase old).grows develops session token
  · intro first other phase second phaseAt secondAt distinct
    rcases View.answer_phase_cases phaseAt with ⟨rfl, noted⟩ | ⟨old, _⟩
    · rcases View.answer_phase_cases secondAt with ⟨same, _⟩ | ⟨oldSecond, _⟩
      · exact absurd same.symm distinct
      · exact (own phase noted).2.1 other second (Ne.symm distinct) oldSecond
    · rcases View.answer_phase_cases secondAt with ⟨rfl, noted⟩ | ⟨oldSecond, _⟩
      · exact ((own second noted).2.1 first phase distinct old).symm
      · exact kept.apart first other phase second old oldSecond distinct
  · exact fun watched same => (kept.watched watched same).grows develops.grows
  · intro watched same other phase phaseAt
    rcases View.answer_phase_cases phaseAt with ⟨rfl, noted⟩ | ⟨old, _⟩
    · exact (own phase noted).2.2 watched same
    · exact (kept.allowed watched same other phase old).grows (kept.watched watched same)
        develops.grows

/-- A call is answered, and no token changes. -/
theorem SessionsKept.answer_same {note : Option Phase} {shared : State Db}
    (kept : SessionsKept watch view) (same : shared.db.refreshToken = view.shared.db.refreshToken)
    (nextId : view.shared.nextId ≤ shared.nextId)
    (own : ∀ phase, note = some phase → PhaseKept shared phase ∧
      (∀ (other : Nat) second, other ≠ self → view.phases[other]? = some second →
        Apart phase second) ∧
      ∀ watched, watch = some watched → watched.Allows shared.db.refreshToken self phase) :
    SessionsKept watch (view.answer self note shared) := by
  refine kept.answer ⟨same ▸ .refl _, nextId⟩ ?_ ?_ own
  · constructor
    · exact same ▸ kept.tokens.sessioned
    · exact same ▸ kept.tokens.chained
    · intro row member sessionId session
      exact Nat.lt_of_lt_of_le (kept.tokens.sessionIds row (same ▸ member) sessionId session) nextId
    · intro row member
      exact Nat.lt_of_lt_of_le (kept.tokens.tokenIds row (same ▸ member)) nextId
  · intro other phase _ phaseAt
    rw [same]
    have phaseKept := kept.phases other phase phaseAt
    exact ⟨fun id own => (phaseKept.session id own).2, fun id own => (phaseKept.token id own).2⟩

/-- A token that was revoked is not rotated. -/
def RotatesLive (before after : View Phase (State Db)) : Prop :=
  ∀ (self : Nat) tokenId replacementId,
    after.phases[self]? = some (.rotated tokenId replacementId) →
      before.phases[self]? = some (.rotated tokenId replacementId) ∨
        ∀ row, before.shared.db.refreshToken.get? tokenId = some row → row.revokedAt = none

/-- The protocol of the session operations. -/
def sessions (watch : Option SessionWatch) : Protocol Db Phase where
  Good := SessionsKept watch
  Develops := TokensDevelop
  Shows := RotatesLive
  Permits self view := ∀ tokenId sessionId since,
    watch = some (.token tokenId sessionId since) → LeavesNewest self view
  develops_refl _ := ⟨.refl _, Nat.le_refl _⟩
  develops_trans first second :=
    ⟨first.grows.trans second.grows, Nat.le_trans first.nextId second.nextId⟩
  develops_issue _ := ⟨.refl _, Nat.le_succ _⟩
  good_idle good := good.phases_of fun _ _ phaseAt => View.fork_phase_cases phaseAt
  good_stop _ _ good := good.phases_of fun _ _ phaseAt => View.set_phase_cases phaseAt
  shows_refl _ _ _ _ shown := .inl shown
  shows_trans {first _ _} develops shows later self tokenId replacementId shown := by
    rcases later self tokenId replacementId shown with shown | live
    · exact shows self tokenId replacementId shown
    · refine .inr fun row found => ?_
      obtain ⟨aged, foundLater, ages⟩ := develops.grows.ages tokenId row found
      by_contra revoked
      exact revoked (ages.revoked revoked ▸ live aged foundLater)
  shows_issue _ _ _ _ shown := .inl shown
  shows_idle _ _ _ _ shown := .inl ((View.fork_phase_cases shown).resolve_left (by simp))
  shows_stop _ _ _ _ _ shown := .inl ((View.set_phase_cases shown).resolve_left (by simp))

theorem SessionsKept.moves {note : Option Phase} {shared : State Db}
    (kept : SessionsKept watch (view.answer self note shared))
    (live : ∀ tokenId replacementId, note = some (.rotated tokenId replacementId) →
      ∀ row, view.shared.db.refreshToken.get? tokenId = some row → row.revokedAt = none) :
    (sessions watch).Moves view (view.answer self note shared) := by
  refine ⟨kept, fun other tokenId replacementId shown => ?_⟩
  rcases View.answer_phase_cases shown with ⟨_, noted⟩ | ⟨old, _⟩
  · exact .inr (live tokenId replacementId noted)
  · exact .inl old

/-- A call shows nothing of tokens, and no token changes. -/
theorem SessionsKept.moves_quiet {note : Option Phase} {shared : State Db}
    (kept : SessionsKept watch view) (same : shared.db.refreshToken = view.shared.db.refreshToken)
    (nextId : view.shared.nextId ≤ shared.nextId)
    (quiet : ∀ phase, note = some phase → Quiet phase) :
    (sessions watch).Moves view (view.answer self note shared) := by
  have stays : SessionsKept watch (view.answer self note shared) :=
    kept.answer_same same nextId fun phase noted =>
      ⟨(quiet phase noted).kept _, fun _ _ _ _ => (quiet phase noted).apart _,
        fun _ _ => (quiet phase noted).allows _ _ _⟩
  exact stays.moves fun _ _ noted => absurd rfl (quiet _ noted).not_rotated

end Mosp.Auth
