import Mosp.Auth.SessionTransactions

/-!
# The services of sessions follow the protocol

`login`, `refresh`, `logout` and `session`, each from the idle phase to its end.
-/

namespace Mosp.Auth

open Mosp.Concurrency Mosp.Data Mosp.Database Mosp.Sql
open Mosp.Sql.Protocol (Stands)
open PrismaAuthRepository AuthService

variable {watch : Option SessionWatch} {self : Nat} {check : Db → Option Failure}
  {answer : {β : Type} → Elsewhere β → Unit → Nat → Unit → β × Unit} {crypto : Crypto}
  {α β : Type} {phase : Phase}

/-- The answer of the service is of no interest here. -/
abbrev SessionRuns (watch : Option SessionWatch) (check : Db → Option Failure)
    (answer : {β : Type} → Elsewhere β → Unit → Nat → Unit → β × Unit) (self : Nat)
    (phase : Phase) (service : Service β) : Prop :=
  (sessions watch).Runs check answer self phase (fun _ => True) service (fun _ _ => True)
    fun _ _ => True

theorem runs_newToken {rest : String → Service β}
    (runs : ∀ token, SessionRuns watch check answer self phase (rest token)) :
    SessionRuns watch check answer self phase ((newToken crypto).bind rest) :=
  .randomUUID (stays_anything _) fun _ good _ =>
    ⟨SessionsKept.moves_quiet good (by rfl) (Nat.le_succ _) nofun, fun _ => True, trivial,
      runs _⟩

theorem runs_issueAccessToken {userId sessionId : Id} {rest : String × Time → Service β}
    (runs : ∀ issued, SessionRuns watch check answer self phase (rest issued)) :
    SessionRuns watch check answer self phase
      ((issueAccessToken crypto userId sessionId).bind rest) :=
  .now (stays_anything _) fun _ => runs _

/-- A query that shows nothing. -/
theorem runs_query {value : Db → α} {rest : α → Service β}
    (runs : ∀ found, SessionRuns watch check answer self phase (rest found)) :
    SessionRuns watch check answer self phase ((query (Sql.Tx.read value)).bind rest) :=
  .transact (stays_anything _) transacts_query runs fun _ _ _ => trivial

/-- A transaction after which the call is somewhere. -/
theorem runs_somewhere {body : Tx α} {note : Except Failure α → Option Phase}
    {rest : α → Service β} {returns : β → View Phase (State Db) → Prop}
    (transacts : (sessions watch).Transacts check answer self note (Somewhere self) phase [] []
      (fun _ => True) body)
    (runs : ∀ value phase, (sessions watch).Runs check answer self phase (fun _ => True)
      (rest value) returns fun _ _ => True) :
    (sessions watch).Runs check answer self phase (fun _ => True)
      ((transaction body note).bind rest) returns fun _ _ => True := by
  unfold transaction Sql.Tx.transact
  rw [Program.bind_assoc]
  refine Protocol.Runs.bind (Protocol.Runs.isolated (stays_anything _) transacts) ?_
  rintro result view ⟨later, stands⟩
  refine ⟨later, fun _ => True, stands, ?_⟩
  cases result with
  | ok value => exact runs value later
  | error error => exact .throw fun _ _ => trivial

theorem runs_createRefreshToken {input : CreateRefreshTokenInput} {rest : Unit → Service β}
    (issuing : phase = .issuing input.sessionId)
    (runs : ∀ phase, SessionRuns watch check answer self phase (rest ())) :
    SessionRuns watch check answer self phase ((createRefreshToken input).bind rest) := by
  subst issuing
  exact runs_somewhere transacts_createToken fun _ => runs

theorem runs_isAccessSessionActive {sessionId userId : Id} {now : Time} {rest : Bool → Service β}
    (runs : ∀ active phase, SessionRuns watch check answer self phase (rest active)) :
    SessionRuns watch check answer self .idle
      ((isAccessSessionActive sessionId userId now).bind rest) := by
  unfold isAccessSessionActive query
  rw [Program.bind_eq, Program.bind_assoc]
  exact runs_somewhere transacts_active fun found => runs found.isSome

theorem runs_login (email password : String) (metadata : AuthRequestMetadata) :
    SessionRuns watch check answer self .idle (login crypto email password metadata) := by
  apply runs_query
  intro found
  cases found with
  | none => exact .throw fun _ _ => trivial
  | some user =>
      dsimp only
      split
      swap
      · exact .throw fun _ _ => trivial
      apply runs_newToken
      intro token
      refine Protocol.Runs.now_bind (stays_anything _) fun now => ?_
      refine Protocol.Runs.randomUUID (stays_anything _) fun view good _ => ?_
      refine ⟨(SessionsKept.draw_session good).moves (by simp), fun _ => True, trivial, ?_⟩
      generalize view.shared.nextId = sessionId
      apply runs_issueAccessToken
      rintro ⟨accessToken, expiresAt⟩
      refine runs_createRefreshToken rfl fun _ => ?_
      exact .pure fun _ _ => trivial

theorem runs_refresh (token : String) (metadata : AuthRequestMetadata) :
    SessionRuns watch check answer self .idle (refresh crypto token metadata) := by
  apply runs_newToken
  intro replacement
  refine Protocol.Runs.now_bind (stays_anything _) fun now => ?_
  have rotates : (sessions watch).Runs check answer self .idle (fun _ => True)
      ((transaction (rotateTransaction
        { metadata with
          currentTokenHash := hashRefreshToken crypto token
          tokenHash := hashRefreshToken crypto replacement
          expiresAt := now + refreshTokenTtlSeconds * 1000
          now }) noteRotated).bind fun rotation =>
        .pure (rotation.sessionId, rotation.user)) (Somewhere self) fun _ _ => True := by
    apply runs_somewhere transacts_rotateToken
    intro rotation phase
    exact .pure fun view stands => ⟨phase, stands⟩
  have rethrows : ∀ error, Contract.Triple (readCommitted check answer Phase)
      ((sessions watch).contract (X := Unit)) self (fun _ => True)
      (if error = invalidRefreshToken then throw (.authFailure .invalidRefreshToken)
        else throw error : Service (Id × User))
      (fun value view => Somewhere self value (seen view)) fun _ _ => True := fun error =>
    .ite (fun _ => .throw fun _ _ => trivial) fun _ => .throw fun _ _ => trivial
  refine Protocol.Runs.bind (Contract.Triple.catchWith rotates rethrows) ?_
  rintro ⟨sessionId, user⟩ view ⟨phase, stands⟩
  refine ⟨phase, fun _ => True, stands, ?_⟩
  apply runs_issueAccessToken
  exact fun _ => .pure fun _ _ => trivial

theorem runs_logout (token : String) :
    SessionRuns watch check answer self .idle (logout crypto token) := by
  refine Protocol.Runs.nowNoting (stays_anything _) fun view now good _ => ?_
  refine ⟨SessionsKept.moves_quiet good rfl (Nat.le_refl _) ?_, ?_⟩
  · rintro phase ⟨⟩
    exact quiet_leaving _
  · apply runs_somewhere transacts_revokeToken
    exact fun _ _ => .pure fun _ _ => trivial

theorem runs_session (accessToken : String) :
    SessionRuns watch check answer self .idle (session crypto accessToken) := by
  refine Protocol.Runs.now_bind (stays_anything _) fun now => ?_
  split
  · exact .throw fun _ _ => trivial
  apply runs_query
  intro found
  cases found with
  | none => exact .throw fun _ _ => trivial
  | some user =>
      dsimp only
      split
      · exact .throw fun _ _ => trivial
      refine Protocol.Runs.now_bind (stays_anything _) fun now => ?_
      apply runs_isAccessSessionActive
      intro active phase
      split
      · exact .pure fun _ _ => trivial
      · exact .throw fun _ _ => trivial

end Mosp.Auth
