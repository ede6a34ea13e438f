import Mosp.Auth.SessionServices
import Mosp.Guarantees.Revocation

/-!
# Refresh tokens and sessions

Any number of logins, refreshes, logouts and requests of sessions, interleaved
statement by statement.  A token is rotated once, a session has one unrevoked
token, and a session that has ended stays ended.  A logout ends the session if
its token is still the newest when the update is carried out.
-/

namespace Mosp.Guarantees

open Mosp.Concurrency Mosp.Data Mosp.Sql Mosp.Auth
open Mosp.Database (Id Time)

/-- The operations on sessions. -/
inductive SessionRequest where
  | login (email password : String) (metadata : AuthRequestMetadata)
  | refresh (token : String) (metadata : AuthRequestMetadata)
  | logout (token : String)
  | session (accessToken : String)

namespace SessionRequest

/-- The program of a request; its answer goes to the client. -/
def program (crypto : Crypto) : SessionRequest → Service Unit
  | .login email password metadata => discard (AuthService.login crypto email password metadata)
  | .refresh token metadata => discard (AuthService.refresh crypto token metadata)
  | .logout token => AuthService.logout crypto token
  | .session accessToken => discard (AuthService.session crypto accessToken)

end SessionRequest

/-- What runs of the session services reach. -/
def SessionsReach (crypto : Crypto) (constraints : Db → Option Failure)
    (condition : Nat → View Phase (State Db) → Prop) : AuthCalls → AuthCalls → Prop :=
  Reaches constraints nowhere (fun (action : Empty) _ => action.elim)
    (SessionRequest.program crypto) (fun _ => True) condition

section

variable {crypto : Crypto} {constraints : Db → Option Failure}

theorem runs_sessionRequest (watch : Option SessionWatch) (request : SessionRequest) (self : Nat) :
    (sessions watch).Runs constraints nowhere self default (fun _ => True)
      (request.program crypto) (fun _ _ => True) (fun _ _ => True) := by
  cases request with
  | login email password metadata =>
      exact Contract.Triple.bind (runs_login email password metadata) fun _ =>
        Contract.Triple.pure fun _ _ => trivial
  | refresh token metadata =>
      exact Contract.Triple.bind (runs_refresh token metadata) fun _ =>
        Contract.Triple.pure fun _ _ => trivial
  | logout token => exact runs_logout token
  | session accessToken =>
      exact Contract.Triple.bind (runs_session accessToken) fun _ =>
        Contract.Triple.pure fun _ _ => trivial

theorem respects_sessions {watch : Option SessionWatch}
    {condition : Nat → View Phase (State Db) → Prop}
    (permits : ∀ self view, condition self view → (sessions watch).Permits self view) :
    Contract.Respects (readCommitted constraints nowhere Phase)
      (surround fun (action : Empty) _ => action.elim)
      (Permitted (SessionRequest.program crypto) (fun _ => True) condition)
      ((sessions watch).contract (X := Unit)) :=
  Protocol.respects trivial (fun request _ self => runs_sessionRequest watch request self) permits

/-- The invariant of a pool of calls. -/
abbrev SessionsHold (watch : Option SessionWatch) (constraints : Db → Option Failure)
    (calls : AuthCalls) : Prop :=
  Contract.Holds (readCommitted constraints nowhere Phase)
    ((sessions watch).contract (X := Unit)) calls

theorem sessionsHold_atRest {start : State Db} (kept : TokensKept start) (clock : Time) :
    SessionsHold none constraints (atRest start clock) := by
  constructor
  · constructor
    · intro self write member
      contradiction
    · constructor
      · exact kept
      · intro self phase phaseAt
        contradiction
      · intro self other phase second phaseAt
        contradiction
      · intro watched none_
        contradiction
      · intro watched none_
        contradiction
  · intro self call callAt
    contradiction

/-- The calls in progress may go on although something is watched from now on, if that
holds by now. -/
theorem sessionsHold_watched {calls : AuthCalls} {watched : SessionWatch}
    (held : SessionsHold none constraints calls)
    (now : watched.Kept (committedDb calls).refreshToken)
    (quiet : ∀ table self phase, self < calls.calls.length → watched.Allows table self phase) :
    SessionsHold (some watched) constraints calls := by
  have strict : ∀ {view : View Phase (State Db)}, SessionsKept none view →
      watched.Kept view.shared.db.refreshToken →
      (∀ (self : Nat) phase, view.phases[self]? = some phase →
        watched.Allows view.shared.db.refreshToken self phase) →
      SessionsKept (some watched) view := by
    intro view kept watches allows
    refine ⟨kept.tokens, kept.phases, kept.apart, ?_, ?_⟩
    · rintro _ ⟨⟩
      exact watches
    · rintro _ ⟨⟩
      exact allows
  refine Protocol.holds_since held Iff.rfl Iff.rfl (fun _ _ _ _ none_ => nomatch none_) ?_ ?_ ?_
  · intro view kept
    exact ⟨kept.tokens, kept.phases, kept.apart, nofun, nofun⟩
  · intro before after old kept develops phases
    have keptNow := old.watched watched rfl
    refine strict kept (keptNow.grows develops.grows) fun self phase phaseAt => ?_
    by_cases early : self < calls.calls.length
    · exact quiet _ self phase early
    · rw [phases self (Nat.le_of_not_lt early)] at phaseAt
      exact (old.allowed watched rfl self phase phaseAt).grows keptNow develops.grows
  · refine strict held.inv.2 now fun self phase phaseAt => quiet _ self phase ?_
    have inside : self < calls.view.phases.length := (List.getElem?_eq_some_iff.mp phaseAt).1
    simpa [Pool.view] using inside

/-- How the tokens and the phases have developed along a run. -/
theorem sessions_develop {watch : Option SessionWatch}
    {condition : Nat → View Phase (State Db) → Prop} {calls later : AuthCalls}
    (permits : ∀ self view, condition self view → (sessions watch).Permits self view)
    (held : SessionsHold watch constraints calls)
    (onward : SessionsReach crypto constraints condition calls later) :
    TokensDevelop calls.shared.committed later.shared.committed ∧
      RotatesLive (seen calls.view) (seen later.view) := by
  have keeps := (respects_sessions permits).rely held onward (Nat.le_refl _)
  exact ⟨keeps.develops, keeps.shows⟩

/-- No token of a session that has ended lets a request pass. -/
theorem find?_keepsAlive_of_ended {table : Table RefreshToken} {sessionId : Id}
    (ended : Ended table sessionId) (userId : Id) (now : Time) :
    table.find? (PrismaAuthRepository.keepsAlive sessionId userId now) = none := by
  refine Table.find?_none.mpr fun row member => ?_
  by_contra alive
  have holds : PrismaAuthRepository.keepsAlive sessionId userId now row = true := by
    simpa using alive
  simp only [PrismaAuthRepository.keepsAlive, Bool.and_eq_true, beq_iff_eq,
    Option.isNone_iff_eq_none] at holds
  exact ended row member holds.1.1.1 holds.1.2

/-- From a session that has ended on, it has ended, and no call that is started later lets a
request of it pass. -/
theorem ended_forever {calls later : AuthCalls} {sessionId : Id}
    (held : SessionsHold none constraints calls)
    (begun : Begun (committedDb calls).refreshToken sessionId)
    (ended : Ended (committedDb calls).refreshToken sessionId)
    {condition : Nat → View Phase (State Db) → Prop}
    (onward : SessionsReach crypto constraints condition calls later) :
    Ended (committedDb later).refreshToken sessionId ∧
      ∀ self ≥ calls.calls.length, later.view.phases[self]? ≠ some (.admitted sessionId) := by
  have watched : SessionsHold (some (.ended sessionId calls.calls.length)) constraints calls :=
    sessionsHold_watched held ⟨begun, ended⟩ fun _ _ _ early late =>
      absurd early (Nat.not_lt.mpr late)
  have ends := ((respects_sessions nofun).holds watched onward).inv.2
  exact ⟨(ends.watched _ rfl).2, fun self late shown => ends.allowed _ rfl self _ shown late rfl⟩

/-- A token that has been rotated is not rotated again. -/
theorem rotated_once {calls later : AuthCalls} (held : SessionsHold none constraints calls)
    {condition : Nat → View Phase (State Db) → Prop}
    (onward : SessionsReach crypto constraints condition calls later) {first second : Nat}
    {tokenId firstId secondId : Id}
    (rotated : calls.view.phases[first]? = some (.rotated tokenId firstId))
    (again : later.view.phases[second]? = some (.rotated tokenId secondId)) : first = second := by
  have kept : SessionsKept none (seen calls.view) := held.inv.2
  obtain ⟨⟨row, found, revoked, replaced⟩, _⟩ := (kept.phases first _ rotated).rotated _ _ rfl
  rcases (sessions_develop nofun held onward).2 second tokenId secondId again with shown | live
  · obtain ⟨⟨other, foundOther, _, replacedOther⟩, _⟩ :=
      (kept.phases second _ shown).rotated _ _ rfl
    obtain rfl := Option.some.inj (found.symm.trans foundOther)
    obtain rfl := Option.some.inj (replaced.symm.trans replacedOther)
    by_contra distinct
    exact (kept.apart first second _ _ rotated shown distinct).replacement _ rfl rfl
  · exact absurd (live row found) revoked

end

/-! ## A user who logs in -/

namespace Login

/-- Readable stand-ins for the cryptography. -/
def crypto : Crypto where
  randomText _ randomness := String.ofList ['r', Char.ofNat ('a'.toNat + randomness)]
  sha256Hex text := String.ofList ('#' :: text.toList)
  verifyPassword password passwordHash := password == passwordHash
  issueAccessToken claims now :=
    (String.ofList
      [Char.ofNat ('a'.toNat + claims.userId), Char.ofNat ('a'.toNat + claims.sessionId)], now)
  verifyAccessToken accessToken _ :=
    match accessToken.toList with
    | [userId, sessionId] => some
        { userId := userId.toNat - 'a'.toNat, sessionId := sessionId.toNat - 'a'.toNat }
    | _ => none

def db : Db where
  user := .ofRows [{ id := 5, email := "owner@example.com", passwordHash := "secret" }]

theorem kept : TokensKept ⟨db, 6⟩ := by
  have none_ : ∀ row : RefreshToken, row ∉ db.refreshToken := Table.not_mem_empty
  constructor
  · exact fun row member => absurd member (none_ row)
  · refine fun sessionId => ⟨[], fun row => ?_, List.nodup_nil, List.isChain_nil, nofun⟩
    simp [none_ row]
  · exact fun row member => absurd member (none_ row)
  · exact fun row member => absurd member (none_ row)

def start : AuthCalls :=
  atRest ⟨db, 6⟩ 1000

abbrev Scripts : Type :=
  List (Script SessionRequest Failure Unit Empty)

/-- The user logs in and is given the token `rg` of session 7. -/
def opened : Scripts :=
  [.start (.login "owner@example.com" "secret" {}), .act 0 { outside := () } 11]

/-- The token `rg` is replaced by `rj`. -/
def replaced : Scripts :=
  [.start (.refresh "rg" {}), .act 1 { outside := () } 10]

/-- The user logs out with a token. -/
def closed (token : String) : Scripts :=
  [.start (.logout token), .act 2 { outside := () } 4]

/-- A request of the session. -/
def asked : Scripts :=
  [.start (.session "fh"), .act 3 { outside := () } 8]

/-- The access token of the session is presented after the logout. -/
def refused : Scripts :=
  [.start (.session "fh"), .act 3 { outside := () } 7]

end Login

/-- Run scripts of the session services. -/
def runSessions (passes : Nat → View Phase (State Db) → Bool) :
    AuthCalls → Login.Scripts → Option AuthCalls :=
  runScripts violation nowhere (fun action _ => action.elim)
    (SessionRequest.program Login.crypto) passes

theorem reaches_runSessions {passes : Nat → View Phase (State Db) → Bool}
    {condition : Nat → View Phase (State Db) → Prop} {start calls : AuthCalls}
    {scripts : Login.Scripts} (ran : runSessions passes start scripts = some calls)
    (passed : ∀ self view, passes self view = true → condition self view) :
    SessionsReach Login.crypto violation condition start calls :=
  reaches_runScripts ran (fun _ _ => trivial) passed

/-- In every run that begins with sessions whose tokens form chains: a token is rotated once,
a session has one unrevoked token, a session without an unrevoked token stays so, and the
tokens of every session form one chain, in which a rotation that has not committed has left
no token. -/
theorem refresh_tokens_single_use {crypto : Crypto} {constraints : Db → Option Failure}
    {start : State Db} {clock : Time} {calls later : AuthCalls} (kept : TokensKept start)
    (reached : SessionsReach crypto constraints (fun _ _ => True) (atRest start clock) calls)
    (onward : SessionsReach crypto constraints (fun _ _ => True) calls later) :
    (∀ (first second : Nat) (tokenId firstId secondId : Id),
      calls.view.phases[first]? = some (.rotated tokenId firstId) →
      later.view.phases[second]? = some (.rotated tokenId secondId) → first = second) ∧
    (∀ sessionId, ∀ first ∈ (committedDb calls).refreshToken,
      ∀ second ∈ (committedDb calls).refreshToken, first.sessionId = some sessionId →
      second.sessionId = some sessionId → first.revokedAt = none → second.revokedAt = none →
      first = second) ∧
    (∀ sessionId, Begun (committedDb calls).refreshToken sessionId →
      Ended (committedDb calls).refreshToken sessionId →
      Ended (committedDb later).refreshToken sessionId ∧
      (∀ userId now, (committedDb later).refreshToken.find?
        (PrismaAuthRepository.keepsAlive sessionId userId now) = none) ∧
      ∀ self ≥ calls.calls.length, later.view.phases[self]? ≠ some (.admitted sessionId)) ∧
    (∀ sessionId, ∃ chain, ChainOf (committedDb calls).refreshToken sessionId chain) ∧
    (∀ (self : Nat) replacementId, calls.view.phases[self]? = some (.replacing replacementId) →
      (committedDb calls).refreshToken.get? replacementId = none) := by
  have held : SessionsHold none constraints calls :=
    (respects_sessions nofun).holds (sessionsHold_atRest kept clock) reached
  have good : SessionsKept none (seen calls.view) := held.inv.2
  refine ⟨?_, ?_, ?_, good.tokens.chained, ?_⟩
  · exact fun _ _ _ _ _ rotated again => rotated_once held onward rotated again
  · exact fun sessionId first firstMem second secondMem firstSession secondSession =>
      good.tokens.chained.unrevoked_unique firstMem secondMem firstSession secondSession
  · intro sessionId begun ended
    obtain ⟨still, refused⟩ := ended_forever held begun ended onward
    exact ⟨still, find?_keepsAlive_of_ended still, refused⟩
  · exact fun self replacementId shown => ((good.phases self _ shown).token _ rfl).2

/-- A token is rotated, and presented again. -/
theorem refresh_tokens_single_use_example : ∃ calls later : AuthCalls,
    calls.view.phases[1]? = some (.rotated 8 10) ∧ later.view.phases.length = 3 ∧
      (∀ (second : Nat) secondId,
        later.view.phases[second]? = some (.rotated 8 secondId) → 1 = second) ∧
      ∃ chain, ChainOf (committedDb calls).refreshToken 7 chain := by
  have ran : ((runSessions (fun _ _ => true) Login.start (Login.opened ++ Login.replaced)).any
      fun calls =>
        decide (calls.view.phases[1]? = some (Phase.rotated 8 10)) &&
        (runSessions (fun _ _ => true) calls
          [.start (.refresh "rg" {}), .act 2 { outside := () } 6]).any fun later =>
            decide (later.view.phases.length = 3)) = true := by
    decide +kernel
  obtain ⟨calls, ranFirst, both⟩ := (Option.any_eq_true _ _).mp ran
  obtain ⟨shows, ranLast⟩ := Bool.and_eq_true_iff.mp both
  obtain ⟨later, ranSecond, ends⟩ := (Option.any_eq_true _ _).mp ranLast
  have rotated := of_decide_eq_true shows
  have passed : ∀ (self : Nat) (view : View Phase (State Db)), true = true → True :=
    fun _ _ _ => trivial
  obtain ⟨once, _, _, chained, _⟩ := refresh_tokens_single_use Login.kept
    (reaches_runSessions ranFirst passed) (reaches_runSessions ranSecond passed)
  exact ⟨calls, later, rotated, of_decide_eq_true ends,
    fun second secondId => once 1 second 8 10 secondId rotated, chained 7⟩

/-! ## Logout -/

/-- The condition of `LeavesNewest`, to be checked. -/
def leavesNewest (self : Nat) (view : View Phase (State Db)) : Bool :=
  match view.phases[self]? with
  | some (.leaving tokenHash) => view.shared.db.refreshToken.rows.all fun row =>
      row.tokenHash != tokenHash || row.revokedAt.isNone
  | _ => true

theorem leavesNewest_sound {self : Nat} {view : View Phase (State Db)}
    (passes : leavesNewest self view = true) : LeavesNewest self view := by
  intro tokenHash phaseAt row member sameHash
  simp only [leavesNewest, phaseAt, List.all_eq_true] at passes
  have passed := passes row member
  rw [sameHash] at passed
  exact .inl (by simpa using passed)

/-- A logout with a token of a session that has returned has ended the session, if no logout
in between was carried out with a token that had been replaced: no refresh of the session
succeeds any more, and no call that is started later lets a request of it pass. -/
theorem logout_ends_session {crypto : Crypto} {constraints : Db → Option Failure}
    {start : State Db} {clock : Time} {issued calls later : AuthCalls} {row : RefreshToken}
    {sessionId : Id} {leaver : Nat} (kept : TokensKept start)
    (reached : SessionsReach crypto constraints (fun _ _ => True) (atRest start clock) issued)
    (token : row ∈ (committedDb issued).refreshToken) (session : row.sessionId = some sessionId)
    (onward : SessionsReach crypto constraints LeavesNewest issued calls)
    (started : leaver ≥ issued.calls.length)
    (left : calls.view.phases[leaver]? = some (.left row.tokenHash))
    (after : SessionsReach crypto constraints (fun _ _ => True) calls later) :
    Ended (committedDb later).refreshToken sessionId ∧
      (∀ (self : Nat) tokenId replacementId,
        later.view.phases[self]? = some (.rotated tokenId replacementId) →
        ∀ rotated ∈ (committedDb later).refreshToken, rotated.id = tokenId →
        rotated.sessionId = some sessionId →
        calls.view.phases[self]? = some (.rotated tokenId replacementId)) ∧
      ∀ self ≥ calls.calls.length, later.view.phases[self]? ≠ some (.admitted sessionId) := by
  have heldIssued : SessionsHold none constraints issued :=
    (respects_sessions nofun).holds (sessionsHold_atRest kept clock) reached
  have watched : SessionsHold (some (.token row.id sessionId issued.calls.length)) constraints
      issued :=
    sessionsHold_watched heldIssued ⟨row, Table.get?_some.mpr ⟨token, rfl⟩, session⟩
      fun _ _ _ early late => absurd early (Nat.not_lt.mpr late)
  have permits : ∀ self view, LeavesNewest self view →
      (sessions (some (.token row.id sessionId issued.calls.length))).Permits self view :=
    fun _ _ newest _ _ _ _ => newest
  have good : SessionsKept _ (seen calls.view) :=
    ((respects_sessions permits).holds watched onward).inv.2
  have develops := (sessions_develop permits watched onward).1
  obtain ⟨aged, foundAged, ages⟩ :=
    develops.grows.ages row.id row (Table.get?_some.mpr ⟨token, rfl⟩)
  have begun : Begun (committedDb calls).refreshToken sessionId :=
    ⟨aged, (Table.get?_some.mp foundAged).1, ages.session.trans session⟩
  have ended : Ended (committedDb calls).refreshToken sessionId :=
    good.allowed _ rfl leaver _ left started aged foundAged (ages.tokenHash ▸ rfl)
  have held : SessionsHold none constraints calls :=
    (respects_sessions nofun).holds heldIssued onward
  obtain ⟨still, refused⟩ := ended_forever held begun ended after
  refine ⟨still, fun self tokenId replacementId shown rotated member sameId ofSession => ?_, refused⟩
  obtain ⟨grows, rotates⟩ := sessions_develop nofun held after
  rcases rotates self tokenId replacementId shown with earlier | live
  · exact earlier
  · have old := grows.grows.closed sessionId begun ended rotated member ofSession
    have unrevoked := live rotated (Table.get?_some.mpr ⟨old, sameId⟩)
    exact absurd unrevoked (ended rotated old ofSession)

/-- A user logs out with the token that the refresh returned; the access token is refused. -/
theorem logout_ends_session_example : ∃ calls later : AuthCalls,
    calls.view.phases[2]? = some (.left "#rj") ∧ later.view.phases.length = 4 ∧
      Ended (committedDb later).refreshToken 7 ∧
      ∀ self ≥ calls.calls.length, later.view.phases[self]? ≠ some (.admitted 7) := by
  have ran : ((runSessions (fun _ _ => true) Login.start (Login.opened ++ Login.replaced)).any
      fun issued =>
        ((committedDb issued).refreshToken.find? fun row =>
            row.tokenHash == "#rj" && row.sessionId == some 7).any fun row =>
          decide (row.tokenHash = "#rj") && decide (issued.calls.length = 2) &&
          (runSessions leavesNewest issued (Login.closed "rj")).any fun calls =>
            decide (calls.view.phases[2]? = some (Phase.left "#rj")) &&
            (runSessions (fun _ _ => true) calls Login.refused).any fun later =>
              decide (later.view.phases.length = 4)) = true := by
    decide +kernel
  obtain ⟨issued, ranFirst, rest⟩ := (Option.any_eq_true _ _).mp ran
  obtain ⟨row, found, rest⟩ := (Option.any_eq_true _ _).mp rest
  obtain ⟨shown, rest⟩ := Bool.and_eq_true_iff.mp rest
  obtain ⟨hash, two⟩ := Bool.and_eq_true_iff.mp shown
  obtain ⟨calls, ranSecond, rest⟩ := (Option.any_eq_true _ _).mp rest
  obtain ⟨left, rest⟩ := Bool.and_eq_true_iff.mp rest
  obtain ⟨later, ranThird, four⟩ := (Option.any_eq_true _ _).mp rest
  obtain ⟨token, holds⟩ := Table.find?_some found
  have session : row.sessionId = some 7 := by
    simpa using (Bool.and_eq_true_iff.mp holds).2
  have phaseAt : calls.view.phases[2]? = some (.left row.tokenHash) := by
    rw [of_decide_eq_true hash]
    exact of_decide_eq_true left
  have passed : ∀ (self : Nat) (view : View Phase (State Db)), true = true → True :=
    fun _ _ _ => trivial
  obtain ⟨ended, _, refused⟩ := logout_ends_session Login.kept
    (reaches_runSessions ranFirst passed) token session
    (reaches_runSessions ranSecond fun _ _ => leavesNewest_sound)
    (Nat.le_of_eq (of_decide_eq_true two)) phaseAt (reaches_runSessions ranThird passed)
  exact ⟨calls, later, of_decide_eq_true left, of_decide_eq_true four, ended, refused⟩

/-- A user logs out with the token that was replaced; a later request of the session passes. -/
theorem logout_keeps_session : ∃ issued calls later : AuthCalls,
    SessionsReach Login.crypto violation (fun _ _ => True) Login.start issued ∧
      ((committedDb issued).refreshToken.find? fun row =>
        row.tokenHash == "#rg" && row.sessionId == some 7).isSome ∧ issued.calls.length = 2 ∧
      SessionsReach Login.crypto violation (fun _ _ => True) issued calls ∧
      calls.view.phases[2]? = some (.left "#rg") ∧ calls.calls.length = 3 ∧
      SessionsReach Login.crypto violation (fun _ _ => True) calls later ∧
      later.view.phases[3]? = some (.admitted 7) := by
  have ran : ((runSessions (fun _ _ => true) Login.start (Login.opened ++ Login.replaced)).any
      fun issued =>
        ((committedDb issued).refreshToken.find? fun row =>
          row.tokenHash == "#rg" && row.sessionId == some 7).isSome &&
        decide (issued.calls.length = 2) &&
        (runSessions (fun _ _ => true) issued (Login.closed "rg")).any fun calls =>
          decide (calls.view.phases[2]? = some (Phase.left "#rg")) &&
          decide (calls.calls.length = 3) &&
          (runSessions (fun _ _ => true) calls Login.asked).any fun later =>
            decide (later.view.phases[3]? = some (Phase.admitted 7))) = true := by
    decide +kernel
  have passed : ∀ (self : Nat) (view : View Phase (State Db)), true = true → True :=
    fun _ _ _ => trivial
  obtain ⟨issued, ranFirst, rest⟩ := (Option.any_eq_true _ _).mp ran
  obtain ⟨shown, rest⟩ := Bool.and_eq_true_iff.mp rest
  obtain ⟨found, two⟩ := Bool.and_eq_true_iff.mp shown
  obtain ⟨calls, ranSecond, rest⟩ := (Option.any_eq_true _ _).mp rest
  obtain ⟨shown, rest⟩ := Bool.and_eq_true_iff.mp rest
  obtain ⟨left, three⟩ := Bool.and_eq_true_iff.mp shown
  obtain ⟨later, ranThird, admitted⟩ := (Option.any_eq_true _ _).mp rest
  exact ⟨issued, calls, later, reaches_runSessions ranFirst passed, found,
    of_decide_eq_true two, reaches_runSessions ranSecond passed, of_decide_eq_true left,
    of_decide_eq_true three, reaches_runSessions ranThird passed, of_decide_eq_true admitted⟩

end Mosp.Guarantees
