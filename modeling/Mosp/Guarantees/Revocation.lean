import Mosp.Auth.Revocation

/-!
# Revocation

Any number of calls of the credential services, interleaved statement by
statement.  A revocation is final as long as no `rotate` writes to a credential
that was revoked after it looked; when one does, the credential is active
again.
-/

namespace Mosp.Guarantees

open Mosp.Concurrency Mosp.Data Mosp.Sql Mosp.Auth
open Mosp.Database (Id Time)

/-- The operations on API credentials. -/
inductive CredentialRequest where
  | create (organizationId : Id) (input : ApiCredentialCreateRequest)
      (metadata : ApiCredentialActionMetadata)
  | rotate (organizationId credentialId : Id) (input : ApiCredentialRotateRequest)
      (metadata : ApiCredentialActionMetadata)
  | revoke (organizationId credentialId : Id) (metadata : ApiCredentialActionMetadata)
  | authenticate (token : Option String)

namespace CredentialRequest

/-- The program of a request; its answer goes to the client. -/
def program (crypto : Crypto) : CredentialRequest → Service Unit
  | .create organizationId input metadata =>
      discard (ApiCredentialService.create crypto organizationId input metadata)
  | .rotate organizationId credentialId input metadata =>
      discard (ApiCredentialService.rotate crypto organizationId credentialId input metadata)
  | .revoke organizationId credentialId metadata =>
      discard (ApiCredentialService.revoke organizationId credentialId metadata)
  | .authenticate token => discard (ApiCredentialAuthenticator.authenticate crypto token)

end CredentialRequest

/-- The calls in progress over the tables of authentication. -/
abbrev AuthCalls := Pool (Exchange Elsewhere Db Write Lock Failure) Phase Failure
  (Store Db Write Lock Unit)

/-- Nothing is answered besides the database. -/
def nowhere {β : Type} : Elsewhere β → Unit → Nat → Unit → β × Unit :=
  nofun

/-- No call is in progress over a database. -/
def atRest (state : State Db) (clock : Time) : AuthCalls :=
  ⟨{ committed := state, clock, outside := () }, []⟩

/-- The committed database. -/
def committedDb (calls : AuthCalls) : Db :=
  calls.shared.committed.db

/-- What runs of the credential services reach. -/
def CredentialsReach (crypto : Crypto) (constraints : Db → Option Failure)
    (condition : Nat → View Phase (State Db) → Prop) : AuthCalls → AuthCalls → Prop :=
  Reaches constraints nowhere (fun (action : Empty) _ => action.elim)
    (CredentialRequest.program crypto) (fun _ => True) condition

section

variable {crypto : Crypto} {constraints : Db → Option Failure}

theorem runs_credentialRequest (watch : Option Watch) (request : CredentialRequest) (self : Nat) :
    (revocation watch).Runs constraints nowhere self default (fun _ => True)
      (request.program crypto) (fun _ _ => True) (fun _ _ => True) := by
  cases request with
  | create organizationId input metadata =>
      exact Contract.Triple.bind (runs_create organizationId input metadata) fun _ =>
        Contract.Triple.pure fun _ _ => trivial
  | rotate organizationId credentialId input metadata =>
      exact Contract.Triple.bind (runs_rotate organizationId credentialId input metadata) fun _ =>
        Contract.Triple.pure fun _ _ => trivial
  | revoke organizationId credentialId metadata =>
      exact Contract.Triple.bind (runs_revoke organizationId credentialId metadata) fun _ =>
        Contract.Triple.pure fun _ _ => trivial
  | authenticate token =>
      exact Contract.Triple.bind (runs_authenticate token) fun _ =>
        Contract.Triple.pure fun _ _ => trivial

theorem respects_revocation (watch : Option Watch) :
    Contract.Respects (readCommitted constraints nowhere Phase)
      (surround fun (action : Empty) _ => action.elim)
      (Permitted (CredentialRequest.program crypto) (fun _ => True) RotatesActive)
      ((revocation watch).contract (X := Unit)) :=
  Protocol.respects trivial (fun request _ self => runs_credentialRequest watch request self)
    fun _ _ permitted => permitted

theorem holds_atRest (start : State Db) (clock : Time) :
    Contract.Holds (readCommitted constraints nowhere Phase)
      ((revocation none).contract (X := Unit)) (atRest start clock) := by
  constructor
  · constructor
    · intro self write member
      contradiction
    · constructor
      · intro self credentialId phaseAt
        contradiction
      · intro watched none_
        contradiction
      · intro watched none_
        contradiction
  · intro self call callAt
    contradiction

/-- Once a credential is seen revoked, the calls in progress may go on although it is
watched. -/
theorem holds_watched {calls : AuthCalls} {credentialId : Id}
    (held : Contract.Holds (readCommitted constraints nowhere Phase)
      ((revocation none).contract (X := Unit)) calls)
    (now : Revoked (committedDb calls) credentialId) :
    Contract.Holds (readCommitted constraints nowhere Phase)
      ((revocation (some ⟨credentialId, calls.calls.length⟩)).contract (X := Unit)) calls := by
  refine Protocol.holds_since held Iff.rfl Iff.rfl (fun permitted => permitted) ?_ ?_ ?_
  · intro view good
    exact ⟨good.revoked, nofun, nofun⟩
  · intro before after strict good develops phases
    constructor
    · exact good.revoked
    · exact fun watched same => develops _ (strict.watched watched same)
    · intro watched same self late
      obtain rfl := Option.some.inj same
      rw [phases self late]
      exact strict.refused _ rfl self late
  · constructor
    · exact held.inv.2.revoked
    · intro watched same
      obtain rfl := Option.some.inj same
      exact now
    · intro watched same self late phaseAt
      obtain rfl := Option.some.inj same
      have inside : self < calls.view.phases.length := (List.getElem?_eq_some_iff.mp phaseAt).1
      rw [Pool.view, List.length_map] at inside
      exact absurd inside (Nat.not_lt.mpr late)

end

/-! ## An organization with one credential -/

namespace Credential

/-- Readable stand-ins for the cryptography. -/
def crypto : Crypto where
  randomText length randomness := String.ofList
    (List.replicate (length - 1) 'x' ++ [Char.ofNat ('a'.toNat + randomness % 26)])
  sha256Hex text := String.ofList ((text.toList.reverse ++ List.replicate 64 '0').take 64 |>.map
    fun character => if character.isDigit then character else 'a')
  verifyPassword password passwordHash := password == passwordHash
  issueAccessToken _ now := ("", now)
  verifyAccessToken _ _ := none

def db : Db where
  user := .ofRows [{ id := 5, email := "owner@example.com", passwordHash := "" }]
  virtualNamespace :=
    .ofRows [{ id := 2, organizationId := 1, name := "Files", slug := "files" }]
  apiCredential :=
    .ofRows
      [{ id := 7, organizationId := 1, namespaceId := 2, keyId := "mosp_first", secretHash := ""
         createdById := 5 }]

def start : AuthCalls :=
  atRest ⟨db, 20⟩ 1000

def metadata : ApiCredentialActionMetadata :=
  ⟨5, "request"⟩

/-- A rotation looks at the credential before it is revoked. -/
def revoked : List (Script CredentialRequest Failure Unit Empty) :=
  [.start (.rotate 1 7 {} metadata), .start (.revoke 1 7 metadata),
    .act 0 { outside := () } 5, .act 1 { outside := () } 8]

/-- A rotation ends before the credential is revoked. -/
def rotated : List (Script CredentialRequest Failure Unit Empty) :=
  [.start (.rotate 1 7 {} metadata), .start (.revoke 1 7 metadata),
    .act 0 { outside := () } 10, .act 1 { outside := () } 8]

/-- The token that the rotation returns. -/
def token : String :=
  "mosp_" ++ crypto.randomText 18 20 ++ "." ++ "mosp_secret_" ++ crypto.randomText 32 21

/-- The rotation goes on, and its token is presented. -/
def reactivated : List (Script CredentialRequest Failure Unit Empty) :=
  [.act 0 { outside := () } 5, .start (.authenticate (some token)), .act 2 { outside := () } 7]

/-- The token of the rotation is presented after the revocation. -/
def refused : List (Script CredentialRequest Failure Unit Empty) :=
  [.start (.authenticate (some token)), .act 2 { outside := () } 4]

end Credential

/-- The condition of `RotatesActive`, to be checked. -/
def rotatesActive (self : Nat) (view : View Phase (State Db)) : Bool :=
  match view.phases[self]? with
  | some (.rotating credentialId) => decide (Active view.shared.db credentialId)
  | _ => true

theorem rotatesActive_sound {self : Nat} {view : View Phase (State Db)}
    (passes : rotatesActive self view = true) : RotatesActive self view := by
  intro credentialId phaseAt
  simp only [rotatesActive, phaseAt] at passes
  exact of_decide_eq_true passes

/-- Run scripts of the credential services. -/
def runCredentials (passes : Nat → View Phase (State Db) → Bool) :
    AuthCalls → List (Script CredentialRequest Failure Unit Empty) → Option AuthCalls :=
  runScripts violation nowhere (fun action _ => action.elim)
    (CredentialRequest.program Credential.crypto) passes

theorem reaches_runCredentials {passes : Nat → View Phase (State Db) → Bool}
    {condition : Nat → View Phase (State Db) → Prop} {start calls : AuthCalls}
    {scripts : List (Script CredentialRequest Failure Unit Empty)}
    (ran : runCredentials passes start scripts = some calls)
    (passed : ∀ self view, passes self view = true → condition self view) :
    CredentialsReach Credential.crypto violation condition start calls :=
  reaches_runScripts ran (fun _ _ => trivial) passed

/-- A run in two parts, with a look at where each of them ends. -/
theorem reaches_twice {passes : Nat → View Phase (State Db) → Bool}
    {condition : Nat → View Phase (State Db) → Prop}
    {first second : List (Script CredentialRequest Failure Unit Empty)}
    {middle last : AuthCalls → Bool}
    (ran : ((runCredentials passes Credential.start first).any fun calls =>
      middle calls && (runCredentials passes calls second).any last) = true)
    (passed : ∀ self view, passes self view = true → condition self view) :
    ∃ calls later, CredentialsReach Credential.crypto violation condition Credential.start calls ∧
      middle calls = true ∧
      CredentialsReach Credential.crypto violation condition calls later ∧ last later = true := by
  obtain ⟨calls, ranFirst, both⟩ := (Option.any_eq_true _ _).mp ran
  obtain ⟨shows, ranLast⟩ := Bool.and_eq_true_iff.mp both
  obtain ⟨later, ranSecond, ends⟩ := (Option.any_eq_true _ _).mp ranLast
  exact ⟨calls, later, reaches_runCredentials ranFirst passed, shows,
    reaches_runCredentials ranSecond passed, ends⟩

/-- From the state in which a call has revoked the credential on, the credential stays
revoked, and no call that is started later identifies it. -/
theorem revocation_final {crypto : Crypto} {constraints : Db → Option Failure}
    {start : State Db} {clock : Time} {calls later : AuthCalls} {credentialId : Id}
    {revoker : Nat}
    (reached : CredentialsReach crypto constraints RotatesActive (atRest start clock) calls)
    (revoked : calls.view.phases[revoker]? = some (.revoked credentialId))
    (onward : CredentialsReach crypto constraints RotatesActive calls later) :
    Revoked (committedDb later) credentialId ∧
      ∀ self ≥ calls.calls.length, later.view.phases[self]? ≠ some (.accepted credentialId) := by
  have held := (respects_revocation none).holds (holds_atRest start clock) reached
  have good : Revocations none (seen calls.view) := held.inv.2
  have watched := holds_watched held (good.revoked revoker credentialId revoked)
  have ends := ((respects_revocation _).holds watched onward).inv.2
  exact ⟨ends.watched _ rfl, ends.refused _ rfl⟩

/-- A credential that is revoked after it was rotated; the token of the rotation comes too
late. -/
theorem revocation_final_example : ∃ calls later : AuthCalls,
    calls.calls.length = 2 ∧ calls.view.phases[1]? = some (.revoked 7) ∧
      later.view.phases.length = 3 ∧ Revoked (committedDb later) 7 ∧
      ∀ self ≥ calls.calls.length, later.view.phases[self]? ≠ some (.accepted 7) := by
  have ran : ((runCredentials rotatesActive Credential.start Credential.rotated).any fun calls =>
      (decide (calls.calls.length = 2) &&
        decide (calls.view.phases[1]? = some (Phase.revoked 7))) &&
      (runCredentials rotatesActive calls Credential.refused).any fun later =>
        decide (later.view.phases.length = 3)) = true := by
    decide +kernel
  obtain ⟨calls, later, reached, shows, onward, ends⟩ :=
    reaches_twice ran fun self view => rotatesActive_sound
  obtain ⟨two, revoked⟩ := Bool.and_eq_true_iff.mp shows
  obtain ⟨still, refused⟩ := revocation_final reached (of_decide_eq_true revoked) onward
  exact ⟨calls, later, of_decide_eq_true two, of_decide_eq_true revoked, of_decide_eq_true ends,
    still, refused⟩

/-- A rotation that looked before the revocation makes the credential active again, and its
token is accepted. -/
theorem revocation_lost : ∃ calls later : AuthCalls,
    CredentialsReach Credential.crypto violation (fun _ _ => True) Credential.start calls ∧
      calls.view.phases[1]? = some (.revoked 7) ∧ calls.calls.length = 2 ∧
      CredentialsReach Credential.crypto violation (fun _ _ => True) calls later ∧
      Active (committedDb later) 7 ∧ later.view.phases[2]? = some (.accepted 7) := by
  have ran : ((runCredentials (fun _ _ => true) Credential.start Credential.revoked).any
      fun calls =>
        (decide (calls.view.phases[1]? = some (Phase.revoked 7)) &&
          decide (calls.calls.length = 2)) &&
        (runCredentials (fun _ _ => true) calls Credential.reactivated).any fun later =>
          decide (Active (committedDb later) 7) &&
            decide (later.view.phases[2]? = some (Phase.accepted 7))) = true := by
    decide +kernel
  have passed : ∀ (self : Nat) (view : View Phase (State Db)), true = true → True :=
    fun _ _ _ => trivial
  obtain ⟨calls, later, reached, shows, onward, ends⟩ := reaches_twice ran passed
  obtain ⟨revoked, two⟩ := Bool.and_eq_true_iff.mp shows
  obtain ⟨active, accepted⟩ := Bool.and_eq_true_iff.mp ends
  exact ⟨calls, later, reached, of_decide_eq_true revoked, of_decide_eq_true two, onward,
    of_decide_eq_true active, of_decide_eq_true accepted⟩

end Mosp.Guarantees
