import Mosp.Auth.Lifecycle
import Mosp.Data.Base64
import Mosp.Guarantees.Revocation

/-!
# The life of a credential

Any sequence of calls of the credential services, one at a time.  What was
issued is read off the answers that were given; the authenticator accepts the
token of the most recent issue, until the credential is revoked or expires.
-/

namespace Mosp.Guarantees

open Mosp.Concurrency Mosp.Data Mosp.Sql Mosp.Auth
open Mosp.Database (Id Time ApiCredentialStatus)

/-! ## What was issued -/

/-- The calls on API credentials. -/
inductive CredentialCall where
  | create (organizationId : Id) (input : ApiCredentialCreateRequest)
      (metadata : ApiCredentialActionMetadata)
  | rotate (organizationId credentialId : Id) (input : ApiCredentialRotateRequest)
      (metadata : ApiCredentialActionMetadata)
  | revoke (organizationId credentialId : Id) (metadata : ApiCredentialActionMetadata)
  | authenticate (token : Option String)

inductive CredentialAnswer where
  | issued (created : CreatedApiCredential)
  | revoked (summary : ApiCredentialSummary)
  | accepted (identity : ApiCredentialIdentity)

def CredentialCall.program (crypto : Crypto) : CredentialCall → Service CredentialAnswer
  | .create organizationId input metadata =>
      (ApiCredentialService.create crypto organizationId input metadata).bind fun created =>
        .pure (.issued created)
  | .rotate organizationId credentialId input metadata =>
      (ApiCredentialService.rotate crypto organizationId credentialId input metadata).bind
        fun created => .pure (.issued created)
  | .revoke organizationId credentialId metadata =>
      (ApiCredentialService.revoke organizationId credentialId metadata).bind fun summary =>
        .pure (.revoked summary)
  | .authenticate token =>
      (ApiCredentialAuthenticator.authenticate crypto token).bind fun identity =>
        .pure (.accepted identity)

/-- A call and how it was answered. -/
structure CredentialEvent where
  call : CredentialCall
  answer : Except Failure CredentialAnswer

/-- A credential as its most recent issue left it. -/
structure IssuedCredential where
  organizationId : Id
  namespaceId : Id
  keyId : String
  secret : String
  expiresAt : Option Time
  revoked : Bool
deriving DecidableEq

/-- The credentials after another call.  A call that failed counts for nothing. -/
def issuedAfter (ledger : Id → Option IssuedCredential) (event : CredentialEvent) :
    Id → Option IssuedCredential :=
  match event.call, event.answer with
  | .create organizationId input _, .ok (.issued created) =>
      Function.update ledger created.credential.id
        (some { organizationId
                namespaceId := input.namespaceId
                keyId := created.credential.keyId
                secret := created.secret
                expiresAt := created.credential.expiresAt
                revoked := false })
  | .rotate _ credentialId _ _, .ok (.issued created) =>
      Function.update ledger credentialId
        ((ledger credentialId).map fun old =>
          { old with
            keyId := created.credential.keyId
            secret := created.secret
            expiresAt := created.credential.expiresAt })
  | .revoke _ credentialId _, .ok (.revoked _) =>
      Function.update ledger credentialId
        ((ledger credentialId).map fun old => { old with revoked := true })
  | _, _ => ledger

/-- The credentials that a sequence of calls has issued. -/
def credentialsIn (events : List CredentialEvent) : Id → Option IssuedCredential :=
  events.foldl issuedAfter fun _ => none

/-- The pairs that were handed out. -/
def issuesOf (events : List CredentialEvent) : List CreatedApiCredential :=
  events.filterMap fun event => match event.answer with
    | .ok (.issued created) => some created
    | _ => none

theorem credentialsIn_append (events : List CredentialEvent) (event : CredentialEvent) :
    credentialsIn (events ++ [event]) = issuedAfter (credentialsIn events) event := by
  rw [credentialsIn, List.foldl_append]
  rfl

/-! ## Sequences of calls -/

/-- What a sequence of calls, each on its own, has led to.  Commands may fail, and time passes. -/
inductive Lifecycle (crypto : Crypto) : List CredentialEvent → AuthStore → Prop where
  | start {state : State Db} {clock : Time} (valid : violation state.db = none)
      (empty : ∀ row, row ∉ state.db.apiCredential) : Lifecycle crypto [] (.rest state clock ())
  | passes {events : List CredentialEvent} {store : AuthStore} (milliseconds : Nat)
      (earlier : Lifecycle crypto events store) :
      Lifecycle crypto events { store with clock := store.clock + milliseconds }
  | call {events : List CredentialEvent} {store after : AuthStore}
      {answer : Except Failure CredentialAnswer} (called : CredentialCall)
      (outcomes : List (Outcome Failure Unit)) (earlier : Lifecycle crypto events store)
      (answered : (called.program crypto).follow (readCommitted violation nowhere Phase) 0 outcomes
        store = some (answer, after)) :
      Lifecycle crypto (events ++ [⟨called, answer⟩]) after

/-- The authenticator, run on its own and undisturbed, lets a token pass. -/
def Authenticates (crypto : Crypto) (store : AuthStore) (token : String)
    (identity : ApiCredentialIdentity) : Prop :=
  (ApiCredentialAuthenticator.authenticate crypto (some token)).Ends
    (readCommitted violation nowhere Phase) Undisturbed 0
    (fun result _ => result = .ok identity) store

section

variable {crypto : Crypto} {events : List CredentialEvent} {store : AuthStore}

def IssuedCredential.shown (crypto : Crypto) (issued : IssuedCredential) : ShownCredential :=
  { organizationId := issued.organizationId
    namespaceId := issued.namespaceId
    keyId := issued.keyId
    secretHash := crypto.sha256Hex issued.secret
    expiresAt := issued.expiresAt
    status := if issued.revoked then .revoked else .active }

/-- The database holds the credentials that were issued. -/
structure Tracks (crypto : Crypto) (events : List CredentialEvent) (db : Db) : Prop where
  valid : violation db = none
  shown : credentialsOf db = Option.map (IssuedCredential.shown crypto) ∘ credentialsIn events
  pairs : ∀ created ∈ issuesOf events, IsPair created.credential.keyId created.secret
  current : ∀ id issued, credentialsIn events id = some issued → ∃ created ∈ issuesOf events,
    created.credential.id = id ∧ created.credential.keyId = issued.keyId ∧
      created.secret = issued.secret

/-- What an answer says about the credentials. -/
def Answers (crypto : Crypto) (before : Id → Option ShownCredential) (called : CredentialCall)
    (answer : Except Failure CredentialAnswer) (after : Id → Option ShownCredential) : Prop :=
  match called, answer with
  | .create organizationId input _, .ok (.issued created) =>
      Creates crypto organizationId input.namespaceId before created after
  | .rotate _ credentialId _ _, .ok (.issued created) =>
      Rotates crypto credentialId before created after
  | .revoke _ credentialId _, .ok (.revoked summary) => Revokes credentialId before summary after
  | .authenticate _, .ok (.accepted _) => after = before
  | _, .error _ => after = before
  | _, _ => False

theorem program_atRest (documented : crypto.Documented) (called : CredentialCall) {clock : Time}
    {state : State Db} (valid : violation state.db = none) :
    EndsAtRest violation nowhere Anyhow clock (called.program crypto)
      (fun answer db => Answers crypto (credentialsOf state.db) called answer (credentialsOf db))
      state := by
  cases called with
  | create organizationId input metadata =>
      exact EndsAtRest.bind (create_atRest documented valid)
        (fun created ended endedValid creates => EndsAtRest.pure endedValid creates)
        fun error db kept => kept
  | rotate organizationId credentialId input metadata =>
      exact EndsAtRest.bind (rotate_atRest documented valid)
        (fun created ended endedValid rotates => EndsAtRest.pure endedValid rotates)
        fun error db kept => kept
  | revoke organizationId credentialId metadata =>
      exact EndsAtRest.bind (revoke_atRest valid)
        (fun summary ended endedValid revokes => EndsAtRest.pure endedValid revokes)
        fun error db kept => kept
  | authenticate token =>
      exact EndsAtRest.bind (authenticate_atRest valid)
        (fun identity ended endedValid kept => EndsAtRest.pure endedValid kept)
        fun error db kept => kept

theorem issuesOf_append (event : CredentialEvent) :
    issuesOf (events ++ [event]) = issuesOf events ++ issuesOf [event] :=
  List.filterMap_append

/-- A call that issues nothing and changes no credential. -/
theorem Tracks.unchanged {before after : Db} {event : CredentialEvent}
    (tracks : Tracks crypto events before) (valid : violation after = none)
    (nothing : issuesOf [event] = []) (same : issuedAfter (credentialsIn events) event =
      credentialsIn events) (kept : credentialsOf after = credentialsOf before) :
    Tracks crypto (events ++ [event]) after where
  valid := valid
  shown := by
    rw [kept, tracks.shown, credentialsIn_append, same]
  pairs := by
    rw [issuesOf_append, nothing, List.append_nil]
    exact tracks.pairs
  current := by
    rw [issuesOf_append, nothing, List.append_nil, credentialsIn_append, same]
    exact tracks.current

/-- A call that issues a pair for a credential. -/
theorem Tracks.issues {before after : Db} {event : CredentialEvent} {created : CreatedApiCredential}
    {issued : IssuedCredential} (tracks : Tracks crypto events before)
    (valid : violation after = none) (one : issuesOf [event] = [created])
    (changed : issuedAfter (credentialsIn events) event =
      Function.update (credentialsIn events) created.credential.id (some issued))
    (pair : IsPair created.credential.keyId created.secret)
    (keyId : issued.keyId = created.credential.keyId) (secret : issued.secret = created.secret)
    (shown : credentialsOf after = Function.update (credentialsOf before) created.credential.id
      (some (issued.shown crypto))) : Tracks crypto (events ++ [event]) after where
  valid := valid
  shown := by
    rw [shown, tracks.shown, credentialsIn_append, changed, Function.comp_update]
    rfl
  pairs := by
    rw [issuesOf_append, one]
    intro other member
    rcases List.mem_append.mp member with old | new
    · exact tracks.pairs other old
    · rw [List.mem_singleton.mp new]
      exact pair
  current := by
    rw [issuesOf_append, one, credentialsIn_append, changed]
    intro id other found
    by_cases same : id = created.credential.id
    · rw [same, Function.update_self] at found
      obtain rfl := Option.some.inj found
      exact ⟨created, List.mem_append_right _ (List.mem_singleton_self _), same.symm, keyId.symm,
        secret.symm⟩
    · rw [Function.update_of_ne same] at found
      obtain ⟨earlier, member, facts⟩ := tracks.current id other found
      exact ⟨earlier, List.mem_append_left _ member, facts⟩

/-- A stored credential is one that was issued. -/
theorem Tracks.issued_of_shown {db : Db} {id : Id} {old : ShownCredential}
    (tracks : Tracks crypto events db) (found : credentialsOf db id = some old) :
    ∃ issued, credentialsIn events id = some issued ∧ issued.shown crypto = old := by
  rw [tracks.shown] at found
  exact Option.map_eq_some_iff.mp found

/-- A call that revokes a credential. -/
theorem Tracks.revokes {before after : Db} {event : CredentialEvent} {id : Id}
    {issued : IssuedCredential} (tracks : Tracks crypto events before)
    (valid : violation after = none) (nothing : issuesOf [event] = [])
    (found : credentialsIn events id = some issued)
    (changed : issuedAfter (credentialsIn events) event =
      Function.update (credentialsIn events) id (some { issued with revoked := true }))
    (shown : credentialsOf after = Function.update (credentialsOf before) id
      (some { issued.shown crypto with status := .revoked })) :
    Tracks crypto (events ++ [event]) after where
  valid := valid
  shown := by
    rw [shown, tracks.shown, credentialsIn_append, changed, Function.comp_update]
    rfl
  pairs := by
    rw [issuesOf_append, nothing, List.append_nil]
    exact tracks.pairs
  current := by
    rw [issuesOf_append, nothing, List.append_nil, credentialsIn_append, changed]
    intro other current present
    by_cases same : other = id
    · rw [same, Function.update_self] at present
      obtain rfl := Option.some.inj present
      rw [same]
      exact tracks.current id issued found
    · rw [Function.update_of_ne same] at present
      exact tracks.current other current present

theorem Tracks.answers {before after : Db} {called : CredentialCall}
    {answer : Except Failure CredentialAnswer} (tracks : Tracks crypto events before)
    (valid : violation after = none)
    (answers : Answers crypto (credentialsOf before) called answer (credentialsOf after)) :
    Tracks crypto (events ++ [⟨called, answer⟩]) after := by
  cases answer with
  | error error =>
      apply tracks.unchanged valid rfl
      · cases called <;> rfl
      · cases called <;> exact answers
  | ok value =>
      cases called with
      | create organizationId input metadata =>
          cases value with
          | issued created =>
              obtain ⟨pair, shown⟩ := answers
              exact tracks.issues valid rfl rfl pair rfl rfl shown
          | _ => exact answers.elim
      | rotate organizationId credentialId input metadata =>
          cases value with
          | issued created =>
              obtain ⟨pair, rfl, old, stored, shown⟩ := answers
              obtain ⟨issued, found, rfl⟩ := tracks.issued_of_shown stored
              have changed : issuedAfter (credentialsIn events)
                  ⟨.rotate organizationId created.credential.id input metadata, .ok (.issued created)⟩ =
                  Function.update (credentialsIn events) created.credential.id
                    (some { issued with
                            keyId := created.credential.keyId
                            secret := created.secret
                            expiresAt := created.credential.expiresAt }) := by
                simp only [issuedAfter, found, Option.map_some]
              exact tracks.issues valid rfl changed pair rfl rfl shown
          | _ => exact answers.elim
      | revoke organizationId credentialId metadata =>
          cases value with
          | revoked summary =>
              obtain ⟨old, stored, shown⟩ := answers
              obtain ⟨issued, found, rfl⟩ := tracks.issued_of_shown stored
              apply tracks.revokes valid rfl found _ shown
              simp only [issuedAfter, found, Option.map_some]
          | _ => exact answers.elim
      | authenticate token =>
          cases value with
          | accepted identity => exact tracks.unchanged valid rfl rfl answers
          | _ => exact answers.elim

/-- Whatever sequence of calls was made, the database holds what they have issued. -/
theorem tracks_of_lifecycle (documented : crypto.Documented)
    (lifecycle : Lifecycle crypto events store) :
    ∃ state clock, store = .rest state clock () ∧ Tracks crypto events state.db := by
  induction lifecycle with
  | @start state clock valid empty =>
      refine ⟨state, clock, rfl, valid, ?_, nofun, nofun⟩
      funext id
      have missing : state.db.apiCredential.get? id = none :=
        Table.get?_none.mpr fun row member => absurd member (empty row)
      rw [credentialsOf, missing]
      rfl
  | passes milliseconds earlier ih =>
      obtain ⟨state, clock, rfl, tracks⟩ := ih
      exact ⟨state, clock + milliseconds, rfl, tracks⟩
  | call called outcomes earlier answered ih =>
      obtain ⟨state, clock, rfl, tracks⟩ := ih
      obtain ⟨ended, rfl, valid, answers⟩ :=
        Program.Ends.follow (program_atRest documented called tracks.valid) answered
      exact ⟨ended, clock, rfl, tracks.answers valid answers⟩

/-! ## Which tokens are accepted -/

/-- The secret of a token has the hash of an issued secret only if it is that secret. -/
def CollisionFree (crypto : Crypto) (events : List CredentialEvent) (token : String) : Prop :=
  ∀ keyId secret, parseApiCredentialToken (some token) = some (keyId, secret) →
    ∀ created ∈ issuesOf events,
      crypto.sha256Hex secret = crypto.sha256Hex created.secret → secret = created.secret

/-- The authenticator has one answer. -/
theorem authenticates_iff {state : State Db} {clock : Time} {token : String}
    {identity : ApiCredentialIdentity} (valid : violation state.db = none) :
    Authenticates crypto (.rest state clock ()) token identity ↔
      ∃ row, acceptedRow crypto state.db clock (some token) = some row ∧ identityOf row = identity := by
  have ends : EndsAtRest violation nowhere Undisturbed clock
      (ApiCredentialAuthenticator.authenticate crypto (some token)) _ state :=
    authenticate_undisturbed valid (touchable_of_valid valid)
  have possible {β : Type} (command : Exchange Elsewhere Db Write Lock Failure β) :
      ∃ outcome, Undisturbed command outcome := ⟨{ outside := () }, rfl⟩
  constructor
  · intro accepts
    obtain ⟨result, after, rfl, ended, rfl, _, answer⟩ :=
      (Program.Ends.both accepts ends).exists possible
    cases accepted : acceptedRow crypto state.db clock (some token) with
    | none =>
        rw [accepted] at answer
        contradiction
    | some row =>
        rw [accepted] at answer
        exact ⟨row, rfl, (Except.ok.inj answer).symm⟩
  · rintro ⟨row, accepted, rfl⟩
    apply Program.Ends.mono ends
    rintro result after ⟨ended, rfl, _, answer⟩
    rw [answer, accepted]

/-- A row is active where its issue was not revoked and has not expired. -/
theorem isActive_iff {row : ApiCredential} {issued : IssuedCredential} {now : Time}
    (shown : issued.shown crypto = row.shown) :
    row.isActive now = true ↔
      issued.revoked = false ∧ ∀ expiry ∈ issued.expiresAt, now < expiry := by
  have status : (if issued.revoked = true then ApiCredentialStatus.revoked else .active) =
      row.status := congrArg ShownCredential.status shown
  have expiresAt : issued.expiresAt = row.expiresAt := congrArg ShownCredential.expiresAt shown
  rw [ApiCredential.isActive, ← expiresAt, ← status]
  cases issued.revoked <;> cases issued.expiresAt <;> simp

theorem acceptedRow_iff {db : Db} {now : Time} {token : String} {row : ApiCredential}
    (documented : crypto.Documented) (tracks : Tracks crypto events db)
    (free : CollisionFree crypto events token) :
    acceptedRow crypto db now (some token) = some row ↔
      row ∈ db.apiCredential ∧ ∃ issued, credentialsIn events row.id = some issued ∧
        token = tokenOf issued.keyId issued.secret ∧ issued.revoked = false ∧
          ∀ expiry ∈ issued.expiresAt, now < expiry := by
  simp only [acceptedRow, Option.bind_eq_some_iff, Prod.exists, Option.filter_eq_some_iff,
    Bool.and_eq_true, decide_eq_true_eq]
  constructor
  · rintro ⟨keyId, secret, parsed, found, hashed, active⟩
    obtain ⟨member, sameKey⟩ := Table.find?_some found
    obtain ⟨issued, current, shown⟩ := tracks.issued_of_shown (credentialsOf_mem member)
    have keys : issued.keyId = row.keyId := congrArg ShownCredential.keyId shown
    have hashes : crypto.sha256Hex issued.secret = row.secretHash :=
      congrArg ShownCredential.secretHash shown
    rw [← hashes, safeExpectedHash_sha256Hex documented] at hashed
    obtain ⟨created, handedOut, _, _, sameSecret⟩ := tracks.current row.id issued current
    have secrets := free keyId secret parsed created handedOut (sameSecret ▸ hashed)
    obtain ⟨rfl, _⟩ := parseApiCredentialToken_iff.mp parsed
    refine ⟨member, issued, current, ?_, (isActive_iff shown).mp active⟩
    rw [keys, beq_iff_eq.mp sameKey, ← sameSecret, secrets]
  · rintro ⟨member, issued, current, rfl, active⟩
    obtain ⟨other, present, shown⟩ := tracks.issued_of_shown (credentialsOf_mem member)
    obtain rfl := Option.some.inj (current.symm.trans present)
    obtain ⟨created, handedOut, _, sameKey, sameSecret⟩ := tracks.current row.id issued current
    have pair : IsPair issued.keyId issued.secret :=
      sameKey ▸ sameSecret ▸ tracks.pairs created handedOut
    have keys : issued.keyId = row.keyId := congrArg ShownCredential.keyId shown
    have hashes : crypto.sha256Hex issued.secret = row.secretHash :=
      congrArg ShownCredential.secretHash shown
    refine ⟨issued.keyId, issued.secret, parseApiCredentialToken_iff.mpr ⟨rfl, pair⟩, ?_, ?_,
      (isActive_iff shown).mpr active⟩
    · apply Table.find?_eq_some_of_id member
      · exact beq_iff_eq.mpr keys.symm
      · intro other otherMem otherKey
        exact violation_eq_none.mp tracks.valid .apiCredentialKeyId other otherMem row member nofun
          (congrArg some ((beq_iff_eq.mp otherKey).trans keys))
    · rw [← hashes, safeExpectedHash_sha256Hex documented]
      rfl

/-- The identity that an issued credential stands for. -/
def IssuedCredential.identity (id : Id) (issued : IssuedCredential) : ApiCredentialIdentity :=
  { credentialId := id
    namespaceId := issued.namespaceId
    organizationId := issued.organizationId
    principalId := id }

theorem identityOf_shown {row : ApiCredential} {issued : IssuedCredential}
    (shown : issued.shown crypto = row.shown) : identityOf row = issued.identity row.id := by
  have organizations : issued.organizationId = row.organizationId :=
    congrArg ShownCredential.organizationId shown
  have namespaces : issued.namespaceId = row.namespaceId :=
    congrArg ShownCredential.namespaceId shown
  rw [identityOf, IssuedCredential.identity, organizations, namespaces]

/-- An issued credential is stored. -/
theorem Tracks.stored {db : Db} {id : Id} {issued : IssuedCredential}
    (tracks : Tracks crypto events db) (current : credentialsIn events id = some issued) :
    ∃ row ∈ db.apiCredential, row.id = id ∧ issued.shown crypto = row.shown := by
  have found : credentialsOf db id = some (issued.shown crypto) := by
    rw [tracks.shown, Function.comp_apply, current]
    rfl
  obtain ⟨row, stored, shown⟩ := Option.map_eq_some_iff.mp found
  obtain ⟨member, sameId⟩ := Table.get?_some.mp stored
  exact ⟨row, member, sameId, shown.symm⟩

/-- The token that the credential of an identity has now. -/
def IsCurrent (events : List CredentialEvent) (now : Time) (token : String)
    (identity : ApiCredentialIdentity) : Prop :=
  ∃ issued, credentialsIn events identity.credentialId = some issued ∧
    identity = issued.identity identity.credentialId ∧
    token = tokenOf issued.keyId issued.secret ∧ issued.revoked = false ∧
    ∀ expiry ∈ issued.expiresAt, now < expiry

theorem authenticates_iff_isCurrent (documented : crypto.Documented)
    (lifecycle : Lifecycle crypto events store) {token : String}
    (free : CollisionFree crypto events token) (identity : ApiCredentialIdentity) :
    Authenticates crypto store token identity ↔ IsCurrent events store.clock token identity := by
  obtain ⟨state, clock, rfl, tracks⟩ := tracks_of_lifecycle documented lifecycle
  rw [authenticates_iff tracks.valid]
  constructor
  · rintro ⟨row, accepted, rfl⟩
    obtain ⟨member, issued, current, rest⟩ := (acceptedRow_iff documented tracks free).mp accepted
    obtain ⟨other, present, shown⟩ := tracks.issued_of_shown (credentialsOf_mem member)
    obtain rfl := Option.some.inj (current.symm.trans present)
    exact ⟨issued, current, identityOf_shown shown, rest⟩
  · rintro ⟨issued, current, same, rest⟩
    obtain ⟨row, member, sameId, shown⟩ := tracks.stored current
    rw [same]
    rw [← sameId] at current ⊢
    exact ⟨row, (acceptedRow_iff documented tracks free).mpr ⟨member, issued, current, rest⟩,
      identityOf_shown shown⟩

theorem parse_issued (documented : crypto.Documented) (lifecycle : Lifecycle crypto events store)
    {created : CreatedApiCredential} (handedOut : created ∈ issuesOf events) :
    parseApiCredentialToken (some (tokenOf created.credential.keyId created.secret)) =
      some (created.credential.keyId, created.secret) := by
  obtain ⟨state, clock, rfl, tracks⟩ := tracks_of_lifecycle documented lifecycle
  exact parseApiCredentialToken_iff.mpr ⟨rfl, tracks.pairs created handedOut⟩

/-- A token that was handed out is current only as the last issue of its credential. -/
theorem IsCurrent.issue (documented : crypto.Documented)
    (lifecycle : Lifecycle crypto events store)
    (distinct : ((issuesOf events).map fun created => created.credential.keyId).Nodup)
    {created : CreatedApiCredential} (handedOut : created ∈ issuesOf events) {now : Time}
    {identity : ApiCredentialIdentity}
    (current : IsCurrent events now (tokenOf created.credential.keyId created.secret) identity) :
    ∃ issued, credentialsIn events created.credential.id = some issued ∧
      issued.keyId = created.credential.keyId ∧ issued.revoked = false := by
  obtain ⟨state, clock, rfl, tracks⟩ := tracks_of_lifecycle documented lifecycle
  obtain ⟨issued, last, -, same, unrevoked, -⟩ := current
  obtain ⟨other, otherMem, sameId, sameKey, sameSecret⟩ := tracks.current _ issued last
  have parsed := parse_issued documented lifecycle handedOut
  have parsedOther := parse_issued documented lifecycle otherMem
  rw [same, ← sameKey, ← sameSecret, parsedOther] at parsed
  have keys : other.credential.keyId = created.credential.keyId :=
    (Prod.mk.inj (Option.some.inj parsed)).1
  obtain rfl := List.inj_on_of_nodup_map distinct otherMem handedOut keys
  rw [← sameId] at last
  exact ⟨issued, last, sameKey.symm, unrevoked⟩

/-- The authenticator lets exactly the current tokens pass. -/
theorem credential_lifecycle (documented : crypto.Documented)
    (lifecycle : Lifecycle crypto events store)
    (distinct : ((issuesOf events).map fun created => created.credential.keyId).Nodup)
    {token : String} (free : CollisionFree crypto events token) :
    (∀ identity, Authenticates crypto store token identity ↔
      IsCurrent events store.clock token identity) ∧
    (∀ created ∈ issuesOf events,
      parseApiCredentialToken (some (tokenOf created.credential.keyId created.secret)) =
        some (created.credential.keyId, created.secret)) ∧
    ∀ created ∈ issuesOf events, token = tokenOf created.credential.keyId created.secret →
      (∀ issued, credentialsIn events created.credential.id = some issued →
        issued.keyId ≠ created.credential.keyId) →
      ∀ identity, ¬Authenticates crypto store token identity := by
  refine ⟨authenticates_iff_isCurrent documented lifecycle free,
    fun created => parse_issued documented lifecycle, ?_⟩
  rintro created handedOut rfl superseded identity accepts
  have current := (authenticates_iff_isCurrent documented lifecycle free identity).mp accepts
  obtain ⟨issued, last, sameKey, -⟩ := current.issue documented lifecycle distinct handedOut
  exact superseded issued last sameKey

end

/-! ## Two credentials -/

namespace Issuing

/-- The digests of the secrets that are issued. -/
def digests : List (String × String) := [
  ("mosp_secret_TYa_-DFqo9wVTofA-TJrpN0WT4jB-jNspd4XUInC-zQ",
    "9b98054391f38ea33417bc0e63cd642c7751911b95281360ab17d77f12872f99"),
  ("mosp_secret_seojXJXOB0B5suskXZbPCEF6s-wlXpfQCUJ7tO0mX5g",
    "2910889087e44acfd998bae6b7d1a43f42e886d164b4b7c28140a44d44b32b51"),
  ("mosp_secret_FU6HwPkya6TdFk-IwfozbKXeF1CJwvs0babfGFGKw_w",
    "f24f71e3d83f21af7d146e823e3a1a5a16d1c01b469087f7fb036cd8b52b3ac5")]

/-- SHA-256 on the secrets that are issued. -/
def sha256Hex (text : String) : String :=
  ((digests.find? fun entry => entry.1 == text).map Prod.snd).getD
    ApiCredentialAuthenticator.dummySecretHash

/-- The bytes depend on the randomness. -/
def crypto : Crypto where
  randomText length randomness := String.ofList (Base64Url.encode
    ((List.range length).map fun place => (89 * randomness + 57 * place) % 256))
  sha256Hex
  verifyPassword password passwordHash := password == passwordHash
  issueAccessToken _ now := ("", now)
  verifyAccessToken _ _ := none

/-- A hash is 64 hexadecimal characters. -/
def isHash (hash : String) : Bool :=
  hash.length == 64 && hash.toList.all ApiCredentialAuthenticator.isHexCharacter

theorem isHash_sha256Hex (text : String) : isHash (sha256Hex text) = true := by
  have all : (digests.all fun entry => isHash entry.2) = true := by decide +kernel
  unfold sha256Hex
  rcases Option.eq_none_or_eq_some (digests.find? fun entry => entry.1 == text) with
    unknown | ⟨entry, found⟩
  · rw [unknown]
    decide +kernel
  · rw [found]
    exact List.all_eq_true.mp all entry (List.mem_of_find?_eq_some found)

theorem documented : crypto.Documented where
  randomText_length length randomness positive := by
    rw [crypto, String.length_ofList, Base64Url.length_encode, List.length_map, List.length_range]
  randomText_characters length randomness character member := by
    have all : Base64Url.alphabet.all isTokenCharacter = true := by decide +kernel
    rw [crypto, String.toList_ofList] at member
    exact List.all_eq_true.mp all character (Base64Url.mem_alphabet_of_encode member)
  sha256Hex_length text := beq_iff_eq.mp (Bool.and_eq_true_iff.mp (isHash_sha256Hex text)).1
  sha256Hex_characters text := List.all_eq_true.mp
    (Bool.and_eq_true_iff.mp (isHash_sha256Hex text)).2

def owner : User where
  id := 5
  email := "owner@example.com"
  passwordHash := ""

def files : VirtualNamespace where
  id := 2
  organizationId := 1
  name := "Files"
  slug := "files"

/-- A namespace without credentials. -/
def db : Db where
  user := .ofRows [owner]
  virtualNamespace := .ofRows [files]

def metadata : ApiCredentialActionMetadata :=
  ⟨5, "request"⟩

/-- Two credentials are created; the first is rotated, the second is revoked. -/
def calls : List CredentialCall := [
  .create 1 { namespaceId := 2, expiresAt := some (some 9000) } metadata,
  .create 1 { namespaceId := 2 } metadata,
  .rotate 1 22 { expiresAt := some (some 50000) } metadata,
  .revoke 1 26 metadata]

/-- The calls, one a second. -/
def run : List CredentialCall → AuthStore → Option (List CredentialEvent × AuthStore)
  | [], store => some ([], store)
  | called :: calls, store => do
      let (answer, after) ← (called.program crypto).follow (readCommitted violation nowhere Phase) 0
        (List.replicate 20 { outside := () }) { store with clock := store.clock + 1000 }
      let (events, last) ← run calls after
      some (⟨called, answer⟩ :: events, last)

theorem lifecycle_of_run {before events : List CredentialEvent} {store last : AuthStore}
    {calls : List CredentialCall} (earlier : Lifecycle crypto before store)
    (ran : run calls store = some (events, last)) : Lifecycle crypto (before ++ events) last := by
  induction calls generalizing before events store with
  | nil =>
      obtain ⟨rfl, rfl⟩ := Prod.mk.inj (Option.some.inj ran)
      rwa [List.append_nil]
  | cons called calls ih =>
      obtain ⟨⟨answer, after⟩, answered, rest⟩ := Option.bind_eq_some_iff.mp ran
      obtain ⟨⟨later, reached⟩, goes, same⟩ := Option.bind_eq_some_iff.mp rest
      obtain ⟨rfl, rfl⟩ := Prod.mk.inj (Option.some.inj same)
      rw [List.append_cons]
      exact ih ((earlier.passes 1000).call called _ answered) goes

def start : AuthStore :=
  .rest ⟨db, 20⟩ 0 ()

/-- What the clients have seen of the issues, what is left of the two credentials, and the time. -/
def outcome (reached : List CredentialEvent × AuthStore) :
    List (Id × String × String) × Option IssuedCredential × Option IssuedCredential × Time :=
  ((issuesOf reached.1).map fun created =>
      (created.credential.id, created.credential.keyId, created.secret),
    credentialsIn reached.1 22, credentialsIn reached.1 26, reached.2.clock)

def rotated : IssuedCredential :=
  { organizationId := 1
    namespaceId := 2
    keyId := "mosp_vPUuZ6DZEkuEvfYvaKHaE0yF"
    secret := "mosp_secret_FU6HwPkya6TdFk-IwfozbKXeF1CJwvs0babfGFGKw_w"
    expiresAt := some 50000
    revoked := false }

def revoked : IssuedCredential :=
  { organizationId := 1
    namespaceId := 2
    keyId := "mosp_WJHKAzx1rucgWZLLBD12r-gh"
    secret := "mosp_secret_seojXJXOB0B5suskXZbPCEF6s-wlXpfQCUJ7tO0mX5g"
    expiresAt := none
    revoked := true }

/-- The first issue of the credential that was rotated. -/
def replaced : Id × String × String :=
  (22, "mosp_9C1mn9gRSoO89S5noNkSS4S9", "mosp_secret_TYa_-DFqo9wVTofA-TJrpN0WT4jB-jNspd4XUInC-zQ")

def issues : List (Id × String × String) := [
  replaced,
  (26, revoked.keyId, revoked.secret),
  (22, rotated.keyId, rotated.secret)]

theorem run_outcome : (run calls start).map outcome = some (issues, some rotated, some revoked, 4000) := by
  decide +kernel

end Issuing

open Issuing in
/-- The rotated credential is accepted with its new token, and its first token and the token of
the revoked credential are nobody's. -/
theorem credential_lifecycle_rotated : ∃ events store, Lifecycle crypto events store ∧
    Authenticates crypto store (tokenOf rotated.keyId rotated.secret) (rotated.identity 22) ∧
    (∀ identity, ¬Authenticates crypto store (tokenOf replaced.2.1 replaced.2.2) identity) ∧
    ∀ identity, ¬Authenticates crypto store (tokenOf revoked.keyId revoked.secret) identity := by
  obtain ⟨⟨events, store⟩, ran, shown⟩ := Option.map_eq_some_iff.mp run_outcome
  have lifecycle : Lifecycle crypto events store :=
    lifecycle_of_run (.start (by decide +kernel) fun row => Table.not_mem_empty row) ran
  simp only [outcome, Prod.mk.injEq] at shown
  obtain ⟨handedOut, first, second, time⟩ := shown
  have distinct : ((issuesOf events).map fun created => created.credential.keyId).Nodup := by
    have keys := congrArg (List.map fun issue => issue.2.1) handedOut
    rw [List.map_map] at keys
    exact keys ▸ by decide
  -- an issue is one of the three
  have issueOf : ∀ issue ∈ issues, ∃ created ∈ issuesOf events,
      created.credential.id = issue.1 ∧ created.credential.keyId = issue.2.1 ∧
        created.secret = issue.2.2 := by
    intro issue member
    rw [← handedOut] at member
    obtain ⟨created, createdMem, rfl⟩ := List.mem_map.mp member
    exact ⟨created, createdMem, rfl, rfl, rfl⟩
  have free : ∀ issue ∈ issues, CollisionFree crypto events (tokenOf issue.2.1 issue.2.2) := by
    intro issue member keyId secret parsed created createdMem sameHash
    obtain ⟨own, ownMem, -, sameKey, sameSecret⟩ := issueOf issue member
    rw [← sameKey, ← sameSecret, parse_issued documented lifecycle ownMem] at parsed
    obtain ⟨rfl, rfl⟩ := Prod.mk.inj (Option.some.inj parsed)
    have other : (created.credential.id, created.credential.keyId, created.secret) ∈ issues :=
      handedOut ▸ List.mem_map_of_mem createdMem
    have apart : ∀ first ∈ issues, ∀ second ∈ issues,
        crypto.sha256Hex first.2.2 = crypto.sha256Hex second.2.2 → first.2.2 = second.2.2 := by
      decide +kernel
    exact sameSecret ▸ apart issue member _ other (sameSecret ▸ sameHash)
  refine ⟨events, store, lifecycle, ?_, ?_, ?_⟩
  · have accepted := credential_lifecycle documented lifecycle distinct
      (free (22, rotated.keyId, rotated.secret) (by decide))
    refine (accepted.1 _).mpr ⟨rotated, first, rfl, rfl, rfl, ?_⟩
    rw [time]
    decide
  · have refused := credential_lifecycle documented lifecycle distinct
      (free replaced (by decide))
    obtain ⟨created, createdMem, sameId, sameKey, sameSecret⟩ := issueOf replaced (by decide)
    refine refused.2.2 created createdMem (by rw [sameKey, sameSecret]) fun issued last => ?_
    rw [sameId, replaced, first, Option.some.injEq] at last
    rw [← last, sameKey]
    decide
  · intro identity accepts
    have ended := credential_lifecycle documented lifecycle distinct
      (free (26, revoked.keyId, revoked.secret) (by decide))
    have current := (ended.1 identity).mp accepts
    obtain ⟨created, createdMem, sameId, sameKey, sameSecret⟩ :=
      issueOf (26, revoked.keyId, revoked.secret) (by decide)
    rw [← sameKey, ← sameSecret] at current
    obtain ⟨issued, last, -, unrevoked⟩ := current.issue documented lifecycle distinct createdMem
    rw [sameId, second, Option.some.injEq] at last
    rw [← last] at unrevoked
    contradiction

end Mosp.Guarantees
