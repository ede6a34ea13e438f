import Mosp.Auth.Credentials
import Mosp.Sql.Runs

/-!
# What the credential operations keep

A revoked credential stays revoked as long as no `rotate` writes to a row that
was revoked after it looked.  From the moment a revocation is seen, the protocol
also watches the calls that start: none of them may identify the credential.
-/

namespace Mosp.Auth

open Mosp.Concurrency Mosp.Data Mosp.Database Mosp.Sql
open Mosp.Sql.Protocol (Stands)
open ApiCredentialService ApiCredentialAuthenticator

/-- The credential is revoked and says since when. -/
def Revoked (db : Db) (credentialId : Id) : Prop :=
  ∃ row, db.apiCredential.get? credentialId = some row ∧ row.status = .revoked ∧
    row.revokedAt ≠ none

/-- The credential can be rotated. -/
def Active (db : Db) (credentialId : Id) : Prop :=
  ∃ row, db.apiCredential.get? credentialId = some row ∧ row.status = .active

instance (db : Db) (credentialId : Id) : Decidable (Active db credentialId) :=
  match found : db.apiCredential.get? credentialId with
  | none => isFalse fun ⟨_, same, _⟩ => by rw [found] at same; contradiction
  | some row =>
      decidable_of_iff (row.status = .active) <| by
        constructor
        · exact fun active => ⟨row, found, active⟩
        · rintro ⟨_, same, active⟩
          rw [found] at same
          exact Option.some.inj same ▸ active

theorem Active.not_revoked {db : Db} {credentialId : Id} (active : Active db credentialId) :
    ¬Revoked db credentialId := by
  rintro ⟨row, found, revoked, _⟩
  obtain ⟨other, sameFound, active⟩ := active
  rw [found] at sameFound
  obtain rfl := Option.some.inj sameFound
  rw [revoked] at active
  contradiction

/-- A credential that is seen revoked, and the calls that start from then on. -/
structure Watch where
  credentialId : Id
  since : Nat

/-- The steps are allowed only while a credential that is being rotated is
active. -/
def RotatesActive (self : Nat) (view : View Phase (State Db)) : Prop :=
  ∀ credentialId, view.phases[self]? = some (.rotating credentialId) →
    Active view.shared.db credentialId

/-- What the operations keep of the phases and the committed credentials. -/
structure Revocations (watch : Option Watch) (view : View Phase (State Db)) : Prop where
  revoked : ∀ (self : Nat) credentialId,
    view.phases[self]? = some (.revoked credentialId) → Revoked view.shared.db credentialId
  watched : ∀ watched, watch = some watched → Revoked view.shared.db watched.credentialId
  refused : ∀ watched, watch = some watched → ∀ self ≥ watched.since,
    view.phases[self]? ≠ some (.accepted watched.credentialId)

/-- The protocol of the credential operations. -/
def revocation (watch : Option Watch) : Protocol Db Phase where
  Good := Revocations watch
  Develops before after := ∀ credentialId, Revoked before.db credentialId →
    Revoked after.db credentialId
  Permits := RotatesActive
  develops_refl _ _ revoked := revoked
  develops_trans first second credentialId revoked :=
    second credentialId (first credentialId revoked)
  develops_issue _ _ revoked := revoked
  good_idle {view} good := by
    constructor
    · intro self credentialId phaseAt
      exact good.revoked self credentialId ((View.fork_phase_cases phaseAt).resolve_left (by simp))
    · exact good.watched
    · intro watched member self late phaseAt
      exact good.refused watched member self late
        ((View.fork_phase_cases phaseAt).resolve_left (by simp))
  good_stop {view} self _ good := by
    constructor
    · intro other credentialId phaseAt
      exact good.revoked other credentialId ((View.set_phase_cases phaseAt).resolve_left (by simp))
    · exact good.watched
    · intro watched member other late phaseAt
      exact good.refused watched member other late
        ((View.set_phase_cases phaseAt).resolve_left (by simp))

variable {watch : Option Watch} {view : View Phase (State Db)} {self : Nat}

/-- A step that shows no phase of interest and takes no revocation back. -/
theorem Revocations.answer (good : Revocations watch view) {note : Option Phase}
    {shared : State Db}
    (develops : ∀ credentialId, Revoked view.shared.db credentialId →
      Revoked shared.db credentialId)
    (revoked : ∀ credentialId, note = some (.revoked credentialId) →
      Revoked shared.db credentialId)
    (accepted : ∀ credentialId, note = some (.accepted credentialId) →
      ¬Revoked view.shared.db credentialId) :
    (revocation watch).Moves view (view.answer self note shared) := by
  refine ⟨?_, trivial⟩
  constructor
  · intro other credentialId phaseAt
    rcases View.answer_phase_cases phaseAt with ⟨_, new⟩ | ⟨old, _⟩
    · exact revoked credentialId new
    · exact develops _ (good.revoked other credentialId old)
  · exact fun watched member => develops _ (good.watched watched member)
  · intro watched member other late phaseAt
    rcases View.answer_phase_cases phaseAt with ⟨_, new⟩ | ⟨old, _⟩
    · exact accepted _ new (good.watched watched member)
    · exact good.refused watched member other late old

/-! ## Facts within a transaction -/

theorem stays_true (locks : List Lock) : (revocation watch).Stays locks fun _ => True :=
  fun _ _ _ _ _ => trivial

/-- A fact about a row whose lock is held. -/
theorem stays_row {locks : List Lock} {credentialId : Id} (fact : Option ApiCredential → Prop)
    (held : Lock.apiCredential credentialId ∈ locks) :
    (revocation watch).Stays locks fun state =>
      fact (state.db.apiCredential.get? credentialId) := by
  intro before after _ same holds
  have unchanged : after.db.apiCredential.get? credentialId =
      before.db.apiCredential.get? credentialId := same _ held
  exact unchanged ▸ holds

/-- Giving up a transaction, if that shows nothing or the idle phase. -/
theorem abandons {α : Type} {note : Except Failure α → Option Phase}
    {phaseAfter : Except Failure α → Phase} {factAfter : Except Failure α → State Db → Prop}
    {phase : Phase} {fact : State Db → Prop}
    (quiet : ∀ error, note (.error error) = none ∨ note (.error error) = some .idle)
    (shown : ∀ error, phaseAfter (.error error) = (note (.error error)).getD phase)
    (nothing : ∀ error state, factAfter (.error error) state) :
    (revocation watch).Abandons self note
      (fun result => Stands self (phaseAfter result) (factAfter result)) phase fact := by
  intro error view good stands
  constructor
  · apply good.answer (fun _ revoked => revoked)
    · intro credentialId noted
      rcases quiet error with none_ | idle <;> simp_all
    · intro credentialId noted
      rcases quiet error with none_ | idle <;> simp_all
  · beta_reduce
    rw [shown]
    exact ⟨Protocol.answer_phase stands.phase _ _, nothing error _⟩

/-- What a revocation is after one credential was written. -/
theorem revoked_put {before after : Db} {row : ApiCredential} {credentialId : Id}
    (written : after.apiCredential = before.apiCredential.put row)
    (revoked : Revoked before credentialId)
    (kept : row.id = credentialId → row.status = .revoked ∧ row.revokedAt ≠ none) :
    Revoked after credentialId := by
  by_cases same : row.id = credentialId
  · refine ⟨row, ?_, kept same⟩
    rw [written, ← same]
    exact Table.get?_put_self _ row
  · obtain ⟨old, found, ended⟩ := revoked
    refine ⟨old, ?_, ended⟩
    rw [written, Table.get?_put_ne _ (Ne.symm same), found]

/-! ## The statements that the transactions share -/

variable {check : Db → Option Failure}
  {answer : {β : Type} → Elsewhere β → Unit → Nat → Unit → β × Unit} {α : Type}
  {note : Except Failure α → Option Phase} {returns : Except Failure α → View Phase (State Db) → Prop}
  {phase : Phase} {pending : List Write} {locks : List Lock} {fact : State Db → Prop}

theorem transacts_includeNamespace {credential : ApiCredential} {rest : VirtualNamespace → Tx α}
    (stays : (revocation watch).Stays locks fact)
    (abandons : (revocation watch).Abandons self note returns phase fact)
    (runs : ∀ included, (revocation watch).Transacts check answer self note returns phase pending
      locks fact (rest included)) :
    (revocation watch).Transacts check answer self note returns phase pending locks fact
      ((includeNamespace credential).bind rest) :=
  .findFirstOrThrow stays abandons fun _ row _ _ stands _ =>
    ⟨fact, stands.fact, runs row⟩

theorem transacts_writeActivity {organizationId entityId : Id} {action : String}
    {metadata : ApiCredentialActionMetadata} {rest : Unit → Tx α}
    (stays : ∀ more, (revocation watch).Stays (locks ++ more) fact)
    (issued : ∀ state : State Db, fact state → fact state.issue)
    (abandons : (revocation watch).Abandons self note returns phase fact)
    (runs : ∀ row, (revocation watch).Transacts check answer self note returns phase
      (pending ++ [.activityLog row]) (locks ++ [.activityLog row.id]) fact (rest ())) :
    (revocation watch).Transacts check answer self note returns phase pending locks fact
      ((writeActivity organizationId metadata action entityId).bind rest) := by
  have here := by simpa using stays []
  apply Protocol.Transacts.randomUUID here
  intro view good stands
  constructor
  · exact good.answer (fun _ revoked => revoked) (by simp) (by simp)
  · refine ⟨fact, issued _ stands.fact, ?_⟩
    apply Protocol.Transacts.create here abandons
    intro view time _ _ stands _ _
    exact ⟨fact, stands.fact, runs _⟩

/-! ## The transactions -/

/-- What holds of a committed row that a transaction is going to replace. -/
theorem stays_active {credentialId : Id} {locks : List Lock}
    (held : Lock.apiCredential credentialId ∈ locks) (more : List Lock) :
    (revocation watch).Stays (locks ++ more) fun state => Active state.db credentialId :=
  stays_row (fun found => ∃ row, found = some row ∧ row.status = .active)
    (List.mem_append_left _ held)

theorem transacts_rotate {organizationId credentialId : Id} {generated : GeneratedCredential}
    {expiresAt : Option Time} {now : Time} {metadata : ApiCredentialActionMetadata} :
    (revocation watch).Transacts check answer self (fun _ => some .idle)
      (fun _ => Stands self .idle fun _ => True) .idle [] [] (fun _ => True)
      (rotateTransaction organizationId credentialId generated expiresAt now
        metadata) := by
  have quiet : ∀ phase fact, (revocation watch).Abandons self
      (fun _ : Except Failure (ApiCredential × VirtualNamespace) => some Phase.idle)
      (fun _ => Stands self .idle fun _ => True) phase fact := fun phase fact =>
    abandons (fun _ => .inr rfl) (fun _ => rfl) fun _ _ => trivial
  unfold rotateTransaction
  apply Protocol.Transacts.readNoting (stays_true _) (quiet _ _)
  intro view good _ stands found
  constructor
  · apply good.answer (fun _ revoked => revoked) <;> intro id noted <;> split at noted <;>
      simp at noted
  refine ⟨fun _ => True, trivial, ?_⟩
  cases found with
  | none => exact .throw (stays_true _) (quiet _ _) _
  | some current =>
      by_cases active : current.isActive now = true
      swap
      · simp only [if_neg active]
        exact .throw (stays_true _) (quiet _ _) _
      simp only [if_pos active]
      apply Protocol.Transacts.update (stays_true _) (quiet _ _)
      intro view time row _ permits stands found updated
      have rowId : row.id = credentialId := by simpa using (Table.find?_some found).2
      have held : Lock.apiCredential credentialId ∈
          [] ++ Sql.Database.locks Db (apiCredential.put updated) := by
        simp [updated, Db.locks, rowId]
      refine ⟨fun state => Active state.db credentialId, permits credentialId stands.phase, ?_⟩
      have stays : ∀ more, (revocation watch).Stays _ _ := stays_active held
      apply transacts_includeNamespace (by simpa using stays []) (quiet _ _)
      intro included
      apply transacts_writeActivity stays (fun _ active => active) (quiet _ _)
      intro activity
      apply Protocol.Transacts.pure (stays _) (quiet _ _)
      intro view good stands
      have develops : ∀ other, Revoked view.shared.db other →
          Revoked (view.shared.write ([] ++ [apiCredential.put updated] ++
            [Write.activityLog activity])).db other := by
        intro other revoked
        have written : (view.shared.write ([] ++ [apiCredential.put updated] ++
            [Write.activityLog activity])).db.apiCredential =
              view.shared.db.apiCredential.put updated := rfl
        refine revoked_put written revoked fun same => ?_
        have other : other = credentialId := by simpa [updated, rowId] using same.symm
        exact absurd (other ▸ revoked) stands.fact.not_revoked
      refine ⟨?_, develops, ?_⟩
      · exact good.answer develops (by simp) (by simp)
      · exact ⟨Protocol.answer_phase stands.phase _ _, trivial⟩

theorem transacts_revoke {organizationId credentialId : Id}
    {metadata : ApiCredentialActionMetadata} :
    (revocation watch).Transacts check answer self (noteRevoked credentialId)
      (fun result => Stands self ((noteRevoked credentialId result).getD .idle) fun _ => True)
      .idle [] [] (fun _ => True)
      (revokeTransaction organizationId credentialId metadata) := by
  have quiet : (revocation watch).Abandons self
      (noteRevoked credentialId (α := ApiCredential × VirtualNamespace))
      (fun result => Stands self ((noteRevoked credentialId result).getD .idle) fun _ => True)
      .idle fun _ => True :=
    abandons (fun _ => .inl rfl) (fun _ => rfl) fun _ _ => trivial
  have stays : ∀ locks, (revocation watch).Stays locks fun _ => True := stays_true
  unfold revokeTransaction
  apply Protocol.Transacts.read (stays _) quiet
  intro view good _ _
  refine ⟨fun _ => True, trivial, ?_⟩
  split
  · exact .throw (stays _) quiet _
  rename_i current _
  by_cases ended : current.status ≠ .active
  · simp only [if_pos ended]
    exact .throw (stays _) quiet _
  simp only [if_neg ended]
  apply Protocol.Transacts.now (stays _)
  intro view now good _
  refine ⟨good.answer (fun _ revoked => revoked) (by simp) (by simp), ?_⟩
  apply Protocol.Transacts.update (stays _) quiet
  intro view time row _ _ _ found updated
  have rowId : row.id = credentialId := by simpa using (Table.find?_some found).2
  refine ⟨fun _ => True, trivial, ?_⟩
  apply transacts_includeNamespace (stays _) quiet
  intro included
  apply transacts_writeActivity (fun _ => stays _) (fun _ _ => trivial) quiet
  intro activity
  apply Protocol.Transacts.pure (stays _) quiet
  intro view good stands
  have develops : ∀ other, Revoked view.shared.db other →
      Revoked (view.shared.write ([] ++ [apiCredential.put updated] ++
        [Write.activityLog activity])).db other := by
    intro other revoked
    have written : (view.shared.write ([] ++ [apiCredential.put updated] ++
        [Write.activityLog activity])).db.apiCredential =
          view.shared.db.apiCredential.put updated := rfl
    exact revoked_put written revoked fun _ => ⟨rfl, by simp [updated]⟩
  refine ⟨good.answer develops ?_ (by simp [noteRevoked]), develops,
    Protocol.answer_phase stands.phase _ _, trivial⟩
  rintro other noted
  obtain rfl : credentialId = other := by simpa [noteRevoked] using noted
  refine ⟨updated, ?_, rfl, by simp [updated]⟩
  have sameId : credentialId = Row.id updated := by simp [updated, rowId]
  rw [sameId]
  exact Table.get?_put_self _ updated

theorem transacts_create {organizationId namespaceId : Id} {generated : GeneratedCredential}
    {expiresAt : Option Time} {metadata : ApiCredentialActionMetadata} :
    (revocation watch).Transacts check answer self (fun _ => none)
      (fun _ => Stands self .idle fun _ => True) .idle [] [] (fun _ => True)
      (createTransaction organizationId namespaceId generated expiresAt
        metadata) := by
  have quiet : ∀ fact, (revocation watch).Abandons self
      (fun _ : Except Failure (ApiCredential × VirtualNamespace) => none)
      (fun _ => Stands self .idle fun _ => True) .idle fact := fun fact =>
    abandons (fun _ => .inl rfl) (fun _ => rfl) fun _ _ => trivial
  have stays : ∀ locks, (revocation watch).Stays locks fun _ => True := stays_true
  unfold createTransaction
  apply Protocol.Transacts.read (stays _) (quiet _)
  intro view good _ _
  refine ⟨fun _ => True, trivial, ?_⟩
  split
  · exact .throw (stays _) (quiet _) _
  rename_i owner _
  by_cases disabled : owner.status ≠ .active
  · simp only [if_pos disabled]
    exact .throw (stays _) (quiet _) _
  simp only [if_neg disabled]
  apply Protocol.Transacts.randomUUID (stays _)
  intro view good _
  refine ⟨good.answer (fun _ revoked => revoked) (by simp) (by simp), fun _ => True, trivial, ?_⟩
  apply Protocol.Transacts.create (stays _) (quiet _)
  intro view time _ _ _ created absent
  have held : Lock.apiCredential created.id ∈
      [] ++ Sql.Database.locks Db (apiCredential.put created) := by
    simp [created, Db.locks]
  have stays : ∀ more, (revocation watch).Stays
      (([] ++ Sql.Database.locks Db (apiCredential.put created)) ++ more) fun state =>
        state.db.apiCredential.get? created.id = none := fun more =>
    stays_row (· = none) (List.mem_append_left more held)
  refine ⟨fun state => state.db.apiCredential.get? created.id = none, absent, ?_⟩
  apply transacts_includeNamespace (by simpa using stays []) (quiet _)
  intro included
  apply transacts_writeActivity stays (fun _ absent => absent) (quiet _)
  intro activity
  apply Protocol.Transacts.pure (stays _) (quiet _)
  intro view good stands
  have develops : ∀ other, Revoked view.shared.db other →
      Revoked (view.shared.write ([] ++ [apiCredential.put created] ++
        [Write.activityLog activity])).db other := by
    intro other revoked
    have written : (view.shared.write ([] ++ [apiCredential.put created] ++
        [Write.activityLog activity])).db.apiCredential =
          view.shared.db.apiCredential.put created := rfl
    refine revoked_put written revoked ?_
    rintro rfl
    obtain ⟨_, found, _⟩ := revoked
    rw [stands.fact] at found
    contradiction
  exact ⟨good.answer develops (by simp) (by simp), develops,
    Protocol.answer_phase stands.phase _ _, trivial⟩

theorem transacts_findKey {keyId : String} :
    (revocation watch).Transacts check answer self (fun _ => none)
      (fun _ => Stands self .idle fun _ => True) .idle [] [] (fun _ => True)
      (apiCredential.findFirst fun row => row.keyId == keyId) := by
  have quiet : (revocation watch).Abandons self
      (fun _ : Except Failure (Option ApiCredential) => none)
      (fun _ => Stands self .idle fun _ => True) .idle fun _ => True :=
    abandons (fun _ => .inl rfl) (fun _ => rfl) fun _ _ => trivial
  have stays : ∀ locks, (revocation watch).Stays locks fun _ => True := stays_true
  apply Protocol.Transacts.of_bind
  apply Protocol.Transacts.read (stays _) quiet
  intro view _ _ _
  refine ⟨fun _ => True, trivial, ?_⟩
  apply Protocol.Transacts.pure (stays _) quiet
  intro view good stands
  exact ⟨good.answer (fun _ revoked => revoked) (by simp) (by simp), fun _ revoked => revoked,
    stands⟩

theorem transacts_touch {credentialId : Id} {now : Time} :
    (revocation watch).Transacts check answer self (noteAccepted credentialId)
      (fun result => Stands self ((noteAccepted credentialId result).getD .idle) fun _ => True)
      .idle [] [] (fun _ => True)
      (apiCredential.updateMany (fun row => row.id == credentialId && row.status == .active)
        fun row => { row with lastUsedAt := some now }) := by
  have quiet : ∀ fact, (revocation watch).Abandons self (noteAccepted credentialId)
      (fun result => Stands self ((noteAccepted credentialId result).getD .idle) fun _ => True)
      .idle fact := fun fact =>
    abandons (fun _ => .inl rfl) (fun _ => rfl) fun _ _ => trivial
  have stays : ∀ locks, (revocation watch).Stays locks fun _ => True := stays_true
  apply Protocol.Transacts.of_bind
  apply Protocol.Transacts.updateMany (stays _) (quiet _)
  intro view time _ _ _ rows writes
  have selected : rows = [] ∨ ∃ row ∈ view.shared.db.apiCredential,
      (row.id == credentialId && row.status == .active) = true ∧ rows = [row] :=
    Table.filter_byId fun row _ holds => (by simpa using holds : row.id = credentialId ∧ _).1
  rcases selected with rowsEq | ⟨row, member, holds, rowsEq⟩
  · refine ⟨fun _ => True, trivial, ?_⟩
    simp only [writes, rowsEq, List.map_nil, List.append_nil, List.length_nil]
    apply Protocol.Transacts.pure (stays _) (quiet _)
    intro view good stands
    exact ⟨good.answer (fun _ revoked => revoked) (by simp [noteAccepted])
      (by simp [noteAccepted]), fun _ revoked => revoked, stands⟩
  · have matched : row.id = credentialId ∧ row.status = .active := by simpa using holds
    obtain ⟨rowId, active⟩ := matched
    simp only [writes, rowsEq, List.map_cons, List.map_nil, List.flatMap_cons, List.flatMap_nil,
      List.append_nil, List.nil_append, List.length_singleton]
    have held : Lock.apiCredential credentialId ∈ Sql.Database.locks Db
        (apiCredential.put (apiCredential.updated time { row with lastUsedAt := some now })) := by
      simp [Db.locks, rowId]
    have stays : (revocation watch).Stays (Sql.Database.locks Db (apiCredential.put
        (apiCredential.updated time { row with lastUsedAt := some now }))) fun state =>
          Active state.db credentialId := by
      simpa using stays_active held []
    have here : Active view.shared.db credentialId :=
      ⟨row, Table.get?_some.mpr ⟨member, rowId⟩, active⟩
    refine ⟨fun state => Active state.db credentialId, here, ?_⟩
    apply Protocol.Transacts.pure stays (quiet _)
    intro view good stands
    have develops : ∀ other, Revoked view.shared.db other → Revoked (view.shared.write
        [apiCredential.put (apiCredential.updated time { row with lastUsedAt := some now })]).db
        other := by
      intro other revoked
      refine revoked_put rfl revoked fun same => ?_
      obtain rfl : credentialId = other := rowId.symm.trans same
      exact absurd revoked stands.fact.not_revoked
    refine ⟨good.answer develops (by simp [noteAccepted]) ?_, develops,
      Protocol.answer_phase stands.phase _ _, trivial⟩
    intro other noted
    obtain rfl : credentialId = other := by simpa [noteAccepted] using noted
    exact stands.fact.not_revoked

/-! ## The services -/

variable {crypto : Crypto} {β : Type} {ended : β → View Phase (State Db) → Prop}

/-- What the caller of an operation is told is of no interest here. -/
def Anything {β : Type} (_ : β) (_ : View Phase (State Db)) : Prop :=
  True

theorem runs_toSummary {credential : ApiCredential} {included : VirtualNamespace} {phase : Phase}
    {rest : ApiCredentialSummary → Service β}
    (runs : ∀ summary, (revocation watch).Runs check answer self phase (fun _ => True)
      (rest summary) ended Anything) :
    (revocation watch).Runs check answer self phase (fun _ => True)
      ((toSummary credential included).bind rest) ended Anything :=
  .now (stays_true _) fun _ => runs _

theorem runs_draw {rest : Nat → Service β}
    (runs : ∀ drawn, (revocation watch).Runs check answer self .idle (fun _ => True) (rest drawn)
      ended Anything) :
    (revocation watch).Runs check answer self .idle (fun _ => True) (draw.bind rest) ended
      Anything :=
  .randomUUID (stays_true _) fun view good _ =>
    ⟨good.answer (fun _ revoked => revoked) (by simp) (by simp), fun _ => True, trivial,
      runs view.shared.nextId⟩

theorem runs_generateCredential {rest : GeneratedCredential → Service β}
    (runs : ∀ generated, (revocation watch).Runs check answer self .idle (fun _ => True)
      (rest generated) ended Anything) :
    (revocation watch).Runs check answer self .idle (fun _ => True)
      ((generateCredential crypto).bind rest) ended Anything :=
  runs_draw fun _ => runs_draw fun _ => runs _

/-- A transaction, from which nothing but the phase is kept. -/
theorem runs_transaction {body : Tx α} {phaseAfter : Except Failure α → Phase}
    {rest : α → Service β}
    (transacts : (revocation watch).Transacts check answer self note
      (fun result => Stands self (phaseAfter result) fun _ => True) .idle [] [] (fun _ => True)
      body)
    (continues : ∀ value, (revocation watch).Runs check answer self (phaseAfter (.ok value))
      (fun _ => True) (rest value) ended Anything) :
    (revocation watch).Runs check answer self .idle (fun _ => True)
      ((transaction body note).bind rest) ended Anything :=
  .transact (stays_true _) transacts continues fun _ _ _ => trivial

theorem runs_rotate (organizationId credentialId : Id) (input : ApiCredentialRotateRequest)
    (metadata : ApiCredentialActionMetadata) :
    (revocation watch).Runs check answer self .idle (fun _ => True)
      (rotate crypto organizationId credentialId input metadata) Anything Anything := by
  refine Protocol.Runs.now_bind (stays_true _) fun now => ?_
  refine Protocol.Runs.ofExcept_bind (fun expiresAt => ?_) fun _ _ _ => trivial
  apply runs_generateCredential
  intro generated
  apply runs_transaction transacts_rotate
  intro updated
  apply runs_toSummary
  exact fun _ => .pure fun _ _ => trivial

theorem runs_create (organizationId : Id) (input : ApiCredentialCreateRequest)
    (metadata : ApiCredentialActionMetadata) :
    (revocation watch).Runs check answer self .idle (fun _ => True)
      (create crypto organizationId input metadata) Anything Anything := by
  refine Protocol.Runs.now_bind (stays_true _) fun now => ?_
  refine Protocol.Runs.ofExcept_bind (fun expiresAt => ?_) fun _ _ _ => trivial
  apply runs_generateCredential
  intro generated
  apply runs_transaction transacts_create
  intro created
  apply runs_toSummary
  exact fun _ => .pure fun _ _ => trivial

theorem runs_revoke (organizationId credentialId : Id) (metadata : ApiCredentialActionMetadata) :
    (revocation watch).Runs check answer self .idle (fun _ => True)
      (revoke organizationId credentialId metadata) Anything Anything := by
  apply runs_transaction transacts_revoke
  intro updated
  exact .now (stays_true _) fun _ => .pure fun _ _ => trivial

/-- A call that returns an identity shows the credential it has accepted. -/
theorem runs_authenticate (token : Option String) :
    (revocation watch).Runs check answer self .idle (fun _ => True) (authenticate crypto token)
      (fun identity view => view.phases[self]? = some (.accepted identity.credentialId))
      Anything := by
  unfold authenticate
  split
  · exact .throw fun _ _ => trivial
  apply runs_transaction transacts_findKey
  intro found
  refine Protocol.Runs.now_bind (stays_true _) fun now => ?_
  cases found with
  | none => exact .throw fun _ _ => trivial
  | some credential =>
      dsimp only
      split
      swap
      · exact .throw fun _ _ => trivial
      apply runs_transaction transacts_touch
      intro count
      unfold Program.throwIf
      split
      · exact .throw fun _ _ => trivial
      · rename_i one
        obtain rfl : count = 1 := by simpa using one
        exact .pure fun _ stands => stands.phase

end Mosp.Auth
