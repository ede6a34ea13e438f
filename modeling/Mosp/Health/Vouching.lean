import Mosp.Health.Services

/-!
# What the tests of a connection vouch for

A connection is healthy only with a configuration that was tested with
success, as long as the outcome of a test is recorded for the configuration
that was tested.
-/

namespace Mosp.Health

open Mosp.Concurrency Mosp.Data Mosp.Sql Mosp.Provider
open Mosp.Database (Id Time ProviderStatus ActivityLog)

/-! ## Outside the database -/

/-- What the scheduler decides about a command besides the database. -/
structure Answers where
  failure : Option Failure := none
  lookupAll : String → Except String (List LookupAddress) := fun _ => .ok []
  encrypted : EncryptedProviderCredential :=
    ⟨"aes-256-gcm", [], [], [], 1, [], ""⟩
  result : ConnectionTestResult := {}

variable (environment : Environment)

/-- Answer a command besides the database.  The configurations that were tested with success
are kept. -/
def answer {β : Type} (command : Elsewhere β) (answers : Answers) (_ : Time)
    (tested : List Configuration) : β × List Configuration :=
  match command with
  | .lookupAll => (answers.lookupAll, tested)
  | .encrypt _ _ => (answers.failure.elim (.ok answers.encrypted) .error, tested)
  | .decrypt providerConnectionId encrypted =>
      (match answers.failure, environment.decrypted providerConnectionId encrypted with
        | some failure, _ => .error failure
        | none, some payload => .ok payload
        | none, none => .error (.error "Unable to decrypt provider credential"), tested)
  | .testConnection configuration _ =>
      match answers.failure with
      | some failure => (.error failure, tested)
      | none => (.ok answers.result, configuration :: tested)

/-- The database, the clock and the configurations that were tested with success. -/
abbrev World := Room Db (List Configuration)

/-- The configuration that a connection has now, if it can be connected. -/
def configurationOf (db : Db) (row : ProviderConnection) : Option Configuration := do
  let url ← (environment.parseUrl row.endpoint).toOption
  let credential ← db.providerCredential.find? fun credential =>
    credential.providerConnectionId == row.id
  let credentials ← environment.decrypted row.id credential.encrypted
  return { endpoint := environment.toString url
           region := row.region
           addressingMode := row.addressingMode
           credentials }

/-- Every healthy connection has a configuration that was tested with success. -/
def Vouched (db : Db) (tested : List Configuration) : Prop :=
  ∀ row ∈ db.providerConnection, row.status = .healthy →
    ∃ configuration ∈ tested, configurationOf environment db row = some configuration

instance (db : Db) (tested : List Configuration) : Decidable (Vouched environment db tested) :=
  inferInstanceAs (Decidable (∀ row ∈ db.providerConnection.rows, row.status = .healthy →
    ∃ configuration ∈ tested, configurationOf environment db row = some configuration))

/-- The outcome of a test is recorded only while the connection has the configuration that was
tested. -/
def RecordsCurrent (self : Nat) (view : View Phase World) : Prop :=
  ∀ providerId configuration, view.phases[self]? = some (.recording providerId configuration) →
    ∀ row ∈ view.shared.state.db.providerConnection, row.id = providerId →
      configurationOf environment view.shared.state.db row = some configuration

/-- What the services keep. -/
structure Vouches (view : View Phase World) : Prop where
  vouched : Vouched environment view.shared.state.db view.shared.outside
  tested : ∀ (self : Nat) providerId configuration,
    view.phases[self]? = some (.recording providerId configuration) →
      configuration ∈ view.shared.outside

/-- The contract of the services.  A call relies on nothing but its own phase. -/
def vouching : Contract (Whole Elsewhere Db Write Unit Failure Phase) Phase Failure World
    (Outcome Failure Answers) where
  Inv := Vouches environment
  Rely _ _ _ := True
  Allowed self _ _ _ view := RecordsCurrent environment self view
  Forked _ _ _ := False
  rely_refl _ _ := trivial
  rely_trans _ _ := trivial
  inv_idle {view} inv := by
    constructor
    · exact inv.vouched
    · intro self providerId configuration shown
      exact inv.tested self providerId configuration
        ((View.fork_phase_cases shown).resolve_left (by simp))
  rely_idle _ _ := trivial

variable {environment}

/-- A step that keeps the connections vouched for. -/
theorem Vouches.answer {view : View Phase World} (vouches : Vouches environment view) {self : Nat}
    {note : Option Phase} {shared : World}
    (vouched : Vouched environment shared.state.db shared.outside)
    (grows : ∀ configuration ∈ view.shared.outside, configuration ∈ shared.outside)
    (tested : ∀ providerId configuration, note = some (.recording providerId configuration) →
      configuration ∈ shared.outside) :
    Vouches environment (view.answer self note shared) := by
  constructor
  · exact vouched
  · intro other providerId configuration shown
    rcases View.answer_phase_cases shown with ⟨-, noted⟩ | ⟨old, -⟩
    · exact tested providerId configuration noted
    · exact grows configuration (vouches.tested other providerId configuration old)

/-! ## Rules -/

/-- The phase of the call. -/
def AtPhase (self : Nat) (phase : Phase) (view : View Phase World) : Prop :=
  view.phases[self]? = some phase

variable {check : Db → Option Failure} {self : Nat} {α β : Type} {phase : Phase}

theorem stable_atPhase : Contract.Stable (vouching environment) self (AtPhase self phase) :=
  fun _ _ same _ _ holds => same.trans holds

theorem atPhase_answer {view : View Phase World} (holds : AtPhase self phase view)
    (note : Option Phase) (shared : World) :
    AtPhase self (note.getD phase) (view.answer self note shared) := by
  unfold AtPhase at holds ⊢
  cases note with
  | none => exact holds
  | some noted =>
      have inside := (List.getElem?_eq_some_iff.mp holds).1
      simp [inside]

variable (environment check self) in
/-- A program that starts in one phase and ends in others. -/
def Runs (before : Phase) (program : Service α) (returned thrown : Phase) : Prop :=
  Contract.Triple (atomic check (answer environment)) (vouching environment) self
    (AtPhase self before) program (fun _ => AtPhase self returned) fun _ => AtPhase self thrown

namespace Runs

variable {first second last thrown : Phase}

theorem pure {value : α} : Runs environment check self first (.pure value) first thrown :=
  Contract.Triple.pure fun _ holds => holds

theorem throw {error : Failure} :
    Runs environment check self first (.throw error : Service α) last first :=
  Contract.Triple.throw fun _ holds => holds

theorem bind {program : Service β} {rest : β → Service α}
    (runs : Runs environment check self first program second thrown)
    (continues : ∀ value, Runs environment check self second (rest value) last thrown) :
    Runs environment check self first (program.bind rest) last thrown :=
  Contract.Triple.bind runs continues

theorem catchWith {program : Service α} {handler : Failure → Service α}
    (runs : Runs environment check self first program last second)
    (handles : ∀ error, Runs environment check self second (handler error) last thrown) :
    Runs environment check self first (program.catchWith handler) last thrown :=
  Contract.Triple.catchWith runs handles

theorem ofExcept {value : Except Failure α} :
    Runs environment check self first (Program.ofExcept value) first first := by
  cases value with
  | ok value => exact pure
  | error error => exact throw

theorem now : Runs environment check self first currentTime first thrown :=
  Contract.triple_now stable_atPhase fun _ => pure

/-- A transaction that keeps the connections vouched for. -/
theorem transaction {body : Tx α} {note : Except Failure α → Option Phase}
    (silent : ∀ result providerId configuration,
      note result ≠ some (.recording providerId configuration))
    (shows : ∀ result, (note result).getD first = second)
    (keeps : ∀ view, AtPhase self first view → Vouches environment view →
      RecordsCurrent environment self view →
      body.wp check view.shared.clock
        (fun _ state => Vouched environment state.db view.shared.outside) (fun _ => True)
        view.shared.state) :
    Runs environment check self first (Health.transaction body note) second second := by
  apply Contract.triple_transaction (fun _ => AtPhase self second) stable_atPhase
  · intro view error holds vouches
    refine ⟨⟨?_, fun _ _ => trivial⟩, ?_⟩
    · exact vouches.answer vouches.vouched (fun _ member => member) fun providerId configuration
        noted => absurd noted (silent _ providerId configuration)
    · exact shows (.error error) ▸ atPhase_answer holds _ _
  · intro view outcome holds vouches allowed
    apply Tx.wp_mono (keeps view holds vouches allowed) _ fun _ _ => trivial
    intro value state vouched
    refine ⟨⟨?_, fun _ _ => trivial⟩, ?_⟩
    · exact vouches.answer vouched (fun _ member => member) fun providerId configuration
        noted => absurd noted (silent _ providerId configuration)
    · exact shows (.ok value) ▸ atPhase_answer holds _ _
  · intro result
    cases result with
    | ok value => exact pure
    | error error => exact throw

/-- A query that only reads. -/
theorem read {value : Db → α} :
    Runs environment check self first (Health.transaction (.read value)) first first :=
  transaction (fun _ _ _ => nofun) (fun _ => rfl) fun _ _ vouches _ => vouches.vouched

/-- A command besides the database that tests nothing. -/
theorem outside {command : Elsewhere β} {rest : β → Service α}
    (same : ∀ answers time tested, (answer environment command answers time tested).2 = tested)
    (continues : ∀ value, Runs environment check self first (rest value) last thrown) :
    Runs environment check self first (.perform (.outside command) (fun _ => none) rest) last
      thrown := by
  apply Contract.triple_outside (fun _ => AtPhase self first) stable_atPhase _ continues
  intro view answers holds vouches
  refine ⟨⟨?_, fun _ _ => trivial⟩, holds⟩
  apply vouches.answer
  · rw [same]
    exact vouches.vouched
  · intro configuration member
    rw [same]
    exact member
  · exact fun _ _ => nofun

/-- A test: its success is in hand when it returns. -/
theorem tests {providerId : Id} {adapter : S3ProviderAdapter} {bucketName : Option String} :
    Runs environment check self .idle
      (attempt (.testConnection adapter.configuration bucketName)
        (ProviderConnectionService.noteTested providerId adapter))
      (.recording providerId adapter.configuration) .idle := by
  apply Contract.triple_outside (fun result => AtPhase self
    ((ProviderConnectionService.noteTested providerId adapter result).getD .idle)) stable_atPhase
  · intro view answers holds vouches
    refine ⟨⟨?_, fun _ _ => trivial⟩, atPhase_answer holds _ _⟩
    unfold answer
    cases answers.failure with
    | some failure =>
        exact vouches.answer vouches.vouched (fun _ member => member) fun _ _ => nofun
    | none =>
        apply vouches.answer
        · intro row member healthy
          obtain ⟨configuration, tested, current⟩ := vouches.vouched row member healthy
          exact ⟨configuration, List.mem_cons_of_mem _ tested, current⟩
        · exact fun _ member => List.mem_cons_of_mem _ member
        · intro provider configuration noted
          obtain ⟨rfl, rfl⟩ := Phase.recording.inj (Option.some.inj noted)
          exact List.mem_cons_self
  · intro result
    cases result with
    | ok value => exact pure
    | error error => exact throw

end Runs

/-! ## The transactions -/

section

variable {time : Time} {db : Db} {state : State Db} {tested : List Configuration}

/-- Connections and credentials are the same. -/
def SameConnections (before after : Db) : Prop :=
  after.providerConnection = before.providerConnection ∧
    after.providerCredential = before.providerCredential

theorem configurationOf_same {before after : Db} (same : SameConnections before after)
    (row : ProviderConnection) :
    configurationOf environment after row = configurationOf environment before row := by
  unfold configurationOf
  rw [same.2]

theorem Vouched.same {before after : Db} (vouched : Vouched environment before tested)
    (same : SameConnections before after) : Vouched environment after tested := by
  intro row member healthy
  rw [same.1] at member
  rw [configurationOf_same same]
  exact vouched row member healthy

theorem wp_upsertCapability {providerId : Id} {testedAt : Time} {result : CapabilityResult} :
    (upsertCapability providerId testedAt result).wp check time
      (fun _ after => SameConnections state.db after.db) (fun _ => True) state := by
  simp only [upsertCapability, Program.bind_eq, Tx.wp_bind, Tx.wp_randomUUID]
  rw [Tx.wp_upsert]
  split
  · exact Tx.Written.of_goes ⟨rfl, rfl⟩
  · split
    · trivial
    · exact Tx.Written.of_goes ⟨rfl, rfl⟩

/-- Recording the capabilities leaves the connections alone. -/
theorem wp_forEach_same {γ : Type} {items : List γ} {body : γ → Tx Unit}
    (each : ∀ item state, (body item).wp check time
      (fun _ after => SameConnections state.db after.db) (fun _ => True) state) :
    Tx.wp check time (Program.forEach items body)
      (fun _ after => SameConnections state.db after.db) (fun _ => True) state := by
  induction items generalizing state with
  | nil => exact ⟨rfl, rfl⟩
  | cons item rest ih =>
      unfold Program.forEach
      rw [Tx.wp_bind]
      apply Tx.wp_mono (each item state) _ fun _ _ => trivial
      intro _ middle same
      apply Tx.wp_mono ih _ fun _ _ => trivial
      intro _ after later
      exact ⟨later.1.trans same.1, later.2.trans same.2⟩

theorem wp_writeActivity {organizationId providerId : Id} {metadata : ProviderActionMetadata}
    {action : String} :
    (ProviderConnectionService.writeActivity organizationId metadata action providerId).wp check time
      (fun _ after => SameConnections state.db after.db) (fun _ => True) state := by
  simp only [ProviderConnectionService.writeActivity, Program.bind_eq, Tx.wp_bind,
    Tx.wp_randomUUID]
  rw [Tx.wp_create]
  split
  · trivial
  · exact Tx.Written.of_goes ⟨rfl, rfl⟩

/-- Writing what was found out about a connection, whose configuration stays. -/
theorem vouched_put {written : ProviderConnection} (vouched : Vouched environment db tested)
    (healthy : written.status = .healthy → ∃ configuration ∈ tested,
      configurationOf environment db written = some configuration) :
    Vouched environment { db with providerConnection := db.providerConnection.put written }
      tested := by
  intro other member isHealthy
  have same : configurationOf environment
      { db with providerConnection := db.providerConnection.put written } other =
        configurationOf environment db other := rfl
  rw [same]
  rcases Table.mem_put.mp member with rfl | ⟨old, -⟩
  · exact healthy isHealthy
  · exact vouched other old isHealthy

theorem configurationOf_congr {row other : ProviderConnection} (id : other.id = row.id)
    (endpoint : other.endpoint = row.endpoint) (region : other.region = row.region)
    (addressingMode : other.addressingMode = row.addressingMode) :
    configurationOf environment db other = configurationOf environment db row := by
  unfold configurationOf
  rw [id, endpoint, region, addressingMode]

/-- What the connection has in hand when its health is recorded. -/
def Current (environment : Environment) (db : Db) (tested : List Configuration) (providerId : Id) :
    Prop :=
  ∀ row ∈ db.providerConnection, row.id = providerId →
    ∃ configuration ∈ tested, configurationOf environment db row = some configuration

theorem wp_recordTransaction {organizationId providerId : Id} {metadata : ProviderActionMetadata}
    {result : ConnectionTestResult} {healthy : Bool} {errorCode : Option String}
    (vouched : Vouched environment state.db tested)
    (current : healthy = true → Current environment state.db tested providerId) :
    (ProviderConnectionService.recordTransaction organizationId providerId metadata result healthy
      errorCode).wp check time (fun _ after => Vouched environment after.db tested)
      (fun _ => True) state := by
  simp only [ProviderConnectionService.recordTransaction, Program.bind_eq, Tx.wp_bind, Tx.wp_now]
  rw [Tx.wp_update]
  split
  · trivial
  rename_i row found
  obtain ⟨member, sameId⟩ := Table.find?_some found
  have rowId : row.id = providerId := by simpa using sameId
  apply Tx.Written.of_goes
  apply Tx.wp_mono (wp_forEach_same _) _ fun _ _ => trivial
  · intro item state
    rw [Tx.wp_bind]
    exact wp_upsertCapability
  intro _ recorded same
  apply Tx.wp_mono wp_writeActivity _ fun _ _ => trivial
  intro _ after logged
  refine Vouched.same (Vouched.same ?_ same) logged
  refine @vouched_put environment state.db tested _ vouched ?_
  intro isHealthy
  cases healthy with
  | true =>
      obtain ⟨configuration, inTested, now⟩ := current rfl row member rowId
      exact ⟨configuration, inTested, now⟩
  | false => exact ProviderStatus.noConfusion isHealthy

theorem wp_recordHealthyTransaction {organizationId providerId : Id} {checkedAt : Time}
    {result : ConnectionTestResult} (vouched : Vouched environment state.db tested)
    (current : Current environment state.db tested providerId) :
    (ProviderHealthReconciliationService.recordHealthyTransaction organizationId providerId
      checkedAt result).wp check time (fun _ after => Vouched environment after.db tested)
      (fun _ => True) state := by
  simp only [ProviderHealthReconciliationService.recordHealthyTransaction, Program.bind_eq,
    Tx.wp_bind]
  have capabilities : ∀ (count : Nat) (written : State Db),
      Vouched environment written.db tested →
      Tx.wp check time (Program.runIf (count = 1) (Program.forEach result.capabilities
        (upsertCapability providerId checkedAt)))
        (fun _ after => Vouched environment after.db tested) (fun _ => True) written := by
    intro count written vouched
    rw [Tx.wp_runIf]
    constructor
    · intro _
      apply Tx.wp_mono (wp_forEach_same fun _ _ => wp_upsertCapability) _ fun _ _ => trivial
      exact fun _ _ same => vouched.same same
    · exact fun _ => vouched
  apply Tx.wp_updateMany_byId providerId
  · intro row holds
    simp only [Bool.and_eq_true, beq_iff_eq] at holds
    exact holds.1.1
  · intro row member holds
    simp only [Bool.and_eq_true, beq_iff_eq] at holds
    apply Tx.Written.of_goes
    apply capabilities
    refine @vouched_put environment state.db tested _ vouched ?_
    intro _
    obtain ⟨configuration, inTested, now⟩ := current row member holds.1.1
    exact ⟨configuration, inTested, now⟩
  · exact fun _ => capabilities 0 state vouched

theorem wp_recordUnhealthy {organizationId providerId : Id} {data : ProviderConnection → ProviderConnection}
    (unhealthy : ∀ row, (data row).status = .unhealthy)
    (vouched : Vouched environment state.db tested) :
    Tx.wp check time (providerConnection.updateMany
        (fun row => row.id == providerId && row.organizationId == organizationId &&
          row.status != .disabled) data : Tx Nat)
      (fun _ after => Vouched environment after.db tested) (fun _ => True) state := by
  apply Tx.wp_updateMany_byId providerId
  · intro row holds
    simp only [Bool.and_eq_true, beq_iff_eq] at holds
    exact holds.1.1
  · intro row member holds
    apply Tx.Written.of_goes
    refine @vouched_put environment state.db tested _ vouched ?_
    intro isHealthy
    exact ProviderStatus.noConfusion ((unhealthy row).symm.trans isHealthy)
  · exact fun _ => vouched

/-- Writing other credentials for a connection that is not healthy. -/
theorem vouched_putCredential {old written : ProviderCredential}
    (vouched : Vouched environment db tested) (oldMem : old ∈ db.providerCredential)
    (sameId : written.id = old.id) (sameConnection : written.providerConnectionId =
      old.providerConnectionId)
    (reset : ∀ row ∈ db.providerConnection, row.id = old.providerConnectionId →
      row.status ≠ .healthy) :
    Vouched environment { db with providerCredential := db.providerCredential.put written }
      tested := by
  intro row member healthy
  have apart : row.id ≠ old.providerConnectionId := fun same => reset row member same healthy
  have same : configurationOf environment
      { db with providerCredential := db.providerCredential.put written } row =
        configurationOf environment db row := by
    unfold configurationOf
    rw [Table.find?_put_other]
    · rw [sameConnection]
      exact beq_eq_false_iff_ne.mpr apart.symm
    · intro other otherMem otherId
      have same : other = old := Table.eq_of_id_eq otherMem oldMem (otherId.trans sameId)
      rw [same]
      exact beq_eq_false_iff_ne.mpr apart.symm
  rw [same]
  exact vouched row member healthy

theorem wp_findFirstOrThrow_same {condition : ProviderConnection → Bool}
    (vouched : Vouched environment state.db tested) :
    Tx.wp check time (providerConnection.findFirstOrThrow condition : Tx ProviderConnection)
      (fun _ after => Vouched environment after.db tested) (fun _ => True) state := by
  rw [Tx.wp_findFirstOrThrow]
  split
  · trivial
  · exact vouched

theorem updatedConnection_id {input : ProviderConnectionUpdateRequest} {endpoint : Option String}
    {connectionChanged : Bool} {row : ProviderConnection} :
    (ProviderConnectionService.updatedConnection input endpoint connectionChanged row).id =
      row.id := by
  unfold ProviderConnectionService.updatedConnection
  split <;> rfl

/-- An update resets the status, unless it leaves the configuration alone. -/
theorem wp_updateTransaction {organizationId providerId : Id}
    {input : ProviderConnectionUpdateRequest} {endpoint : Option String}
    {encrypted : Option EncryptedProviderCredential} {connectionChanged : Bool}
    {metadata : ProviderActionMetadata}
    (unchanged : connectionChanged = false → endpoint = none ∧ input.region = none ∧
      input.addressingMode = none ∧ encrypted = none)
    (vouched : Vouched environment state.db tested) :
    (ProviderConnectionService.updateTransaction organizationId providerId input endpoint encrypted
      connectionChanged metadata).wp check time
      (fun _ after => Vouched environment after.db tested) (fun _ => True) state := by
  simp only [ProviderConnectionService.updateTransaction, Program.bind_eq, Tx.wp_bind,
    Tx.wp_throwIf]
  apply Tx.wp_updateMany_byId providerId
  · intro row holds
    simp only [Bool.and_eq_true, beq_iff_eq] at holds
    exact holds.1
  swap
  · exact fun _ => ⟨fun _ => trivial, fun none_ => absurd (by decide) none_⟩
  intro row member holds
  simp only [Bool.and_eq_true, beq_iff_eq] at holds
  apply Tx.Written.of_goes
  refine ⟨fun _ => trivial, fun _ => ?_⟩
  let written := providerConnection.updated time
    (ProviderConnectionService.updatedConnection input endpoint connectionChanged row)
  let middle : State Db := state.write [providerConnection.put written]
  have rest : ∀ current : State Db, Vouched environment current.db tested →
      Tx.wp check time
        (Program.bind (ProviderConnectionService.writeActivity organizationId metadata
          "providers.update" providerId) fun _ => providerConnection.findFirstOrThrow fun row =>
            row.id == providerId && row.organizationId == organizationId : Tx ProviderConnection)
        (fun _ after => Vouched environment after.db tested) (fun _ => True) current := by
    intro current vouched
    rw [Tx.wp_bind]
    apply Tx.wp_mono wp_writeActivity _ fun _ _ => trivial
    exact fun _ _ same => wp_findFirstOrThrow_same (vouched.same same)
  have kept : Vouched environment middle.db tested := by
    refine @vouched_put environment state.db tested written vouched ?_
    intro isHealthy
    cases connectionChanged with
    | true => exact ProviderStatus.noConfusion isHealthy
    | false =>
        obtain ⟨noEndpoint, noRegion, noMode, -⟩ := unchanged rfl
        have same : configurationOf environment state.db written =
            configurationOf environment state.db row := by
          apply configurationOf_congr
          · rfl
          · simp [written, ProviderConnectionService.updatedConnection, noEndpoint]
          · simp [written, ProviderConnectionService.updatedConnection, noRegion]
          · simp [written, ProviderConnectionService.updatedConnection, noMode]
        rw [same]
        exact vouched row member isHealthy
  cases encrypted with
  | none => exact rest middle kept
  | some encrypted =>
      dsimp only
      rw [Tx.wp_bind, Tx.wp_now, Tx.wp_bind, Tx.wp_update]
      split
      · trivial
      rename_i old found
      obtain ⟨oldMem, isOld⟩ := Table.find?_some found
      have oldConnection : old.providerConnectionId = providerId := by simpa using isOld
      apply Tx.Written.of_goes
      apply rest
      refine @vouched_putCredential environment middle.db tested old _ kept oldMem rfl rfl ?_
      intro other otherMem otherId isHealthy
      have isWritten : other = written := by
        rcases Table.mem_put.mp otherMem with same | ⟨-, apart⟩
        · exact same
        · have writtenId : Row.id written = row.id := updatedConnection_id
          exact (apart (otherId.trans (oldConnection.trans (holds.1.symm.trans writtenId.symm)))).elim
      cases connectionChanged with
      | true =>
          rw [isWritten] at isHealthy
          exact ProviderStatus.noConfusion isHealthy
      | false => exact absurd (unchanged rfl).2.2.2 nofun

end

/-! ## The services -/

section

variable {organizationId providerId : Id} {metadata : ProviderActionMetadata}

/-- The outcome in hand is what the connection has. -/
theorem current_of_recording {configuration : Configuration} {view : View Phase World}
    (holds : AtPhase self (.recording providerId configuration) view)
    (vouches : Vouches environment view) (records : RecordsCurrent environment self view) :
    Current environment view.shared.state.db view.shared.outside providerId := by
  intro row member rowId
  exact ⟨configuration, vouches.tested self providerId configuration holds,
    records providerId configuration holds row member rowId⟩

theorem runs_assertSafeEndpoint {endpoint : String} :
    Runs environment check self .idle (assertSafeEndpoint environment endpoint) .idle .idle := by
  apply Runs.outside
  · exact fun _ _ _ => rfl
  · intro lookupAll
    split
    · exact Runs.pure
    · exact Runs.throw

theorem runs_attempt {command : Elsewhere (Except Failure α)}
    (same : ∀ answers time tested, (answer environment command answers time tested).2 = tested) :
    Runs environment check self .idle (attempt command) .idle .idle :=
  Runs.outside same fun _ => Runs.ofExcept

theorem runs_adapterFor :
    Runs environment check self .idle
      (ProviderConnectionService.adapterFor environment organizationId providerId) .idle .idle := by
  apply Runs.bind Runs.read
  intro found
  split
  · apply Runs.bind runs_assertSafeEndpoint
    intro endpoint
    apply Runs.bind (runs_attempt fun _ _ _ => rfl)
    exact fun _ => Runs.pure
  · exact Runs.throw

theorem runs_recordTestResult {result : ConnectionTestResult} {healthy : Bool}
    {errorCode : Option String}
    (current : healthy = true → ∃ configuration, phase = .recording providerId configuration) :
    Runs environment check self phase
      (ProviderConnectionService.recordTestResult organizationId providerId metadata result healthy
        errorCode) .idle .idle := by
  apply Runs.transaction
  · exact fun _ _ _ => nofun
  · exact fun _ => rfl
  · intro view holds vouches records
    apply wp_recordTransaction vouches.vouched
    intro isHealthy
    obtain ⟨configuration, rfl⟩ := current isHealthy
    exact current_of_recording holds vouches records

theorem runs_test {bucketName : Option String} :
    Runs environment check self .idle
      (ProviderConnectionService.test environment organizationId providerId bucketName metadata)
      .idle .idle := by
  apply Runs.bind runs_adapterFor
  intro adapter
  apply Runs.catchWith
  · apply Runs.bind Runs.tests
    intro result
    apply Runs.bind (runs_recordTestResult fun _ => ⟨adapter.configuration, rfl⟩)
    exact fun _ => Runs.pure
  · intro error
    apply Runs.bind
    · apply runs_recordTestResult
      exact nofun
    · exact fun _ => Runs.pure

theorem runs_reconcileProvider {now : Time} {provider : ProviderConnection} :
    Runs environment check self .idle
      (ProviderHealthReconciliationService.reconcileProvider environment now provider)
      .idle .idle := by
  apply Runs.catchWith
  · apply Runs.bind runs_adapterFor
    intro adapter
    apply Runs.bind Runs.tests
    intro result
    apply Runs.bind
    · apply Runs.transaction
      · exact fun _ _ _ => nofun
      · exact fun _ => rfl
      · intro view holds vouches records
        exact wp_recordHealthyTransaction vouches.vouched
          (current_of_recording holds vouches records)
    · exact fun _ => Runs.pure
  · intro error
    apply Runs.bind
    · apply Runs.transaction
      · exact fun _ _ _ => nofun
      · exact fun _ => rfl
      · intro view holds vouches _
        rw [Program.bind_eq, Tx.wp_bind]
        exact wp_recordUnhealthy (fun _ => rfl) vouches.vouched
    · exact fun _ => Runs.pure

theorem runs_reconcileEach {now : Time} {providers : List ProviderConnection}
    {counts : ProviderHealthReconciliationResult} :
    Runs environment check self .idle
      (ProviderHealthReconciliationService.reconcileEach environment now providers counts)
      .idle .idle := by
  induction providers generalizing counts with
  | nil => exact Runs.pure
  | cons provider rest ih =>
      apply Runs.bind runs_reconcileProvider
      intro healthy
      split
      · exact ih
      · exact ih

theorem runs_reconcile {options : ProviderHealthReconciliationOptions} :
    Runs environment check self .idle
      (ProviderHealthReconciliationService.reconcile environment options) .idle .idle := by
  apply Runs.bind Runs.ofExcept
  intro batchSize
  apply Runs.bind Runs.now
  intro clock
  apply Runs.bind Runs.ofExcept
  intro minIntervalMs
  apply Runs.bind Runs.read
  exact fun _ => runs_reconcileEach

theorem runs_checkInput {input : ProviderConnectionUpdateRequest} {rest : Option Url → Service α}
    (continues : ∀ url, (input.endpoint = none → url = none) →
      Runs environment check self .idle (rest url) .idle .idle) :
    Runs environment check self .idle
      ((ProviderConnectionService.checkInput environment input).bind rest) .idle .idle := by
  unfold ProviderConnectionService.checkInput
  split
  · exact continues none fun _ => rfl
  · rename_i endpoint given
    rw [Program.bind_eq, Program.bind_assoc]
    apply Runs.bind
    · apply Runs.catchWith runs_assertSafeEndpoint
      exact fun _ => Runs.throw
    · exact fun url => continues (some url) fun none_ => absurd (given.symm.trans none_) nofun

theorem runs_encryptInput {input : ProviderConnectionUpdateRequest}
    {rest : Option EncryptedProviderCredential → Service α}
    (continues : ∀ encrypted,
      (ProviderConnectionService.isCredentialUpdate input = false → encrypted = none) →
        Runs environment check self .idle (rest encrypted) .idle .idle) :
    Runs environment check self .idle
      ((ProviderConnectionService.encryptInput providerId input).bind rest) .idle .idle := by
  unfold ProviderConnectionService.encryptInput
  split
  · rename_i updates
    split
    · rw [Program.bind_eq, Program.bind_assoc]
      apply Runs.bind (runs_attempt fun _ _ _ => rfl)
      exact fun encrypted => continues (some encrypted) fun not_ =>
        absurd (updates.symm.trans not_) nofun
    · exact Runs.throw
  · exact continues none fun _ => rfl

theorem runs_update {input : ProviderConnectionUpdateRequest} :
    Runs environment check self .idle
      (ProviderConnectionService.update environment organizationId providerId input metadata)
      .idle .idle := by
  apply Runs.bind Runs.read
  intro found
  split
  · apply runs_checkInput
    intro endpoint noEndpoint
    apply runs_encryptInput
    intro encrypted noCredentials
    apply Runs.bind
    · apply Runs.transaction
      · exact fun _ _ _ => nofun
      · exact fun _ => rfl
      · intro view _ vouches _
        apply wp_updateTransaction _ vouches.vouched
        intro unchanged
        simp only [Bool.or_eq_false_iff, Option.isSome_eq_false_iff, Option.isNone_iff_eq_none]
          at unchanged
        obtain ⟨⟨⟨endpointNone, regionNone⟩, modeNone⟩, credentials⟩ := unchanged
        exact ⟨by rw [endpointNone]; rfl, regionNone, modeNone, noCredentials credentials⟩
    · exact fun _ => Runs.pure
  · exact Runs.throw

end

end Mosp.Health
