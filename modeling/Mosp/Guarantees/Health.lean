import Mosp.Health.Vouching

/-!
# The health of provider connections

Any number of updates, tests and passes of the worker.  A healthy connection
has a configuration that was tested with success, as long as the outcome of a
test is recorded for the configuration that was tested; when an update comes in
between, it is recorded for another one.
-/

namespace Mosp.Guarantees

open Mosp.Concurrency Mosp.Data Mosp.Sql Mosp.Health
open Mosp.Database (Id Time ProviderStatus)

/-- The operations on the configuration and the health of connections. -/
inductive HealthRequest where
  | update (organizationId providerId : Id) (input : ProviderConnectionUpdateRequest)
      (metadata : ProviderActionMetadata)
  | test (organizationId providerId : Id) (bucketName : Option String)
      (metadata : ProviderActionMetadata)
  | reconcile (options : ProviderHealthReconciliationOptions)

/-- The program of a request; its answer goes to the client. -/
def HealthRequest.program (environment : Environment) : HealthRequest → Health.Service Unit
  | .update organizationId providerId input metadata =>
      (ProviderConnectionService.update environment organizationId providerId input metadata).bind
        fun _ => .pure ()
  | .test organizationId providerId bucketName metadata =>
      (ProviderConnectionService.test environment organizationId providerId bucketName metadata).bind
        fun _ => .pure ()
  | .reconcile options =>
      (ProviderHealthReconciliationService.reconcile environment options).bind fun _ => .pure ()

/-- The calls in progress. -/
abbrev HealthCalls := Pool (Whole Elsewhere Db Write Unit Health.Failure Health.Phase) Health.Phase
  Health.Failure World

/-- What runs of the services reach. -/
def HealthReach (environment : Environment) (constraints : Db → Option Health.Failure)
    (condition : Nat → View Health.Phase World → Prop) : World → HealthCalls → Prop :=
  Whole.Reaches constraints (answer environment) (HealthRequest.program environment) condition

theorem runs_healthRequest {environment : Environment} {constraints : Db → Option Health.Failure}
    (request : HealthRequest) (self : Nat) :
    Runs environment constraints self .idle (request.program environment) .idle .idle := by
  cases request with
  | update organizationId providerId input metadata => exact runs_update.bind fun _ => Runs.pure
  | test organizationId providerId bucketName metadata => exact runs_test.bind fun _ => Runs.pure
  | reconcile options => exact runs_reconcile.bind fun _ => Runs.pure

theorem respects_vouching (environment : Environment) (constraints : Db → Option Health.Failure) :
    Contract.Respects (atomic constraints (answer environment)) passes
      (Whole.Permitted (HealthRequest.program environment) (RecordsCurrent environment))
      (vouching environment) := by
  apply Contract.respects_whole
  · intro request self
    exact Contract.Triple.weaken (runs_healthRequest request self) (fun _ idle => idle)
      (fun _ _ _ => trivial) fun _ _ _ => trivial
  · exact fun _ _ current _ _ _ => current
  · exact fun _ _ _ forked => forked
  · intro view self vouches
    refine ⟨⟨vouches.vouched, ?_⟩, fun _ => trivial⟩
    intro other providerId configuration shown
    exact vouches.tested other providerId configuration
      ((View.set_phase_cases shown).resolve_left (by simp))
  · intro view _ vouches
    exact ⟨⟨vouches.vouched, vouches.tested⟩, fun _ => trivial⟩

/-! ## One connection -/

namespace Connection

/-- The cryptography and the URLs of the example. -/
def environment : Environment where
  parseUrl text :=
    .ok
      { protocol := "https:"
        username := ""
        password := ""
        hostname := String.ofList ((text.toList.drop 8).takeWhile (· != '/'))
        port := ""
        search := ""
        hash := "" }
  toString url := "https://" ++ url.hostname ++ "/"
  decrypted _ encrypted := some { accessKeyId := encrypted.keyVersion, secretAccessKey := "secret" }
  options := {}

/-- A connection that was not tested. -/
def start : World where
  state :=
    ⟨{ providerConnection := .ofRows
        [{ id := 2, organizationId := 1, displayName := "Storage", type := .minio
           endpoint := "https://old.example.com/", region := "eu" }]
       providerCredential := .ofRows
        [{ id := 3
           providerConnectionId := 2
           encrypted := ⟨"aes-256-gcm", [], [], [], 1, [], "v1"⟩ }] }, 20⟩
  clock := 1000
  outside := []

def metadata : ProviderActionMetadata :=
  ⟨5, "request"⟩

/-- A test of the connection, and an update of its endpoint. -/
def requests : List HealthRequest :=
  [.test 1 2 none metadata, .update 1 2 { endpoint := some "https://new.example.com" } metadata]

/-- Whose step is next, when the update comes between a test and its record. -/
def overtaken : List Nat :=
  [0, 0, 0, 0, 1, 1, 1, 0]

/-- Whose step is next, when the update comes before a test. -/
def ordered : List Nat :=
  [1, 1, 1, 0, 0, 0, 0, 0]

/-- Start the requests, and let the calls take these steps. -/
def run (passes : Nat → View Health.Phase World → Bool) (order : List Nat) : Option HealthCalls :=
  Pool.runWhere (atomic violation (answer environment)) Mosp.Sql.passes
    (fun calls event => match event with
      | .act self _ => passes self calls.view
      | _ => true)
    ⟨start, []⟩
    (requests.map (fun request => .start (request.program environment)) ++
      order.map fun self => .act self { outside := {} })

theorem reaches_run {passes : Nat → View Health.Phase World → Bool}
    {condition : Nat → View Health.Phase World → Prop} {order : List Nat} {calls : HealthCalls}
    (ran : run passes order = some calls)
    (passed : ∀ self view, passes self view = true → condition self view) :
    HealthReach environment violation condition start calls := by
  apply Pool.Reachable.runWhere .refl _ ran
  intro event member pool checked
  rcases List.mem_append.mp member with starts | acts
  · obtain ⟨request, -, rfl⟩ := List.mem_map.mp starts
    exact ⟨request, rfl⟩
  · obtain ⟨self, -, rfl⟩ := List.mem_map.mp acts
    exact passed self _ checked

end Connection

/-- The condition of `RecordsCurrent`, to be checked. -/
def recordsCurrent (environment : Environment) (self : Nat) (view : View Health.Phase World) :
    Bool :=
  match view.phases[self]? with
  | some (.recording providerId configuration) =>
      view.shared.state.db.providerConnection.rows.all fun row =>
        row.id != providerId ||
          configurationOf environment view.shared.state.db row == some configuration
  | _ => true

theorem recordsCurrent_sound {environment : Environment} {self : Nat}
    {view : View Health.Phase World} (passes : recordsCurrent environment self view = true) :
    RecordsCurrent environment self view := by
  intro providerId configuration shown row member rowId
  simp only [recordsCurrent, shown] at passes
  simpa [rowId] using List.all_eq_true.mp passes row member

/-- A healthy connection has a configuration that was tested with success, in every run in which
the outcome of a test is recorded only for the configuration that was tested. -/
theorem healthy_vouched {environment : Environment} {constraints : Db → Option Health.Failure}
    {start : World} {calls : HealthCalls}
    (vouched : Vouched environment start.state.db start.outside)
    (reached : HealthReach environment constraints (RecordsCurrent environment) start calls) :
    Vouched environment calls.shared.state.db calls.shared.outside := by
  have begins : Vouches environment (⟨[], start⟩ : View Health.Phase World) :=
    ⟨vouched, fun _ _ _ shown => absurd shown (by simp)⟩
  exact ((respects_vouching environment constraints).invariant begins reached).vouched

/-- The connection is tested after its endpoint was changed. -/
theorem healthy_vouched_example : ∃ calls : HealthCalls,
    (calls.shared.state.db.providerConnection.rows.map ProviderConnection.status = [.healthy]) ∧
      Vouched Connection.environment calls.shared.state.db calls.shared.outside := by
  have ran : ((Connection.run (recordsCurrent Connection.environment) Connection.ordered).any
      fun calls => decide (calls.shared.state.db.providerConnection.rows.map
        ProviderConnection.status = [.healthy])) = true := by
    decide +kernel
  obtain ⟨calls, ended, healthy⟩ := (Option.any_eq_true _ _).mp ran
  have reached := Connection.reaches_run ended fun _ _ => recordsCurrent_sound
  have vouched : Vouched Connection.environment Connection.start.state.db
      Connection.start.outside := by
    decide
  exact ⟨calls, of_decide_eq_true healthy, healthy_vouched vouched reached⟩

/-- A test of the old endpoint makes the connection healthy after its endpoint was changed. -/
theorem healthy_unvouched : ∃ calls : HealthCalls,
    Vouched Connection.environment Connection.start.state.db Connection.start.outside ∧
      HealthReach Connection.environment violation (fun _ _ => True) Connection.start calls ∧
      ¬Vouched Connection.environment calls.shared.state.db calls.shared.outside := by
  have ran : ((Connection.run (fun _ _ => true) Connection.overtaken).any fun calls =>
      !decide (Vouched Connection.environment calls.shared.state.db calls.shared.outside)) =
        true := by
    decide +kernel
  obtain ⟨calls, ended, unvouched⟩ := (Option.any_eq_true _ _).mp ran
  have reached : HealthReach Connection.environment violation (fun _ _ => True) Connection.start
      calls :=
    Connection.reaches_run ended fun _ _ _ => trivial
  exact ⟨calls, by decide, reached, by simpa using unvouched⟩

end Mosp.Guarantees
