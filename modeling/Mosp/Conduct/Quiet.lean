import Mosp.Conduct.Rules

/-!
# Quiet programs

A quiet program only reads the catalog, asks the providers without removing
anything, and draws identifiers.  Whatever a call knows, it still knows after a
quiet program.
-/

namespace Mosp.Conduct

open Mosp.Concurrency Mosp.Data Mosp.Sql Mosp.Database Mosp.Index Mosp.Services Mosp.Worker
open Mosp.System hiding Action

/-- A body that leaves the catalog as it is. -/
def ReadOnly {α : Type} (body : Database.Tx α) (answers : α → Prop) : Prop :=
  ∀ check time state, Tx.wp check time body
    (fun value after => Performs state after .rest ∧ answers value) (fun _ => True) state

/-- A call of a provider that removes nothing. -/
def Harmless {α : Type} (call : ProviderCall α) (answers : α → Prop) : Prop :=
  ∀ choice clock objects,
    (∀ address, objects.Holds address →
      (execProvider choice clock objects call).2.Holds address) ∧
    ∀ value, (execProvider choice clock objects call).1 = .ok value → answers value

/-- A quiet program and what it returns. -/
inductive Quiet {α : Type} (post : α → Prop) : Service α → Prop
  | pure {value : α} (holds : post value) : Quiet post (.pure value)
  | throw {error : Failure} : Quiet post (.throw error)
  | execute {β : Type} {command : Command (Except Failure β)} {body : Database.Tx β}
      {next : Except Failure β → Service α} {answers : β → Prop}
      (isBody : command = .transaction body ∨ command = .query body)
      (readOnly : ReadOnly body answers)
      (ok : ∀ value, answers value → Quiet post (next (.ok value)))
      (error : ∀ failure, Quiet post (next (.error failure))) :
      Quiet post (.perform command (fun _ => none) next)
  | provider {β : Type} {call : ProviderCall β} {next : Except Failure β → Service α}
      {answers : β → Prop} (harmless : Harmless call answers)
      (ok : ∀ value, answers value → Quiet post (next (.ok value)))
      (error : ∀ failure, Quiet post (next (.error failure))) :
      Quiet post (.perform (.provider call) (fun _ => none) next)
  | now {next : Time → Service α} (rest : ∀ time, Quiet post (next time)) :
      Quiet post (.perform .now (fun _ => none) next)
  | randomUUID {next : Id → Service α} (rest : ∀ id, Quiet post (next id)) :
      Quiet post (.perform .randomUUID (fun _ => none) next)
  | randomInt {maxExclusive : Int} {next : Int → Service α} (rest : ∀ value, Quiet post (next value)) :
      Quiet post (.perform (.randomInt maxExclusive) (fun _ => none) next)

namespace Quiet

variable {α β : Type} {post : α → Prop} {middle : β → Prop}

theorem bind {program : Service β} {rest : β → Service α} (first : Quiet middle program)
    (second : ∀ value, middle value → Quiet post (rest value)) : Quiet post (program.bind rest) := by
  induction first with
  | pure holds => exact second _ holds
  | throw => exact .throw
  | execute isBody readOnly _ _ okIh errorIh => exact .execute isBody readOnly okIh errorIh
  | provider harmless _ _ okIh errorIh => exact .provider harmless okIh errorIh
  | now _ ih => exact .now ih
  | randomUUID _ ih => exact .randomUUID ih
  | randomInt _ ih => exact .randomInt ih

theorem catchWith {program : Service α} {handler : Failure → Service α} (first : Quiet post program)
    (second : ∀ error, Quiet post (handler error)) : Quiet post (program.catchWith handler) := by
  induction first with
  | pure holds => exact .pure holds
  | throw => exact second _
  | execute isBody readOnly _ _ okIh errorIh => exact .execute isBody readOnly okIh errorIh
  | provider harmless _ _ okIh errorIh => exact .provider harmless okIh errorIh
  | now _ ih => exact .now ih
  | randomUUID _ ih => exact .randomUUID ih
  | randomInt _ ih => exact .randomInt ih

theorem weaken {post' : α → Prop} {program : Service α} (quiet : Quiet post program)
    (weaker : ∀ value, post value → post' value) : Quiet post' program := by
  induction quiet with
  | pure holds => exact .pure (weaker _ holds)
  | throw => exact .throw
  | execute isBody readOnly _ _ okIh errorIh => exact .execute isBody readOnly okIh errorIh
  | provider harmless _ _ okIh errorIh => exact .provider harmless okIh errorIh
  | now _ ih => exact .now ih
  | randomUUID _ ih => exact .randomUUID ih
  | randomInt _ ih => exact .randomInt ih

theorem swallow {program : Service α} (quiet : Quiet post program) :
    Quiet (fun _ => True) program.swallow :=
  (quiet.bind fun _ _ => .pure trivial).catchWith fun _ => .pure trivial

theorem ofExcept {outcome : Except Failure α} (ok : ∀ value, outcome = .ok value → post value) :
    Quiet post (Program.ofExcept outcome) := by
  cases outcome with
  | ok value => exact .pure (ok value rfl)
  | error failure => exact .throw

theorem throwIf {condition : Prop} [Decidable condition] {error : Failure} :
    Quiet (fun _ => ¬condition) (Program.throwIf condition error) := by
  unfold Program.throwIf
  split
  · exact .throw
  · exact .pure ‹_›

theorem query {body : Database.Tx α} (readOnly : ReadOnly body post) :
    Quiet post (Services.query body) :=
  .execute (.inr rfl) readOnly (fun _ holds => .pure holds) fun _ => .throw

theorem transaction {body : Database.Tx α} (readOnly : ReadOnly body post) :
    Quiet post (Services.transaction body) :=
  .execute (.inl rfl) readOnly (fun _ holds => .pure holds) fun _ => .throw

theorem call {call : ProviderCall α} (harmless : Harmless call post) :
    Quiet post (Services.provider call) :=
  .provider harmless (fun _ holds => .pure holds) fun _ => .throw

theorem currentTime : Quiet (fun _ => True) Services.currentTime :=
  .now fun _ => .pure trivial

end Quiet

/-! ## A quiet program under the contract -/

theorem settles_world {before : Observation} (caller : Nat) {world : World}
    (catalog : catalogOf world.db = catalogOf before.shared.db)
    (later : before.shared.nextId ≤ world.nextId) :
    Settles (sceneOf before) (sceneOf (before.answer caller none world)) where
  catalog := catalog
  later := later
  others _ _ shown := .inl shown
  held _ _ := le_refl _

/-- A step that changes nothing but the supply of identifiers and adds objects. -/
theorem step_quiet {mode : Mode} {before : Observation} (caller : Nat)
    (upheld : Upheld mode (sceneOf before)) {world : World} (catalog : catalogOf world.db = catalogOf before.shared.db)
    (later : before.shared.nextId ≤ world.nextId)
    (objects : ∀ address, before.shared.objects.Holds address → world.objects.Holds address) :
    Step mode caller (sceneOf before) (sceneOf (before.answer caller none world)) ∧
      Relies mode caller (sceneOf before) (sceneOf (before.answer caller none world)) := by
  have settles := settles_world caller catalog later
  have step : ∀ someone, Step mode someone (sceneOf before)
      (sceneOf (before.answer caller none world)) := by
    intro someone
    apply settles.step upheld
    · exact fun _ => ⟨none, settles.removes objects⟩
    · exact fun _ _ _ shown => shown
  exact ⟨step caller, (step (caller + 1)).relies caller (Nat.succ_ne_self caller).symm⟩

namespace Conducts

variable {mode : Mode} {constraints : Db → Option Failure} {caller : Nat} {α β : Type}
  {phase : Phase} {known : Scene → Prop}

/-- A quiet program keeps what is known. -/
theorem quiet {post : α → Prop} {program : Service α} (quiet : Quiet post program)
    (steady : Steady mode caller known) :
    Conducts mode constraints caller phase known program
      (Stays phase fun value scene => post value ∧ known scene)
      (Stays phase fun _ => known) := by
  -- One command of a quiet program, given what the rest does.
  have command : ∀ {γ : Type} (command : Command γ) (next : γ → Service α),
      children command = [] →
      (∀ (before : Observation) choice answer world,
        exec constraints command choice before.shared = (answer, world) →
        catalogOf world.db = catalogOf before.shared.db ∧
        before.shared.nextId ≤ world.nextId ∧
        (∀ address, before.shared.objects.Holds address → world.objects.Holds address) ∧
        Conducts mode constraints caller phase known (next answer)
          (Stays phase fun value scene => post value ∧ known scene)
          (Stays phase fun _ => known)) →
      Conducts mode constraints caller phase known (.perform command (fun _ => none) next)
        (Stays phase fun value scene => post value ∧ known scene)
        (Stays phase fun _ => known) := by
    intro γ command next alone runs
    apply perform steady alone
    intro before _ holds upheld _ choice answer world ran
    obtain ⟨catalog, later, objects, rest⟩ := runs before choice answer world ran
    obtain ⟨step, relies⟩ := step_quiet caller upheld catalog later objects
    exact ⟨step, known, steady _ _ relies step.upheld holds, rest⟩
  induction quiet with
  | pure holds => exact Conducts.pure fun _ known => ⟨rfl, holds, known⟩
  | throw => exact Conducts.throw fun _ known => ⟨rfl, known⟩
  | execute isBody readOnly _ _ okIh errorIh =>
      apply command
      · rcases isBody with rfl | rfl <;> rfl
      · intro before choice answer world ran
        rename_i body _ _ _ _
        have executed : before.shared.execute constraints body choice = (answer, world) := by
          rcases isBody with rfl | rfl <;> exact ran
        have spec := readOnly constraints before.shared.clock before.shared.state
        unfold World.execute at executed
        unfold Tx.wp at spec
        split at executed
        · obtain ⟨rfl, rfl⟩ := Prod.mk.inj executed
          exact ⟨rfl, Nat.le_refl _, fun _ holds => holds, errorIh _⟩
        · split at executed
          · rename_i outcome
            rw [outcome] at spec
            obtain ⟨rfl, rfl⟩ := Prod.mk.inj executed
            exact ⟨spec.1.catalog, spec.1.later, fun _ holds => holds, okIh _ spec.2⟩
          · obtain ⟨rfl, rfl⟩ := Prod.mk.inj executed
            exact ⟨rfl, Nat.le_refl _, fun _ holds => holds, errorIh _⟩
  | provider harmless _ _ okIh errorIh =>
      apply command _ _ rfl
      intro before choice answer world ran
      rename_i call _ _ _ _
      have answered : (execProvider choice before.shared.clock before.shared.objects call).1 = answer ∧
          { before.shared with
            objects := (execProvider choice before.shared.clock before.shared.objects call).2 } =
              world := Prod.mk.inj ran
      obtain ⟨rfl, rfl⟩ := answered
      obtain ⟨objects, answers⟩ := harmless choice before.shared.clock before.shared.objects
      refine ⟨rfl, Nat.le_refl _, objects, ?_⟩
      cases outcome : (execProvider choice before.shared.clock before.shared.objects call).1 with
      | ok value => exact okIh value (answers value outcome)
      | error failure => exact errorIh failure
  | now _ ih =>
      apply command _ _ rfl
      intro before choice answer world ran
      obtain ⟨rfl, rfl⟩ := Prod.mk.inj ran
      exact ⟨rfl, Nat.le_refl _, fun _ holds => holds, ih _⟩
  | randomUUID _ ih =>
      apply command _ _ rfl
      intro before choice answer world ran
      obtain ⟨rfl, rfl⟩ := Prod.mk.inj ran
      exact ⟨rfl, Nat.le_succ _, fun _ holds => holds, ih _⟩
  | randomInt _ ih =>
      apply command _ _ rfl
      intro before choice answer world ran
      obtain ⟨rfl, rfl⟩ := Prod.mk.inj ran
      exact ⟨rfl, Nat.le_refl _, fun _ holds => holds, ih _⟩

/-- Drawing an identifier does not fail. -/
theorem randomUUID (steady : Steady mode caller known) :
    Conducts mode constraints caller phase known Services.randomUUID (Stays phase fun _ => known)
      fun _ _ _ => False := by
  apply perform steady rfl
  intro before _ holds upheld _ choice answer world ran
  obtain ⟨rfl, rfl⟩ := Prod.mk.inj ran
  have quiet : Step mode caller (sceneOf before)
        (sceneOf (before.answer caller none
          { before.shared with state := before.shared.state.issue })) ∧
      Relies mode caller (sceneOf before)
        (sceneOf (before.answer caller none
          { before.shared with state := before.shared.state.issue })) :=
    step_quiet caller upheld rfl (Nat.le_succ before.shared.nextId) fun _ holds => holds
  obtain ⟨step, relies⟩ := quiet
  refine ⟨step, known, steady _ _ relies step.upheld holds, ?_⟩
  exact Conducts.pure fun _ holds => ⟨rfl, holds⟩

end Conducts

/-! ## What the services do quietly -/

namespace ReadOnly

variable {α β : Type} {answers : α → Prop} {middle : β → Prop}

theorem pure {value : α} (holds : answers value) : ReadOnly (.pure value) answers :=
  fun _ _ _ => ⟨.rest (Nat.le_refl _) rfl, holds⟩

theorem throw {error : Failure} : ReadOnly (.throw error : Database.Tx α) answers :=
  fun _ _ _ => trivial

theorem bind {body : Database.Tx β} {rest : β → Database.Tx α} (first : ReadOnly body middle)
    (second : ∀ value, middle value → ReadOnly (rest value) answers) :
    ReadOnly (body.bind rest) answers := by
  intro check time state
  rw [Tx.wp_bind]
  apply Tx.wp_mono (first check time state) _ fun _ _ => trivial
  rintro value between ⟨early, holds⟩
  apply Tx.wp_mono (second value holds check time between) _ fun _ _ => trivial
  rintro last after ⟨late, ends⟩
  exact ⟨.rest (Nat.le_trans early.later late.later) (late.catalog.trans early.catalog), ends⟩

theorem read {value : Db → α} (holds : ∀ db, answers (value db)) :
    ReadOnly (Tx.read value : Database.Tx α) answers :=
  fun _ _ state => ⟨.rest (Nat.le_refl _) rfl, holds state.db⟩

/-- A read of which only the type is of interest. -/
theorem read_any {value : Db → α} : ReadOnly (Tx.read value : Database.Tx α) fun _ => True :=
  read fun _ => trivial

variable {R : Type} [Row R] {relation : Relation Db Lock R} {condition : R → Bool}

theorem findFirst : ReadOnly (relation.findFirst condition : Database.Tx _)
    fun found => ∀ row ∈ found, condition row = true :=
  read fun _ _ found => (Table.find?_some found).2

theorem findMany {before : R → R → Bool} {take : Option Nat} :
    ReadOnly (relation.findMany condition before take : Database.Tx _) fun _ => True :=
  read_any

theorem findFirstOrThrow : ReadOnly (relation.findFirstOrThrow condition : Database.Tx _)
    fun row => condition row = true := by
  intro check time state
  rw [Tx.wp_findFirstOrThrow]
  split
  · trivial
  · rename_i row found
    exact ⟨.rest (Nat.le_refl _) rfl, (Table.find?_some found).2⟩

end ReadOnly

theorem readOnly_findProvider {organizationId providerId : Id} :
    ReadOnly (findProvider organizationId providerId)
      fun found => ∀ connection ∈ found, connection.id = providerId := by
  apply ReadOnly.bind ReadOnly.findFirst
  intro found matches_
  cases found with
  | none => exact .pure (by simp)
  | some connection =>
      apply ReadOnly.bind ReadOnly.findFirst
      intro credential _
      have sameId := matches_ connection rfl
      simp only [Bool.and_eq_true, beq_iff_eq] at sameId
      cases credential with
      | none => exact .pure (by simp)
      | some _ => exact .pure (by simp [sameId.1])

theorem quiet_adapterForOr {missing : Failure} {organizationId providerId : Id} :
    Quiet (fun adapter => adapter.providerConnectionId = providerId)
      (adapterForOr missing organizationId providerId) := by
  apply Quiet.bind (.query readOnly_findProvider)
  intro found matches_
  cases found with
  | none => exact .throw
  | some connection =>
      apply Quiet.call
      intro choice clock objects
      refine ⟨fun _ holds => holds, fun adapter answered => ?_⟩
      simp only [execProvider] at answered
      cases failure : choice.failure with
      | some error => simp [failure] at answered
      | none =>
          simp only [failure, Option.elim_none, Except.ok.injEq] at answered
          rw [← answered]
          exact matches_ connection rfl

theorem quiet_adapterFor {organizationId providerId : Id} :
    Quiet (fun adapter => adapter.providerConnectionId = providerId)
      (adapterFor organizationId providerId) :=
  quiet_adapterForOr

theorem quiet_workerAdapterFor {organizationId providerId : Id} :
    Quiet (fun adapter => adapter.providerConnectionId = providerId)
      (workerAdapterFor organizationId providerId) :=
  quiet_adapterForOr

/-- The calls of an adapter that do not remove anything. -/
theorem harmless_stored {choice : Choice} {objects : Objects} {address other : Address}
    (holds : objects.Holds other) : (execProvider.stored choice objects address).2.Holds other := by
  unfold execProvider.stored
  split
  · split
    · exact holds.put _ _
    · exact holds
  · exact holds.put _ _

theorem harmless_put {address : Address} {contentType : Option String} {length : Int} :
    Harmless (.putObject address contentType length) fun _ => True :=
  fun _ _ _ => ⟨fun _ holds => harmless_stored holds, fun _ _ => trivial⟩

theorem harmless_complete {address : Address} {uploadId : Nat} {parts : List (String × Int)} :
    Harmless (.completeMultipartUpload address uploadId parts) fun _ => True :=
  fun _ _ _ => ⟨fun _ holds => harmless_stored holds, fun _ _ => trivial⟩

/-- A call that leaves the objects as they are. -/
theorem harmless_of_same {α : Type} {call : ProviderCall α}
    (same : ∀ choice clock objects, (execProvider choice clock objects call).2 = objects) :
    Harmless call fun _ => True :=
  fun choice clock objects => ⟨fun address holds => by rw [same]; exact holds, fun _ _ => trivial⟩

theorem quiet_isActive {organizationId namespaceId : Id} {principalType : FolderGrantPrincipalType}
    {principalId : Id} {now : Time} :
    Quiet (fun _ => True) (FolderGrantService.principalIsActive organizationId namespaceId
      principalType principalId now) := by
  unfold FolderGrantService.principalIsActive
  cases principalType with
  | role => exact Quiet.bind (.query .findFirst) fun _ _ => .pure trivial
  | apiCredential => exact Quiet.bind (.query .findFirst) fun _ _ => .pure trivial

theorem quiet_canAccess {input : FolderAccessCheck} :
    Quiet (fun _ => True) (FolderGrantService.canAccess input) := by
  apply Quiet.bind .currentTime
  intro now _
  apply Quiet.bind quiet_isActive
  intro active _
  split
  · apply Quiet.bind (.query .findMany)
    exact fun _ _ => .pure trivial
  · exact .pure trivial

theorem readOnly_candidates {organizationId namespaceId : Id} :
    ReadOnly (PlacementService.candidates organizationId namespaceId) fun _ => True := by
  apply ReadOnly.bind .read_any
  intro targets _
  apply ReadOnly.bind .findMany
  exact fun _ _ => .pure trivial

/-- The targets that fit are among those that were asked about. -/
theorem quiet_eligible {organizationId : Id} {sizeBytes : Int}
    {targets : List (PlacementTarget × BucketConnection)} :
    Quiet (fun fitting => ∀ entry ∈ fitting, entry ∈ targets)
      (PlacementService.eligible organizationId sizeBytes targets) := by
  induction targets with
  | nil => exact .pure fun _ member => member
  | cons target rest ih =>
      apply Quiet.bind (.query .read_any)
      intro usedBytes _
      apply Quiet.bind ih
      intro others among
      have kept : ∀ entry ∈ others, entry ∈ target :: rest :=
        fun entry member => List.mem_cons_of_mem _ (among entry member)
      have added : ∀ entry ∈ target :: others, entry ∈ target :: rest :=
        List.forall_mem_cons.mpr ⟨List.mem_cons_self, kept⟩
      split
      · split
        · exact .pure kept
        · exact .pure added
      · exact .pure added

theorem walkWeights_mem {pick : Int} {targets : List (PlacementTarget × BucketConnection)}
    {selection : PlacementTargetSelection}
    (picked : PlacementService.walkWeights pick targets = some selection) :
    ∃ entry ∈ targets, entry.2 = selection.bucketConnection := by
  induction targets generalizing pick with
  | nil => contradiction
  | cons first rest ih =>
      obtain ⟨target, bucket⟩ := first
      unfold PlacementService.walkWeights at picked
      split at picked
      · obtain rfl := Option.some.inj picked
        exact ⟨(target, bucket), List.mem_cons_self, rfl⟩
      · obtain ⟨entry, member, same⟩ := ih picked
        exact ⟨entry, List.mem_cons_of_mem _ member, same⟩

theorem pickByWeight_mem {pick : Int} {targets : List (PlacementTarget × BucketConnection)}
    {selection : PlacementTargetSelection}
    (picked : PlacementService.pickByWeight pick targets = some selection) :
    ∃ entry ∈ targets, entry.2 = selection.bucketConnection := by
  rcases Option.or_eq_some_iff.mp picked with walked | ⟨-, fallback⟩
  · exact walkWeights_mem walked
  · obtain ⟨entry, last, rfl⟩ := Option.map_eq_some_iff.mp fallback
    exact ⟨entry, List.mem_of_mem_getLast? last, rfl⟩

/-- The target that is selected is one of the candidates. -/
theorem quiet_select {organizationId : Id} {sizeBytes : Int}
    {found : List (PlacementTarget × BucketConnection)} :
    Quiet (fun selection => ∀ target ∈ selection, ∃ entry ∈ found,
        entry.2 = target.bucketConnection)
      (PlacementService.select organizationId sizeBytes found) := by
  apply Quiet.bind quiet_eligible
  intro fitting among
  split
  · exact .pure nofun
  · apply Quiet.randomInt
    intro pick
    apply Quiet.pure
    intro selection picked
    obtain ⟨entry, member, same⟩ := pickByWeight_mem picked
    exact ⟨entry, among entry (List.mem_filter.mp member).1, same⟩

theorem quiet_selectTarget {organizationId namespaceId : Id} {sizeBytes : Int} :
    Quiet (fun _ => True) (PlacementService.selectTarget organizationId namespaceId sizeBytes) := by
  apply Quiet.bind (.query readOnly_candidates)
  exact fun found _ => quiet_select.weaken fun _ _ => trivial

/-- What a summary says about its session. -/
structure Summarizes (session : UploadSession) (summary : UploadSessionSummary) : Prop where
  uploadId : summary.uploadId = session.id
  key : summary.key = session.logicalKey
  sizeBytes : summary.sizeBytes = session.reservedBytes

theorem summarizes_of_toSummary {session : UploadSession} {summary : UploadSessionSummary}
    (made : UploadService.toSummary session = .ok summary) : Summarizes session summary := by
  unfold UploadService.toSummary at made
  dsimp only at made
  split at made
  · cases counted : UploadService.multipartPartCount session.reservedBytes with
    | error error =>
        rw [counted] at made
        contradiction
    | ok partCount =>
        rw [counted] at made
        obtain rfl := Except.ok.inj made
        exact ⟨rfl, rfl, rfl⟩
  · obtain rfl := Except.ok.inj made
    exact ⟨rfl, rfl, rfl⟩

theorem quiet_toSummary {session : UploadSession} :
    Quiet (Summarizes session) (Program.ofExcept (UploadService.toSummary session)) :=
  .ofExcept fun _ => summarizes_of_toSummary

theorem quiet_presign {session : UploadSession} {bucketName : String} {providerConnectionId : Id} :
    Quiet (Summarizes session) (UploadService.presign session bucketName providerConnectionId) := by
  unfold UploadService.presign
  split
  · exact quiet_toSummary
  · apply Quiet.bind (.query .findFirstOrThrow)
    intro owner _
    apply Quiet.bind quiet_adapterFor
    intro adapter _
    apply Quiet.bind (.call (harmless_of_same fun _ _ _ => rfl))
    intro transfer _
    apply Quiet.bind quiet_toSummary
    exact fun _ made => .pure ⟨made.uploadId, made.key, made.sizeBytes⟩

theorem quiet_abandonMultipartUpload {organizationId providerConnectionId : Id} {bucketName : String}
    {physicalKey : PhysicalKey} {providerUploadId : Nat} :
    Quiet (fun _ => True) (UploadService.abandonMultipartUpload organizationId providerConnectionId
      bucketName physicalKey providerUploadId) := by
  apply Quiet.swallow
  apply Quiet.bind quiet_adapterFor
  exact fun _ _ => .call (harmless_of_same fun _ _ _ => rfl)

theorem quiet_abandonSession {organizationId : Id} {bucket : BucketConnection}
    {session : UploadSession} :
    Quiet (fun _ => True) (UploadService.abandonSession organizationId bucket session) := by
  unfold UploadService.abandonSession
  split
  · exact quiet_abandonMultipartUpload
  · exact .pure trivial

theorem quiet_startMultipart {identity : ApiCredentialIdentity} {bucket : BucketConnection}
    {physicalKey : PhysicalKey} {contentType : Option String} {mode : UploadTransferMode} :
    Quiet (fun _ => True)
      (UploadService.startMultipart identity bucket physicalKey contentType mode) := by
  unfold UploadService.startMultipart
  split
  · apply Quiet.catchWith
    · apply Quiet.bind quiet_adapterFor
      intro adapter _
      apply Quiet.bind (.call (harmless_of_same fun _ _ _ => rfl))
      exact fun _ _ => .pure trivial
    · exact fun _ => .throw
  · exact .pure trivial

/-- A session that a request with its idempotency key may resume. -/
structure Resumes (session : UploadSession) (input : UploadInitiateRequest) : Prop where
  logicalKey : session.logicalKey = input.key
  reservedBytes : session.reservedBytes = input.sizeBytes
  contentType : session.contentType = input.contentType
  checksum : session.checksum = input.checksum
  allowOverwrite : session.allowOverwrite = input.overwrite

theorem quiet_resume {existing : FoundSession} {input : UploadInitiateRequest} :
    Quiet (fun summary => Summarizes existing.1 summary ∧ Resumes existing.1 input)
      (UploadService.resume existing input) := by
  unfold UploadService.resume
  dsimp only
  split
  · exact .throw
  · rename_i same
    simp only [not_or, not_not] at same
    obtain ⟨key, size, contentType, checksum, overwrite⟩ := same
    have resumes : Resumes existing.1 input := ⟨key, size, contentType, checksum, overwrite⟩
    split
    · exact quiet_toSummary.weaken fun _ made => ⟨made, resumes⟩
    · apply Quiet.bind .currentTime
      intro now _
      split
      · exact quiet_toSummary.weaken fun _ made => ⟨made, resumes⟩
      · exact quiet_presign.weaken fun _ made => ⟨made, resumes⟩

end Mosp.Conduct
