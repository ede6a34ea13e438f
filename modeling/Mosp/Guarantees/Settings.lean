import Mosp.Platform.Versions

/-!
# Platform settings

Any number of calls of `updateSettings`, interleaved statement by statement.
The successful calls account for every version of every setting, as long as
none of them writes over a version that it has not read; when one does, two
calls that expect the same version both succeed.
-/

namespace Mosp.Guarantees

open Mosp.Concurrency Mosp.Data Mosp.Sql Mosp.Platform
open Mosp.Database (Id Time)

/-- A request to change settings. -/
structure SettingsRequest where
  input : PlatformSettingsUpdateRequest
  metadata : PlatformActionMetadata

/-- The program of a request; its answer goes to the client. -/
def SettingsRequest.program (request : SettingsRequest) : Platform.Service Unit :=
  (PlatformService.updateSettings request.input request.metadata).bind fun _ => .pure ()

/-- The calls in progress over the tables of the settings. -/
abbrev SettingsCalls := Pool (Exchange Elsewhere Db Write Lock Failure) Phase Failure
  (Store Db Write Lock Unit)

/-- Nothing is answered besides the database. -/
def nothingElse {β : Type} : Elsewhere β → Unit → Nat → Unit → β × Unit :=
  nofun

/-- No call is in progress over a database. -/
def settingsAtRest (state : State Db) (clock : Time) : SettingsCalls :=
  ⟨{ committed := state, clock, outside := () }, []⟩

/-- What runs of `updateSettings` reach. -/
def SettingsReach (condition : Nat → View Phase (State Db) → Prop) :
    SettingsCalls → SettingsCalls → Prop :=
  ReachesUninterrupted violation nothingElse (fun (action : Empty) _ => action.elim)
    SettingsRequest.program (fun _ => True) condition

/-- The call has succeeded with a row. -/
def Succeeded (calls : SettingsCalls) (self : Nat) (input : PlatformSettingsUpdateRequest)
    (row : PlatformSetting) : Prop :=
  ∃ rows, calls.view.phases[self]? = some (.updated input rows) ∧ row ∈ rows

/-- The settings are what the successful updates have made of them. -/
structure SettingsVersioned (start : Db) (calls : SettingsCalls) : Prop where
  /-- One call at most succeeds with an expected version. -/
  once : ∀ key version first firstInput firstRow second secondInput secondRow,
    Succeeded calls first firstInput firstRow → firstRow.key = key →
    firstInput.expectedVersion key = some version →
    Succeeded calls second secondInput secondRow → secondRow.key = key →
    secondInput.expectedVersion key = some version → first = second
  /-- A call that succeeds with an expected version has raised it by one. -/
  raises : ∀ self input row, Succeeded calls self input row →
    ∀ version, input.expectedVersion row.key = some version → row.version = version + 1
  /-- Every version since the start was made by one call. -/
  made : ∀ key version, versionOf start key < version →
    version ≤ versionOf calls.shared.committed.db key →
    ∃! self, ∃ input row, Succeeded calls self input row ∧ row.key = key ∧ row.version = version
  /-- The version counts the successful updates. -/
  counted : ∀ key, versionOf calls.shared.committed.db key =
    versionOf start key + calls.view.phases.countP (Phase.updates key)
  /-- A setting that differs from the start is one that a successful call has stored. -/
  stored : ∀ row ∈ calls.shared.committed.db.platformSetting, row ∈ start.platformSetting ∨
    ∃ self input, Succeeded calls self input row
  /-- A call with a version conflict has stored nothing. -/
  conflict : ∀ self, calls.view.phases[self]? = some .conflicted →
    ∀ row ∈ calls.shared.committed.db.platformSetting, row ∈ start.platformSetting ∨
      ∃ other ≠ self, ∃ input, Succeeded calls other input row

theorem respects_versioned (start : Db) :
    Contract.Respects (readCommitted violation nothingElse Phase)
      (surround fun (action : Empty) _ => action.elim)
      (Uninterrupted SettingsRequest.program (fun _ => True) UpdatesCurrent)
      ((versioned start).contract (X := Unit)) := by
  apply Protocol.respects_where
  · exact fun _ _ allowed => allowed.1
  · exact fun _ process allowed => allowed.2 process rfl
  · intro request _ self
    exact Contract.Triple.bind runs_updateSettings fun _ => Contract.Triple.pure fun _ _ => trivial
  · exact fun _ _ permitted => permitted

theorem accounted_atRest {state : State Db} (unique : UniqueKeys state.db.platformSetting) :
    Accounted state.db ⟨[], state⟩ := by
  constructor
  · exact unique
  · exact fun _ => rfl
  · exact fun _ _ shown => absurd shown (by simp)
  · exact fun _ _ _ _ shown => absurd shown (by simp)
  · exact fun key version above below => absurd below (Nat.not_le.mpr above)
  · exact fun row member => .inl member
  · exact fun _ _ _ shown => absurd shown (by simp)

theorem holds_settingsAtRest {state : State Db} (unique : UniqueKeys state.db.platformSetting)
    (clock : Time) :
    Contract.Holds (readCommitted violation nothingElse Phase)
      ((versioned state.db).contract (X := Unit)) (settingsAtRest state clock) := by
  constructor
  · constructor
    · intro self write member
      contradiction
    · exact accounted_atRest unique
  · intro self call callAt
    contradiction

/-- Who shows a row as committed has succeeded with it. -/
theorem succeeded_iff {calls : SettingsCalls} {self : Nat} {row : PlatformSetting} :
    (∃ phase : Phase, calls.view.phases[self]? = some phase ∧ row ∈ phase.written) ↔
      ∃ input, Succeeded calls self input row := by
  constructor
  · rintro ⟨phase, shown, member⟩
    cases phase with
    | updated input rows => exact ⟨input, rows, shown, member⟩
    | _ => contradiction
  · rintro ⟨input, rows, shown, member⟩
    exact ⟨.updated input rows, shown, member⟩

theorem settingsVersioned_of_accounted {start : Db} {calls : SettingsCalls}
    (accounted : Accounted start (seen calls.view)) : SettingsVersioned start calls := by
  have raises : ∀ self input row, Succeeded calls self input row →
      ∀ version, input.expectedVersion row.key = some version → row.version = version + 1 := by
    rintro self input row ⟨rows, shown, member⟩
    exact (accounted.answers self input rows shown).expected row member
  constructor
  · intro key version first firstInput firstRow second secondInput secondRow succeeded firstKey
      firstNames otherSucceeded secondKey secondNames
    have firstVersion := raises first firstInput firstRow succeeded version (firstKey ▸ firstNames)
    have secondVersion :=
      raises second secondInput secondRow otherSucceeded version (secondKey ▸ secondNames)
    obtain ⟨rows, shown, member⟩ := succeeded
    obtain ⟨otherRows, otherShown, otherMember⟩ := otherSucceeded
    exact accounted.once first second _ _ shown otherShown firstRow member secondRow otherMember
      (firstKey.trans secondKey.symm) (firstVersion.trans secondVersion.symm)
  · exact raises
  · intro key version above below
    obtain ⟨self, phase, shown, row, member, rowKey, rowVersion⟩ :=
      accounted.filled key version above below
    obtain ⟨input, succeeded⟩ := succeeded_iff.mp ⟨phase, shown, member⟩
    refine ⟨self, ⟨input, row, succeeded, rowKey, rowVersion⟩, ?_⟩
    rintro other ⟨otherInput, otherRow, ⟨otherRows, otherShown, otherMember⟩, otherKey, otherVersion⟩
    exact accounted.once other self _ _ otherShown shown otherRow otherMember row member
      (otherKey.trans rowKey.symm) (otherVersion.trans rowVersion.symm)
  · exact accounted.counted
  · intro row member
    refine (accounted.stored row member).imp_right ?_
    rintro ⟨self, shown⟩
    exact ⟨self, succeeded_iff.mp shown⟩
  · intro self conflicted row member
    refine (accounted.stored row member).imp_right ?_
    rintro ⟨other, shown⟩
    obtain ⟨input, succeeded⟩ := succeeded_iff.mp shown
    refine ⟨other, ?_, input, succeeded⟩
    rintro rfl
    obtain ⟨rows, updated, -⟩ := succeeded
    rw [conflicted] at updated
    exact Phase.noConfusion (Option.some.inj updated)

/-! ## Two administrators -/

namespace Settings

/-- Maintenance is off, at version 1. -/
def db : Db where
  user := .ofRows [{ id := 5, email := "admin@example.com" }]
  platformSetting := .ofRows [{ id := 6, key := .maintenanceMode, value := .bool false, version := 1 }]

def start : SettingsCalls :=
  settingsAtRest ⟨db, 20⟩ 1000

def metadata : PlatformActionMetadata :=
  ⟨5, "request"⟩

/-- A change of a value whose version was seen. -/
def change (value : Bool) (version : Nat) : PlatformSettingsUpdateRequest where
  values := [(.maintenanceMode, some (.bool value))]
  distinct := by simp
  expectedVersions := some [("maintenance_mode", version)]

/-- The second call reads before the first one commits. -/
def raced : List (Script SettingsRequest Failure Unit Empty) :=
  [.start ⟨change true 1, metadata⟩, .start ⟨change false 1, metadata⟩,
    .act 0 { outside := () } 2, .act 1 { outside := () } 2,
    .act 0 { outside := () } 4, .act 1 { outside := () } 4]

/-- The second call expects a version that is gone, the third one the version after it. -/
def ordered : List (Script SettingsRequest Failure Unit Empty) :=
  [.start ⟨change true 1, metadata⟩, .start ⟨change false 1, metadata⟩,
    .start ⟨change false 2, metadata⟩,
    .act 0 { outside := () } 6, .act 1 { outside := () } 3, .act 2 { outside := () } 6]

end Settings

/-- The condition of `UpdatesCurrent`, to be checked. -/
def updatesCurrent (self : Nat) (view : View Phase (State Db)) : Bool :=
  match view.phases[self]? with
  | some (.updating key (some version)) => versionOf view.shared.db key == version
  | _ => true

theorem updatesCurrent_sound {self : Nat} {view : View Phase (State Db)}
    (passes : updatesCurrent self view = true) : UpdatesCurrent self view := by
  intro key version phaseAt
  simp only [updatesCurrent, phaseAt, beq_iff_eq] at passes
  exact passes

/-- Run scripts of `updateSettings`. -/
def runSettings (passes : Nat → View Phase (State Db) → Bool) :
    List (Script SettingsRequest Failure Unit Empty) → Option SettingsCalls :=
  runScripts violation nothingElse (fun action _ => action.elim) SettingsRequest.program passes
    Settings.start

/-- Whether a call has thrown a version conflict. -/
def hasConflict (calls : SettingsCalls) (self : Nat) : Bool :=
  match calls.view.phases[self]? with
  | some .conflicted => true
  | _ => false

theorem of_hasConflict {calls : SettingsCalls} {self : Nat} (has : hasConflict calls self = true) :
    calls.view.phases[self]? = some .conflicted := by
  unfold hasConflict at has
  split at has
  · assumption
  · contradiction

/-- Whether a call has succeeded with a key whose version it expected. -/
def hasSucceeded (calls : SettingsCalls) (self : Nat) (key : PlatformSettingKey) (version : Nat) :
    Bool :=
  match calls.view.phases[self]? with
  | some (.updated input rows) =>
      input.expectedVersion key == some version && rows.any (·.key == key)
  | _ => false

theorem of_hasSucceeded {calls : SettingsCalls} {self : Nat} {key : PlatformSettingKey}
    {version : Nat} (has : hasSucceeded calls self key version = true) :
    ∃ input row, Succeeded calls self input row ∧ row.key = key ∧
      input.expectedVersion key = some version := by
  unfold hasSucceeded at has
  split at has
  · rename_i input rows shown
    obtain ⟨named, updates⟩ := Bool.and_eq_true_iff.mp has
    obtain ⟨row, member, sameKey⟩ := List.any_eq_true.mp updates
    exact ⟨input, row, ⟨rows, shown, member⟩, by simpa using sameKey, by simpa using named⟩
  · contradiction

/-- In every run in which no call writes over a version that it has not read, the successful
updates account for the settings. -/
theorem settings_versioned {start : State Db} {clock : Time} {calls : SettingsCalls}
    (unique : UniqueKeys start.db.platformSetting)
    (reached : SettingsReach UpdatesCurrent (settingsAtRest start clock) calls) :
    SettingsVersioned start.db calls :=
  settingsVersioned_of_accounted
    ((respects_versioned start.db).holds (holds_settingsAtRest unique clock) reached).inv.2

/-- One call succeeds, one conflicts, and one changes the setting again. -/
theorem settings_versioned_example : ∃ calls : SettingsCalls,
    calls.view.phases[1]? = some .conflicted ∧
      versionOf calls.shared.committed.db .maintenanceMode = 3 ∧
      SettingsVersioned Settings.db calls := by
  have ran : ((runSettings updatesCurrent Settings.ordered).any fun calls =>
      hasConflict calls 1 &&
        versionOf calls.shared.committed.db .maintenanceMode == 3) = true := by
    decide +kernel
  obtain ⟨calls, ended, both⟩ := (Option.any_eq_true _ _).mp ran
  obtain ⟨conflict, version⟩ := Bool.and_eq_true_iff.mp both
  have unique : UniqueKeys Settings.db.platformSetting :=
    @holds_of_violation Settings.db (by decide +kernel) .platformSettingKey (by decide)
  have reached : SettingsReach UpdatesCurrent Settings.start calls :=
    uninterrupted_runScripts ended (fun _ _ => trivial) fun self view => updatesCurrent_sound
  exact ⟨calls, of_hasConflict conflict, beq_iff_eq.mp version, settings_versioned unique reached⟩

/-- Two calls that expect the same version both succeed. -/
theorem setting_update_lost : ∃ calls : SettingsCalls,
    UniqueKeys Settings.db.platformSetting ∧
      SettingsReach (fun _ _ => True) Settings.start calls ∧
      ¬SettingsVersioned Settings.db calls := by
  have ran : ((runSettings (fun _ _ => true) Settings.raced).any fun calls =>
      hasSucceeded calls 0 .maintenanceMode 1 && hasSucceeded calls 1 .maintenanceMode 1) = true := by
    decide +kernel
  obtain ⟨calls, ended, both⟩ := (Option.any_eq_true _ _).mp ran
  obtain ⟨first, second⟩ := Bool.and_eq_true_iff.mp both
  obtain ⟨input, row, succeeded, key, named⟩ := of_hasSucceeded first
  obtain ⟨otherInput, otherRow, otherSucceeded, otherKey, otherNamed⟩ := of_hasSucceeded second
  refine ⟨calls, ?_, ?_, ?_⟩
  · exact @holds_of_violation Settings.db (by decide +kernel) .platformSettingKey (by decide)
  · exact uninterrupted_runScripts ended (fun _ _ => trivial) fun _ _ _ => trivial
  · intro versioned
    have same := versioned.once .maintenanceMode 1 0 input row 1 otherInput otherRow succeeded key
      named otherSucceeded otherKey otherNamed
    contradiction

end Mosp.Guarantees
