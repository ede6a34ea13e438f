import Mosp.Platform.Replacement
import Mosp.Platform.Settings
import Mosp.Sql.Runs
import Mathlib.Data.List.Count

/-!
# What the updates of settings keep

The rows that the calls show as committed account for every version of every
setting, as long as no update writes over a version that it has not read.
-/

namespace Mosp.Platform

open Mosp.Concurrency Mosp.Data Mosp.Database Mosp.Sql
open Mosp.Sql.Protocol (Stands)
open PlatformService

/-- The rows that a call shows as committed. -/
def Phase.written : Phase → List PlatformSetting
  | .updated _ rows => rows
  | _ => []

/-- Whether a call has updated a setting. -/
def Phase.updates (key : PlatformSettingKey) (phase : Phase) : Bool :=
  phase.written.any (·.key == key)

/-- The version of a setting. -/
def versionOf (db : Db) (key : PlatformSettingKey) : Nat :=
  versionIn db.platformSetting key

/-- Steps are allowed only while a setting that is being updated has the version that was read. -/
def UpdatesCurrent (self : Nat) (view : View Phase (State Db)) : Prop :=
  ∀ key version, view.phases[self]? = some (.updating key (some version)) →
    versionOf view.shared.db key = version

/-- The entries that have a value. -/
def givenIn (entries : List (PlatformSettingKey × Option JsonValue)) :
    List (PlatformSettingKey × JsonValue) :=
  entries.filterMap fun entry => entry.2.map fun value => (entry.1, value)

/-- The settings that a request asks for. -/
def PlatformSettingsUpdateRequest.given (input : PlatformSettingsUpdateRequest) :
    List (PlatformSettingKey × JsonValue) :=
  givenIn input.values

/-- The rows are what the request asks for. -/
structure Answers (input : PlatformSettingsUpdateRequest) (rows : List PlatformSetting) : Prop where
  given : (rows.map fun row => (row.key, row.value)) = input.given
  expected : ∀ row ∈ rows, ∀ version, input.expectedVersion row.key = some version →
    row.version = version + 1

/-- The successful updates account for the settings. -/
structure Accounted (start : Db) (view : View Phase (State Db)) : Prop where
  unique : UniqueKeys view.shared.db.platformSetting
  counted : ∀ key, versionOf view.shared.db key =
    versionOf start key + view.phases.countP (Phase.updates key)
  replaced : ∀ (self : Nat) phase, view.phases[self]? = some phase → ∀ row ∈ phase.written,
    versionOf start row.key < row.version ∧ row.version ≤ versionOf view.shared.db row.key
  once : ∀ (self other : Nat) phase otherPhase, view.phases[self]? = some phase →
    view.phases[other]? = some otherPhase → ∀ row ∈ phase.written, ∀ otherRow ∈ otherPhase.written,
      row.key = otherRow.key → row.version = otherRow.version → self = other
  filled : ∀ key version, versionOf start key < version → version ≤ versionOf view.shared.db key →
    ∃ (self : Nat) (phase : Phase), view.phases[self]? = some phase ∧
      ∃ row ∈ phase.written, row.key = key ∧ row.version = version
  stored : ∀ row ∈ view.shared.db.platformSetting, row ∈ start.platformSetting ∨
    ∃ (self : Nat) (phase : Phase), view.phases[self]? = some phase ∧ row ∈ phase.written
  answers : ∀ (self : Nat) input rows, view.phases[self]? = some (.updated input rows) →
    Answers input rows

variable {start : Db} {view : View Phase (State Db)} {self : Nat}

/-- A call that shows nothing as committed hides no other by showing something else. -/
theorem still_shown {old new : Phase} (phaseAt : view.phases[self]? = some old)
    (before : old.written = []) {other : Nat} {phase : Phase} {row : PlatformSetting}
    (shown : view.phases[other]? = some phase) (member : row ∈ phase.written) :
    (view.phases.set self new)[other]? = some phase := by
  rw [List.getElem?_set_ne, shown]
  rintro rfl
  rw [phaseAt] at shown
  obtain rfl := Option.some.inj shown
  rw [before] at member
  contradiction

/-- Showing a phase that commits nothing. -/
theorem Accounted.shows (accounted : Accounted start view) {old new : Phase}
    (phaseAt : view.phases[self]? = some old) (before : old.written = [])
    (after : ∀ input rows, new ≠ .updated input rows) {shared : State Db}
    (same : shared.db = view.shared.db) :
    Accounted start ⟨view.phases.set self new, shared⟩ := by
  have none_ : new.written = [] := by
    cases new with
    | updated input rows => exact absurd rfl (after input rows)
    | _ => rfl
  have kept : ∀ {other : Nat} {phase : Phase} {row : PlatformSetting},
      (view.phases.set self new)[other]? = some phase → row ∈ phase.written →
        view.phases[other]? = some phase := by
    intro other phase row shown member
    rcases View.set_phase_cases shown with rfl | old
    · rw [none_] at member
      contradiction
    · exact old
  have still : ∀ {other : Nat} {phase : Phase} {row : PlatformSetting},
      view.phases[other]? = some phase → row ∈ phase.written →
        (view.phases.set self new)[other]? = some phase := fun shown member =>
    still_shown phaseAt before shown member
  constructor
  · rw [same]
    exact accounted.unique
  · intro key
    obtain ⟨inside, oldEq⟩ := List.getElem?_eq_some_iff.mp phaseAt
    have idle : Phase.updates key old = false := by simp [Phase.updates, before]
    have still : Phase.updates key new = false := by simp [Phase.updates, none_]
    rw [same, accounted.counted key, List.countP_set inside, oldEq, idle, still]
    simp
  · intro other phase shown row member
    rw [same]
    exact accounted.replaced other phase (kept shown member) row member
  · intro first second phase otherPhase shown otherShown row member otherRow otherMember
    exact accounted.once first second phase otherPhase (kept shown member)
      (kept otherShown otherMember) row member otherRow otherMember
  · intro key version above below
    rw [same] at below
    obtain ⟨other, phase, shown, row, member, terms⟩ := accounted.filled key version above below
    exact ⟨other, phase, still shown member, row, member, terms⟩
  · intro row member
    rw [same] at member
    refine (accounted.stored row member).imp_right ?_
    rintro ⟨other, phase, shown, written⟩
    exact ⟨other, phase, still shown written, written⟩
  · intro other input rows shown
    rcases View.set_phase_cases shown with rfl | old
    · exact absurd rfl (after input rows)
    · exact accounted.answers other input rows old

/-- Drawing an identifier. -/
theorem Accounted.issue (accounted : Accounted start view) :
    Accounted start { view with shared := view.shared.issue } :=
  ⟨accounted.unique, accounted.counted, accounted.replaced, accounted.once, accounted.filled,
    accounted.stored, accounted.answers⟩

/-- What a call shows when its rows are committed. -/
theorem shown_set {old new : Phase} (phaseAt : view.phases[self]? = some old) {other : Nat}
    {phase : Phase} (shown : (view.phases.set self new)[other]? = some phase) :
    other = self ∧ phase = new ∨ other ≠ self ∧ view.phases[other]? = some phase := by
  rw [List.getElem?_set] at shown
  by_cases same : self = other
  · have inside := (List.getElem?_eq_some_iff.mp phaseAt).1
    rw [if_pos same, if_pos inside] at shown
    exact .inl ⟨same.symm, (Option.some.inj shown).symm⟩
  · rw [if_neg same] at shown
    exact .inr ⟨Ne.symm same, shown⟩

/-- Committing rows that replace the versions before them. -/
theorem Accounted.commits (accounted : Accounted start view) {old : Phase}
    (phaseAt : view.phases[self]? = some old) (before : old.written = [])
    {input : PlatformSettingsUpdateRequest} {rows : List PlatformSetting}
    (distinct : Distinct rows) (answers : Answers input rows)
    (replaces : ∀ row ∈ rows, Replaces view.shared.db.platformSetting row) {shared : State Db}
    (written : shared.db.platformSetting = putAll view.shared.db.platformSetting rows) :
    Accounted start ⟨view.phases.set self (.updated input rows), shared⟩ := by
  have unique := accounted.unique
  have raised : ∀ row ∈ rows, row.version = versionOf view.shared.db row.key + 1 :=
    fun row member => version_of_replaces unique (replaces row member)
  have now : ∀ row ∈ rows, versionOf shared.db row.key = row.version := by
    intro row member
    rw [versionOf, written]
    exact versionIn_putAll_of_mem unique distinct replaces member
  have still : ∀ key, (∀ row ∈ rows, row.key ≠ key) →
      versionOf shared.db key = versionOf view.shared.db key := by
    intro key apart
    rw [versionOf, written]
    exact versionIn_putAll_other unique distinct replaces apart
  have grows : ∀ key, versionOf view.shared.db key ≤ versionOf shared.db key := by
    intro key
    by_cases some_ : ∃ row ∈ rows, row.key = key
    · obtain ⟨row, member, rfl⟩ := some_
      rw [now row member, raised row member]
      exact Nat.le_succ _
    · rw [still key fun row member same => some_ ⟨row, member, same⟩]
  have inside := (List.getElem?_eq_some_iff.mp phaseAt).1
  have mine : (view.phases.set self (.updated input rows))[self]? =
      some (.updated input rows) := by
    rw [List.getElem?_set_self inside]
  constructor
  · rw [written]
    exact uniqueKeys_putAll unique distinct replaces
  · intro key
    have idle : Phase.updates key old = false := by simp [Phase.updates, before]
    have oldEq := (List.getElem?_eq_some_iff.mp phaseAt).2
    rw [List.countP_set inside, oldEq, idle]
    by_cases some_ : ∃ row ∈ rows, row.key = key
    · obtain ⟨row, member, rfl⟩ := some_
      have updates : Phase.updates row.key (.updated input rows) = true :=
        List.any_eq_true.mpr ⟨row, member, beq_self_eq_true _⟩
      have counted := accounted.counted row.key
      rw [updates, now row member, raised row member]
      simp only [Bool.false_eq_true, if_false, if_true, Nat.sub_zero]
      omega
    · have silent : Phase.updates key (.updated input rows) = false := by
        rw [Phase.updates, List.any_eq_false]
        exact fun row member same => some_ ⟨row, member, by simpa using same⟩
      rw [silent, still key fun row member same => some_ ⟨row, member, same⟩]
      simpa using accounted.counted key
  · intro other phase shown row member
    rcases shown_set phaseAt shown with ⟨-, rfl⟩ | ⟨-, earlier⟩
    · have counted := accounted.counted row.key
      rw [now row member, raised row member]
      omega
    · obtain ⟨above, below⟩ := accounted.replaced other phase earlier row member
      exact ⟨above, Nat.le_trans below (grows row.key)⟩
  · -- A version that was shown before is at most the one that is replaced now.
    have apart : ∀ (other : Nat) phase, view.phases[other]? = some phase →
        ∀ earlier ∈ phase.written, ∀ row ∈ rows, earlier.key = row.key →
          earlier.version ≠ row.version := by
      intro other phase shown earlier member row inRows sameKey sameVersion
      have below := (accounted.replaced other phase shown earlier member).2
      rw [sameVersion, raised row inRows, sameKey] at below
      exact absurd below (Nat.not_succ_le_self _)
    intro first second phase otherPhase shown otherShown row member otherRow otherMember key version
    rcases shown_set phaseAt shown with ⟨rfl, rfl⟩ | ⟨-, earlier⟩ <;>
      rcases shown_set phaseAt otherShown with ⟨rfl, rfl⟩ | ⟨-, otherEarlier⟩
    · rfl
    · exact absurd version.symm (apart second otherPhase otherEarlier otherRow otherMember row member
        key.symm)
    · exact absurd version (apart first phase earlier row member otherRow otherMember key)
    · exact accounted.once first second phase otherPhase earlier otherEarlier row member otherRow
        otherMember key version
  · intro key version above below
    by_cases earlier : version ≤ versionOf view.shared.db key
    · obtain ⟨other, phase, shown, row, inPhase, terms⟩ :=
        accounted.filled key version above earlier
      exact ⟨other, phase, still_shown phaseAt before shown inPhase, row, inPhase, terms⟩
    · by_cases some_ : ∃ row ∈ rows, row.key = key
      · obtain ⟨row, member, rfl⟩ := some_
        refine ⟨self, _, mine, row, member, rfl, ?_⟩
        rw [now row member] at below
        have raisedBy := raised row member
        omega
      · rw [still key fun row member same => some_ ⟨row, member, same⟩] at below
        exact absurd below earlier
  · intro row member
    rw [written, mem_putAll distinct.ids] at member
    rcases member with inRows | ⟨inTable, -⟩
    · exact .inr ⟨self, _, mine, inRows⟩
    · refine (accounted.stored row inTable).imp_right ?_
      rintro ⟨other, phase, shown, inPhase⟩
      exact ⟨other, phase, still_shown phaseAt before shown inPhase, inPhase⟩
  · intro other otherInput otherRows shown
    rcases View.set_phase_cases shown with same | earlier
    · obtain ⟨rfl, rfl⟩ := Phase.updated.inj same
      exact answers
    · exact accounted.answers other otherInput otherRows earlier

/-- The protocol of the updates.  Its calls are not cut off: who has updated a setting is
told by the phases. -/
def versioned (start : Db) : Protocol Db Phase where
  Good := Accounted start
  Develops before after := ∀ row ∈ before.db.platformSetting,
    ∃ later ∈ after.db.platformSetting, later.id = row.id ∧ later.key = row.key
  Permits := UpdatesCurrent
  Stops := False
  develops_refl _ row member := ⟨row, member, rfl, rfl⟩
  develops_trans {_ _ _} before after row member := by
    obtain ⟨middle, middleMem, middleId, middleKey⟩ := before row member
    obtain ⟨later, laterMem, laterId, laterKey⟩ := after middle middleMem
    exact ⟨later, laterMem, laterId.trans middleId, laterKey.trans middleKey⟩
  develops_issue _ row member := ⟨row, member, rfl, rfl⟩
  good_idle {view} good := by
    have kept : ∀ {other : Nat} {phase : Phase} {row : PlatformSetting},
        (view.fork [default]).phases[other]? = some phase → row ∈ phase.written →
          view.phases[other]? = some phase := by
      intro other phase row shown member
      rcases View.fork_phase_cases shown with rfl | old
      · contradiction
      · exact old
    have still : ∀ {other : Nat} {phase : Phase}, view.phases[other]? = some phase →
        (view.fork [default]).phases[other]? = some phase := fun {other phase} shown =>
      (View.fork_phases_lt _ _ (List.getElem?_eq_some_iff.mp shown).1).trans shown
    constructor
    · exact good.unique
    · intro key
      rw [View.fork_phases, List.countP_append]
      exact good.counted key
    · intro other phase shown row member
      exact good.replaced other phase (kept shown member) row member
    · intro first second phase otherPhase shown otherShown row member otherRow otherMember
      exact good.once first second phase otherPhase (kept shown member)
        (kept otherShown otherMember) row member otherRow otherMember
    · intro key version above below
      obtain ⟨other, phase, shown, made⟩ := good.filled key version above below
      exact ⟨other, phase, still shown, made⟩
    · intro row member
      refine (good.stored row member).imp_right ?_
      rintro ⟨other, phase, shown, written⟩
      exact ⟨other, phase, still shown, written⟩
    · intro other input rows shown
      exact good.answers other input rows ((View.fork_phase_cases shown).resolve_left (by simp))
  good_stop _ stops := stops.elim

/-! ## What a transaction knows -/

/-- What the writes and locks of a transaction are when it has written some rows. -/
structure Progress (rows : List PlatformSetting) (pending : List Write) (locks : List Lock) :
    Prop where
  distinct : Distinct rows
  pending : ∀ state : State Db,
    (state.write pending).db.platformSetting = putAll state.db.platformSetting rows
  locks : ∀ row ∈ rows, .platformSetting row.id ∈ locks ∧ .settingKey row.key ∈ locks

/-- The rows replace what is committed. -/
def Replacing (rows : List PlatformSetting) (state : State Db) : Prop :=
  ∀ row ∈ rows, Replaces state.db.platformSetting row

variable {rows : List PlatformSetting} {pending : List Write} {locks : List Lock}

theorem progress_nil : Progress [] [] [] :=
  ⟨⟨List.nodup_nil, List.nodup_nil⟩, fun _ => rfl, nofun⟩

theorem Progress.activity (progress : Progress rows pending locks) (row : ActivityLog) :
    Progress rows (pending ++ [.activityLog row]) (locks ++ [.activityLog row.id]) := by
  constructor
  · exact progress.distinct
  · intro state
    rw [State.write_append]
    exact progress.pending state
  · intro setting member
    obtain ⟨id, key⟩ := progress.locks setting member
    exact ⟨List.mem_append_left _ id, List.mem_append_left _ key⟩

/-- Another row is written. -/
theorem Progress.setting (progress : Progress rows pending locks) {row : PlatformSetting}
    (id : row.id ∉ rows.map PlatformSetting.id) (key : row.key ∉ rows.map PlatformSetting.key) :
    Progress (rows ++ [row]) (pending ++ [.platformSetting row])
      (locks ++ [.platformSetting row.id, .settingKey row.key]) := by
  constructor
  · constructor
    · rw [List.map_append, List.map_singleton, ← List.concat_eq_append]
      exact progress.distinct.ids.concat id
    · rw [List.map_append, List.map_singleton, ← List.concat_eq_append]
      exact progress.distinct.keys.concat key
  · intro state
    rw [State.write_append, putAll_append, ← progress.pending state]
    rfl
  · intro setting member
    rcases List.mem_append.mp member with old | new
    · obtain ⟨idMem, keyMem⟩ := progress.locks setting old
      exact ⟨List.mem_append_left _ idMem, List.mem_append_left _ keyMem⟩
    · obtain rfl := List.mem_singleton.mp new
      simp

/-- Nobody else writes over what is to be replaced. -/
theorem stays_replacing (progress : Progress rows pending locks) (more : List Lock) :
    (versioned start).Stays (locks ++ more) (Replacing rows) := by
  intro before after _ same replaces row member
  obtain ⟨idLock, keyLock⟩ := progress.locks row member
  have found : after.db.platformSetting.get? row.id = before.db.platformSetting.get? row.id :=
    same _ (List.mem_append_left more idLock)
  rcases replaces row member with ⟨old, stored, terms⟩ | ⟨free, absent, first⟩
  · exact .inl ⟨old, found.trans stored, terms⟩
  · refine .inr ⟨found.trans free, ?_, first⟩
    intro other otherMem sameKey
    have earlier : ∃ old ∈ before.db.platformSetting, old.key = row.key :=
      same _ (List.mem_append_left more keyLock) other otherMem sameKey
    obtain ⟨old, oldMem, oldKey⟩ := earlier
    exact absent old oldMem oldKey

/-! ## The transaction -/

variable {answer : {β : Type} → Elsewhere β → Unit → Nat → Unit → β × Unit}
  {input : PlatformSettingsUpdateRequest} {metadata : PlatformActionMetadata}
  {key : PlatformSettingKey} {value : JsonValue} {phase : Phase} {α : Type}

/-- The phase that a call shows when its transaction has ended. -/
def phaseAfter (input : PlatformSettingsUpdateRequest) (result : Except Failure (List PlatformSetting)) :
    Phase :=
  (noteUpdated input result).getD .idle

/-- Giving the transaction up. -/
theorem abandons_update (quiet : phase.written = []) (fact : State Db → Prop) :
    (versioned start).Abandons self (noteUpdated input)
      (fun result => Stands self (phaseAfter input result) fun _ => True) phase fact := by
  intro error view good stands
  have unwritten : ∃ shown, noteUpdated input (.error error) = some shown ∧
      ∀ input rows, shown ≠ .updated input rows := by
    cases error with
    | platformSettingVersionConflict => exact ⟨.conflicted, rfl, nofun⟩
    | database code message => exact ⟨.failed, rfl, nofun⟩
  obtain ⟨shown, noted, silent⟩ := unwritten
  constructor
  · rw [noted]
    exact ⟨good.shows stands.phase quiet silent rfl, trivial⟩
  · constructor
    · rw [phaseAfter, noted]
      exact Protocol.answer_phase stands.phase _ _
    · trivial

section

variable {rest : PlatformSetting → Tx (List PlatformSetting)}

/-- The transaction goes on from some rows that it has written. -/
abbrev GoesOn (start : Db) (answer : {β : Type} → Elsewhere β → Unit → Nat → Unit → β × Unit)
    (self : Nat) (input : PlatformSettingsUpdateRequest) (phase : Phase) (pending : List Write)
    (locks : List Lock) (fact : State Db → Prop) (body : Tx (List PlatformSetting)) : Prop :=
  (versioned start).Transacts violation answer self (noteUpdated input)
    (fun result => Stands self (phaseAfter input result) fun _ => True) phase pending locks fact body

theorem transacts_logUpdate {rest : ActivityLog → Tx (List PlatformSetting)}
    (quiet : phase.written = []) (progress : Progress rows pending locks)
    (runs : ∀ row, GoesOn start answer self input phase (pending ++ [.activityLog row])
      (locks ++ [.activityLog row.id]) (Replacing rows) (rest row)) :
    GoesOn start answer self input phase pending locks (Replacing rows)
      ((logUpdate metadata key).bind rest) := by
  have stays : (versioned start).Stays locks (Replacing rows) := by
    simpa using stays_replacing progress []
  apply Protocol.Transacts.randomUUID stays
  intro view good stands
  constructor
  · exact ⟨good.issue, trivial⟩
  · refine ⟨Replacing rows, stands.fact, ?_⟩
    apply Protocol.Transacts.create stays (abandons_update quiet _)
    intro view time _ _ stands _ _
    exact ⟨Replacing rows, stands.fact, runs _⟩

/-- A row that was read is still there, under its key. -/
def Stored (id : Id) (key : PlatformSettingKey) (state : State Db) : Prop :=
  ∃ row ∈ state.db.platformSetting, row.id = id ∧ row.key = key

theorem stays_stored (progress : Progress rows pending locks) (id : Id) :
    (versioned start).Stays locks fun state => Replacing rows state ∧ Stored id key state := by
  rintro before after develops same ⟨replacing, row, member, rowId, rowKey⟩
  have stays : (versioned start).Stays locks (Replacing rows) := by
    simpa using stays_replacing progress []
  obtain ⟨later, laterMem, laterId, laterKey⟩ := develops row member
  exact ⟨stays before after develops same replacing, later, laterMem, laterId.trans rowId,
    laterKey.trans rowKey⟩

/-- The row that an update by identifier writes over. -/
theorem found_stored {state : State Db} {id : Id} {row : PlatformSetting}
    (progress : Progress rows pending locks) (fresh : key ∉ rows.map PlatformSetting.key)
    (replacing : Replacing rows state) (stored : Stored id key state)
    (found : (state.write pending).db.platformSetting.find? (fun row => row.id == id) = some row) :
    row ∈ state.db.platformSetting ∧ row.key = key ∧ row.id ∉ rows.map PlatformSetting.id := by
  obtain ⟨old, oldMem, oldId, oldKey⟩ := stored
  obtain ⟨member, sameId⟩ := Table.find?_some found
  have rowId : row.id = id := by simpa using sameId
  have unwritten : row.id ∉ rows.map PlatformSetting.id := by
    intro inIds
    obtain ⟨written, inRows, writtenId⟩ := List.mem_map.mp inIds
    have sameKey := key_of_id_eq (replacing written inRows) oldMem
      (oldId.trans (rowId.symm.trans writtenId.symm))
    exact fresh (List.mem_map.mpr ⟨written, inRows, sameKey.symm.trans oldKey⟩)
  rw [progress.pending, mem_putAll progress.distinct.ids] at member
  rcases member with inRows | ⟨inTable, -⟩
  · exact absurd (List.mem_map_of_mem inRows) unwritten
  · have same : row = old := Table.eq_of_id_eq inTable oldMem (rowId.trans oldId.symm)
    exact ⟨inTable, same ▸ oldKey, unwritten⟩

/-- The write goes over the version that was read. -/
theorem transacts_update {current : PlatformSetting} (fresh : key ∉ rows.map PlatformSetting.key)
    (progress : Progress rows pending locks)
    (runs : ∀ row, row.key = key → row.value = value → row.version = current.version + 1 →
      ∀ pending' locks', Progress (rows ++ [row]) pending' locks' →
        GoesOn start answer self input (.updating key (some current.version)) pending' locks'
          (Replacing (rows ++ [row])) (rest row)) :
    GoesOn start answer self input (.updating key (some current.version)) pending locks
      (fun state => Replacing rows state ∧ Stored current.id key state)
      ((writeSetting metadata key value (current.version + 1) (some current)).bind rest) := by
  apply Protocol.Transacts.update (stays_stored progress current.id) (abandons_update rfl _)
  intro view time row good permits stands found
  obtain ⟨replacing, stored⟩ := stands.fact
  obtain ⟨member, rowKey, unwritten⟩ := found_stored progress fresh replacing stored found
  have version : row.version = current.version := by
    rw [← versionIn_of_mem good.unique member, rowKey]
    exact permits key current.version stands.phase
  refine ⟨Replacing (rows ++ [_]), ?_, runs _ ?_ rfl rfl _ _ (progress.setting ?_ ?_)⟩
  · intro written inRows
    rcases List.mem_append.mp inRows with old | new
    · exact replacing written old
    · obtain rfl := List.mem_singleton.mp new
      exact .inl ⟨row, Table.get?_some.mpr ⟨member, rfl⟩, rfl, by simp [version]⟩
  · exact rowKey
  · exact unwritten
  · exact rowKey ▸ fresh

/-- A row that fits into what the transaction sees is new to what is committed. -/
theorem free_of_unique {table : Table PlatformSetting} {created : PlatformSetting}
    (distinct : Distinct rows) (fresh : created.key ∉ rows.map PlatformSetting.key)
    (replaces : ∀ row ∈ rows, Replaces table row)
    (absent : ∀ row ∈ putAll table rows, row.id ≠ created.id)
    (unique : UniqueKeys ((putAll table rows).put created)) :
    table.get? created.id = none ∧ ∀ other ∈ table, other.key ≠ created.key := by
  constructor
  · rw [Table.get?_none]
    intro other member sameId
    by_cases inIds : other.id ∈ rows.map PlatformSetting.id
    · obtain ⟨row, inRows, rowId⟩ := List.mem_map.mp inIds
      exact absent row ((mem_putAll distinct.ids).mpr (.inl inRows)) (rowId.trans sameId)
    · exact absent other ((mem_putAll distinct.ids).mpr (.inr ⟨member, inIds⟩)) sameId
  · intro other member sameKey
    have unwritten : other.id ∉ rows.map PlatformSetting.id := by
      intro inIds
      obtain ⟨row, inRows, rowId⟩ := List.mem_map.mp inIds
      have rowKey := key_of_id_eq (replaces row inRows) member rowId.symm
      exact fresh (List.mem_map.mpr ⟨row, inRows, rowKey.symm.trans sameKey⟩)
    have visible : other ∈ putAll table rows :=
      (mem_putAll distinct.ids).mpr (.inr ⟨member, unwritten⟩)
    have apart := absent other visible
    exact apart (unique other (Table.mem_put.mpr (.inr ⟨visible, apart⟩)) created
      (Table.mem_put_self _ _) nofun (by simp [sameKey]))

/-- The write adds the first row of its key. -/
theorem transacts_create (fresh : key ∉ rows.map PlatformSetting.key)
    (progress : Progress rows pending locks) (quiet : phase.written = [])
    (runs : ∀ row, row.key = key → row.value = value → row.version = 1 →
      ∀ pending' locks', Progress (rows ++ [row]) pending' locks' →
        GoesOn start answer self input phase pending' locks' (Replacing (rows ++ [row]))
          (rest row)) :
    GoesOn start answer self input phase pending locks (Replacing rows)
      ((writeSetting metadata key value (0 + 1) none).bind rest) := by
  have stays : (versioned start).Stays locks (Replacing rows) := by
    simpa using stays_replacing progress []
  apply Protocol.Transacts.randomUUID stays
  intro view good stands
  refine ⟨⟨good.issue, trivial⟩, Replacing rows, stands.fact, ?_⟩
  apply Protocol.Transacts.createChecked stays (abandons_update quiet _)
  intro view time _ _ stands created absent passed
  have unique : UniqueKeys ((putAll view.shared.db.platformSetting rows).put created) := by
    rw [← progress.pending]
    exact @holds_of_violation _ passed .platformSettingKey (by decide)
  rw [platformSetting_toRelation_table, progress.pending, Table.get?_none] at absent
  have written : ∀ row ∈ rows, row.id ≠ created.id := fun row member =>
    absent row ((mem_putAll progress.distinct.ids).mpr (.inl member))
  have unwritten : created.id ∉ rows.map PlatformSetting.id := by
    intro inIds
    obtain ⟨row, member, sameId⟩ := List.mem_map.mp inIds
    exact written row member sameId
  obtain ⟨free, absentKey⟩ := free_of_unique progress.distinct fresh stands.fact absent unique
  refine ⟨Replacing (rows ++ [created]), ?_, runs created rfl rfl rfl _ _
    (progress.setting unwritten fresh)⟩
  intro row inRows
  rcases List.mem_append.mp inRows with old | new
  · exact stands.fact row old
  · obtain rfl := List.mem_singleton.mp new
    exact .inr ⟨free, absentKey, rfl⟩

/-- One iteration of the loop. -/
theorem transacts_updateSetting (fresh : key ∉ rows.map PlatformSetting.key)
    (progress : Progress rows pending locks) (quiet : phase.written = [])
    (runs : ∀ row, row.key = key → row.value = value →
      (∀ version, input.expectedVersion key = some version → row.version = version + 1) →
      ∀ phase' pending' locks', phase'.written = [] → Progress (rows ++ [row]) pending' locks' →
        GoesOn start answer self input phase' pending' locks' (Replacing (rows ++ [row]))
          (rest row)) :
    GoesOn start answer self input phase pending locks (Replacing rows)
      ((updateSetting input metadata key value).bind rest) := by
  have stays : (versioned start).Stays locks (Replacing rows) := by
    simpa using stays_replacing progress []
  unfold updateSetting
  simp only [Program.bind_eq, Program.bind_assoc]
  apply Protocol.Transacts.readNoting stays (abandons_update quiet _)
  intro view good _ stands found
  have silent : ∀ input rows,
      Phase.updating key (found.map PlatformSetting.version) ≠ .updated input rows :=
    fun _ _ => nofun
  refine ⟨⟨good.shows stands.phase quiet silent rfl, trivial⟩, ?_⟩
  have expected : ∀ currentVersion, ¬(input.expectedVersion key).any (· != currentVersion) = true →
      ∀ version, input.expectedVersion key = some version → currentVersion + 1 = version + 1 := by
    intro currentVersion passed version named
    rw [named] at passed
    simpa using Eq.symm (by simpa using passed)
  cases found_ : found with
  | none =>
      refine ⟨Replacing rows, stands.fact, ?_⟩
      unfold Program.throwIf
      split
      · exact .throw stays (abandons_update rfl _) _
      rename_i passed
      apply transacts_create fresh progress rfl
      intro row rowKey rowValue version pending' locks' progress'
      apply transacts_logUpdate rfl progress'
      intro event
      apply runs row rowKey rowValue _ _ _ _ rfl (progress'.activity event)
      exact fun named isNamed => version.trans (expected 0 passed named isNamed)
  | some current =>
      have stored : Stored current.id key view.shared := by
        obtain ⟨member, sameKey⟩ := Table.find?_some found_
        have currentKey : current.key = key := by simpa using sameKey
        rw [platformSetting_toRelation_table, progress.pending,
          mem_putAll progress.distinct.ids] at member
        rcases member with inRows | ⟨inTable, -⟩
        · exact absurd (List.mem_map.mpr ⟨current, inRows, currentKey⟩) fresh
        · exact ⟨current, inTable, rfl, currentKey⟩
      refine ⟨fun state => Replacing rows state ∧ Stored current.id key state,
        ⟨stands.fact, stored⟩, ?_⟩
      unfold Program.throwIf
      split
      · exact .throw (stays_stored progress current.id) (abandons_update rfl _) _
      rename_i passed
      apply transacts_update fresh progress
      intro row rowKey rowValue version pending' locks' progress'
      apply transacts_logUpdate rfl progress'
      intro event
      apply runs row rowKey rowValue _ _ _ _ rfl (progress'.activity event)
      exact fun named isNamed => version.trans (expected current.version passed named isNamed)

end

/-- The loop, and what goes on from the rows that it has written. -/
theorem transacts_updateEach {entries : List (PlatformSettingKey × Option JsonValue)}
    {rest : List PlatformSetting → Tx (List PlatformSetting)}
    (fresh : (rows.map PlatformSetting.key ++ entries.map Prod.fst).Nodup)
    (progress : Progress rows pending locks) (quiet : phase.written = [])
    (runs : ∀ more : List PlatformSetting,
      (more.map fun row => (row.key, row.value)) = givenIn entries →
      (∀ row ∈ more, ∀ version, input.expectedVersion row.key = some version →
        row.version = version + 1) →
      ∀ phase' pending' locks', phase'.written = [] → Progress (rows ++ more) pending' locks' →
        GoesOn start answer self input phase' pending' locks' (Replacing (rows ++ more))
          (rest more)) :
    GoesOn start answer self input phase pending locks (Replacing rows)
      ((updateEach input metadata entries).bind rest) := by
  induction entries generalizing rows phase pending locks rest with
  | nil =>
      have done := runs [] rfl nofun phase pending locks quiet
      rw [List.append_nil] at done
      exact done progress
  | cons entry others ih =>
      obtain ⟨key, value⟩ := entry
      rw [List.map_cons] at fresh
      cases value with
      | none => exact ih (fresh.sublist ((List.sublist_cons_self _ _).append_left _)) progress quiet runs
      | some value =>
          have keyFresh : key ∉ rows.map PlatformSetting.key := fun member =>
            (List.nodup_append.mp fresh).2.2 key member key List.mem_cons_self rfl
          unfold updateEach
          simp only [Program.bind_eq, Program.pure_eq, Program.bind_assoc]
          apply transacts_updateSetting keyFresh progress quiet
          intro row rowKey rowValue named phase' pending' locks' quiet' progress'
          apply ih _ progress' quiet'
          · intro more given expected last lastPending lastLocks lastQuiet lastProgress
            rw [List.append_assoc, List.singleton_append] at lastProgress ⊢
            apply runs (row :: more) _ _ last lastPending lastLocks lastQuiet lastProgress
            · rw [List.map_cons, given, rowKey, rowValue]
              rfl
            · intro written member version isNamed
              rcases List.mem_cons.mp member with rfl | inMore
              · exact named version (rowKey ▸ isNamed)
              · exact expected written inMore version isNamed
          · rw [List.map_append, List.map_singleton, rowKey, List.append_assoc]
            exact fresh

/-- The whole transaction. -/
theorem transacts_updates :
    GoesOn start answer self input .idle [] [] (fun _ => True)
      (updateEach input metadata input.values) := by
  have runs : GoesOn start answer self input .idle [] [] (Replacing [])
      (updateEach input metadata input.values) := by
    have distinct : (([] : List PlatformSetting).map PlatformSetting.key ++
        input.values.map Prod.fst).Nodup := input.distinct
    apply Protocol.Transacts.of_bind
    apply transacts_updateEach distinct progress_nil rfl
    intro rows given expected phase pending locks quiet progress
    rw [List.nil_append] at progress ⊢
    have stays : (versioned start).Stays locks (Replacing rows) := by
      simpa using stays_replacing progress []
    apply Protocol.Transacts.pure stays (abandons_update quiet _)
    intro view good stands
    refine ⟨⟨?_, trivial⟩, ?_, ?_⟩
    · exact good.commits stands.phase quiet progress.distinct ⟨given, expected⟩ stands.fact
        (progress.pending _)
    · intro row member
      change ∃ later ∈ (view.shared.write pending).db.platformSetting,
        later.id = row.id ∧ later.key = row.key
      rw [progress.pending]
      by_cases replaced : row.id ∈ rows.map PlatformSetting.id
      · obtain ⟨later, inRows, sameId⟩ := List.mem_map.mp replaced
        refine ⟨later, (mem_putAll progress.distinct.ids).mpr (.inl inRows), sameId, ?_⟩
        exact (key_of_id_eq (stands.fact later inRows) member sameId.symm).symm
      · exact ⟨row, (mem_putAll progress.distinct.ids).mpr (.inr ⟨member, replaced⟩), rfl, rfl⟩
    · exact ⟨Protocol.answer_phase stands.phase _ _, trivial⟩
  exact runs.weaken (fun view knows => ⟨knows.phase, knows.pending, knows.locks, nofun⟩)
    (fun _ _ returned => returned) fun _ _ thrown => thrown

theorem stays_true (locks : List Lock) : (versioned start).Stays locks fun _ => True :=
  fun _ _ _ _ _ => trivial

/-- Reading the settings shows nothing. -/
theorem runs_getSettings :
    (versioned start).Runs violation answer self phase (fun _ => True) getSettings
      (fun _ _ => True) fun _ _ => True := by
  have quiet : (versioned start).Abandons self
      (fun _ : Except Failure (List (PlatformSetting × Option User)) => none)
      (fun _ => Stands self phase fun _ => True) phase fun _ => True :=
    fun _ _ good stands => ⟨⟨good, trivial⟩, stands⟩
  have reads : (versioned start).Transacts violation answer self (fun _ => none)
      (fun _ => Stands self phase fun _ => True) phase [] [] (fun _ => True)
      (Tx.read fun db => (platformSetting.select (fun _ => true)
        (fun first second => decide (first.key.text ≤ second.key.text)) db).map fun setting =>
          (setting, db.user.find? fun user => setting.updatedById == some user.id)) := by
    apply Protocol.Transacts.of_bind
    apply Protocol.Transacts.read (stays_true _) quiet
    intro view _ _ _
    refine ⟨fun _ => True, trivial, ?_⟩
    apply Protocol.Transacts.pure (stays_true _) quiet
    exact fun view good stands => ⟨⟨good, trivial⟩, (versioned start).develops_refl _, stands⟩
  apply Protocol.Runs.transact (stays_true _) reads
  · exact fun _ => .pure fun _ _ => trivial
  · exact fun _ _ _ => trivial

/-- A call of `updateSettings`, whatever it returns. -/
theorem runs_updateSettings :
    (versioned start).Runs violation answer self .idle (fun _ => True)
      (updateSettings input metadata) (fun _ _ => True) fun _ _ => True := by
  apply Protocol.Runs.transact (stays_true _) transacts_updates
  · exact fun _ => runs_getSettings
  · exact fun _ _ _ => trivial

end Mosp.Platform
