import Mosp.Index.Accounting
import Mosp.Services.Explorer
import Mosp.Worker.UploadReconciliation

/-!
# Transactions on sessions as actions of the catalog

Each transaction of a service, when it succeeds, is one action of the catalog.
The database may refuse any statement, so a transaction may also fail at any
point; then it changes nothing.
-/

namespace Mosp.Index

open Mosp.Concurrency Mosp.Data Mosp.Sql Mosp.Database Mosp.Services Mosp.Worker

variable {check : Db → Option Failure} {time : Time} {state : State Db}

/-! ## Writes -/

theorem catalogOf_uploadSession (db : Db) (row : UploadSession) :
    catalogOf (db.write (.uploadSession row)) =
      { catalogOf db with sessions := (catalogOf db).sessions.put row } :=
  rfl

theorem catalogOf_migrationItem (db : Db) (row : MigrationItem) :
    catalogOf (db.write (.migrationItem row)) =
      { catalogOf db with items := (catalogOf db).items.put row } :=
  rfl

/-! ## Counters -/

/-- Writing over the counter of a namespace changes the usage of that namespace. -/
theorem catalogOf_usageCounter {db : Db} {organizationId namespaceId : Id}
    {counter row : UsageCounter}
    (found : db.usageCounter.find? (isCounterOf organizationId namespaceId) = some counter)
    (sameId : row.id = counter.id) (own : isCounterOf organizationId namespaceId row = true)
    {delta : Usage} (adds : usageOf row = usageOf counter + delta) :
    catalogOf (db.write (.usageCounter row)) =
      (catalogOf db).charge organizationId namespaceId delta := by
  obtain ⟨counterMem, counterOwn⟩ := Table.find?_some found
  simp only [isCounterOf, Bool.and_eq_true, beq_iff_eq] at own counterOwn
  suffices usage : ∀ otherOrganization otherNamespace,
      usageOf (counterOf (db.write (.usageCounter row)) otherOrganization otherNamespace) =
        ((catalogOf db).charge organizationId namespaceId delta).usage otherOrganization
          otherNamespace by
    unfold catalogOf Catalog.charge
    congr 1
    funext otherOrganization otherNamespace
    exact usage otherOrganization otherNamespace
  intro otherOrganization otherNamespace
  simp only [counterOf, Db.write, Catalog.charge, catalogOf]
  split
  · rename_i same
    obtain ⟨rfl, rfl⟩ := same
    rw [Table.find?_put_found found sameId.symm (by simp [isCounterOf, own]), found]
    exact adds
  · rename_i other
    rw [Table.find?_put_other]
    · simp only [isCounterOf, own.1, own.2, Bool.and_eq_false_iff, beq_eq_false_iff_ne]
      tauto
    · intro old oldMem oldId
      have oldEq : old = counter := Table.eq_of_id_eq oldMem counterMem (oldId.trans sameId)
      subst oldEq
      simp only [isCounterOf, counterOwn.1, counterOwn.2, Bool.and_eq_false_iff,
        beq_eq_false_iff_ne]
      tauto

/-- A counter that is created says nothing. -/
theorem catalogOf_newCounter {db : Db} {organizationId namespaceId : Id} {row : UsageCounter}
    (absent : db.usageCounter.find? (isCounterOf organizationId namespaceId) = none)
    (fresh : ∀ other ∈ db.usageCounter, other.id ≠ row.id)
    (own : isCounterOf organizationId namespaceId row = true) (empty : usageOf row = 0) :
    catalogOf (db.write (.usageCounter row)) = catalogOf db := by
  have ownEq := own
  simp only [isCounterOf, Bool.and_eq_true, beq_iff_eq] at ownEq
  unfold catalogOf
  congr 1
  funext otherOrganization otherNamespace
  simp only [counterOf, Db.write]
  by_cases same : otherOrganization = organizationId ∧ otherNamespace = namespaceId
  · obtain ⟨rfl, rfl⟩ := same
    rw [Table.find?_put_new fresh absent own, absent]
    exact empty
  · rw [Table.find?_put_other]
    · simp only [isCounterOf, ownEq.1, ownEq.2, Bool.and_eq_false_iff, beq_eq_false_iff_ne]
      tauto
    · intro old oldMem sameId
      exact absurd sameId (fresh old oldMem)

/-- Locking the counter of a namespace leaves the catalog as it is. -/
theorem wp_lockUsageCounter {organizationId namespaceId : Id} {returns : Unit → State Db → Prop}
    (goes : ∀ after : State Db, state.nextId ≤ after.nextId →
      catalogOf after.db = catalogOf state.db → returns () after) :
    Tx.wp check time (lockUsageCounter organizationId namespaceId) returns (fun _ => True) state := by
  simp only [lockUsageCounter, Program.bind_eq, Program.pure_eq, Tx.wp_bind, Tx.wp_randomUUID,
    Tx.wp_upsert, Tx.wp_selectForUpdate, Tx.wp_pure, usageCounter_toRelation_table,
    usageCounter_updated, usageCounter_created, usageCounter_put, State.issue_db]
  split
  · rename_i counter found
    apply Tx.Written.of_goes
    apply goes
    · exact Nat.le_succ _
    · rw [State.write_single, State.issue_db, Db.database_write]
      simp only [Db.write, Table.put_eq_self (Table.find?_some found).1]
  · rename_i absent
    split
    · trivial
    · rename_i free
      apply Tx.Written.of_goes
      apply goes
      · exact Nat.le_succ _
      · exact catalogOf_newCounter absent (Table.get?_none.mp free) (by simp [isCounterOf]) rfl

/-- Updating the counter of a namespace charges the namespace. -/
theorem wp_updateCounter {organizationId namespaceId : Id} {data : UsageCounter → UsageCounter}
    {returns : UsageCounter → State Db → Prop} (delta : Usage)
    (sameId : ∀ row, (data row).id = row.id)
    (sameOwner : ∀ row, (data row).organizationId = row.organizationId ∧
      (data row).namespaceId = row.namespaceId)
    (adds : ∀ row, usageOf (data row) = usageOf row + delta)
    (goes : ∀ row (after : State Db), after.nextId = state.nextId →
      catalogOf after.db = (catalogOf state.db).charge organizationId namespaceId delta →
      returns row after) :
    Tx.wp check time (usageCounter.update (isCounterOf organizationId namespaceId) data :
      Database.Tx UsageCounter) returns (fun _ => True) state := by
  rw [Tx.wp_update]
  simp only [usageCounter_toRelation_table, usageCounter_updated, usageCounter_put]
  split
  · trivial
  · rename_i counter found
    apply Tx.Written.of_goes
    apply goes
    · rfl
    · apply catalogOf_usageCounter found (sameId counter)
      · have own := (Table.find?_some found).2
        simpa only [isCounterOf, (sameOwner counter).1, (sameOwner counter).2] using own
      · exact adds counter

/-- A transaction that succeeds takes one action. -/
structure Performs (before after : State Db) (action : Action) : Prop where
  later : before.nextId ≤ after.nextId
  enabled : action.Enabled (catalogOf before.db) after.nextId
  catalog : catalogOf after.db = (catalogOf before.db).after action

theorem Performs.rest {before after : State Db} (later : before.nextId ≤ after.nextId)
    (same : catalogOf after.db = catalogOf before.db) : Performs before after .rest :=
  ⟨later, trivial, same⟩

/-- Actions that can be taken one after the other. -/
def Catalog.Enables (nextId : Id) : Catalog → List Action → Prop
  | _, [] => True
  | catalog, action :: rest =>
      action.Enabled catalog nextId ∧ (catalog.after action).Enables nextId rest

/-- A transaction that writes several rows takes several actions. -/
structure PerformsAll (before after : State Db) (actions : List Action) : Prop where
  later : before.nextId ≤ after.nextId
  enabled : (catalogOf before.db).Enables after.nextId actions
  catalog : catalogOf after.db = actions.foldl Catalog.after (catalogOf before.db)

/-! ## Ending a session -/

theorem wp_decrementReservation {organizationId namespaceId : Id} {reservedBytes : Int}
    {returns : Unit → State Db → Prop}
    (goes : ∀ after : State Db, state.nextId ≤ after.nextId →
      catalogOf after.db = (catalogOf state.db).charge organizationId namespaceId
        { reservedBytes := -reservedBytes, activeUploadCount := -1 } → returns () after) :
    Tx.wp check time (UploadService.decrementReservation organizationId namespaceId reservedBytes)
      returns (fun _ => True) state := by
  simp only [UploadService.decrementReservation, Program.bind_eq, Program.pure_eq, Tx.wp_bind,
    Tx.wp_pure]
  apply wp_lockUsageCounter
  intro locked lockedLater lockedCatalog
  apply wp_updateCounter { reservedBytes := -reservedBytes, activeUploadCount := -1 }
  · exact fun _ => rfl
  · exact fun _ => ⟨rfl, rfl⟩
  · intro row
    ext <;> simp [usageOf, sub_eq_add_neg]
  · intro row after afterId afterCatalog
    apply goes
    · rw [afterId]
      exact lockedLater
    · rw [afterCatalog, lockedCatalog]

/-- Returning the bytes of the session `old` after it was ended with the row `row`. -/
theorem wp_close {old row : UploadSession} {organizationId namespaceId : Id} {reservedBytes : Int}
    {returns : Unit → State Db → Prop} (oldMem : old ∈ state.db.uploadSession)
    (open_ : old.state = .initiated) (terms : sessionTerms old = sessionTerms row)
    (ended : row.state = .aborted ∨ row.state = .expired)
    (own : row.organizationId = organizationId ∧ row.namespaceId = namespaceId ∧
      row.reservedBytes = reservedBytes)
    (goes : ∀ after, Performs state after (.closeSession row) → returns () after) :
    Tx.wp check time (UploadService.decrementReservation organizationId namespaceId reservedBytes)
      returns (fun _ => True) (state.write [Write.uploadSession row]) := by
  apply wp_decrementReservation
  intro after later catalog
  apply goes
  refine ⟨later, ⟨old, oldMem, terms, open_, ended⟩, ?_⟩
  rw [catalog, ← own.1, ← own.2.1, ← own.2.2]
  rfl

theorem wp_endInitiated {ended : UploadSessionState} {organizationId namespaceId uploadId : Id}
    (terminal : ended = .aborted ∨ ended = .expired) :
    Tx.wp check time (UploadService.endInitiated ended organizationId namespaceId uploadId)
      (fun _ after => ∃ action, Performs state after action ∧
        (action = .rest ∨ ∃ session, action = .closeSession session))
      (fun _ => True) state := by
  simp only [UploadService.endInitiated, Program.bind_eq, Program.pure_eq, Tx.wp_bind,
    Tx.wp_noting, Tx.wp_findFirst, uploadSession_toModel_toRelation_table]
  split
  · exact ⟨.rest, .rest (Nat.le_refl _) rfl, .inl rfl⟩
  · rename_i session found
    obtain ⟨member, own⟩ := Table.find?_some found
    simp only [Bool.and_eq_true, beq_iff_eq] at own
    obtain ⟨⟨⟨sameId, sameOrganization⟩, sameNamespace⟩, open_⟩ := own
    rw [Tx.wp_bind]
    apply Tx.wp_update_byId member
    · simpa using sameId
    · intro other _ matches_
      exact (beq_iff_eq.mp matches_).trans sameId.symm
    · apply Tx.Written.of_goes
      apply wp_close member open_
      · rfl
      · exact terminal
      · exact ⟨sameOrganization, sameNamespace, rfl⟩
      · intro after performs
        exact ⟨_, performs, .inr ⟨_, rfl⟩⟩

/-- What a call knows of a session it has read. -/
def KnownSession (db : Db) (session : UploadSession) : Prop :=
  ∀ row ∈ db.uploadSession, row.id = session.id → sessionTerms row = sessionTerms session

theorem wp_abortTransaction {identity : ApiCredentialIdentity} {session : UploadSession}
    (known : KnownSession state.db session) :
    Tx.wp check time (UploadService.abortTransaction identity session)
      (fun _ after => ∃ row, Performs state after (.closeSession row) ∧ row.id = session.id ∧
        row.state = .aborted)
      (fun _ => True) state := by
  simp only [UploadService.abortTransaction, Program.bind_eq, Tx.wp_bind, Tx.wp_throwIf]
  apply Tx.wp_updateMany_byId session.id
  · intro row matches_
    simp only [Bool.and_eq_true, beq_iff_eq] at matches_
    exact matches_.1.1
  · intro row member matches_
    simp only [Bool.and_eq_true, beq_iff_eq] at matches_
    obtain ⟨⟨sameId, sameOrganization⟩, open_⟩ := matches_
    have terms := known row member sameId
    have sameNamespace : row.namespaceId = session.namespaceId :=
      (congrArg UploadSession.namespaceId terms :)
    have sameBytes : row.reservedBytes = session.reservedBytes :=
      (congrArg UploadSession.reservedBytes terms :)
    apply Tx.Written.of_goes
    refine ⟨fun _ => trivial, fun _ => ?_⟩
    apply wp_close member open_
    · rfl
    · exact .inl rfl
    · exact ⟨sameOrganization, sameNamespace, sameBytes⟩
    · intro after performs
      exact ⟨_, performs, sameId, rfl⟩
  · exact fun _ => ⟨fun _ => trivial, fun several => absurd Nat.zero_ne_one several⟩

theorem wp_markExpiredTransaction {session : UploadSession}
    (known : KnownSession state.db session) :
    Tx.wp check time (UploadReconciliationService.markExpiredTransaction session)
      (fun _ after => ∃ action, Performs state after action ∧
        (action = .rest ∨ ∃ session, action = .closeSession session))
      (fun _ => True) state := by
  simp only [UploadReconciliationService.markExpiredTransaction, Program.bind_eq, Program.pure_eq,
    Tx.wp_bind]
  apply Tx.wp_updateMany_byId session.id
  · intro row matches_
    simp only [Bool.and_eq_true, beq_iff_eq] at matches_
    exact matches_.1.1.1
  · intro row member matches_
    simp only [Bool.and_eq_true, beq_iff_eq] at matches_
    obtain ⟨⟨⟨sameId, sameOrganization⟩, sameNamespace⟩, open_⟩ := matches_
    have sameBytes : row.reservedBytes = session.reservedBytes :=
      (congrArg UploadSession.reservedBytes (known row member sameId) :)
    apply Tx.Written.of_goes
    rw [if_neg (fun several => absurd rfl several), Tx.wp_bind]
    apply wp_close member open_
    · rfl
    · exact .inr rfl
    · exact ⟨sameOrganization, sameNamespace, sameBytes⟩
    · intro after performs
      exact ⟨_, performs, .inr ⟨_, rfl⟩⟩
  · intro _
    rw [if_pos Nat.zero_ne_one]
    exact ⟨.rest, .rest (Nat.le_refl _) rfl, .inl rfl⟩

/-! ## Reserving -/

theorem wp_assertTargetCapacity {organizationId namespaceId targetId : Id} {sizeBytes : Int}
    {returns : Bool → State Db → Prop} (goes : ∀ fits, returns fits state) :
    Tx.wp check time
      (PlacementService.assertTargetCapacity organizationId namespaceId targetId sizeBytes)
      returns (fun _ => True) state := by
  simp only [PlacementService.assertTargetCapacity, Program.bind_eq, Program.pure_eq, Tx.wp_bind,
    Tx.wp_statement]
  apply Tx.Written.of_goes
  split
  · exact goes false
  · split
    · exact goes true
    · exact goes _

/-- The counter that a search finds says what the catalog does. -/
theorem usage_of_found {db : Db} {organizationId namespaceId : Id} {counter : UsageCounter}
    (found : db.usageCounter.find? (isCounterOf organizationId namespaceId) = some counter) :
    (catalogOf db).usage organizationId namespaceId = usageOf counter := by
  unfold catalogOf counterOf
  simp only [found, Option.getD_some]

theorem wp_reserveTransaction {identity : ApiCredentialIdentity} {found : VirtualNamespace}
    {target : PlacementTargetSelection} {input : UploadInitiateRequest} {session : UploadSession}
    (foundMem : found ∈ state.db.virtualNamespace) (open_ : session.state = .initiated)
    (bytes : session.reservedBytes = input.sizeBytes)
    (own : session.organizationId = identity.organizationId ∧ session.namespaceId = found.id ∧
      session.createdByCredentialId = identity.credentialId)
    (below : session.id < state.nextId)
    (key : ∃ uuid < state.nextId, session.physicalKey = .object session.namespaceId uuid) :
    Tx.wp check time (UploadService.reserveTransaction identity found target input session)
      (fun row after => row = { session with createdAt := time, updatedAt := time } ∧
        Performs state after (.openSession row) ∧
        (Action.openSession row).Admitted (catalogOf state.db))
      (fun _ => True) state := by
  simp only [UploadService.reserveTransaction, Program.bind_eq, Tx.wp_bind, Tx.wp_throwIf,
    Tx.wp_count, uploadSession_toModel_toRelation_table]
  apply wp_lockUsageCounter
  intro locked later lockedCatalog
  rw [Tx.wp_findFirstOrThrow]
  split
  · trivial
  · rename_i counter counterFound
    apply wp_assertTargetCapacity
    intro fits
    refine ⟨fun _ => trivial, fun _ => ⟨fun _ => trivial, fun room => ⟨fun _ => trivial,
      fun few => ⟨fun _ => trivial, fun within => ?_⟩⟩⟩⟩
    apply wp_updateCounter { reservedBytes := (input.sizeBytes : Int), activeUploadCount := 1 }
    · exact fun _ => rfl
    · exact fun _ => ⟨rfl, rfl⟩
    · intro row
      ext <;> simp [usageOf]
    · intro _ charged chargedId chargedCatalog
      rw [lockedCatalog] at chargedCatalog
      have usage : (catalogOf state.db).usage identity.organizationId found.id = usageOf counter := by
        rw [← lockedCatalog]
        exact usage_of_found counterFound
      have sessions : charged.db.uploadSession = state.db.uploadSession :=
        congrArg Catalog.sessions chargedCatalog
      have lockedSessions : locked.db.uploadSession = state.db.uploadSession :=
        congrArg Catalog.sessions lockedCatalog
      rw [Tx.wp_create]
      split
      · trivial
      · rename_i free
        apply Tx.Written.of_goes
        have chargedLater : state.nextId ≤ charged.nextId := by
          rw [chargedId]
          exact later
        refine ⟨rfl, ⟨chargedLater, ⟨?_, open_, ?_, ?_, ?_⟩, ?_⟩, ?_, ?_, ?_⟩
        · intro other otherMem
          have fresh := Table.get?_none.mp free
          rw [uploadSession_toModel_toRelation_table, sessions] at fresh
          exact fresh other otherMem
        · simp [bytes]
        · exact Nat.lt_of_lt_of_le below chargedLater
        · obtain ⟨uuid, uuidBelow, keyEq⟩ := key
          exact ⟨uuid, Nat.lt_of_lt_of_le uuidBelow chargedLater, keyEq⟩
        · apply (catalogOf_uploadSession charged.db _).trans
          rw [chargedCatalog, ← own.1, ← own.2.1, ← bytes]
          rfl
        · intro row rowMem sameId _
          have rowEq : row = found :=
            Table.eq_of_id_eq rowMem foundMem (sameId.trans own.2.1)
          simp only [uploadSession_toModel_created, own.1, own.2.1, usage, bytes, rowEq]
          exact not_lt.mp within
        · simp only [uploadSession_toModel_created, own.1, own.2.1, usage]
          exact not_le.mp room
        · simp only [uploadSession_toModel_created, own.1, own.2.1, own.2.2]
          have count : credentialUploads (catalogOf state.db) identity.organizationId found.id
              identity.credentialId = ((locked.db.uploadSession.filter fun row =>
                row.organizationId == identity.organizationId && row.namespaceId == found.id &&
                  row.createdByCredentialId == identity.credentialId &&
                    row.state == .initiated).length : Int) := by
            rw [← Table.count_eq_length, lockedSessions]
            apply Table.total_congr
            intro row _
            simp only [isInitiated, Bool.and_right_comm]
          rw [count]
          exact_mod_cast not_le.mp few

theorem wp_explorerReserve {organizationId : Id} {found : VirtualNamespace}
    {target : PlacementTargetSelection} {sizeBytes : Int}
    (foundMem : found ∈ state.db.virtualNamespace) (size : 0 ≤ sizeBytes) :
    Tx.wp check time
      (ObjectExplorerService.reserveTransaction organizationId found target sizeBytes)
      (fun _ after => Performs state after (.reserve organizationId found.id sizeBytes) ∧
        (Action.reserve organizationId found.id sizeBytes).Admitted (catalogOf state.db))
      (fun _ => True) state := by
  simp only [ObjectExplorerService.reserveTransaction, Program.bind_eq, Program.pure_eq,
    Tx.wp_bind, Tx.wp_throwIf, Tx.wp_pure]
  apply wp_lockUsageCounter
  intro locked later lockedCatalog
  rw [Tx.wp_findFirstOrThrow]
  split
  · trivial
  · rename_i counter counterFound
    have usage : (catalogOf state.db).usage organizationId found.id = usageOf counter := by
      rw [← lockedCatalog]
      exact usage_of_found counterFound
    refine ⟨fun _ => trivial, fun within => ?_⟩
    apply wp_assertTargetCapacity
    intro fits
    refine ⟨fun _ => trivial, fun _ => ?_⟩
    apply wp_updateCounter { reservedBytes := sizeBytes }
    · exact fun _ => rfl
    · exact fun _ => ⟨rfl, rfl⟩
    · intro row
      ext <;> simp [usageOf]
    · intro _ after afterId afterCatalog
      constructor
      · refine ⟨?_, size, ?_⟩
        · rw [afterId]
          exact later
        · rw [afterCatalog, lockedCatalog]
          rfl
      · intro row rowMem sameId _
        have rowEq : row = found := Table.eq_of_id_eq rowMem foundMem sameId
        rw [usage, rowEq]
        exact not_lt.mp within

theorem wp_explorerRelease {organizationId namespaceId : Id} {sizeBytes : Int}
    (size : 0 ≤ sizeBytes) :
    Tx.wp check time
      (ObjectExplorerService.releaseTransaction organizationId namespaceId sizeBytes)
      (fun _ after => Performs state after (.release organizationId namespaceId sizeBytes))
      (fun _ => True) state := by
  simp only [ObjectExplorerService.releaseTransaction, Program.bind_eq, Program.pure_eq, Tx.wp_bind,
    Tx.wp_pure]
  apply wp_lockUsageCounter
  intro locked later lockedCatalog
  apply wp_updateCounter { reservedBytes := -sizeBytes }
  · exact fun _ => rfl
  · exact fun _ => ⟨rfl, rfl⟩
  · intro row
    ext <;> simp [usageOf, sub_eq_add_neg]
  · intro _ after afterId afterCatalog
    refine ⟨?_, size, ?_⟩
    · rw [afterId]
      exact later
    · rw [afterCatalog, lockedCatalog]
      rfl

/-! ## Progress and removal -/

/-- Marking a session as finalized at the provider. -/
theorem wp_markFinalized {organizationId sessionId : Id} :
    Tx.wp check time (uploadSession.updateMany
        (fun row => row.id == sessionId && row.organizationId == organizationId &&
          row.state == .initiated)
        fun row => { row with providerUploadFinalized := true } : Database.Tx Nat)
      (fun _ after => ∃ action, Performs state after action ∧
        (action = .rest ∨ ∃ session, action = .progress session))
      (fun _ => True) state := by
  apply Tx.wp_updateMany_byId sessionId
  · intro row matches_
    simp only [Bool.and_eq_true, beq_iff_eq] at matches_
    exact matches_.1.1
  · intro row member _
    apply Tx.Written.of_goes
    exact ⟨.progress { row with providerUploadFinalized := true, updatedAt := time },
      ⟨Nat.le_refl _, ⟨row, member, rfl, rfl⟩, rfl⟩, .inr ⟨_, rfl⟩⟩
  · intro _
    exact ⟨.rest, .rest (Nat.le_refl _) rfl, .inl rfl⟩

theorem enables_prune {catalog : Catalog} {nextId : Id} {ids : List Id}
    (ended : ∀ id ∈ ids, ∀ session ∈ catalog.sessions, session.id = id →
      session.state ≠ .initiated) : catalog.Enables nextId (ids.map .prune) := by
  induction ids generalizing catalog with
  | nil => trivial
  | cons id rest ih =>
      constructor
      · exact ended id List.mem_cons_self
      · apply ih
        intro other otherMem session member
        exact ended other (List.mem_cons_of_mem _ otherMem) session (Table.mem_erase.mp member).1

theorem catalogOf_erase (ids : List Id) (db : Db) :
    catalogOf ((ids.map Write.eraseUploadSession).foldl Database.write db) =
      (ids.map Action.prune).foldl Catalog.after (catalogOf db) := by
  induction ids generalizing db with
  | nil => rfl
  | cons id rest ih => exact ih (db.write (.eraseUploadSession id))

/-- Removing sessions that have ended. -/
theorem wp_deleteSessions {condition : UploadSession → Bool}
    (ended : ∀ session ∈ state.db.uploadSession, condition session = true →
      session.state ≠ .initiated) :
    Tx.wp check time (uploadSession.deleteMany condition : Database.Tx Nat)
      (fun _ after => ∃ ids : List Id, PerformsAll state after (ids.map .prune)) (fun _ => True) state := by
  rw [Tx.wp_deleteMany]
  apply Tx.Written.of_goes
  refine ⟨(state.db.uploadSession.filter condition).map UploadSession.id, Nat.le_refl _, ?_, ?_⟩
  · apply enables_prune
    intro id idMem session member sameId
    obtain ⟨row, rowMem, rfl⟩ := List.mem_map.mp idMem
    obtain ⟨rowIn, holds⟩ := Table.mem_filter.mp rowMem
    rw [Table.eq_of_id_eq member rowIn sameId]
    exact ended row rowIn holds
  · rw [← catalogOf_erase, List.map_map]
    rfl

end Mosp.Index
