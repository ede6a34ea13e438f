import Mosp.Index.Consistency

/-!
# Accounting

What a namespace has used and reserved follows its records, its open sessions
and the explorer uploads in progress.  The counters never understate the rows,
so what was admitted against the counters stays within the quota.
-/

namespace Mosp.Index

open Mosp.Data Mosp.Database Mosp.Services

variable {catalog : Catalog} {nextId : Id} {action : Action} {organizationId namespaceId : Id}

/-! ## What an action adds -/

/-- The value in one namespace, and nothing in the others. -/
def inNamespace {α : Type} [Zero α] (ownOrganization ownNamespace : Id) (value : α)
    (organizationId namespaceId : Id) : α :=
  if organizationId = ownOrganization ∧ namespaceId = ownNamespace then value else 0

namespace Action

/-- What an action adds to what a namespace has used and reserved. -/
def charge : Action → Id → Id → Usage
  | .openSession session => inNamespace session.organizationId session.namespaceId
      { reservedBytes := session.reservedBytes, activeUploadCount := 1 }
  | .closeSession session => inNamespace session.organizationId session.namespaceId
      { reservedBytes := -session.reservedBytes, activeUploadCount := -1 }
  | .reserve organizationId namespaceId sizeBytes =>
      inNamespace organizationId namespaceId { reservedBytes := sizeBytes }
  | .release organizationId namespaceId sizeBytes =>
      inNamespace organizationId namespaceId { reservedBytes := -sizeBytes }
  | .complete session publication => inNamespace session.organizationId session.namespaceId
      ({ reservedBytes := -session.reservedBytes, activeUploadCount := -1 } + publication.gain)
  | .upload sizeBytes publication => inNamespace publication.record.organizationId
      publication.record.namespaceId ({ reservedBytes := -sizeBytes } + publication.gain)
  | .finalize record _ => inNamespace record.organizationId record.namespaceId
      { usedBytes := -record.sizeBytes, objectCount := -1 }
  | _ => fun _ _ => 0

/-- What an action adds to the bytes that explorer uploads hold. -/
def hold : Action → Id → Id → Int
  | .reserve organizationId namespaceId sizeBytes =>
      inNamespace organizationId namespaceId sizeBytes
  | .release organizationId namespaceId sizeBytes =>
      inNamespace organizationId namespaceId (-sizeBytes)
  | .upload sizeBytes publication => inNamespace publication.record.organizationId
      publication.record.namespaceId (-sizeBytes)
  | _ => fun _ _ => 0

end Action

theorem usage_charge (ownOrganization ownNamespace : Id) (delta : Usage) :
    (catalog.charge ownOrganization ownNamespace delta).usage organizationId namespaceId =
      catalog.usage organizationId namespaceId +
        inNamespace ownOrganization ownNamespace delta organizationId namespaceId := by
  unfold Catalog.charge inNamespace
  dsimp only
  split
  · rfl
  · ext <;> simp

theorem usage_after (action : Action) :
    (catalog.after action).usage organizationId namespaceId =
      catalog.usage organizationId namespaceId + action.charge organizationId namespaceId := by
  cases action with
  | openSession | closeSession | reserve | release | complete | upload | finalize =>
      exact usage_charge _ _ _
  | rest | progress | prune | claim | revert | retire | work | schedule | migrate =>
      ext <;> simp [Catalog.after, Action.charge]

/-! ## What the rows imply -/

/-- What the records and sessions of a namespace imply. -/
def implied (catalog : Catalog) (organizationId namespaceId : Id) : Usage where
  usedBytes := catalog.records.total (storedSize organizationId namespaceId)
  reservedBytes := catalog.sessions.total (reservedSize organizationId namespaceId)
  objectCount := catalog.records.count (isStored organizationId namespaceId)
  activeUploadCount := catalog.sessions.count (isInitiated organizationId namespaceId)

/-- The weight of a record that takes up space in a namespace.  The weight is a
function of the size, so that bytes and objects are counted alike. -/
def weighRecord (weight : Int → Int) (organizationId namespaceId : Id) (row : ObjectRecord) : Int :=
  if isStored organizationId namespaceId row then weight row.sizeBytes else 0

/-- The weight of a session that is open in a namespace. -/
def weighSession (weight : UploadSession → Int) (organizationId namespaceId : Id)
    (row : UploadSession) : Int :=
  if isInitiated organizationId namespaceId row then weight row else 0

/-- A weight that no progress of a session changes. -/
def Steady (weight : UploadSession → Int) : Prop :=
  ∀ first second, sessionTerms first = sessionTerms second → weight first = weight second

theorem weighRecord_eq (weight : Int → Int) (organizationId namespaceId : Id)
    (row : ObjectRecord) :
    weighRecord weight organizationId namespaceId row =
      inNamespace row.organizationId row.namespaceId
        (if takesSpace row then weight row.sizeBytes else 0) organizationId namespaceId := by
  unfold weighRecord inNamespace isStored
  by_cases own : organizationId = row.organizationId ∧ namespaceId = row.namespaceId
  · simp [own]
  · rw [if_neg own, if_neg]
    simp only [Bool.and_eq_true, beq_iff_eq]
    rintro ⟨⟨rfl, rfl⟩, _⟩
    exact own ⟨rfl, rfl⟩

theorem weighSession_eq (weight : UploadSession → Int) (organizationId namespaceId : Id)
    (row : UploadSession) :
    weighSession weight organizationId namespaceId row =
      inNamespace row.organizationId row.namespaceId
        (if row.state = .initiated then weight row else 0) organizationId namespaceId := by
  unfold weighSession inNamespace isInitiated
  by_cases own : organizationId = row.organizationId ∧ namespaceId = row.namespaceId
  · simp [own]
  · rw [if_neg own, if_neg]
    simp only [Bool.and_eq_true, beq_iff_eq]
    rintro ⟨⟨rfl, rfl⟩, _⟩
    exact own ⟨rfl, rfl⟩

/-- A publication replaces what the record of the key weighed before. -/
theorem Publication.Ready.total_publish {publication : Publication}
    (ready : publication.Ready catalog) (weight : Int → Int) :
    (catalog.publish publication).records.total (weighRecord weight organizationId namespaceId) =
      catalog.records.total (weighRecord weight organizationId namespaceId) +
        inNamespace publication.record.organizationId publication.record.namespaceId
          (weight publication.record.sizeBytes -
            publication.stored.elim 0 fun old => weight old.sizeBytes)
          organizationId namespaceId := by
  have weighed : weighRecord weight organizationId namespaceId publication.record =
      inNamespace publication.record.organizationId publication.record.namespaceId
        (weight publication.record.sizeBytes) organizationId namespaceId := by
    rw [weighRecord_eq, if_pos]
    simp [takesSpace, ready.available]
  cases existingEq : publication.existing with
  | none =>
      have stored : publication.stored = none := by
        unfold Publication.stored
        rw [existingEq]
        rfl
      rw [stored, Option.elim_none, sub_zero, ← weighed]
      exact Table.total_put_new _ (ready.freshRecord existingEq)
  | some old =>
      obtain ⟨oldMem, oldId, sameOrganization, sameNamespace⟩ := ready.existing old existingEq
      have oldWeighed : weighRecord weight organizationId namespaceId old =
          inNamespace publication.record.organizationId publication.record.namespaceId
            (publication.stored.elim 0 fun old => weight old.sizeBytes)
            organizationId namespaceId := by
        rw [weighRecord_eq, sameOrganization, sameNamespace]
        unfold Publication.stored
        rw [existingEq, Option.filter_some]
        cases takesSpace old <;> rfl
      have total := Table.total_put (weighRecord weight organizationId namespaceId) oldMem oldId
      change (catalog.records.put publication.record).total _ = _
      rw [total, weighed, oldWeighed]
      unfold inNamespace
      split
      · ring
      · ring

/-- What an action adds to the weight of the records. -/
def recordGain (weight : Int → Int) : Action → Id → Id → Int
  | .complete _ publication | .upload _ publication =>
      inNamespace publication.record.organizationId publication.record.namespaceId
        (weight publication.record.sizeBytes -
          publication.stored.elim 0 fun old => weight old.sizeBytes)
  | .finalize record _ =>
      inNamespace record.organizationId record.namespaceId (-weight record.sizeBytes)
  | _ => fun _ _ => 0

theorem records_after (enabled : action.Enabled catalog nextId) (weight : Int → Int)
    (organizationId namespaceId : Id) :
    (catalog.after action).records.total (weighRecord weight organizationId namespaceId) =
      catalog.records.total (weighRecord weight organizationId namespaceId) +
        recordGain weight action organizationId namespaceId := by
  have rewritten : ∀ old ∈ catalog.records, ∀ row : ObjectRecord, old.id = row.id →
      weighRecord weight organizationId namespaceId row =
        weighRecord weight organizationId namespaceId old →
      (catalog.records.put row).total (weighRecord weight organizationId namespaceId) =
        catalog.records.total (weighRecord weight organizationId namespaceId) + 0 := by
    intro old oldMem row sameId sameWeight
    rw [Table.total_put_eq oldMem sameId sameWeight, add_zero]
  cases action with
  | complete session publication =>
      have ready : publication.Ready catalog := enabled.2.2.1
      exact ready.total_publish weight
  | upload sizeBytes publication => exact enabled.1.total_publish weight
  | claim row | revert row =>
      obtain ⟨old, oldMem, state, rowEq⟩ := enabled
      apply rewritten old oldMem
      · rw [rowEq]
      · rw [weighRecord_eq, weighRecord_eq, rowEq]
        simp [takesSpace, state]
  | finalize row location =>
      obtain ⟨old, oldMem, state, rowEq, _⟩ := enabled
      have sameId : old.id = row.id := by rw [rowEq]
      have oldWeighed : weighRecord weight organizationId namespaceId old =
          inNamespace row.organizationId row.namespaceId (weight row.sizeBytes) organizationId
            namespaceId := by
        rw [weighRecord_eq, if_pos (by simp [takesSpace, state]), rowEq]
      have rowWeighed : weighRecord weight organizationId namespaceId row = 0 := by
        unfold weighRecord
        rw [if_neg]
        rw [rowEq]
        simp [isStored, takesSpace]
      change (catalog.records.put row).total _ = _
      rw [Table.total_put _ oldMem sameId, oldWeighed, rowWeighed]
      simp only [recordGain, inNamespace]
      split
      · ring
      · ring
  | migrate item row retained target =>
      obtain ⟨_, ⟨old, oldMem, _, _, _, rowEq, _⟩, _⟩ := enabled
      apply rewritten old oldMem
      · rw [rowEq]
      · rw [weighRecord_eq, weighRecord_eq, rowEq]
        rfl
  | rest | progress | openSession | closeSession | prune | reserve | release | retire | work
  | schedule => exact (add_zero _).symm

/-- What an action adds to the weight of the open sessions. -/
def sessionGain (weight : UploadSession → Int) : Action → Id → Id → Int
  | .openSession session =>
      inNamespace session.organizationId session.namespaceId (weight session)
  | .closeSession session | .complete session _ =>
      inNamespace session.organizationId session.namespaceId (-weight session)
  | _ => fun _ _ => 0

theorem sessions_after (enabled : action.Enabled catalog nextId) {weight : UploadSession → Int}
    (steady : Steady weight) (organizationId namespaceId : Id) :
    (catalog.after action).sessions.total (weighSession weight organizationId namespaceId) =
      catalog.sessions.total (weighSession weight organizationId namespaceId) +
        sessionGain weight action organizationId namespaceId := by
  -- A session that ends takes its weight with it.
  have ended : ∀ old ∈ catalog.sessions, ∀ row : UploadSession,
      sessionTerms old = sessionTerms row → old.state = .initiated → row.state ≠ .initiated →
      (catalog.sessions.put row).total (weighSession weight organizationId namespaceId) =
        catalog.sessions.total (weighSession weight organizationId namespaceId) +
          inNamespace row.organizationId row.namespaceId (-weight row)
            organizationId namespaceId := by
    intro old oldMem row terms oldState rowState
    have sameId : old.id = row.id := (congrArg UploadSession.id terms :)
    have sameOrganization : old.organizationId = row.organizationId :=
      (congrArg UploadSession.organizationId terms :)
    have sameNamespace : old.namespaceId = row.namespaceId :=
      (congrArg UploadSession.namespaceId terms :)
    rw [Table.total_put _ oldMem sameId, weighSession_eq, weighSession_eq, if_pos oldState,
      if_neg rowState, sameOrganization, sameNamespace, steady old row terms]
    unfold inNamespace
    split
    · ring
    · ring
  cases action with
  | progress row =>
      obtain ⟨old, oldMem, terms, state⟩ := enabled
      have sameId : old.id = row.id := (congrArg UploadSession.id terms :)
      have sameOrganization : old.organizationId = row.organizationId :=
        (congrArg UploadSession.organizationId terms :)
      have sameNamespace : old.namespaceId = row.namespaceId :=
        (congrArg UploadSession.namespaceId terms :)
      change (catalog.sessions.put row).total _ = _ + 0
      rw [Table.total_put_eq oldMem sameId, add_zero]
      rw [weighSession_eq, weighSession_eq, state, sameOrganization, sameNamespace,
        steady old row terms]
  | openSession row =>
      obtain ⟨fresh, state, _⟩ := enabled
      change (catalog.sessions.put row).total _ = _
      rw [Table.total_put_new _ fresh, weighSession_eq, if_pos state]
      rfl
  | closeSession row =>
      obtain ⟨old, oldMem, terms, oldState, rowState⟩ := enabled
      apply ended old oldMem row terms oldState
      rcases rowState with state | state <;> rw [state] <;> decide
  | prune sessionId =>
      change (catalog.sessions.erase sessionId).total _ = _ + 0
      rw [Table.total_erase, add_zero]
      intro row member sameId
      unfold weighSession isInitiated
      simp [enabled row member sameId]
  | complete row publication =>
      obtain ⟨⟨old, oldMem, terms, oldState⟩, rowState, _⟩ := enabled
      apply ended old oldMem row terms oldState
      rw [rowState]
      decide
  | rest | reserve | release | upload | claim | revert | finalize | retire | work | schedule
  | migrate => exact (add_zero _).symm

/-! ## The ledger -/

/-- The counters say what the rows imply; the reservations also cover what explorer
uploads hold. -/
structure Ledger (catalog : Catalog) (held : Id → Id → Int) : Prop where
  usedBytes : ∀ organizationId namespaceId,
    (catalog.usage organizationId namespaceId).usedBytes =
      (implied catalog organizationId namespaceId).usedBytes
  objectCount : ∀ organizationId namespaceId,
    (catalog.usage organizationId namespaceId).objectCount =
      (implied catalog organizationId namespaceId).objectCount
  activeUploadCount : ∀ organizationId namespaceId,
    (catalog.usage organizationId namespaceId).activeUploadCount =
      (implied catalog organizationId namespaceId).activeUploadCount
  reservedBytes : ∀ organizationId namespaceId,
    (implied catalog organizationId namespaceId).reservedBytes + held organizationId namespaceId ≤
      (catalog.usage organizationId namespaceId).reservedBytes

/-- The counters move by as much as the rows. -/
theorem charge_eq (enabled : action.Enabled catalog nextId) (organizationId namespaceId : Id) :
    action.charge organizationId namespaceId =
      { usedBytes := recordGain id action organizationId namespaceId
        reservedBytes := sessionGain UploadSession.reservedBytes action organizationId namespaceId +
          action.hold organizationId namespaceId
        objectCount := recordGain (fun _ => 1) action organizationId namespaceId
        activeUploadCount := sessionGain (fun _ => 1) action organizationId namespaceId } := by
  cases action with
  | complete session publication =>
      obtain ⟨_, _, _, sameOrganization, sameNamespace, _⟩ := enabled
      simp only [Action.charge, recordGain, sessionGain, Action.hold, sameOrganization,
        sameNamespace, inNamespace]
      split
      · ext <;> simp [Publication.gain]
        cases publication.stored <;> simp
      · rfl
  | upload sizeBytes publication =>
      simp only [Action.charge, recordGain, sessionGain, Action.hold, inNamespace]
      split
      · ext <;> simp [Publication.gain]
        cases publication.stored <;> simp
      · rfl
  | openSession | closeSession | reserve | release | finalize =>
      simp only [Action.charge, recordGain, sessionGain, Action.hold, inNamespace]
      split
      · simp
      · rfl
  | rest | progress | prune | claim | revert | retire | work | schedule | migrate => rfl

/-- Every action keeps the ledger. -/
theorem Ledger.after {held : Id → Id → Int} (ledger : Ledger catalog held)
    (enabled : action.Enabled catalog nextId) :
    Ledger (catalog.after action) fun organizationId namespaceId =>
      held organizationId namespaceId + action.hold organizationId namespaceId where
  usedBytes organizationId namespaceId := by
    rw [usage_after, charge_eq enabled]
    exact (congrArg (· + _) (ledger.usedBytes organizationId namespaceId)).trans
      (records_after enabled id organizationId namespaceId).symm
  objectCount organizationId namespaceId := by
    rw [usage_after, charge_eq enabled]
    exact (congrArg (· + _) (ledger.objectCount organizationId namespaceId)).trans
      (records_after enabled (fun _ => 1) organizationId namespaceId).symm
  activeUploadCount organizationId namespaceId := by
    rw [usage_after, charge_eq enabled]
    exact (congrArg (· + _) (ledger.activeUploadCount organizationId namespaceId)).trans
      (sessions_after enabled (fun _ _ _ => rfl) organizationId namespaceId).symm
  reservedBytes organizationId namespaceId := by
    have before := ledger.reservedBytes organizationId namespaceId
    have rows : (implied (catalog.after action) organizationId namespaceId).reservedBytes =
        (implied catalog organizationId namespaceId).reservedBytes +
          sessionGain UploadSession.reservedBytes action organizationId namespaceId :=
      sessions_after enabled (fun _ _ terms => (congrArg UploadSession.reservedBytes terms :))
        organizationId namespaceId
    rw [usage_after, charge_eq enabled, rows]
    simp only [Usage.add_reservedBytes]
    omega

/-! ## Limits -/

/-- The open sessions of a credential in a namespace. -/
def credentialUploads (catalog : Catalog) (organizationId namespaceId credentialId : Id) : Int :=
  catalog.sessions.count fun session =>
    isInitiated organizationId namespaceId session && session.createdByCredentialId == credentialId

/-- What was admitted in a namespace. -/
structure WithinLimits (catalog : Catalog) (organizationId namespaceId : Id) : Prop where
  quota : ∀ row ∈ catalog.namespaces, row.id = namespaceId → row.organizationId = organizationId →
    (catalog.usage organizationId namespaceId).usedBytes +
      (catalog.usage organizationId namespaceId).reservedBytes ≤ row.quotaBytes
  namespaceUploads : (catalog.usage organizationId namespaceId).activeUploadCount ≤
    UploadService.maxActiveUploadsPerNamespace
  credentialUploads : ∀ credentialId,
    credentialUploads catalog organizationId namespaceId credentialId ≤
      UploadService.maxActiveUploadsPerCredential

/-- What has to be checked before an action that reserves. -/
def Action.Admitted (catalog : Catalog) : Action → Prop
  | .openSession session =>
      (∀ row ∈ catalog.namespaces, row.id = session.namespaceId →
        row.organizationId = session.organizationId →
        (catalog.usage session.organizationId session.namespaceId).usedBytes +
          (catalog.usage session.organizationId session.namespaceId).reservedBytes +
            session.reservedBytes ≤ row.quotaBytes) ∧
      (catalog.usage session.organizationId session.namespaceId).activeUploadCount <
        UploadService.maxActiveUploadsPerNamespace ∧
      Mosp.Index.credentialUploads catalog session.organizationId session.namespaceId
        session.createdByCredentialId < UploadService.maxActiveUploadsPerCredential
  | .reserve organizationId namespaceId sizeBytes =>
      ∀ row ∈ catalog.namespaces, row.id = namespaceId → row.organizationId = organizationId →
        (catalog.usage organizationId namespaceId).usedBytes +
          (catalog.usage organizationId namespaceId).reservedBytes + sizeBytes ≤ row.quotaBytes
  | _ => True

/-- Whether a session counts for a credential. -/
def ofCredential (credentialId : Id) (session : UploadSession) : Int :=
  if session.createdByCredentialId = credentialId then 1 else 0

theorem credentialUploads_eq (catalog : Catalog) (organizationId namespaceId credentialId : Id) :
    credentialUploads catalog organizationId namespaceId credentialId =
      catalog.sessions.total
        (weighSession (ofCredential credentialId) organizationId namespaceId) := by
  apply Table.total_congr
  intro session _
  unfold weighSession ofCredential
  cases open_ : isInitiated organizationId namespaceId session <;> simp [open_]

/-- What an action may add to the used and reserved bytes of a namespace. -/
def Action.demand : Action → Id → Id → Int
  | .openSession session =>
      inNamespace session.organizationId session.namespaceId session.reservedBytes
  | .reserve organizationId namespaceId sizeBytes =>
      inNamespace organizationId namespaceId sizeBytes
  | _ => fun _ _ => 0

/-- Apart from admissions, bytes only move from the reservations to the used bytes
or become free. -/
theorem charge_le (consistent : Consistent catalog nextId)
    (enabled : action.Enabled catalog nextId) (organizationId namespaceId : Id) :
    (action.charge organizationId namespaceId).usedBytes +
        (action.charge organizationId namespaceId).reservedBytes ≤
      action.demand organizationId namespaceId := by
  cases action with
  | closeSession session =>
      obtain ⟨old, oldMem, terms, _⟩ := enabled
      have same : old.reservedBytes = session.reservedBytes :=
        (congrArg UploadSession.reservedBytes terms :)
      have reserved := consistent.reserved old oldMem
      simp only [Action.charge, Action.demand, inNamespace]
      split
      · simp only
        omega
      · exact Int.le_refl 0
  | complete session publication =>
      obtain ⟨_, _, ready, _, _, sizeEq, _⟩ := enabled
      have freed : 0 ≤ publication.stored.elim 0 ObjectRecord.sizeBytes := by
        cases storedEq : publication.stored with
        | none => exact Int.le_refl 0
        | some old =>
            have oldEq := Option.filter_eq_some_iff.mp storedEq
            exact consistent.size old (ready.existing old oldEq.1).1
      simp only [Action.charge, Action.demand, inNamespace]
      split
      · simp only [Usage.add_usedBytes, Usage.add_reservedBytes, Publication.gain]
        omega
      · exact Int.le_refl 0
  | upload sizeBytes publication =>
      obtain ⟨_, existing, sizeEq, _⟩ := enabled
      simp only [Action.charge, Action.demand, inNamespace, Publication.gain, Publication.stored,
        existing]
      split
      · simp only [Usage.add_usedBytes, Usage.add_reservedBytes, Option.filter_none,
          Option.elim_none]
        omega
      · exact Int.le_refl 0
  | finalize record location =>
      obtain ⟨old, oldMem, _, rowEq, _⟩ := enabled
      have size := consistent.size old oldMem
      have same : record.sizeBytes = old.sizeBytes := by rw [rowEq]
      simp only [Action.charge, Action.demand, inNamespace]
      split
      · simp only
        omega
      · exact Int.le_refl 0
  | openSession session | reserve ownOrganization ownNamespace sizeBytes =>
      simp only [Action.charge, Action.demand, inNamespace]
      split
      · simp
      · exact Int.le_refl 0
  | release ownOrganization ownNamespace sizeBytes =>
      have size : 0 ≤ sizeBytes := enabled
      simp only [Action.charge, Action.demand, inNamespace]
      split
      · simp only
        omega
      · exact Int.le_refl 0
  | rest | progress | prune | claim | revert | retire | work | schedule | migrate =>
      exact Int.le_refl 0

/-- Only opening a session adds to the open sessions. -/
theorem sessionGain_le {weight : UploadSession → Int} (nonneg : ∀ session, 0 ≤ weight session)
    (action : Action) (organizationId namespaceId : Id) :
    sessionGain weight action organizationId namespaceId ≤
      match action with
      | .openSession session =>
          inNamespace session.organizationId session.namespaceId (weight session)
            organizationId namespaceId
      | _ => 0 := by
  cases action with
  | closeSession session | complete session publication =>
      have weighs := nonneg session
      simp only [sessionGain, inNamespace]
      split <;> omega
  | openSession | rest | progress | prune | reserve | release | upload | claim | revert | finalize
  | retire | work | schedule | migrate => exact Int.le_refl _

/-- Every admitted action stays within the limits. -/
theorem WithinLimits.after (limits : WithinLimits catalog organizationId namespaceId)
    (consistent : Consistent catalog nextId) (enabled : action.Enabled catalog nextId)
    (admitted : action.Admitted catalog) :
    WithinLimits (catalog.after action) organizationId namespaceId where
  quota row member sameId sameOrganization := by
    have unchanged : row ∈ catalog.namespaces := by
      cases action <;> exact member
    have before := limits.quota row unchanged sameId sameOrganization
    have grows := charge_le consistent enabled organizationId namespaceId
    rw [usage_after, Usage.add_usedBytes, Usage.add_reservedBytes]
    cases action with
    | openSession session =>
        simp only [Action.demand, inNamespace] at grows
        split at grows
        · rename_i own
          obtain ⟨rfl, rfl⟩ := own
          have fits := admitted.1 row unchanged sameId sameOrganization
          omega
        · omega
    | reserve ownOrganization ownNamespace sizeBytes =>
        simp only [Action.demand, inNamespace] at grows
        split at grows
        · rename_i own
          obtain ⟨rfl, rfl⟩ := own
          have fits := admitted row unchanged sameId sameOrganization
          omega
        · omega
    | rest | progress | closeSession | prune | release | complete | upload | claim | revert
    | finalize | retire | work | schedule | migrate =>
        simp only [Action.demand] at grows
        omega
  namespaceUploads := by
    have before := limits.namespaceUploads
    have grows := sessionGain_le (fun _ => Int.one_nonneg) action organizationId namespaceId
    rw [usage_after, charge_eq enabled]
    simp only [Usage.add_activeUploadCount]
    cases action with
    | openSession session =>
        simp only [inNamespace] at grows
        split at grows
        · rename_i own
          obtain ⟨rfl, rfl⟩ := own
          have fits := admitted.2.1
          omega
        · omega
    | rest | progress | closeSession | prune | reserve | release | complete | upload | claim
    | revert | finalize | retire | work | schedule | migrate =>
        simp only at grows
        omega
  credentialUploads credentialId := by
    have before := limits.credentialUploads credentialId
    have steady : Steady (ofCredential credentialId) := fun first second terms => by
      have same : first.createdByCredentialId = second.createdByCredentialId :=
        (congrArg UploadSession.createdByCredentialId terms :)
      unfold ofCredential
      rw [same]
    have nonneg : ∀ session, 0 ≤ ofCredential credentialId session := fun session => by
      unfold ofCredential
      split <;> decide
    have grows := sessionGain_le nonneg action organizationId namespaceId
    rw [credentialUploads_eq] at before ⊢
    rw [sessions_after enabled steady]
    cases action with
    | openSession session =>
        simp only [inNamespace] at grows
        split at grows
        · rename_i own
          obtain ⟨rfl, rfl⟩ := own
          have weighs : ofCredential credentialId session =
              if session.createdByCredentialId = credentialId then 1 else 0 := rfl
          rw [weighs] at grows
          split at grows
          · rename_i ownCredential
            subst ownCredential
            have fits := admitted.2.2
            rw [credentialUploads_eq] at fits
            omega
          · omega
        · omega
    | rest | progress | closeSession | prune | reserve | release | complete | upload | claim
    | revert | finalize | retire | work | schedule | migrate =>
        simp only at grows
        omega

end Mosp.Index
