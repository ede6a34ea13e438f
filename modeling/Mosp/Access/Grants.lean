import Mosp.Access.Segments
import Mosp.System.Alone

/-!
# What grants allow

`canAccess` answers whether a valid principal has a grant for the action on a
folder of the key.
-/

namespace Mosp.Access

open Mosp.Concurrency Mosp.Data Mosp.Database Mosp.Sql Mosp.Services Mosp.System

/-- A moment before an expiry, if there is one. -/
def Unexpired (expiresAt : Option Time) (now : Time) : Prop :=
  ∀ expiry, expiresAt = some expiry → now < expiry

/-- The principal is a role of the organization, or an active credential of the namespace. -/
def PrincipalValid (db : Db) (now : Time) (input : FolderAccessCheck) : Prop :=
  match input.principalType with
  | .role => ∃ row ∈ db.role, row.id = input.principalId ∧
      row.organizationId = some input.organizationId ∧ row.scope = .organization
  | .apiCredential => ∃ row ∈ db.apiCredential, row.id = input.principalId ∧
      row.organizationId = input.organizationId ∧ row.namespaceId = input.namespaceId ∧
      row.status = .active ∧ Unexpired row.expiresAt now

/-- A grant allows the action on a folder that holds the key. -/
structure Allows (now : Time) (input : FolderAccessCheck) (grant : FolderGrant) : Prop where
  organization : grant.organizationId = input.organizationId
  ofNamespace : grant.namespaceId = input.namespaceId
  principalType : grant.principalType = input.principalType
  principal : grant.principalId = input.principalId
  action : input.action ∈ grant.actions
  unexpired : Unexpired grant.expiresAt now
  folder : grant.folderPrefix = "" ∨
    segments grant.folderPrefix.toList <+: segments input.key.toList

/-- What `canAccess` decides. -/
def MayAccess (db : Db) (now : Time) (input : FolderAccessCheck) : Prop :=
  PrincipalValid db now input ∧ ∃ grant ∈ db.folderGrant, Allows now input grant

theorem all_lt_iff {expiresAt : Option Time} {now : Time} :
    expiresAt.all (now < ·) = true ↔ Unexpired expiresAt now := by
  cases expiresAt <;> simp [Unexpired]

/-- The rows that the query of grants finds and whose prefix matches. -/
theorem allows_iff {now : Time} {input : FolderAccessCheck} {grant : FolderGrant} :
    (grant.organizationId == input.organizationId && grant.namespaceId == input.namespaceId &&
      grant.principalType == input.principalType && grant.principalId == input.principalId &&
      grant.actions.contains input.action && grant.expiresAt.all (now < ·)) = true ∧
      FolderGrantService.prefixMatches grant.folderPrefix input.key = true ↔
        Allows now input grant := by
  rw [prefixMatches_iff]
  simp only [Bool.and_eq_true, beq_iff_eq, List.contains_iff_mem, all_lt_iff]
  constructor
  · rintro ⟨⟨⟨⟨⟨⟨organization, ofNamespace⟩, principalType⟩, principal⟩, action⟩, unexpired⟩, folder⟩
    exact ⟨organization, ofNamespace, principalType, principal, action, unexpired, folder⟩
  · rintro ⟨organization, ofNamespace, principalType, principal, action, unexpired, folder⟩
    exact ⟨⟨⟨⟨⟨⟨organization, ofNamespace⟩, principalType⟩, principal⟩, action⟩, unexpired⟩, folder⟩

instance (expiresAt : Option Time) (now : Time) : Decidable (Unexpired expiresAt now) :=
  decidable_of_iff _ all_lt_iff

instance (now : Time) (input : FolderAccessCheck) (grant : FolderGrant) :
    Decidable (Allows now input grant) :=
  decidable_of_iff _ allows_iff

instance (db : Db) (now : Time) (input : FolderAccessCheck) :
    Decidable (PrincipalValid db now input) := by
  unfold PrincipalValid
  exact match input.principalType with
    | .role => inferInstanceAs (Decidable (∃ row ∈ db.role.rows, _))
    | .apiCredential => inferInstanceAs (Decidable (∃ row ∈ db.apiCredential.rows, _))

instance (db : Db) (now : Time) (input : FolderAccessCheck) :
    Decidable (MayAccess db now input) :=
  inferInstanceAs (Decidable (_ ∧ ∃ grant ∈ db.folderGrant.rows, _))

variable {constraints : Db → Option Failure} {may : {β : Type} → Command β → Choice → Prop}
  {α : Type} {ends : Except Failure α → World → Prop} {world : World}

/-- The queries of the service work. -/
def Answers (may : {β : Type} → Command β → Choice → Prop) : Prop :=
  ∀ {β : Type} (body : Tx β) choice, may (.query body) choice → choice.failure = none

theorem answers_calm : Answers Calm :=
  fun _ _ calm => calm.1

theorem ends_principalIsActive (answers : Answers may) {input : FolderAccessCheck}
    {rest : Bool → Service α}
    (holds : ∀ valid, (valid = true ↔ PrincipalValid world.db world.clock input) →
      EndsAlone constraints may (rest valid) ends world) :
    EndsAlone constraints may
      (Program.bind (FolderGrantService.principalIsActive input.organizationId input.namespaceId
        input.principalType input.principalId world.clock) rest) ends world := by
  unfold FolderGrantService.principalIsActive
  cases type : input.principalType with
  | role =>
      dsimp only
      rw [Program.bind_eq, Program.bind_assoc]
      refine EndsAlone.query (answers _) (Tx.wp_findFirst.mpr (holds _ ?_))
      simp only [PrincipalValid, type, Table.isSome_find?, Bool.and_eq_true, beq_iff_eq, and_assoc]
      rfl
  | apiCredential =>
      dsimp only
      rw [Program.bind_eq, Program.bind_assoc]
      refine EndsAlone.query (answers _) (Tx.wp_findFirst.mpr (holds _ ?_))
      have byId : ∀ row ∈ world.state.db.apiCredential,
          (row.id == input.principalId && row.organizationId == input.organizationId &&
            row.namespaceId == input.namespaceId && row.status == .active) = true →
          Row.id row = input.principalId := by
        intro row _ holds
        simp only [Bool.and_eq_true, beq_iff_eq] at holds
        exact holds.1.1.1
      simp only [PrincipalValid, type, apiCredential_table, Table.any_find?_byId byId,
        Bool.and_eq_true, beq_iff_eq, and_assoc, all_lt_iff]
      rfl

/-- The service answers what the grants allow, and changes nothing. -/
theorem ends_canAccess (answers : Answers may) {input : FolderAccessCheck}
    {rest : Bool → Service α}
    (holds : ∀ allowed, (allowed = true ↔ MayAccess world.db world.clock input) →
      EndsAlone constraints may (rest allowed) ends world) :
    EndsAlone constraints may (Program.bind (FolderGrantService.canAccess input) rest) ends
      world := by
  unfold FolderGrantService.canAccess
  rw [Program.bind_eq, Program.bind_assoc]
  apply EndsAlone.now
  rw [Program.bind_eq, Program.bind_assoc]
  apply ends_principalIsActive answers
  intro valid validIff
  split
  · rename_i isValid
    rw [Program.bind_eq, Program.bind_assoc]
    refine EndsAlone.query (answers _) (Tx.wp_findMany.mpr (holds _ ?_))
    have found : ∀ grant, grant ∈ folderGrant.select (fun row =>
        row.organizationId == input.organizationId && row.namespaceId == input.namespaceId &&
        row.principalType == input.principalType && row.principalId == input.principalId &&
        row.actions.contains input.action && row.expiresAt.all (world.clock < ·))
        (fun _ _ => true) world.db ∧
          FolderGrantService.prefixMatches grant.folderPrefix input.key = true ↔
        grant ∈ world.db.folderGrant ∧ Allows world.clock input grant := by
      intro grant
      rw [Relation.select, List.mem_insertionSort, Table.mem_filter, and_assoc, allows_iff]
      rfl
    simp only [Option.elim_none, List.any_eq_true, MayAccess, ← validIff, isValid, true_and]
    exact exists_congr found
  · rename_i invalid
    refine holds false ⟨nofun, fun may => absurd (validIff.mpr may.1) invalid⟩

end Mosp.Access
