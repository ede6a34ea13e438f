import Mosp.Organizations.Changes
import Mosp.Sql.Alone

/-!
# Transactions of the organization service as changes

What each transaction writes, for a caller that may use some permissions.
-/

namespace Mosp.Organizations

open Mosp.Concurrency Mosp.Data Mosp.Sql
open Mosp.Database (Id Time)
open OrganizationService

theorem isRoleOf_iff {organizationId roleId : Id} {row : Role} :
    isRoleOf organizationId roleId row = true ↔
      row.id = roleId ∧ row.organizationId = some organizationId ∧ row.scope = .organization := by
  simp [isRoleOf, and_assoc]

theorem isMemberOf_iff {organizationId membershipId : Id} {row : Membership} :
    isMemberOf organizationId membershipId row = true ↔
      row.id = membershipId ∧ row.organizationId = organizationId := by
  simp [isMemberOf]

/-! ## What the constraints say -/

section

variable {db : Db}

/-- A role that is not there has no assignments. -/
theorem Valid.unassigned_of_fresh (valid : Valid db) {roleId : Id}
    (fresh : ∀ row ∈ db.role, row.id ≠ roleId) : Unassigned db roleId := by
  rintro assigned member rfl
  obtain ⟨row, rowMem, same⟩ := valid .memberRoleRole assigned member _ rfl
  exact fresh row rowMem (Prod.mk.inj same).1

/-- The assignments of a role are within its organization. -/
theorem Valid.assigned_organization (valid : Valid db) {assigned : MemberRole} {owner : Role}
    (member : assigned ∈ db.memberRole) (ownerMem : owner ∈ db.role)
    (of : assigned.roleId = owner.id) : owner.organizationId = some assigned.organizationId := by
  obtain ⟨row, rowMem, same⟩ := valid .memberRoleRole assigned member _ rfl
  obtain ⟨sameId, organization⟩ := Prod.mk.inj same
  rw [← Table.eq_of_id_eq rowMem ownerMem (sameId.trans of)]
  exact organization

/-- The assignments of a membership are within its organization. -/
theorem Valid.membership_organization (valid : Valid db) {assigned : MemberRole}
    {holder : Membership} (member : assigned ∈ db.memberRole) (holderMem : holder ∈ db.membership)
    (of : assigned.membershipId = holder.id) : assigned.organizationId = holder.organizationId := by
  obtain ⟨row, rowMem, same⟩ := valid .memberRoleMembership assigned member _ rfl
  obtain ⟨sameId, organization⟩ := Prod.mk.inj same
  rw [← Table.eq_of_id_eq rowMem holderMem (sameId.trans of)]
  exact organization.symm

/-- The roles that users have are roles of the platform. -/
theorem Valid.userRole_global (valid : Valid db) {row : UserRole} {owner : Role}
    (member : row ∈ db.userRole) (ownerMem : owner ∈ db.role) (of : row.roleId = owner.id) :
    owner.scope = .global := by
  obtain ⟨found, foundMem, same⟩ := valid .userRoleRole row member _ rfl
  obtain ⟨sameId, scope⟩ := Prod.mk.inj same
  rw [← Table.eq_of_id_eq foundMem ownerMem (sameId.trans of), scope]
  simpa using valid .userRoleGlobalScopeCheck row member

end

/-! ## Parts of the transactions -/

section

variable {check : Db → Option Failure} {time : Time} {may : String → Prop} {organizationId : Id}
  {state : State Db}

/-- The record of an action that is allowed completes the changes. -/
theorem wp_record {metadata : OrganizationActionMetadata} {action entityType permission : String}
    {entityId : Id} {details : ActivityMetadata} {before : Db} {returns : Unit → State Db → Prop}
    (changes : Changes may organizationId before state.db)
    (required : (action, permission) ∈ requirements) (allowed : may permission)
    (goes : ∀ after : State Db, Audited may organizationId metadata.actorId before after.db →
      returns () after) :
    (record organizationId metadata action entityType entityId details).wp check time returns
      (fun _ => True) state := by
  simp only [record, Program.bind_eq, Program.pure_eq, Tx.wp_bind, Tx.wp_randomUUID, Tx.wp_pure]
  rw [Tx.wp_create]
  split
  · trivial
  · rename_i unused
    apply Tx.Written.of_goes
    apply goes
    exact .intro changes _ (Table.get?_none.mp unused) rfl rfl ⟨permission, required, allowed⟩

theorem wp_findPermissions {keys : List String} {returns : List Permission → State Db → Prop}
    (goes : ∀ permissions, returns permissions state) :
    (findPermissions keys).wp check time returns (fun _ => True) state := by
  simp only [findPermissions, Program.bind_eq, Program.pure_eq, Tx.wp_bind, Tx.wp_findMany]
  split
  · trivial
  · exact goes _

/-- Granting permissions one after the other. -/
theorem changes_grant {owner : Role} {db : Db} (editable : Editable organizationId db owner)
    (allowed : may "permissions:manage" ∨ Unassigned db owner.id) (rows : List RolePermission)
    (of : ∀ row ∈ rows, row.roleId = owner.id) :
    Changes may organizationId db ((rows.map Write.rolePermission).foldl Db.write db) := by
  induction rows generalizing db with
  | nil => exact .refl
  | cons row rest ih =>
      obtain ⟨ofRow, ofRest⟩ := List.forall_mem_cons.mp of
      have granted : Changes may organizationId db (db.write (.rolePermission row)) :=
        (Change.grantPermission editable ofRow allowed).changes
      have stillEditable : Editable organizationId (db.write (.rolePermission row)) owner :=
        ⟨editable.member, editable.organization, editable.scope, editable.ordinary⟩
      exact granted.trans (ih stillEditable allowed ofRest)

/-- Revoking permissions one after the other. -/
theorem changes_revoke {owner : Role} {db : Db} (editable : Editable organizationId db owner)
    (allowed : may "permissions:manage") (rows : List RolePermission)
    (of : ∀ row ∈ rows, row.roleId = owner.id) :
    let after := (rows.map fun row => Write.eraseRolePermission (Row.id row)).foldl Db.write db
    Changes may organizationId db after ∧ Editable organizationId after owner := by
  induction rows generalizing db with
  | nil => exact ⟨.refl, editable⟩
  | cons row rest ih =>
      obtain ⟨ofRow, ofRest⟩ := List.forall_mem_cons.mp of
      have revoked : Changes may organizationId db
          (db.write (.eraseRolePermission (Row.id row))) := by
        rw [rowId_rolePermission, ofRow]
        exact (Change.revokePermission editable allowed).changes
      have stillEditable :
          Editable organizationId (db.write (.eraseRolePermission (Row.id row))) owner :=
        ⟨editable.member, editable.organization, editable.scope, editable.ordinary⟩
      obtain ⟨changes, remains⟩ := ih stillEditable ofRest
      exact ⟨revoked.trans changes, remains⟩

theorem wp_grant {owner : Role} {permissions : List Permission}
    {returns : Unit → State Db → Prop} (editable : Editable organizationId state.db owner)
    (allowed : may "permissions:manage" ∨ Unassigned state.db owner.id)
    (goes : ∀ after : State Db, Changes may organizationId state.db after.db → returns () after) :
    (grant owner.id permissions).wp check time returns (fun _ => True) state := by
  unfold grant
  rw [Tx.wp_runIf]
  constructor
  · intro _
    apply Tx.wp_createMany trivial
    intro _ _
    apply Tx.Written.of_goes
    apply goes
    apply changes_grant editable allowed
    intro row member
    obtain ⟨_, inRows, rfl⟩ := List.mem_map.mp member
    obtain ⟨_, _, rfl⟩ := List.mem_map.mp inRows
    rfl
  · exact fun _ => goes state .refl

theorem wp_findOwnRole {roleId : Id} {returns : Unit → State Db → Prop}
    (goes : ∀ owner : Role, Editable organizationId state.db owner → owner.id = roleId →
      returns () state) :
    (findOwnRole organizationId roleId).wp check time returns (fun _ => True) state := by
  simp only [findOwnRole, Program.bind_eq, Tx.wp_bind, Tx.wp_findFirst]
  split
  · trivial
  · rename_i owner found
    obtain ⟨member, own⟩ := Table.find?_some found
    obtain ⟨sameId, organization, scope⟩ := isRoleOf_iff.mp own
    rw [Tx.wp_throwIf]
    refine ⟨fun _ => trivial, fun ordinary => ?_⟩
    exact goes owner ⟨member, organization, scope, by simpa using ordinary⟩ sameId

theorem wp_regrant {owner : Role} {roleId : Id} {permissions : Option (List Permission)}
    {returns : Unit → State Db → Prop} (editable : Editable organizationId state.db owner)
    (of : owner.id = roleId) (allowed : permissions ≠ none → may "permissions:manage")
    (goes : ∀ after : State Db, Changes may organizationId state.db after.db → returns () after) :
    (regrant roleId permissions).wp check time returns (fun _ => True) state := by
  subst of
  cases permissions with
  | none => exact goes state .refl
  | some permissions =>
      have manages := allowed (Option.some_ne_none permissions)
      simp only [regrant, Program.bind_eq, Tx.wp_bind]
      rw [Tx.wp_deleteMany]
      apply Tx.Written.of_goes
      have revoked := changes_revoke editable manages
        (state.db.rolePermission.filter fun row => row.roleId == owner.id)
        fun row member => by simpa using (Table.mem_filter.mp member).2
      apply wp_grant revoked.2 (.inl manages)
      exact fun after changes => goes after (revoked.1.trans changes)

theorem wp_findRoleOrThrow {condition : Role → Bool} {returns : RoleSummary → State Db → Prop}
    (goes : ∀ summary, returns summary state) :
    (findRoleOrThrow condition).wp check time returns (fun _ => True) state := by
  unfold findRoleOrThrow
  rw [Tx.wp_statement]
  cases state.db.role.find? condition with
  | none => trivial
  | some row => exact Tx.Written.of_goes (goes _)

theorem wp_findMember {missing : Failure} {condition : Membership → Bool}
    {returns : MemberSummary → State Db → Prop} (goes : ∀ summary, returns summary state) :
    (findMember missing condition).wp check time returns (fun _ => True) state := by
  unfold findMember
  rw [Tx.wp_statement]
  cases state.db.membership.find? condition with
  | none => trivial
  | some row =>
      cases shown : toMemberSummary state.db row with
      | error error => simp only [shown, Except.map]
      | ok summary =>
          simp only [shown, Except.map]
          exact Tx.Written.of_goes (goes summary)

theorem wp_findRequested {keys : Option (List String)}
    {returns : Option (List Permission) → State Db → Prop}
    (goes : ∀ permissions, (keys = none → permissions = none) → returns permissions state) :
    (findRequested keys).wp check time returns (fun _ => True) state := by
  cases keys with
  | none => exact goes none fun _ => rfl
  | some keys =>
      simp only [findRequested, Program.map_eq, Tx.wp_bind]
      apply wp_findPermissions
      exact fun permissions => goes (some permissions) nofun

theorem wp_checkRole {roleId : Option Id} {returns : Unit → State Db → Prop}
    (goes : returns () state) :
    (checkRole organizationId roleId).wp check time returns (fun _ => True) state := by
  cases roleId with
  | none => exact goes
  | some roleId =>
      simp only [checkRole, Program.bind_eq, Tx.wp_bind, Tx.wp_findFirst]
      rw [Tx.wp_throwIf]
      exact ⟨fun _ => trivial, fun _ => goes⟩

/-- Someone who was invited gets a role. -/
theorem wp_assignNew {membershipId : Id} {roleId : Option Id} {returns : Unit → State Db → Prop}
    (inactive : ∀ member ∈ state.db.membership, member.id = membershipId → member.status ≠ .active)
    (goes : ∀ after : State Db, Changes may organizationId state.db after.db → returns () after) :
    (assignNew organizationId membershipId roleId).wp check time returns (fun _ => True) state := by
  cases roleId with
  | none => exact goes state .refl
  | some roleId =>
      simp only [assignNew, Program.bind_eq, Program.pure_eq, Tx.wp_bind, Tx.wp_pure]
      rw [Tx.wp_create]
      split
      · trivial
      · rename_i fresh
        apply Tx.Written.of_goes
        apply goes
        have assigned : Change may organizationId state.db
            (.memberRole { membershipId, roleId, organizationId, assignedAt := time }) :=
          .assign rfl (fun old member same => absurd same (Table.get?_none.mp fresh old member))
            (.inr inactive)
        exact assigned.changes

end

/-! ## The transactions -/

section

variable {time : Time} {may : String → Prop} {organizationId : Id} {state : State Db}
  {metadata : OrganizationActionMetadata}

theorem wp_updateTransaction {input : OrganizationUpdateRequest}
    (allowed : may "organizations:update") :
    (updateTransaction organizationId input metadata).wp violation time
      (fun _ after => Audited may organizationId metadata.actorId state.db after.db) (fun _ => True) state := by
  simp only [updateTransaction, Program.bind_eq, Program.pure_eq, Tx.wp_bind, Tx.wp_pure]
  rw [Tx.wp_update]
  split
  · trivial
  · apply Tx.Written.of_goes
    apply wp_record (Change.organization _).changes (by simp [requirements]) allowed
    exact fun _ audited => audited

theorem wp_createRoleTransaction {input : RoleCreateRequest} (valid : Valid state.db)
    (allowed : may "roles:create") :
    (createRoleTransaction organizationId input metadata).wp violation time
      (fun _ after => Audited may organizationId metadata.actorId state.db after.db) (fun _ => True) state := by
  simp only [createRoleTransaction, Program.bind_eq, Tx.wp_bind, Tx.wp_randomUUID]
  apply wp_findPermissions
  intro permissions
  rw [Tx.wp_create]
  split
  · trivial
  · rename_i unused
    have fresh : ∀ old ∈ state.db.role, old.id ≠ state.nextId := Table.get?_none.mp unused
    have free : Unassigned state.db state.nextId := valid.unassigned_of_fresh fresh
    have created : Change may organizationId state.db
        (.role
          { id := state.nextId
            organizationId := some organizationId
            name := input.name
            scope := .organization
            createdAt := time
            updatedAt := time }) :=
      .createRole fresh free
    apply Tx.Written.of_goes
    apply wp_grant ⟨Table.mem_put_self _ _, rfl, rfl, rfl⟩ (.inr free)
    intro granted (changes : Changes may organizationId _ granted.db)
    apply wp_record (created.changes.trans changes) (by simp [requirements]) allowed
    intro recorded audited
    apply wp_findRoleOrThrow
    exact fun _ => audited

theorem wp_updateRoleTransaction {roleId : Id} {input : RoleUpdateRequest}
    (allowed : may "roles:update")
    (manages : input.permissionKeys ≠ none → may "permissions:manage") :
    (updateRoleTransaction organizationId roleId input metadata).wp violation time
      (fun _ after => Audited may organizationId metadata.actorId state.db after.db) (fun _ => True) state := by
  simp only [updateRoleTransaction, Program.bind_eq, Tx.wp_bind]
  apply wp_findOwnRole
  rintro owner editable rfl
  apply wp_findRequested
  intro permissions onlyRequested
  rw [Tx.wp_update]
  split
  · trivial
  · rename_i row found
    obtain ⟨rowMem, sameId⟩ := Table.find?_some found
    obtain rfl : row = owner :=
      Table.eq_of_id_eq rowMem editable.member (by simpa using sameId)
    apply Tx.Written.of_goes
    let renamed : Role := { row with name := input.name.getD row.name, updatedAt := time }
    have edited : Change may organizationId state.db (.role renamed) :=
      .editRole editable rfl rfl
    have editableStill : Editable organizationId (state.db.write (.role renamed)) renamed :=
      ⟨Table.mem_put_self _ _, editable.organization, editable.scope, editable.ordinary⟩
    have sameRole : renamed.id = row.id := rfl
    apply wp_regrant editableStill sameRole
    · exact fun requested => manages fun none_ => requested (onlyRequested none_)
    · intro regranted changes
      apply wp_record (edited.changes.trans changes) (by simp [requirements]) allowed
      intro recorded audited
      apply wp_findRoleOrThrow
      exact fun _ => audited

theorem wp_deleteRoleTransaction {roleId : Id} (valid : Valid state.db)
    (allowed : may "roles:delete") :
    (deleteRoleTransaction organizationId roleId metadata).wp violation time
      (fun _ after => Audited may organizationId metadata.actorId state.db after.db) (fun _ => True) state := by
  simp only [deleteRoleTransaction, Program.bind_eq, Tx.wp_bind]
  apply wp_findOwnRole
  rintro owner editable rfl
  rw [Tx.wp_count, Tx.wp_throwIf]
  refine ⟨fun _ => trivial, fun none_ => ?_⟩
  have free : Unassigned state.db owner.id := by
    intro assigned member of
    have organization := valid.assigned_organization member editable.member of
    rw [editable.organization, Option.some.injEq] at organization
    have counted : assigned ∈ state.db.memberRole.filter fun row =>
        row.roleId == owner.id && row.organizationId == organizationId :=
      Table.mem_filter.mpr ⟨member, by simp [of, organization]⟩
    exact none_ (List.length_pos_of_mem counted)
  have unused : ∀ row ∈ state.db.userRole, row.roleId ≠ owner.id := by
    intro row member of
    have platform := valid.userRole_global member editable.member of
    rw [editable.scope] at platform
    contradiction
  rw [Tx.wp_delete]
  split
  · trivial
  · rename_i row found
    obtain ⟨_, sameId⟩ := Table.find?_some found
    have rowId : row.id = owner.id := by simpa using sameId
    have erased : Changes may organizationId state.db (state.db.write (.eraseRole row.id)) := by
      rw [rowId]
      exact (Change.eraseRole editable free unused).changes
    apply Tx.Written.of_goes
    apply wp_record erased (by simp [requirements]) allowed
    exact fun _ audited => audited

theorem wp_addMemberTransaction {input : MemberAddRequest} (allowed : may "members:create") :
    (addMemberTransaction organizationId input metadata).wp violation time
      (fun _ after => Audited may organizationId metadata.actorId state.db after.db) (fun _ => True) state := by
  simp only [addMemberTransaction, Program.bind_eq, Tx.wp_bind, Tx.wp_findFirst]
  split
  · trivial
  · rename_i owner _
    simp only [Tx.wp_bind]
    apply wp_checkRole
    rw [Tx.wp_randomUUID, Tx.wp_create]
    split
    · trivial
    · rename_i unused
      have fresh : ∀ old ∈ state.db.membership, old.id ≠ state.nextId := Table.get?_none.mp unused
      have invited : Change may organizationId state.db
          (.membership
            { id := state.nextId
              organizationId
              status := .invited
              userId := owner.id
              createdAt := time
              updatedAt := time }) :=
        .invite fresh rfl
      apply Tx.Written.of_goes
      apply wp_assignNew
      · intro member memberMem same
        rcases Table.mem_put.mp memberMem with rfl | ⟨old, _⟩
        · exact MembershipStatus.noConfusion
        · exact absurd same (fresh member old)
      · intro assigned (changes : Changes may organizationId _ assigned.db)
        apply wp_record (invited.changes.trans changes) (by simp [requirements]) allowed
        intro recorded audited
        apply wp_findMember
        exact fun _ => audited

theorem wp_assignRoleTransaction {membershipId : Id} {input : RoleAssignmentRequest}
    (valid : Valid state.db) (allowed : may "roles:assign") :
    (assignRoleTransaction organizationId membershipId input metadata).wp violation time
      (fun _ after => Audited may organizationId metadata.actorId state.db after.db) (fun _ => True) state := by
  simp only [assignRoleTransaction, Program.bind_eq, Tx.wp_bind, Tx.wp_findFirst]
  rw [Tx.wp_throwIf]
  refine ⟨fun _ => trivial, fun found => ?_⟩
  rw [Tx.wp_throwIf]
  refine ⟨fun _ => trivial, fun _ => ?_⟩
  have recorded : ∀ row : MemberRole, Changes may organizationId state.db
      (state.db.write (.memberRole row)) → Tx.Written violation (fun _ => True) state
        [.memberRole row] fun after => Tx.wp violation time
          (record organizationId metadata "roles.assign" "Membership" membershipId
            (.assigned input.roleId))
          (fun _ after => Tx.wp violation time
            (findMember DatabaseError.notFound (isMemberOf organizationId membershipId))
            (fun _ after => Audited may organizationId metadata.actorId state.db after.db)
            (fun _ => True) after)
          (fun _ => True) after := by
    intro row assigned
    apply Tx.Written.of_goes
    apply wp_record assigned (by simp [requirements]) allowed
    intro after audited
    apply wp_findMember
    exact fun _ => audited
  rw [Tx.wp_upsert]
  split
  · rename_i row there
    obtain ⟨member, same⟩ := Table.find?_some there
    apply recorded
    have own : row.organizationId = organizationId := by
      obtain ⟨current, isCurrent⟩ := Option.ne_none_iff_exists'.mp found
      obtain ⟨currentMem, ofCurrent⟩ := Table.find?_some isCurrent
      obtain ⟨currentId, organization⟩ := isMemberOf_iff.mp ofCurrent
      have key : row.membershipId = membershipId ∧ row.roleId = input.roleId := by
        simpa using same
      rw [valid.membership_organization member currentMem (key.1.trans currentId.symm)]
      exact organization
    have assigned : Change may organizationId state.db (.memberRole row) :=
      .assign own (fun old oldMem sameKey => Table.eq_of_id_eq oldMem member sameKey)
        (.inl allowed)
    exact assigned.changes
  · split
    · trivial
    · rename_i fresh
      apply recorded
      have assigned : Change may organizationId state.db
          (.memberRole
            { membershipId, roleId := input.roleId, organizationId, assignedAt := time }) :=
        .assign rfl (fun old member same => absurd same (Table.get?_none.mp fresh old member))
          (.inl allowed)
      exact assigned.changes

/-- What is left to do after the status was written. -/
theorem wp_statusWritten {membershipId : Id} {input : MemberStatusUpdateRequest} {count : Nat}
    {written : State Db} (changes : Changes may organizationId state.db written.db)
    (allowed : may "members:update") :
    Tx.wp violation time
      (do
        Program.throwIf (count ≠ 1) .memberNotFound
        record organizationId metadata "members.update" "Membership" membershipId
          (.status input.status)
        findMember .memberNotFound (isMemberOf organizationId membershipId) : Tx MemberSummary)
      (fun _ after => Audited may organizationId metadata.actorId state.db after.db) (fun _ => True) written := by
  simp only [Program.bind_eq, Tx.wp_bind]
  rw [Tx.wp_throwIf]
  refine ⟨fun _ => trivial, fun _ => ?_⟩
  apply wp_record changes (by simp [requirements]) allowed
  intro after audited
  apply wp_findMember
  exact fun _ => audited

theorem wp_updateMemberStatusTransaction {membershipId : Id} {input : MemberStatusUpdateRequest}
    (allowed : may "members:update") :
    (updateMemberStatusTransaction organizationId membershipId input metadata).wp violation time
      (fun _ after => Audited may organizationId metadata.actorId state.db after.db) (fun _ => True) state := by
  unfold updateMemberStatusTransaction
  rw [Program.bind_eq, Tx.wp_bind]
  apply Tx.wp_updateMany_byId membershipId
  · exact fun row own => (isMemberOf_iff.mp own).1
  · intro row member own
    apply Tx.Written.of_goes
    have changed : Change may organizationId state.db
        (.membership { row with status := input.status, updatedAt := time }) :=
      .setStatus member (isMemberOf_iff.mp own).2 rfl rfl rfl allowed
    exact wp_statusWritten changed.changes allowed
  · exact fun _ => wp_statusWritten .refl allowed

end

end Mosp.Organizations
