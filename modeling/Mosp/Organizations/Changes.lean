import Mosp.Organizations.Routes
import Mathlib.Logic.Relation

/-!
# What the services of an organization change

Each transaction is a sequence of changes, and each change says what it writes
over.  What a change does to the access of members follows from that alone.
-/

namespace Mosp.Organizations

open Mosp.Concurrency Mosp.Data Mosp.Sql
open Mosp.Database (Id Time)
open OrganizationService (isRoleOf isMemberOf)

/-! ## Changes -/

/-- No membership has this role. -/
def Unassigned (db : Db) (roleId : Id) : Prop :=
  ∀ assigned ∈ db.memberRole, assigned.roleId ≠ roleId

/-- A role that a service of the organization may change. -/
structure Editable (organizationId : Id) (db : Db) (owner : Role) : Prop where
  member : owner ∈ db.role
  organization : owner.organizationId = some organizationId
  scope : owner.scope = .organization
  ordinary : owner.isSystem = false

/-- A write of a service of the organization, for a caller that may use some permissions. -/
inductive Change (may : String → Prop) (organizationId : Id) (db : Db) : Write → Prop
  | organization (row : Organization) : Change may organizationId db (.organization row)
  | createRole {row : Role} (fresh : ∀ old ∈ db.role, old.id ≠ row.id)
      (free : Unassigned db row.id) : Change may organizationId db (.role row)
  | editRole {old row : Role} (editable : Editable organizationId db old)
      (sameId : row.id = old.id) (sameOrganization : row.organizationId = old.organizationId) :
      Change may organizationId db (.role row)
  | grantPermission {owner : Role} {row : RolePermission}
      (editable : Editable organizationId db owner) (of : row.roleId = owner.id)
      (allowed : may "permissions:manage" ∨ Unassigned db owner.id) :
      Change may organizationId db (.rolePermission row)
  | revokePermission {owner : Role} {permissionId : Id}
      (editable : Editable organizationId db owner) (allowed : may "permissions:manage") :
      Change may organizationId db (.eraseRolePermission (Nat.pair owner.id permissionId))
  | eraseRole {owner : Role} (editable : Editable organizationId db owner)
      (free : Unassigned db owner.id) (unused : ∀ row ∈ db.userRole, row.roleId ≠ owner.id) :
      Change may organizationId db (.eraseRole owner.id)
  | invite {row : Membership} (fresh : ∀ old ∈ db.membership, old.id ≠ row.id)
      (invited : row.status = .invited) : Change may organizationId db (.membership row)
  | setStatus {old row : Membership} (member : old ∈ db.membership)
      (own : old.organizationId = organizationId) (sameId : row.id = old.id)
      (sameUser : row.userId = old.userId)
      (sameOrganization : row.organizationId = old.organizationId) (allowed : may "members:update") :
      Change may organizationId db (.membership row)
  | assign {row : MemberRole} (own : row.organizationId = organizationId)
      (new : ∀ old ∈ db.memberRole, Row.id old = Row.id row → old = row)
      (allowed : may "roles:assign" ∨
        ∀ member ∈ db.membership, member.id = row.membershipId → member.status ≠ .active) :
      Change may organizationId db (.memberRole row)

/-- The database after a change. -/
def Step (may : String → Prop) (organizationId : Id) (before after : Db) : Prop :=
  ∃ write, Change may organizationId before write ∧ after = before.write write

/-- The database after any number of changes. -/
abbrev Changes (may : String → Prop) (organizationId : Id) : Db → Db → Prop :=
  Relation.ReflTransGen (Step may organizationId)

theorem Change.changes {may : String → Prop} {organizationId : Id} {db : Db} {write : Write}
    (change : Change may organizationId db write) : Changes may organizationId db (db.write write) :=
  .single ⟨write, change, rfl⟩

/-! ## Access -/

/-- The user is an active member of the organization, with this membership. -/
def ActiveMember (db : Db) (organizationId userId membershipId : Id) : Prop :=
  ∃ row ∈ db.membership, row.id = membershipId ∧ row.userId = userId ∧
    row.organizationId = organizationId ∧ row.status = .active

/-- The membership has the role, within the organization. -/
def Assigned (db : Db) (organizationId membershipId roleId : Id) : Prop :=
  ∃ row ∈ db.memberRole, row.membershipId = membershipId ∧ row.roleId = roleId ∧
    row.organizationId = organizationId

/-- The role is one of the organization, and has the permission. -/
def Confers (db : Db) (organizationId roleId : Id) (key : String) : Prop :=
  (∃ role ∈ db.role, role.id = roleId ∧ role.organizationId = some organizationId) ∧
    ∃ granted ∈ db.rolePermission, granted.roleId = roleId ∧
      ∃ permission ∈ db.permission, permission.id = granted.permissionId ∧ permission.key = key

/-- The user may use the permission in the organization. -/
def Grants (db : Db) (userId organizationId : Id) (key : String) : Prop :=
  ∃ membershipId roleId, ActiveMember db organizationId userId membershipId ∧
    Assigned db organizationId membershipId roleId ∧ Confers db organizationId roleId key

/-- The user may use the permission on the platform. -/
def GrantsPlatform (db : Db) (userId : Id) (key : String) : Prop :=
  ∃ assigned ∈ db.userRole, assigned.userId = userId ∧
    ∃ role ∈ db.role, role.id = assigned.roleId ∧ role.scope = .global ∧
      ∃ granted ∈ db.rolePermission, granted.roleId = role.id ∧
        ∃ permission ∈ db.permission, permission.id = granted.permissionId ∧ permission.key = key

/-- Nothing has changed for the members of the organization. -/
structure Unaffected (organizationId : Id) (before after : Db) : Prop where
  member : ∀ userId membershipId, ActiveMember after organizationId userId membershipId ↔
    ActiveMember before organizationId userId membershipId
  assigned : ∀ userId membershipId roleId,
    ActiveMember before organizationId userId membershipId →
    (Assigned after organizationId membershipId roleId ↔
      Assigned before organizationId membershipId roleId)
  confers : ∀ membershipId roleId key, Assigned before organizationId membershipId roleId →
    (Confers after organizationId roleId key ↔ Confers before organizationId roleId key)

theorem Unaffected.grants {organizationId : Id} {before after : Db}
    (unaffected : Unaffected organizationId before after) (userId : Id) (key : String) :
    Grants after userId organizationId key ↔ Grants before userId organizationId key := by
  unfold Grants
  constructor
  · rintro ⟨membershipId, roleId, active, assigned, confers⟩
    have wasActive := (unaffected.member userId membershipId).mp active
    have wasAssigned := (unaffected.assigned userId membershipId roleId wasActive).mp assigned
    exact ⟨membershipId, roleId, wasActive, wasAssigned,
      (unaffected.confers membershipId roleId key wasAssigned).mp confers⟩
  · rintro ⟨membershipId, roleId, active, assigned, confers⟩
    exact ⟨membershipId, roleId, (unaffected.member userId membershipId).mpr active,
      (unaffected.assigned userId membershipId roleId active).mpr assigned,
      (unaffected.confers membershipId roleId key assigned).mpr confers⟩

section

variable {organizationId : Id} {before after : Db}

/-- Memberships and assignments are the same, and so are the roles that are assigned. -/
theorem Unaffected.of_confers (membership : after.membership = before.membership)
    (memberRole : after.memberRole = before.memberRole)
    (confers : ∀ membershipId roleId key, Assigned before organizationId membershipId roleId →
      (Confers after organizationId roleId key ↔ Confers before organizationId roleId key)) :
    Unaffected organizationId before after where
  member _ _ := by rw [ActiveMember, membership, ActiveMember]
  assigned _ _ _ _ := by rw [Assigned, memberRole, Assigned]
  confers := confers

/-- Roles and permissions are the same. -/
theorem Unaffected.of_members (role : after.role = before.role)
    (rolePermission : after.rolePermission = before.rolePermission)
    (permission : after.permission = before.permission)
    (member : ∀ userId membershipId, ActiveMember after organizationId userId membershipId ↔
      ActiveMember before organizationId userId membershipId)
    (assigned : ∀ userId membershipId roleId,
      ActiveMember before organizationId userId membershipId →
      (Assigned after organizationId membershipId roleId ↔
        Assigned before organizationId membershipId roleId)) :
    Unaffected organizationId before after where
  member := member
  assigned := assigned
  confers _ _ _ _ := by rw [Confers, role, rolePermission, permission, Confers]

end

/-- An assigned role is not one without assignments. -/
theorem Assigned.ne {db : Db} {organizationId membershipId roleId other : Id}
    (assigned : Assigned db organizationId membershipId roleId) (free : Unassigned db other) :
    roleId ≠ other := by
  obtain ⟨row, member, _, rfl, _⟩ := assigned
  exact free row member

/-- A role of another organization confers nothing. -/
theorem not_confers {db : Db} {organizationId other : Id} {owner : Role} {key : String}
    (member : owner ∈ db.role) (organization : owner.organizationId = some other)
    (apart : other ≠ organizationId) : ¬Confers db organizationId owner.id key := by
  rintro ⟨⟨row, rowMem, sameId, rowOrganization⟩, _⟩
  rw [Table.eq_of_id_eq rowMem member sameId, organization, Option.some.injEq] at rowOrganization
  exact apart rowOrganization

/-! ## Permissions of other roles -/

theorem mem_put_elsewhere {table : Table RolePermission} {row permission : RolePermission}
    {roleId : Id} (of : row.roleId = roleId) (elsewhere : permission.roleId ≠ roleId) :
    permission ∈ table.put row ↔ permission ∈ table := by
  rw [Table.mem_put]
  constructor
  · rintro (rfl | ⟨member, _⟩)
    · exact absurd of elsewhere
    · exact member
  · intro member
    refine .inr ⟨member, fun sameKey => elsewhere ?_⟩
    exact (Nat.pair_eq_pair.mp sameKey).1.trans of

theorem mem_erase_elsewhere {table : Table RolePermission} {permission : RolePermission}
    {roleId permissionId : Id} (elsewhere : permission.roleId ≠ roleId) :
    permission ∈ table.erase (Nat.pair roleId permissionId) ↔ permission ∈ table := by
  rw [Table.mem_erase]
  constructor
  · exact fun both => both.1
  · exact fun member => ⟨member, fun sameKey => elsewhere (Nat.pair_eq_pair.mp sameKey).1⟩

/-! ## What a change does to access -/

/-- The permissions that matter for the access of members. -/
def decisive : List String :=
  ["permissions:manage", "roles:assign", "members:update"]

section

variable {may : String → Prop} {organizationId other : Id} {db : Db}

/-- A permission of another role, or of a role that nobody has, changes nothing. -/
theorem unaffected_permissions (roleId : Id) {rolePermission : Table RolePermission}
    (elsewhere : ∀ row, row.roleId ≠ roleId →
      (row ∈ rolePermission ↔ row ∈ db.rolePermission))
    (apart : Unassigned db roleId ∨ ∀ key, ¬Confers db organizationId roleId key ∧
      ¬Confers { db with rolePermission } organizationId roleId key) :
    Unaffected organizationId db { db with rolePermission } := by
  refine .of_confers rfl rfl ?_
  intro membershipId assignedId key assigned
  by_cases same : assignedId = roleId
  · subst same
    rcases apart with free | nothing
    · exact absurd rfl (assigned.ne free)
    · exact iff_of_false (nothing key).2 (nothing key).1
  · unfold Confers
    refine and_congr Iff.rfl ⟨?_, ?_⟩
    · rintro ⟨row, rowMem, rowRole, rest⟩
      exact ⟨row, (elsewhere row (rowRole ▸ same)).mp rowMem, rowRole, rest⟩
    · rintro ⟨row, rowMem, rowRole, rest⟩
      exact ⟨row, (elsewhere row (rowRole ▸ same)).mpr rowMem, rowRole, rest⟩

/-- A role that was not there, or that keeps its organization, changes nothing. -/
theorem unaffected_role {row : Role}
    (keeps : Unassigned db row.id ∨
      ∃ old ∈ db.role, row.id = old.id ∧ row.organizationId = old.organizationId) :
    Unaffected organizationId db (db.write (.role row)) := by
  refine .of_confers rfl rfl ?_
  intro membershipId roleId key assigned
  unfold Confers
  refine and_congr ⟨?_, ?_⟩ Iff.rfl
  · rintro ⟨role, roleMem, sameId, organization⟩
    rcases Table.mem_put.mp roleMem with rfl | ⟨roleMem, _⟩
    · rcases keeps with free | ⟨old, oldMem, oldId, oldOrganization⟩
      · exact absurd sameId.symm (assigned.ne free)
      · exact ⟨old, oldMem, oldId.symm.trans sameId, oldOrganization.symm.trans organization⟩
    · exact ⟨role, roleMem, sameId, organization⟩
  · rintro ⟨role, roleMem, sameId, organization⟩
    by_cases same : role.id = row.id
    · rcases keeps with free | ⟨old, oldMem, oldId, oldOrganization⟩
      · exact absurd (sameId.symm.trans same) (assigned.ne free)
      · obtain rfl : role = old := Table.eq_of_id_eq roleMem oldMem (same.trans oldId)
        exact ⟨row, Table.mem_put_self _ _, same.symm.trans sameId,
          oldOrganization.trans organization⟩
    · exact ⟨role, Table.mem_put.mpr (.inr ⟨roleMem, same⟩), sameId, organization⟩

/-- A membership that is active neither before nor after, or that is of another organization,
changes nothing. -/
theorem unaffected_membership {row : Membership}
    (inactive : row.organizationId ≠ organizationId ∨ row.status ≠ .active)
    (wasInactive : ∀ old ∈ db.membership, old.id = row.id →
      old.organizationId ≠ organizationId ∨ old.status ≠ .active) :
    Unaffected organizationId db (db.write (.membership row)) := by
  refine .of_members rfl rfl rfl ?_ ?_
  · intro userId membershipId
    constructor
    · rintro ⟨member, memberMem, sameId, user, organization, active⟩
      rcases Table.mem_put.mp memberMem with rfl | ⟨memberMem, _⟩
      · rcases inactive with elsewhere | notActive
        · exact absurd organization elsewhere
        · exact absurd active notActive
      · exact ⟨member, memberMem, sameId, user, organization, active⟩
    · rintro ⟨member, memberMem, sameId, user, organization, active⟩
      refine ⟨member, Table.mem_put.mpr (.inr ⟨memberMem, fun same => ?_⟩), sameId, user,
        organization, active⟩
      rcases wasInactive member memberMem same with elsewhere | notActive
      · exact elsewhere organization
      · exact notActive active
  · exact fun _ _ _ _ => Iff.rfl

/-- A change by someone without the decisive permissions, or for another organization, changes
nothing for the members. -/
theorem Change.unaffected {write : Write} (change : Change may other db write)
    (apart : other = organizationId → ∀ key ∈ decisive, ¬may key) :
    Unaffected organizationId db (db.write write) := by
  -- what is allowed is allowed in another organization
  have elsewhere : ∀ {key}, key ∈ decisive → may key → other ≠ organizationId :=
    fun member allowed same => apart same _ member allowed
  cases change with
  | organization row => exact .of_confers rfl rfl fun _ _ _ _ => Iff.rfl
  | createRole fresh free => exact unaffected_role (.inl free)
  | editRole editable sameId sameOrganization =>
      exact unaffected_role (.inr ⟨_, editable.member, sameId, sameOrganization⟩)
  | @grantPermission owner row editable of allowed =>
      apply unaffected_permissions owner.id
      · exact fun permission => mem_put_elsewhere of
      · rcases allowed with manages | free
        · have distinct := elsewhere (by simp [decisive]) manages
          exact .inr fun key => ⟨not_confers editable.member editable.organization distinct,
            not_confers editable.member editable.organization distinct⟩
        · exact .inl free
  | @revokePermission owner permissionId editable allowed =>
      apply unaffected_permissions owner.id
      · exact fun permission => mem_erase_elsewhere
      · have distinct := elsewhere (by simp [decisive]) allowed
        exact .inr fun key => ⟨not_confers editable.member editable.organization distinct,
          not_confers editable.member editable.organization distinct⟩
  | @eraseRole owner editable free unused =>
      have kept : ∀ row : MemberRole,
          row ∈ (db.write (.eraseRole owner.id)).memberRole ↔ row ∈ db.memberRole := by
        intro row
        simp only [Db.write, Table.mem_eraseWhere, beq_eq_false_iff_ne, and_iff_left_iff_imp]
        exact free row
      constructor
      · exact fun _ _ => Iff.rfl
      · intro userId membershipId roleId _
        simp only [Assigned, kept]
      · intro membershipId roleId key assigned
        have notOwner := assigned.ne free
        simp only [Confers, Db.write, Table.mem_erase, Table.mem_eraseWhere, beq_eq_false_iff_ne,
          rowId_role]
        refine and_congr ⟨?_, ?_⟩ ⟨?_, ?_⟩
        · rintro ⟨role, ⟨member, _⟩, rest⟩
          exact ⟨role, member, rest⟩
        · rintro ⟨role, member, sameId, rest⟩
          exact ⟨role, ⟨member, sameId ▸ notOwner⟩, sameId, rest⟩
        · rintro ⟨row, ⟨member, _⟩, rest⟩
          exact ⟨row, member, rest⟩
        · rintro ⟨row, member, rowRole, rest⟩
          exact ⟨row, ⟨member, rowRole ▸ notOwner⟩, rowRole, rest⟩
  | invite fresh invited =>
      apply unaffected_membership
      · exact .inr (by rw [invited]; decide)
      · exact fun old member same => absurd same (fresh old member)
  | @setStatus old row member own sameId sameUser sameOrganization allowed =>
      have distinct := elsewhere (by simp [decisive]) allowed
      apply unaffected_membership
      · exact .inl (by rw [sameOrganization, own]; exact distinct)
      · intro was wasMem same
        rw [Table.eq_of_id_eq wasMem member (same.trans sameId), own]
        exact .inl distinct
  | @assign row own new allowed =>
      refine .of_members rfl rfl rfl ?_ ?_
      · exact fun _ _ => Iff.rfl
      · intro userId membershipId roleId active
        constructor
        · rintro ⟨assigned, assignedMem, sameMembership, sameRole, organization⟩
          rcases Table.mem_put.mp assignedMem with rfl | ⟨assignedMem, _⟩
          · rcases allowed with assigns | inactive
            · exact absurd (own.symm.trans organization) (elsewhere (by simp [decisive]) assigns)
            · obtain ⟨member, memberMem, sameId, _, _, isActive⟩ := active
              exact absurd isActive (inactive member memberMem (sameId.trans sameMembership.symm))
          · exact ⟨assigned, assignedMem, sameMembership, sameRole, organization⟩
        · rintro ⟨assigned, assignedMem, rest⟩
          refine ⟨assigned, Table.mem_put.mpr ?_, rest⟩
          by_cases sameKey : Row.id assigned = Row.id row
          · exact .inl (new assigned assignedMem sameKey)
          · exact .inr ⟨assignedMem, sameKey⟩

/-- Any number of such changes leave what the members may do as it is. -/
theorem Changes.grants {after : Db} (changes : Changes may other db after)
    (apart : other = organizationId → ∀ key ∈ decisive, ¬may key) (userId : Id) (key : String) :
    Grants after userId organizationId key ↔ Grants db userId organizationId key := by
  induction changes with
  | refl => exact Iff.rfl
  | tail _ step ih =>
      obtain ⟨write, change, rfl⟩ := step
      exact ((change.unaffected apart).grants userId key).trans ih

end

/-! ## What no change takes away -/

/-- Members keep their memberships and their roles, and the roles of the system and of the
platform are the same. -/
structure Lasting (before after : Db) : Prop where
  membership : ∀ row ∈ before.membership, ∃ kept ∈ after.membership, kept.id = row.id ∧
    kept.userId = row.userId ∧ kept.organizationId = row.organizationId
  assigned : ∀ row ∈ before.memberRole, row ∈ after.memberRole
  fixed : ∀ owner ∈ before.role, owner.isSystem = true ∨ owner.scope = .global →
    owner ∈ after.role ∧ ∀ granted : RolePermission, granted.roleId = owner.id →
      (granted ∈ after.rolePermission ↔ granted ∈ before.rolePermission)
  userRole : ∀ row, row ∈ after.userRole ↔ row ∈ before.userRole
  permission : after.permission = before.permission

namespace Lasting

theorem refl (db : Db) : Lasting db db where
  membership row member := ⟨row, member, rfl, rfl, rfl⟩
  assigned _ member := member
  fixed _ member _ := ⟨member, fun _ _ => Iff.rfl⟩
  userRole _ := Iff.rfl
  permission := rfl

theorem trans {first second third : Db} (early : Lasting first second)
    (late : Lasting second third) : Lasting first third where
  membership row member := by
    obtain ⟨middle, middleMem, middleId, middleUser, middleOrganization⟩ :=
      early.membership row member
    obtain ⟨kept, keptMem, keptId, user, organization⟩ := late.membership middle middleMem
    exact ⟨kept, keptMem, keptId.trans middleId, user.trans middleUser,
      organization.trans middleOrganization⟩
  assigned row member := late.assigned row (early.assigned row member)
  fixed owner member special := by
    obtain ⟨stays, same⟩ := early.fixed owner member special
    obtain ⟨remains, still⟩ := late.fixed owner stays special
    exact ⟨remains, fun granted of => (still granted of).trans (same granted of)⟩
  userRole row := (late.userRole row).trans (early.userRole row)
  permission := late.permission.trans early.permission

end Lasting

/-- A role that may be changed is neither one of the system nor one of the platform. -/
theorem Editable.ne {organizationId : Id} {db : Db} {owner special : Role}
    (editable : Editable organizationId db owner) (member : special ∈ db.role)
    (fixed : special.isSystem = true ∨ special.scope = .global) : special.id ≠ owner.id := by
  intro same
  obtain rfl : special = owner := Table.eq_of_id_eq member editable.member same
  rcases fixed with system | platform
  · rw [editable.ordinary] at system
    contradiction
  · rw [editable.scope] at platform
    contradiction

section

variable {may : String → Prop} {organizationId : Id} {db : Db}

theorem lasting_role {row : Role}
    (apart : ∀ special ∈ db.role, special.isSystem = true ∨ special.scope = .global →
      special.id ≠ row.id) : Lasting db (db.write (.role row)) :=
  { Lasting.refl db with
    fixed := fun owner member special =>
      ⟨Table.mem_put.mpr (.inr ⟨member, apart owner member special⟩), fun _ _ => Iff.rfl⟩ }

theorem lasting_permissions {owner : Role} {rolePermission : Table RolePermission}
    (editable : Editable organizationId db owner)
    (elsewhere : ∀ row, row.roleId ≠ owner.id →
      (row ∈ rolePermission ↔ row ∈ db.rolePermission)) : Lasting db { db with rolePermission } :=
  { Lasting.refl db with
    fixed := fun _ member fixed =>
      ⟨member, fun granted of => elsewhere granted (of ▸ editable.ne member fixed)⟩ }

theorem lasting_membership {row : Membership}
    (keeps : ∀ old ∈ db.membership, old.id = row.id →
      row.userId = old.userId ∧ row.organizationId = old.organizationId) :
    Lasting db (db.write (.membership row)) :=
  { Lasting.refl db with
    membership := fun old member => by
      by_cases same : old.id = row.id
      · exact ⟨row, Table.mem_put_self _ _, same.symm, keeps old member same⟩
      · exact ⟨old, Table.mem_put.mpr (.inr ⟨member, same⟩), rfl, rfl, rfl⟩ }

theorem Change.lasting {write : Write} (change : Change may organizationId db write) :
    Lasting db (db.write write) := by
  cases change with
  | organization row => exact { Lasting.refl db with }
  | createRole fresh free => exact lasting_role fun special member _ => fresh special member
  | editRole editable sameId _ =>
      exact lasting_role fun special member fixed => sameId ▸ editable.ne member fixed
  | @grantPermission owner row editable of allowed =>
      exact lasting_permissions editable fun permission => mem_put_elsewhere of
  | @revokePermission owner permissionId editable allowed =>
      exact lasting_permissions editable fun permission => mem_erase_elsewhere
  | @eraseRole owner editable free unused =>
      constructor
      · exact (Lasting.refl db).membership
      · intro row member
        simp only [Db.write, Table.mem_eraseWhere, beq_eq_false_iff_ne]
        exact ⟨member, free row member⟩
      · intro special member fixed
        have distinct := editable.ne member fixed
        refine ⟨Table.mem_erase.mpr ⟨member, distinct⟩, fun granted of => ?_⟩
        simp only [Db.write, Table.mem_eraseWhere, beq_eq_false_iff_ne, and_iff_left_iff_imp]
        exact fun _ => of ▸ distinct
      · intro row
        simp only [Db.write, Table.mem_eraseWhere, beq_eq_false_iff_ne, and_iff_left_iff_imp]
        exact unused row
      · rfl
  | invite fresh _ => exact lasting_membership fun old member same => absurd same (fresh old member)
  | @setStatus old row member _ sameId sameUser sameOrganization _ =>
      apply lasting_membership
      intro was wasMem same
      obtain rfl : was = old := Table.eq_of_id_eq wasMem member (same.trans sameId)
      exact ⟨sameUser, sameOrganization⟩
  | @assign row _ new _ =>
      refine { Lasting.refl db with assigned := fun old member => Table.mem_put.mpr ?_ }
      by_cases sameKey : Row.id old = Row.id row
      · exact .inl (new old member sameKey)
      · exact .inr ⟨member, sameKey⟩

theorem Changes.lasting {after : Db} (changes : Changes may organizationId db after) :
    Lasting db after := by
  induction changes with
  | refl => exact .refl db
  | tail _ step ih =>
      obtain ⟨write, change, rfl⟩ := step
      exact ih.trans change.lasting

/-! ## Events -/

/-- The permission that each action asks for. -/
def requirements : List (String × String) :=
  [("organizations.update", "organizations:update"), ("roles.create", "roles:create"),
    ("roles.update", "roles:update"), ("roles.delete", "roles:delete"),
    ("members.create", "members:create"), ("roles.assign", "roles:assign"),
    ("members.update", "members:update")]

/-- Changes, and an event that says who made them and how. -/
inductive Audited (may : String → Prop) (organizationId actorId : Id) (before : Db) : Db → Prop
  | intro {middle : Db} (changes : Changes may organizationId before middle) (row : ActivityLog)
      (fresh : ∀ old ∈ middle.activityLog, old.id ≠ row.id)
      (own : row.organizationId = organizationId) (actor : row.actorId = actorId)
      (allowed : ∃ permission, (row.action, permission) ∈ requirements ∧ may permission) :
      Audited may organizationId actorId before (middle.write (.activityLog row))

theorem Changes.activityLog {after : Db} (changes : Changes may organizationId db after) :
    after.activityLog = db.activityLog := by
  induction changes with
  | refl => rfl
  | tail _ step ih =>
      obtain ⟨write, change, rfl⟩ := step
      rw [← ih]
      cases change <;> rfl

/-- Events last, and without a new one nothing is changed. -/
structure Accounted (before after : Db) : Prop where
  lasts : ∀ row ∈ before.activityLog, row ∈ after.activityLog
  silent : (∀ row ∈ after.activityLog, row ∈ before.activityLog) →
    { after with activityLog := before.activityLog } = before

theorem Accounted.refl (db : Db) : Accounted db db where
  lasts _ member := member
  silent _ := rfl

theorem Accounted.trans {first second third : Db} (early : Accounted first second)
    (late : Accounted second third) : Accounted first third where
  lasts row member := late.lasts row (early.lasts row member)
  silent none_ := by
    have noneLate := late.silent fun row member => early.lasts row (none_ row member)
    have noneEarly := early.silent fun row member => none_ row (late.lasts row member)
    rw [← noneLate] at noneEarly
    exact noneEarly

namespace Audited

variable {actorId : Id} {after : Db}

theorem lasting (audited : Audited may organizationId actorId db after) : Lasting db after := by
  obtain ⟨changes, row, _, _, _, _⟩ := audited
  exact { changes.lasting with }

theorem accounted (audited : Audited may organizationId actorId db after) :
    Accounted db after := by
  obtain ⟨changes, row, fresh, _, _, _⟩ := audited
  rw [changes.activityLog] at fresh
  constructor
  · intro old member
    have kept : old ∈ db.activityLog.put row := Table.mem_put.mpr (.inr ⟨member, fresh old member⟩)
    rwa [← changes.activityLog] at kept
  · intro none_
    exact absurd rfl (fresh row (none_ row (Table.mem_put_self _ _)))

/-- The new event. -/
theorem event (audited : Audited may organizationId actorId db after) {row : ActivityLog}
    (member : row ∈ after.activityLog) : row ∈ db.activityLog ∨ row.organizationId = organizationId ∧
      row.actorId = actorId ∧
        ∃ permission, (row.action, permission) ∈ requirements ∧ may permission := by
  obtain ⟨changes, new, _, own, actor, allowed⟩ := audited
  rcases Table.mem_put.mp member with rfl | ⟨old, _⟩
  · exact .inr ⟨own, actor, allowed⟩
  · rw [changes.activityLog] at old
    exact .inl old

theorem grants {other : Id} (audited : Audited may organizationId actorId db after)
    (apart : organizationId = other → ∀ key ∈ decisive, ¬may key) (userId : Id) (key : String) :
    Grants after userId other key ↔ Grants db userId other key := by
  obtain ⟨changes, row, _, _, _, _⟩ := audited
  exact changes.grants apart userId key

end Audited

end

end Mosp.Organizations
