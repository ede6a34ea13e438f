import Mosp.Organizations.Schema

/-!
# Organizations, members and roles

`OrganizationService`, and what of `PrismaOrganizationAccessRepository` decides
who may do what.
-/

namespace Mosp.Organizations

open Mosp.Concurrency Mosp.Data Mosp.Sql
open Mosp.Database (Id Time)

/-- Whose access token this is, as far as it is valid. -/
inductive Elsewhere : Type → Type 1 where
  | session (token : String) : Elsewhere (Except Failure Id)

abbrev Service (α : Type) : Type 1 :=
  Program (Whole Elsewhere Db Write Unit Failure Unit) Unit Failure α

/-- A transaction whose error is thrown. -/
def transaction {α : Type} (body : Tx α) : Service α :=
  .perform (.transaction body) (fun _ => none) .ofExcept

/-! ## Access -/

structure OrganizationAccess where
  membershipStatus : MembershipStatus
  permissions : List String

structure GlobalAccess where
  permissions : List String

/-- The keys of the permissions of a role. -/
def permissionKeysOf (db : Db) (roleId : Id) : List String :=
  (db.rolePermission.filter fun row => row.roleId == roleId).filterMap fun row =>
    (db.permission.get? row.permissionId).map Permission.key

/-- The assignments of a membership with their roles. -/
def rolesOf (db : Db) (membership : Membership) : List Role :=
  (db.memberRole.filter fun row =>
      row.membershipId == membership.id && row.organizationId == membership.organizationId).filterMap
    fun assigned => db.role.find? fun row =>
      row.id == assigned.roleId && row.organizationId == some assigned.organizationId

/-- What a user may do in an organization. -/
def userAccess (db : Db) (userId organizationId : Id) : Option OrganizationAccess :=
  (db.membership.find? fun row =>
    row.userId == userId && row.organizationId == organizationId).map fun membership =>
      { membershipStatus := membership.status
        permissions := (rolesOf db membership).flatMap fun role => permissionKeysOf db role.id }

/-- The global roles of a user. -/
def globalRolesOf (db : Db) (userId : Id) : List Role :=
  (db.userRole.filter fun row => row.userId == userId && row.roleScope == .global).filterMap
    fun assigned => db.role.find? fun row =>
      row.id == assigned.roleId && row.scope == assigned.roleScope && row.scope == .global

/-- What a user may do on the platform. -/
def globalAccess (db : Db) (userId : Id) : Option GlobalAccess :=
  if (globalRolesOf db userId).isEmpty then
    none
  else
    some
      { permissions := (globalRolesOf db userId).flatMap fun role => permissionKeysOf db role.id }

namespace PrismaOrganizationAccessRepository

def findUserAccess (userId organizationId : Id) : Tx (Option OrganizationAccess) :=
  .read fun db => userAccess db userId organizationId

def findGlobalAccess (userId : Id) : Tx (Option GlobalAccess) :=
  .read fun db => globalAccess db userId

end PrismaOrganizationAccessRepository

/-! ## The service -/

structure OrganizationActionMetadata where
  actorId : Id
  requestId : String

structure OrganizationSummary where
  id : Id
  name : String
  slug : String
  status : OrganizationStatus

structure MemberSummary where
  email : String
  id : Id
  roles : List String
  status : MembershipStatus
  userId : Id

structure RoleSummary where
  id : Id
  isSystem : Bool
  name : String
  permissionKeys : List String

structure OrganizationUpdateRequest where
  name : String

structure MemberStatusUpdateRequest where
  status : MembershipStatus

structure MemberAddRequest where
  email : String
  roleId : Option Id := none

structure RoleAssignmentRequest where
  roleId : Id

structure RoleCreateRequest where
  name : String
  permissionKeys : List String := []

structure RoleUpdateRequest where
  name : Option String := none
  permissionKeys : Option (List String) := none

namespace OrganizationService

def toSummary (row : Organization) : OrganizationSummary :=
  { id := row.id, name := row.name, slug := row.slug, status := row.status }

def toRoleSummary (db : Db) (row : Role) : RoleSummary :=
  { id := row.id
    isSystem := row.isSystem
    name := row.name
    permissionKeys := permissionKeysOf db row.id }

/-- A membership without its user cannot be returned. -/
def toMemberSummary (db : Db) (row : Membership) : Except Failure MemberSummary :=
  match db.user.get? row.userId with
  | none => .error (.database "P2025" "Inconsistent query result")
  | some owner =>
      .ok
        { email := owner.email
          id := row.id
          roles := (rolesOf db row).map Role.name
          status := row.status
          userId := row.userId }

/-- The member that satisfies a condition, with its user and its roles. -/
def findMember (missing : Failure) (condition : Membership → Bool) : Tx MemberSummary :=
  .statement fun _ db =>
    match db.membership.find? condition with
    | none => .error missing
    | some row => (toMemberSummary db row).map fun summary => { value := summary }

/-- The role that satisfies a condition, with its permissions. -/
def findRoleOrThrow (condition : Role → Bool) : Tx RoleSummary :=
  .statement fun _ db =>
    match db.role.find? condition with
    | none => .error DatabaseError.notFound
    | some row => .ok { value := toRoleSummary db row }

/-- A role of the organization. -/
def isRoleOf (organizationId roleId : Id) (row : Role) : Bool :=
  row.id == roleId && row.organizationId == some organizationId && row.scope == .organization

/-- A member of the organization. -/
def isMemberOf (organizationId membershipId : Id) (row : Membership) : Bool :=
  row.id == membershipId && row.organizationId == organizationId

/-- Record what was done. -/
def record (organizationId : Id) (metadata : OrganizationActionMetadata) (action entityType : String)
    (entityId : Id) (details : ActivityMetadata) : Tx Unit := do
  let id ← Tx.randomUUID
  let _ ← activityLog.create
    { id, organizationId, action, entityType, entityId
      actorId := metadata.actorId
      requestId := metadata.requestId
      metadata := details }

/-- The permissions with these keys, all of which have to exist. -/
def findPermissions (keys : List String) : Tx (List Permission) := do
  let permissions ← permission.findMany fun row => keys.contains row.key
  if permissions.length ≠ keys.length then
    throw .permissionNotFound
  else
    return permissions

/-- Give a role some permissions. -/
def grant (roleId : Id) (permissions : List Permission) : Tx Unit :=
  Program.runIf (0 < permissions.length)
    (rolePermission.createMany (permissions.map fun row => { permissionId := row.id, roleId }))

def get (organizationId : Id) : Service OrganizationSummary := do
  match ← transaction (organization.findFirst fun row => row.id == organizationId) with
  | none => throw .organizationNotFound
  | some found => return toSummary found

def updateTransaction (organizationId : Id) (input : OrganizationUpdateRequest)
    (metadata : OrganizationActionMetadata) : Tx Organization := do
  let updated ← organization.update (fun row => row.id == organizationId)
    fun row => { row with name := input.name }
  record organizationId metadata "organizations.update" "Organization" organizationId .nameChanged
  return updated

def update (organizationId : Id) (input : OrganizationUpdateRequest)
    (metadata : OrganizationActionMetadata) : Service OrganizationSummary := do
  return toSummary (← transaction (updateTransaction organizationId input metadata))

/-- Ascending by creation. -/
def listMembers (organizationId : Id) : Service (List MemberSummary) := do
  let members ← transaction (.read fun db =>
    (membership.select (fun row => row.organizationId == organizationId)
      (fun first second => first.createdAt ≤ second.createdAt) db).mapM (toMemberSummary db))
  Program.ofExcept members

/-- Ascending by name. -/
def listRoles (organizationId : Id) : Service (List RoleSummary) :=
  transaction (.read fun db =>
    (role.select
      (fun row => row.organizationId == some organizationId && row.scope == .organization)
      (fun first second => first.name ≤ second.name) db).map (toRoleSummary db))

def createRoleTransaction (organizationId : Id) (input : RoleCreateRequest)
    (metadata : OrganizationActionMetadata) : Tx RoleSummary := do
  let permissions ← findPermissions input.permissionKeys
  let id ← Tx.randomUUID
  let created ← role.create
    { id
      organizationId := some organizationId
      name := input.name
      scope := .organization
      isSystem := false }
  grant created.id permissions
  record organizationId metadata "roles.create" "Role" created.id
    (.created input.name input.permissionKeys)
  findRoleOrThrow (isRoleOf organizationId created.id)

def createRole (organizationId : Id) (input : RoleCreateRequest)
    (metadata : OrganizationActionMetadata) : Service RoleSummary :=
  transaction (createRoleTransaction organizationId input metadata)

/-- A role of the organization that may be changed. -/
def findOwnRole (organizationId roleId : Id) : Tx Unit := do
  match ← role.findFirst (isRoleOf organizationId roleId) with
  | none => throw .roleNotFound
  | some current => Program.throwIf (current.isSystem = true) .systemRoleProtected

/-- Give a role other permissions than it has. -/
def regrant (roleId : Id) : Option (List Permission) → Tx Unit
  | none => return ()
  | some permissions => do
      let _ ← rolePermission.deleteMany fun row => row.roleId == roleId
      grant roleId permissions

/-- The permissions with these keys, if keys are given. -/
def findRequested : Option (List String) → Tx (Option (List Permission))
  | none => return none
  | some keys => some <$> findPermissions keys

def updateRoleTransaction (organizationId roleId : Id) (input : RoleUpdateRequest)
    (metadata : OrganizationActionMetadata) : Tx RoleSummary := do
  findOwnRole organizationId roleId
  let permissions ← findRequested input.permissionKeys
  let _ ← role.update (fun row => row.id == roleId)
    fun row => { row with name := input.name.getD row.name }
  regrant roleId permissions
  record organizationId metadata "roles.update" "Role" roleId
    (.updated input.name.isSome input.permissionKeys)
  findRoleOrThrow (isRoleOf organizationId roleId)

def updateRole (organizationId roleId : Id) (input : RoleUpdateRequest)
    (metadata : OrganizationActionMetadata) : Service RoleSummary :=
  transaction (updateRoleTransaction organizationId roleId input metadata)

def deleteRoleTransaction (organizationId roleId : Id) (metadata : OrganizationActionMetadata) :
    Tx Unit := do
  findOwnRole organizationId roleId
  let assignments ← memberRole.count fun row =>
    row.roleId == roleId && row.organizationId == organizationId
  Program.throwIf (0 < assignments) .roleInUse
  role.delete fun row => row.id == roleId
  record organizationId metadata "roles.delete" "Role" roleId .deleted

def deleteRole (organizationId roleId : Id) (metadata : OrganizationActionMetadata) :
    Service Unit :=
  transaction (deleteRoleTransaction organizationId roleId metadata)

/-- The role, if one is asked for, belongs to the organization. -/
def checkRole (organizationId : Id) : Option Id → Tx Unit
  | none => return ()
  | some roleId => do
      let found ← role.findFirst (isRoleOf organizationId roleId)
      Program.throwIf (found = none) .roleNotFound

/-- Assign the role that is asked for. -/
def assignNew (organizationId membershipId : Id) : Option Id → Tx Unit
  | none => return ()
  | some roleId => do
      let _ ← memberRole.create { membershipId, organizationId, roleId }

def addMemberTransaction (organizationId : Id) (input : MemberAddRequest)
    (metadata : OrganizationActionMetadata) : Tx MemberSummary := do
  match ← user.findFirst fun row => row.email == input.email with
  | none => throw .userNotFound
  | some owner =>
      checkRole organizationId input.roleId
      let id ← Tx.randomUUID
      let created ← membership.create
        { id, organizationId, status := .invited, userId := owner.id }
      assignNew organizationId created.id input.roleId
      record organizationId metadata "members.create" "Membership" created.id
        (.invited input.email input.roleId)
      findMember DatabaseError.notFound (isMemberOf organizationId created.id)

def addMember (organizationId : Id) (input : MemberAddRequest)
    (metadata : OrganizationActionMetadata) : Service MemberSummary :=
  transaction (addMemberTransaction organizationId input metadata)

def assignRoleTransaction (organizationId membershipId : Id) (input : RoleAssignmentRequest)
    (metadata : OrganizationActionMetadata) : Tx MemberSummary := do
  let current ← membership.findFirst (isMemberOf organizationId membershipId)
  Program.throwIf (current = none) .memberNotFound
  let found ← role.findFirst (isRoleOf organizationId input.roleId)
  Program.throwIf (found = none) .roleNotFound
  let _ ← memberRole.upsert
    (fun row => row.membershipId == membershipId && row.roleId == input.roleId)
    { membershipId, organizationId, roleId := input.roleId } fun row => row
  record organizationId metadata "roles.assign" "Membership" membershipId (.assigned input.roleId)
  findMember DatabaseError.notFound (isMemberOf organizationId membershipId)

def assignRole (organizationId membershipId : Id) (input : RoleAssignmentRequest)
    (metadata : OrganizationActionMetadata) : Service MemberSummary :=
  transaction (assignRoleTransaction organizationId membershipId input metadata)

def updateMemberStatusTransaction (organizationId membershipId : Id)
    (input : MemberStatusUpdateRequest) (metadata : OrganizationActionMetadata) :
    Tx MemberSummary := do
  let updated ← membership.updateMany (isMemberOf organizationId membershipId)
    fun row => { row with status := input.status }
  Program.throwIf (updated ≠ 1) .memberNotFound
  record organizationId metadata "members.update" "Membership" membershipId (.status input.status)
  findMember .memberNotFound (isMemberOf organizationId membershipId)

def updateMemberStatus (organizationId membershipId : Id) (input : MemberStatusUpdateRequest)
    (metadata : OrganizationActionMetadata) : Service MemberSummary :=
  transaction (updateMemberStatusTransaction organizationId membershipId input metadata)

end OrganizationService

end Mosp.Organizations
