import Mosp.Database.Rows
import Mosp.Sql.Constraint
import Mosp.Sql.Atomic
import Mathlib.Data.Nat.Pairing
import Mathlib.Tactic.Simps.Basic

/-!
# The tables of members and roles

Organizations, memberships, roles with their permissions, and who has which
role.  Users, permissions and the assignments of global roles are only read by
the services here.
-/

namespace Mosp.Organizations

open Mosp.Concurrency Mosp.Data Mosp.Sql
open Mosp.Database (Id Time)

inductive OrganizationStatus where
  | active | suspended | closed
  deriving DecidableEq

inductive MembershipStatus where
  | invited | active | disabled
  deriving DecidableEq

inductive RoleScope where
  | global | organization
  deriving DecidableEq

structure Organization where
  id : Id
  name : String
  slug : String
  status : OrganizationStatus := .active
  updatedAt : Time := 0

structure User where
  id : Id
  email : String

structure Membership where
  id : Id
  userId : Id
  organizationId : Id
  status : MembershipStatus := .invited
  createdAt : Time := 0
  updatedAt : Time := 0

structure Role where
  id : Id
  organizationId : Option Id
  name : String
  scope : RoleScope
  isSystem : Bool := false
  createdAt : Time := 0
  updatedAt : Time := 0

structure Permission where
  id : Id
  key : String

structure RolePermission where
  roleId : Id
  permissionId : Id

structure MemberRole where
  membershipId : Id
  roleId : Id
  organizationId : Id
  assignedAt : Time := 0

structure UserRole where
  userId : Id
  roleId : Id
  roleScope : RoleScope := .global

/-- The metadata of the events that the services record. -/
inductive ActivityMetadata where
  | nameChanged
  | created (name : String) (permissionKeys : List String)
  | updated (nameChanged : Bool) (permissionKeys : Option (List String))
  | deleted
  | invited (email : String) (roleId : Option Id)
  | assigned (roleId : Id)
  | status (status : MembershipStatus)

structure ActivityLog where
  id : Id
  organizationId : Id
  actorId : Id
  action : String
  entityType : String
  entityId : Id
  requestId : String
  metadata : ActivityMetadata
  createdAt : Time := 0

instance : Row Organization := ⟨Organization.id⟩
instance : Row User := ⟨User.id⟩
instance : Row Membership := ⟨Membership.id⟩
instance : Row Role := ⟨Role.id⟩
instance : Row Permission := ⟨Permission.id⟩
instance : Row ActivityLog := ⟨ActivityLog.id⟩

/-- The primary key is a pair. -/
instance : Row RolePermission := ⟨fun row => Nat.pair row.roleId row.permissionId⟩

/-- The primary key is a pair. -/
instance : Row MemberRole := ⟨fun row => Nat.pair row.membershipId row.roleId⟩

/-- The primary key is a pair. -/
instance : Row UserRole := ⟨fun row => Nat.pair row.userId row.roleId⟩

@[simp]
theorem rowId_membership (row : Membership) : Row.id row = row.id :=
  rfl

@[simp]
theorem rowId_role (row : Role) : Row.id row = row.id :=
  rfl

@[simp]
theorem rowId_permission (row : Permission) : Row.id row = row.id :=
  rfl

theorem rowId_rolePermission (row : RolePermission) :
    Row.id row = Nat.pair row.roleId row.permissionId :=
  rfl

structure Db where
  organization : Table Organization := .empty
  user : Table User := .empty
  membership : Table Membership := .empty
  role : Table Role := .empty
  permission : Table Permission := .empty
  rolePermission : Table RolePermission := .empty
  memberRole : Table MemberRole := .empty
  userRole : Table UserRole := .empty
  activityLog : Table ActivityLog := .empty

/-- A single row write. -/
inductive Write where
  | organization (row : Organization)
  | membership (row : Membership)
  | role (row : Role)
  | rolePermission (row : RolePermission)
  | memberRole (row : MemberRole)
  | activityLog (row : ActivityLog)
  | eraseRole (id : Id)
  | eraseRolePermission (key : Nat)

namespace Db

/-- The rows that refer to an erased role go with it. -/
def write (db : Db) : Write → Db
  | .organization row => { db with organization := db.organization.put row }
  | .membership row => { db with membership := db.membership.put row }
  | .role row => { db with role := db.role.put row }
  | .rolePermission row => { db with rolePermission := db.rolePermission.put row }
  | .memberRole row => { db with memberRole := db.memberRole.put row }
  | .activityLog row => { db with activityLog := db.activityLog.put row }
  | .eraseRole id =>
      { db with
        role := db.role.erase id
        rolePermission := db.rolePermission.eraseWhere fun row => row.roleId == id
        memberRole := db.memberRole.eraseWhere fun row => row.roleId == id
        userRole := db.userRole.eraseWhere fun row => row.roleId == id }
  | .eraseRolePermission key => { db with rolePermission := db.rolePermission.erase key }

/-- Transactions run in one piece here, so nothing is locked. -/
instance : Sql.Database Db Write Unit where
  write := write
  locks _ := []

@[simp]
theorem database_write (db : Db) (change : Write) : Sql.Database.write db change = db.write change :=
  rfl

end Db

inductive Failure where
  | organizationNotFound
  | memberNotFound
  | userNotFound
  | roleNotFound
  | permissionNotFound
  | roleInUse
  | systemRoleProtected
  /-- The body of the request does not have the shape that the route asks for. -/
  | zodError
  /-- The route answers that the request is invalid. -/
  | invalidRequest
  /-- `new Error(message)` -/
  | error (message : String)
  /-- An error of the database client with its code. -/
  | database (code message : String)
  deriving DecidableEq

instance : DatabaseError Failure where
  notFound := .database "P2025" "Record not found"
  duplicate := .database "P2002" "PRIMARY"

/-! ## Constraints -/

/-- A global role belongs to no organization, any other to one. -/
def scopeFits (row : Role) : Bool :=
  match row.scope with
  | .global => row.organizationId.isNone
  | .organization => row.organizationId.isSome

/-- The unique indexes, foreign keys and checks of the tables. -/
inductive Constraint where
  | userEmail
  | permissionKey
  | membershipUserOrganization
  | roleOrganizationName
  | roleGlobalName
  | membershipUser
  | membershipOrganization
  | roleOrganization
  | rolePermissionRole
  | rolePermissionPermission
  | memberRoleMembership
  | memberRoleRole
  | userRoleUser
  | userRoleRole
  | activityLogOrganization
  | activityLogActor
  | roleScopeOrganizationCheck
  | userRoleGlobalScopeCheck
  deriving DecidableEq

namespace Constraint

/-- What a constraint says about the database. -/
@[reducible]
def Holds (db : Db) : Constraint → Prop
  | .userEmail => Unique db.user fun row => some row.email
  | .permissionKey => Unique db.permission fun row => some row.key
  | .membershipUserOrganization =>
      Unique db.membership fun row => some (row.userId, row.organizationId)
  | .roleOrganizationName =>
      Unique db.role fun row => row.organizationId.map fun organizationId =>
        (organizationId, row.name)
  | .roleGlobalName =>
      Unique db.role fun row => if row.organizationId.isNone then some row.name else none
  | .membershipUser => References db.membership (fun row => some row.userId) db.user User.id
  | .membershipOrganization =>
      References db.membership (fun row => some row.organizationId) db.organization Organization.id
  | .roleOrganization => References db.role Role.organizationId db.organization Organization.id
  | .rolePermissionRole =>
      References db.rolePermission (fun row => some row.roleId) db.role Role.id
  | .rolePermissionPermission =>
      References db.rolePermission (fun row => some row.permissionId) db.permission Permission.id
  | .memberRoleMembership =>
      References db.memberRole (fun row => some (row.membershipId, row.organizationId))
        db.membership fun row => (row.id, row.organizationId)
  | .memberRoleRole =>
      References db.memberRole (fun row => some (row.roleId, some row.organizationId)) db.role
        fun row => (row.id, row.organizationId)
  | .userRoleUser => References db.userRole (fun row => some row.userId) db.user User.id
  | .userRoleRole =>
      References db.userRole (fun row => some (row.roleId, row.roleScope)) db.role
        fun row => (row.id, row.scope)
  | .activityLogOrganization =>
      References db.activityLog (fun row => some row.organizationId) db.organization
        Organization.id
  | .activityLogActor => References db.activityLog (fun row => some row.actorId) db.user User.id
  | .roleScopeOrganizationCheck => Checked db.role scopeFits
  | .userRoleGlobalScopeCheck => Checked db.userRole fun row => row.roleScope == .global

instance (db : Db) (constraint : Constraint) : Decidable (constraint.Holds db) := by
  cases constraint <;> exact inferInstance

/-- The error for a constraint that does not hold. -/
def failure : Constraint → Failure
  | .userEmail => .database "P2002" "email"
  | .permissionKey => .database "P2002" "key"
  | .membershipUserOrganization => .database "P2002" "userId,organizationId"
  | .roleOrganizationName => .database "P2002" "organizationId,name"
  | .roleGlobalName => .database "P2002" "name"
  | .roleScopeOrganizationCheck | .userRoleGlobalScopeCheck => .database "P2010" "check"
  | _ => .database "P2003" "foreign key"

end Constraint

/-- The constraints in the order in which they are consulted. -/
def constraints : List Constraint :=
  [.userEmail, .permissionKey, .membershipUserOrganization, .roleOrganizationName, .roleGlobalName,
    .membershipUser, .membershipOrganization, .roleOrganization, .rolePermissionRole,
    .rolePermissionPermission, .memberRoleMembership, .memberRoleRole, .userRoleUser,
    .userRoleRole, .activityLogOrganization, .activityLogActor, .roleScopeOrganizationCheck,
    .userRoleGlobalScopeCheck]

/-- The first constraint that the database breaks. -/
def violation (db : Db) : Option Failure :=
  (constraints.find? fun constraint => !decide (constraint.Holds db)).map Constraint.failure

/-- Every constraint holds. -/
def Valid (db : Db) : Prop :=
  ∀ constraint : Constraint, constraint.Holds db

theorem mem_constraints (constraint : Constraint) : constraint ∈ constraints := by
  cases constraint <;> decide

theorem violation_eq_none {db : Db} : violation db = none ↔ Valid db :=
  violated_eq_none mem_constraints

/-! ## Models -/

/-- A transaction body over the tables. -/
abbrev Tx (α : Type) : Type 1 :=
  Sql.Tx Db Write Unit Failure Unit α

@[simps table]
def user : Relation Db Unit User where
  table := Db.user
  rowLock _ := ()

@[simps table]
def permission : Relation Db Unit Permission where
  table := Db.permission
  rowLock _ := ()

@[simps toRelation_table put created updated]
def organization : Model Db Write Unit Organization where
  table := Db.organization
  rowLock _ := ()
  put := .organization
  updated now row := { row with updatedAt := now }

@[simps toRelation_table put created updated]
def membership : Model Db Write Unit Membership where
  table := Db.membership
  rowLock _ := ()
  put := .membership
  created now row := { row with createdAt := now, updatedAt := now }
  updated now row := { row with updatedAt := now }

@[simps toModel_toRelation_table toModel_put toModel_created toModel_updated erase]
def role : ErasableModel Db Write Unit Role where
  table := Db.role
  rowLock _ := ()
  put := .role
  created now row := { row with createdAt := now, updatedAt := now }
  updated now row := { row with updatedAt := now }
  erase := .eraseRole

@[simps toModel_toRelation_table toModel_put toModel_created toModel_updated erase]
def rolePermission : ErasableModel Db Write Unit RolePermission where
  table := Db.rolePermission
  rowLock _ := ()
  put := .rolePermission
  erase := .eraseRolePermission

@[simps toRelation_table put created updated]
def memberRole : Model Db Write Unit MemberRole where
  table := Db.memberRole
  rowLock _ := ()
  put := .memberRole
  created now row := { row with assignedAt := now }

@[simps toRelation_table put created updated]
def activityLog : Model Db Write Unit ActivityLog where
  table := Db.activityLog
  rowLock _ := ()
  put := .activityLog
  created now row := { row with createdAt := now }

end Mosp.Organizations
