import Mosp.Database.Rows
import Mosp.Sql.Constraint
import Mosp.Sql.Protocol
import Mathlib.Tactic.Simps.Basic

/-!
# The tables of authentication

Users, refresh tokens and API credentials, with the columns that the
authentication services read or write.  Users and namespaces are configuration
here: no modelled operation writes them.
-/

namespace Mosp.Auth

open Mosp.Concurrency Mosp.Data Mosp.Database Mosp.Sql

inductive UserStatus where
  | active | disabled
  deriving DecidableEq

structure User where
  id : Id
  email : String
  passwordHash : String
  status : UserStatus := .active

structure RefreshToken where
  id : Id
  userId : Id
  sessionId : Option Id
  tokenHash : String
  deviceName : Option String := none
  ipAddress : Option String := none
  userAgent : Option String := none
  expiresAt : Time
  revokedAt : Option Time := none
  replacedById : Option Id := none
  createdAt : Time := 0

structure VirtualNamespace where
  id : Id
  organizationId : Id
  name : String
  slug : String
  status : NamespaceStatus := .active

structure ApiCredential where
  id : Id
  organizationId : Id
  namespaceId : Id
  keyId : String
  secretHash : String
  status : ApiCredentialStatus := .active
  expiresAt : Option Time := none
  lastUsedAt : Option Time := none
  createdById : Id
  revokedAt : Option Time := none
  createdAt : Time := 0
  updatedAt : Time := 0

instance : Row User := ⟨User.id⟩
instance : Row RefreshToken := ⟨RefreshToken.id⟩
instance : Row VirtualNamespace := ⟨VirtualNamespace.id⟩
instance : Row ApiCredential := ⟨ApiCredential.id⟩

@[simp]
theorem rowId_user (row : User) : Row.id row = row.id :=
  rfl

@[simp]
theorem rowId_refreshToken (row : RefreshToken) : Row.id row = row.id :=
  rfl

@[simp]
theorem rowId_apiCredential (row : ApiCredential) : Row.id row = row.id :=
  rfl

structure Db where
  user : Table User := .empty
  virtualNamespace : Table VirtualNamespace := .empty
  refreshToken : Table RefreshToken := .empty
  apiCredential : Table ApiCredential := .empty
  activityLog : Table ActivityLog := .empty

instance : Inhabited Db :=
  ⟨{}⟩

/-- A single row write. -/
inductive Write where
  | refreshToken (row : RefreshToken)
  | apiCredential (row : ApiCredential)
  | activityLog (row : ActivityLog)

/-- What can be locked: a row, or the value of a unique index that a row takes
up. -/
inductive Lock where
  | user (id : Id)
  | virtualNamespace (id : Id)
  | refreshToken (id : Id)
  | tokenHash (tokenHash : String)
  | replacedBy (id : Id)
  | apiCredential (id : Id)
  | keyId (keyId : String)
  | activityLog (id : Id)
  deriving DecidableEq

namespace Db

def write (db : Db) : Write → Db
  | .refreshToken row => { db with refreshToken := db.refreshToken.put row }
  | .apiCredential row => { db with apiCredential := db.apiCredential.put row }
  | .activityLog row => { db with activityLog := db.activityLog.put row }

/-- What a write locks until its transaction ends. -/
def locks : Write → List Lock
  | .refreshToken row =>
      [.refreshToken row.id, .tokenHash row.tokenHash] ++
        (row.replacedById.map Lock.replacedBy).toList
  | .apiCredential row => [.apiCredential row.id, .keyId row.keyId]
  | .activityLog row => [.activityLog row.id]

instance : Sql.Database Db Write Lock where
  write := write
  locks := locks

@[simp]
theorem database_write (db : Db) (change : Write) : Sql.Database.write db change = db.write change :=
  rfl

@[simp]
theorem database_locks (change : Write) : Sql.Database.locks Db change = locks change :=
  rfl

/-- A row lock protects the row. -/
def Same : Lock → Db → Db → Prop
  | .refreshToken id, before, after => after.refreshToken.get? id = before.refreshToken.get? id
  | .apiCredential id, before, after => after.apiCredential.get? id = before.apiCredential.get? id
  | _, _, _ => True

instance : Guarded Db where
  Same := Same
  same_refl lock db := by
    cases lock <;> first | rfl | trivial
  same_trans {lock _ _ _} first second := by
    cases lock <;> first | exact Eq.trans second first | trivial
  same_write {lock} db change free := by
    cases lock with
    | refreshToken id =>
        cases change with
        | refreshToken row =>
            have distinct : id ≠ row.id := fun same => free (by simp [locks, same])
            exact db.refreshToken.get?_put_ne distinct
        | _ => rfl
    | apiCredential id =>
        cases change with
        | apiCredential row =>
            have distinct : id ≠ row.id := fun same => free (by simp [locks, same])
            exact db.apiCredential.get?_put_ne distinct
        | _ => rfl
    | _ => trivial

end Db

/-! ## Errors and phases -/

inductive AuthFailureCode where
  | invalidCredentials | invalidRefreshToken | unauthenticated
  deriving DecidableEq

inductive Failure where
  | apiCredentialNotFound
  | apiCredentialNotActive
  | apiCredentialNamespaceNotFound
  | apiCredentialNamespaceDisabled
  | apiCredentialExpiryInvalid
  | apiCredentialAuthenticationError
  | authFailure (code : AuthFailureCode)
  /-- `new Error(message)` -/
  | error (message : String)
  /-- An error of the database client with its code. -/
  | database (code message : String)
  deriving DecidableEq

instance : DatabaseError Failure where
  notFound := .database "P2025" "Record not found"
  duplicate := .database "P2002" "PRIMARY"

/-- What a call has in hand or has achieved. -/
inductive Phase where
  | idle
  /-- `rotate` has found an active credential that it is going to update. -/
  | rotating (credentialId : Id)
  /-- `revoke` has committed. -/
  | revoked (credentialId : Id)
  /-- `authenticate` has identified the credential. -/
  | accepted (credentialId : Id)
  /-- `login` has drawn the identifier of its session. -/
  | issuing (sessionId : Id)
  /-- `createRefreshToken` has drawn the identifier of the first token. -/
  | opening (sessionId tokenId : Id)
  /-- `rotateRefreshToken` has drawn the identifier of the replacement. -/
  | replacing (replacementId : Id)
  /-- `rotateRefreshToken` has replaced a token. -/
  | rotated (tokenId replacementId : Id)
  /-- `logout` is going to revoke the token with this hash. -/
  | leaving (tokenHash : String)
  /-- `logout` has returned. -/
  | left (tokenHash : String)
  /-- `session` has let a request of this session pass. -/
  | admitted (sessionId : Id)
  deriving DecidableEq

instance : Inhabited Phase :=
  ⟨.idle⟩

@[simp]
theorem default_phase : (default : Phase) = .idle :=
  rfl

/-! ## Constraints -/

/-- The unique indexes and foreign keys of the tables that are written. -/
inductive Constraint where
  | refreshTokenTokenHash
  | refreshTokenReplacedByKey
  | refreshTokenUser
  | refreshTokenReplacedBy
  | apiCredentialKeyId
  | apiCredentialNamespace
  | apiCredentialCreatedBy
  | activityLogActor
  deriving DecidableEq

namespace Constraint

/-- What a constraint says about the database. -/
@[reducible]
def Holds (db : Db) : Constraint → Prop
  | .refreshTokenTokenHash => Unique db.refreshToken fun row => some row.tokenHash
  | .refreshTokenReplacedByKey => Unique db.refreshToken RefreshToken.replacedById
  | .refreshTokenUser =>
      References db.refreshToken (fun row => some row.userId) db.user User.id
  | .refreshTokenReplacedBy =>
      References db.refreshToken RefreshToken.replacedById db.refreshToken RefreshToken.id
  | .apiCredentialKeyId => Unique db.apiCredential fun row => some row.keyId
  | .apiCredentialNamespace =>
      References db.apiCredential (fun row => some (row.namespaceId, row.organizationId))
        db.virtualNamespace fun row => (row.id, row.organizationId)
  | .apiCredentialCreatedBy =>
      References db.apiCredential (fun row => some row.createdById) db.user User.id
  | .activityLogActor => References db.activityLog ActivityLog.actorId db.user User.id

instance (db : Db) (constraint : Constraint) : Decidable (constraint.Holds db) := by
  cases constraint <;> exact inferInstance

/-- The error for a constraint that does not hold. -/
def failure : Constraint → Failure
  | .refreshTokenTokenHash => .database "P2002" "tokenHash"
  | .refreshTokenReplacedByKey => .database "P2002" "replacedById"
  | .apiCredentialKeyId => .database "P2002" "keyId"
  | _ => .database "P2003" "foreign key"

end Constraint

/-- The constraints in the order in which they are consulted. -/
def constraints : List Constraint :=
  [.refreshTokenTokenHash, .refreshTokenReplacedByKey, .refreshTokenUser, .refreshTokenReplacedBy,
    .apiCredentialKeyId, .apiCredentialNamespace, .apiCredentialCreatedBy, .activityLogActor]

/-- The first constraint that the database breaks. -/
def violation (db : Db) : Option Failure :=
  (constraints.find? fun constraint => !decide (constraint.Holds db)).map Constraint.failure

/-! ## Models -/

/-- A transaction body over the tables. -/
abbrev Tx (α : Type) : Type 1 :=
  Sql.Tx Db Write Lock Failure Phase α

@[simps table]
def user : Relation Db Lock User where
  table := Db.user
  rowLock := .user

@[simps table]
def virtualNamespace : Relation Db Lock VirtualNamespace where
  table := Db.virtualNamespace
  rowLock := .virtualNamespace

@[simps toRelation_table put created updated]
def refreshToken : Model Db Write Lock RefreshToken where
  table := Db.refreshToken
  rowLock := .refreshToken
  put := .refreshToken
  created now row := { row with createdAt := now }

@[simps toRelation_table put created updated]
def apiCredential : Model Db Write Lock ApiCredential where
  table := Db.apiCredential
  rowLock := .apiCredential
  put := .apiCredential
  created now row := { row with createdAt := now, updatedAt := now }
  updated now row := { row with updatedAt := now }

@[simps toRelation_table put created updated]
def activityLog : Model Db Write Lock ActivityLog where
  table := Db.activityLog
  rowLock := .activityLog
  put := .activityLog
  created now row := { row with createdAt := now }

end Mosp.Auth
