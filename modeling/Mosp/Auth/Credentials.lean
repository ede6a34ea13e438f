import Mosp.Auth.Schema

/-!
# API credentials

`ApiCredentialService` and `ApiCredentialAuthenticator`.  A credential is a key
identifier and the hash of a secret; the token that a client presents joins the
identifier and the secret with a dot.
-/

namespace Mosp.Auth

open Mosp.Concurrency Mosp.Data Mosp.Database Mosp.Sql

/-- The services reach nothing besides the database. -/
inductive Elsewhere : Type → Type 1

abbrev Service (α : Type) : Type 1 :=
  Program (Exchange Elsewhere Db Write Lock Failure) Phase Failure α

/-- A transaction whose error is thrown; `note` is shown when it has ended. -/
def transaction {α : Type} (body : Tx α) (note : Except Failure α → Option Phase := fun _ => none) :
    Service α :=
  body.transact note

/-- A query outside a transaction is a transaction of its own. -/
def query {α : Type} (body : Tx α) (note : Except Failure α → Option Phase := fun _ => none) :
    Service α :=
  transaction body note

/-- `new Date()` -/
def currentTime : Service Time :=
  .perform .now (fun _ => none) .pure

/-- Fresh randomness, and the phase that names it. -/
def draw (note : Nat → Option Phase := fun _ => none) : Service Nat :=
  .perform .randomUUID note .pure

structure AccessTokenClaims where
  userId : Id
  sessionId : Id

/-- The cryptography that the services call. -/
structure Crypto where
  /-- `randomBytes(length).toString("base64url")`, by the randomness drawn. -/
  randomText (length randomness : Nat) : String
  /-- `createHash("sha256").update(text, "utf8").digest("hex")` -/
  sha256Hex (text : String) : String
  /-- `PasswordHasher.verify` -/
  verifyPassword (password passwordHash : String) : Bool
  /-- `JwtService.issueAccessToken`: the token and when it expires. -/
  issueAccessToken (claims : AccessTokenClaims) (now : Time) : String × Time
  /-- `JwtService.verifyAccessToken` -/
  verifyAccessToken (token : String) (now : Time) : Option AccessTokenClaims

variable (crypto : Crypto)

/-! ## The service -/

structure ApiCredentialActionMetadata where
  actorId : Id
  requestId : String

structure ApiCredentialSummary where
  createdAt : Time
  createdById : Id
  expiresAt : Option Time
  id : Id
  keyId : String
  lastUsedAt : Option Time
  virtualNamespace : VirtualNamespace
  revokedAt : Option Time
  status : ApiCredentialStatus
  updatedAt : Time

structure CreatedApiCredential where
  credential : ApiCredentialSummary
  secret : String

structure GeneratedCredential where
  keyId : String
  secret : String
  secretHash : String

/-- A date in a request: absent, or what `new Date(value)` gives, if anything. -/
abbrev RequestedDate := Option (Option Time)

structure ApiCredentialCreateRequest where
  namespaceId : Id
  expiresAt : RequestedDate := none

structure ApiCredentialRotateRequest where
  expiresAt : RequestedDate := none

/-- Whether a credential is active and has not expired. -/
def ApiCredential.isActive (credential : ApiCredential) (now : Time) : Bool :=
  credential.status == .active && !credential.expiresAt.any (· ≤ now)

namespace ApiCredentialService

def parseExpiry (value : RequestedDate) (now : Time) : Except Failure (Option Time) :=
  match value with
  | none => .ok none
  | some none => .error .apiCredentialExpiryInvalid
  | some (some parsed) =>
      if parsed ≤ now then .error .apiCredentialExpiryInvalid else .ok (some parsed)

def generateCredential : Service GeneratedCredential := do
  let keyRandomness ← draw
  let secretRandomness ← draw
  let secret := "mosp_secret_" ++ crypto.randomText 32 secretRandomness
  return { keyId := "mosp_" ++ crypto.randomText 18 keyRandomness
           secret
           secretHash := crypto.sha256Hex secret }

def writeActivity (organizationId : Id) (metadata : ApiCredentialActionMetadata)
    (action : String) (entityId : Id) : Tx Unit := do
  let id ← Tx.randomUUID
  let _ ← activityLog.create
    { id
      organizationId := some organizationId
      actorId := some metadata.actorId
      action
      entityType := "ApiCredential"
      entityId := some entityId
      requestId := metadata.requestId }

/-- The namespace of `credentialInclude`. -/
def includeNamespace (credential : ApiCredential) : Tx VirtualNamespace :=
  virtualNamespace.findFirstOrThrow fun row => row.id == credential.namespaceId

def toSummary (credential : ApiCredential) (virtualNamespace : VirtualNamespace) :
    Service ApiCredentialSummary := do
  let now ← currentTime
  let expired := credential.status == .active && credential.expiresAt.any (· ≤ now)
  return { id := credential.id
           keyId := credential.keyId
           status := if expired then .expired else credential.status
           expiresAt := credential.expiresAt
           lastUsedAt := credential.lastUsedAt
           revokedAt := credential.revokedAt
           createdById := credential.createdById
           createdAt := credential.createdAt
           updatedAt := credential.updatedAt
           virtualNamespace }

/-- The transaction of `create`. -/
def createTransaction (organizationId : Id) (namespaceId : Id) (generated : GeneratedCredential)
    (expiresAt : Option Time) (metadata : ApiCredentialActionMetadata) :
    Tx (ApiCredential × VirtualNamespace) := do
  let found ← virtualNamespace.findFirst fun row =>
    row.id == namespaceId && row.organizationId == organizationId
  match found with
  | none => throw .apiCredentialNamespaceNotFound
  | some owner =>
      if owner.status ≠ .active then
        throw .apiCredentialNamespaceDisabled
      else
        let id ← Tx.randomUUID
        let created ← apiCredential.create
          { id, organizationId, namespaceId, expiresAt
            keyId := generated.keyId
            secretHash := generated.secretHash
            createdById := metadata.actorId }
        let included ← includeNamespace created
        writeActivity organizationId metadata "api_credentials.create" created.id
        return (created, included)

def create (organizationId : Id) (input : ApiCredentialCreateRequest)
    (metadata : ApiCredentialActionMetadata) : Service CreatedApiCredential := do
  let now ← currentTime
  let expiresAt ← Program.ofExcept (parseExpiry input.expiresAt now)
  let generated ← generateCredential crypto
  let (credential, included) ← transaction
    (createTransaction organizationId input.namespaceId generated expiresAt metadata)
  return { credential := ← toSummary credential included, secret := generated.secret }

/-- The transaction of `rotate`: it checks the status in one statement and
writes by the identifier in another. -/
def rotateTransaction (organizationId credentialId : Id) (generated : GeneratedCredential)
    (expiresAt : Option Time) (now : Time) (metadata : ApiCredentialActionMetadata) :
    Tx (ApiCredential × VirtualNamespace) := do
  let found ← Program.noting
    (fun outcome => match outcome with
      | .ok (some row) => if row.isActive now then some (.rotating credentialId) else none
      | _ => none)
    (apiCredential.findFirst fun row =>
      row.id == credentialId && row.organizationId == organizationId)
  match found with
  | none => throw .apiCredentialNotFound
  | some current =>
      if current.isActive now then
        let updated ← apiCredential.update (fun row => row.id == credentialId) fun row =>
          { row with
            keyId := generated.keyId
            secretHash := generated.secretHash
            expiresAt
            status := .active
            revokedAt := none }
        let included ← includeNamespace updated
        writeActivity organizationId metadata "api_credentials.rotate" credentialId
        return (updated, included)
      else
        throw .apiCredentialNotActive

def rotate (organizationId credentialId : Id) (input : ApiCredentialRotateRequest)
    (metadata : ApiCredentialActionMetadata) : Service CreatedApiCredential := do
  let now ← currentTime
  let expiresAt ← Program.ofExcept (parseExpiry input.expiresAt now)
  let generated ← generateCredential crypto
  let (credential, included) ← transaction
    (rotateTransaction organizationId credentialId generated expiresAt now metadata)
    fun _ => some .idle
  return { credential := ← toSummary credential included, secret := generated.secret }

/-- The transaction of `revoke`. -/
def revokeTransaction (organizationId credentialId : Id)
    (metadata : ApiCredentialActionMetadata) : Tx (ApiCredential × VirtualNamespace) := do
  let found ← apiCredential.findFirst fun row =>
    row.id == credentialId && row.organizationId == organizationId
  match found with
  | none => throw .apiCredentialNotFound
  | some current =>
      if current.status ≠ .active then
        throw .apiCredentialNotActive
      else
        let now ← Tx.now
        let updated ← apiCredential.update (fun row => row.id == credentialId) fun row =>
          { row with status := .revoked, revokedAt := some now }
        let included ← includeNamespace updated
        writeActivity organizationId metadata "api_credentials.revoke" credentialId
        return (updated, included)

/-- What the transaction of `revoke` shows when it has ended. -/
def noteRevoked (credentialId : Id) {α : Type} : Except Failure α → Option Phase
  | .ok _ => some (.revoked credentialId)
  | .error _ => none

def revoke (organizationId credentialId : Id) (metadata : ApiCredentialActionMetadata) :
    Service ApiCredentialSummary := do
  let (credential, included) ← transaction (revokeTransaction organizationId credentialId metadata)
    (noteRevoked credentialId)
  toSummary credential included

end ApiCredentialService

/-! ## The authenticator -/

structure ApiCredentialIdentity where
  credentialId : Id
  namespaceId : Id
  organizationId : Id
  principalId : Id

/-- `[A-Za-z0-9_-]` -/
def isTokenCharacter (character : Char) : Bool :=
  character.isAlphanum || character == '_' || character == '-'

/-- `/^start[A-Za-z0-9_-]+$/` -/
def isTokenPart (start text : List Char) : Bool :=
  start.isPrefixOf text && start.length < text.length &&
    (text.drop start.length).all isTokenCharacter

/-- The key identifier and the secret of a token. -/
def parseApiCredentialToken (token : Option String) : Option (String × String) := do
  let characters := (← token).toList
  let keyId := characters.takeWhile (· != '.')
  let secret := (characters.dropWhile (· != '.')).drop 1
  -- A dot that is missing, first or last leaves one of the parts empty.
  if keyId.isEmpty || secret.isEmpty then
    none
  else if 100 < keyId.length || secret.length < 20 || 512 < secret.length ||
      !isTokenPart "mosp_".toList keyId || !isTokenPart "mosp_secret_".toList secret then
    none
  else
    some (String.ofList keyId, String.ofList secret)

def hashApiCredentialSecret (secret : String) : String :=
  crypto.sha256Hex secret

namespace ApiCredentialAuthenticator

def dummySecretHash : String :=
  String.ofList (List.replicate 64 '0')

/-- `[a-f0-9]` -/
def isHexCharacter (character : Char) : Bool :=
  character.isDigit || ('a' ≤ character && character ≤ 'f')

def safeExpectedHash (secretHash : Option String) : String :=
  match secretHash with
  | none => dummySecretHash
  | some hash =>
      if hash.length = 64 ∧ hash.toList.all isHexCharacter then hash else dummySecretHash

/-- What the last query of `authenticate` shows when it has ended. -/
def noteAccepted (credentialId : Id) : Except Failure Nat → Option Phase
  | .ok 1 => some (.accepted credentialId)
  | _ => none

def authenticate (token : Option String) : Service ApiCredentialIdentity := do
  match parseApiCredentialToken token with
  | none => throw .apiCredentialAuthenticationError
  | some (keyId, secret) =>
      let found ← query (apiCredential.findFirst fun row => row.keyId == keyId)
      let currentTime ← currentTime
      let validSecret := decide (hashApiCredentialSecret crypto secret =
        safeExpectedHash (found.map ApiCredential.secretHash))
      match found with
      | none => throw .apiCredentialAuthenticationError
      | some credential =>
          if validSecret && credential.isActive currentTime then
            let updated ← query
              (apiCredential.updateMany
                (fun row => row.id == credential.id && row.status == .active)
                fun row => { row with lastUsedAt := some currentTime })
              (noteAccepted credential.id)
            Program.throwIf (updated ≠ 1) .apiCredentialAuthenticationError
            return { credentialId := credential.id
                     namespaceId := credential.namespaceId
                     organizationId := credential.organizationId
                     principalId := credential.id }
          else
            throw .apiCredentialAuthenticationError

end ApiCredentialAuthenticator

end Mosp.Auth
