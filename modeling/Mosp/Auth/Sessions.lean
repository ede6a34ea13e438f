import Mosp.Auth.Credentials

/-!
# Sessions of users

`PrismaAuthRepository` and `AuthService`.  A session is a chain of refresh
tokens, each replaced by the next; it is alive as long as one of them is neither
revoked nor expired.
-/

namespace Mosp.Auth

open Mosp.Concurrency Mosp.Data Mosp.Database Mosp.Sql

variable (crypto : Crypto)

structure AuthRequestMetadata where
  deviceName : Option String := none
  ipAddress : Option String := none
  userAgent : Option String := none

structure CreateRefreshTokenInput extends AuthRequestMetadata where
  sessionId : Id
  userId : Id
  tokenHash : String
  expiresAt : Time

structure RotateRefreshTokenInput extends AuthRequestMetadata where
  currentTokenHash : String
  tokenHash : String
  expiresAt : Time
  now : Time

namespace PrismaAuthRepository

def findUserByEmail (email : String) : Service (Option User) :=
  query (user.findFirst fun row => row.email == email)

def findUserById (id : Id) : Service (Option User) :=
  query (user.findFirst fun row => row.id == id)

/-- A new row for a token. -/
def newRefreshToken (id userId sessionId : Id) (tokenHash : String) (expiresAt : Time)
    (metadata : AuthRequestMetadata) : RefreshToken :=
  { id, userId, tokenHash, expiresAt
    sessionId := some sessionId
    deviceName := metadata.deviceName
    ipAddress := metadata.ipAddress
    userAgent := metadata.userAgent }

/-- The statement of `createRefreshToken`. -/
def createTransaction (input : CreateRefreshTokenInput) : Tx Unit := do
  let id ← Program.perform .randomUUID (fun id => some (.opening input.sessionId id)) .pure
  let _ ← refreshToken.create
    (newRefreshToken id input.userId input.sessionId input.tokenHash input.expiresAt
      input.toAuthRequestMetadata)

/-- What the query of `createRefreshToken` shows when it has ended. -/
def noteIssued : Except Failure Unit → Option Phase
  | .ok _ => some .idle
  | .error _ => none

def createRefreshToken (input : CreateRefreshTokenInput) : Service Unit :=
  query (createTransaction input) noteIssued

/-- The result of a rotation, with the identifiers of the tokens. -/
structure Rotation where
  tokenId : Id
  replacementId : Id
  sessionId : Id
  user : User

def invalidRefreshToken : Failure :=
  .error "INVALID_REFRESH_TOKEN"

/-- The transaction of `rotateRefreshToken`: the replacement is inserted before
the current token is revoked, if it still can be. -/
def rotateTransaction (input : RotateRefreshTokenInput) : Tx Rotation := do
  let found ← refreshToken.findFirst fun row => row.tokenHash == input.currentTokenHash
  match found with
  | none => throw invalidRefreshToken
  | some current =>
      let owner ← user.findFirstOrThrow fun row => row.id == current.userId
      if current.revokedAt.isSome ∨ current.expiresAt ≤ input.now ∨ owner.status ≠ .active then
        throw invalidRefreshToken
      else
        let sessionId ← current.sessionId.elim Tx.randomUUID pure
        let replacementId ← Program.perform .randomUUID (fun id => some (.replacing id)) .pure
        let replacement ← refreshToken.create
          (newRefreshToken replacementId current.userId sessionId input.tokenHash
            input.expiresAt input.toAuthRequestMetadata)
        let revoked ← refreshToken.updateMany
          (fun row => row.id == current.id && row.revokedAt.isNone)
          fun row =>
            { row with replacedById := some replacement.id, revokedAt := some input.now }
        if revoked ≠ 1 then
          throw invalidRefreshToken
        else
          return { tokenId := current.id, replacementId := replacement.id, sessionId,
                   user := owner }

/-- What the transaction of `rotateRefreshToken` shows when it has ended. -/
def noteRotated : Except Failure Rotation → Option Phase
  | .ok rotation => some (.rotated rotation.tokenId rotation.replacementId)
  | .error _ => none

def rotateRefreshToken (input : RotateRefreshTokenInput) : Service (Id × User) := do
  let rotation ← transaction (rotateTransaction input) noteRotated
  return (rotation.sessionId, rotation.user)

/-- What the query of `revokeRefreshToken` shows when it has ended. -/
def noteLeft (tokenHash : String) : Except Failure Nat → Option Phase
  | .ok _ => some (.left tokenHash)
  | .error _ => none

def revokeRefreshToken (tokenHash : String) (revokedAt : Time) : Service Unit := do
  let _ ← query
    (refreshToken.updateMany (fun row => row.tokenHash == tokenHash && row.revokedAt.isNone)
      fun row => { row with revokedAt := some revokedAt })
    (noteLeft tokenHash)

/-- Whether a token keeps a session of a user alive. -/
def keepsAlive (sessionId userId : Id) (now : Time) (row : RefreshToken) : Bool :=
  row.sessionId == some sessionId && row.userId == userId && row.revokedAt.isNone &&
    decide (now < row.expiresAt)

/-- What the query of `isAccessSessionActive` shows when it has ended. -/
def noteAdmitted (sessionId : Id) : Except Failure (Option RefreshToken) → Option Phase
  | .ok (some _) => some (.admitted sessionId)
  | _ => none

def isAccessSessionActive (sessionId userId : Id) (now : Time) : Service Bool := do
  let session ← query (refreshToken.findFirst (keepsAlive sessionId userId now))
    (noteAdmitted sessionId)
  return session.isSome

end PrismaAuthRepository

/-! ## The service -/

structure AuthUser where
  id : Id
  email : String

structure AuthTokenResult where
  accessToken : String
  accessTokenExpiresAt : Time
  refreshToken : String
  refreshTokenExpiresAt : Time
  user : AuthUser

/-- `DUMMY_PASSWORD_HASH` -/
def dummyPasswordHash : String :=
  "scrypt$v1$bW9zcC1kdW1teS1zYWx0IQ$O4FSWd6psDQh9sQ0MiVb3NsKlBkirh-o8O8ScWA5MglAD8HKavsWc5_sfPt-ROt4sLJmPnEdq7o7KW-nJod0nw"

/-- `DEFAULT_REFRESH_TOKEN_TTL_SECONDS` -/
def refreshTokenTtlSeconds : Nat :=
  30 * 24 * 60 * 60

namespace AuthService

open PrismaAuthRepository

def publicUser (user : User) : AuthUser :=
  { id := user.id, email := user.email }

/-- `createRefreshToken` of `@mosp/auth` -/
def newToken : Service String := do
  return crypto.randomText 32 (← draw)

def hashRefreshToken (token : String) : String :=
  crypto.sha256Hex token

def issueAccessToken (userId sessionId : Id) : Service (String × Time) := do
  let now ← currentTime
  return crypto.issueAccessToken { userId, sessionId } now

def issueSession (user : User) (metadata : AuthRequestMetadata) : Service AuthTokenResult := do
  let token ← newToken crypto
  let now ← currentTime
  let refreshTokenExpiresAt := now + refreshTokenTtlSeconds * 1000
  let sessionId ← draw fun id => some (.issuing id)
  let (accessToken, accessTokenExpiresAt) ← issueAccessToken crypto user.id sessionId
  createRefreshToken
    { metadata with
      sessionId
      userId := user.id
      tokenHash := hashRefreshToken crypto token
      expiresAt := refreshTokenExpiresAt }
  return { accessToken, accessTokenExpiresAt, refreshTokenExpiresAt
           refreshToken := token
           user := publicUser user }

def login (email password : String) (metadata : AuthRequestMetadata) :
    Service AuthTokenResult := do
  let found ← findUserByEmail email
  let validPassword := crypto.verifyPassword password
    (found.elim dummyPasswordHash User.passwordHash)
  match found with
  | none => throw (.authFailure .invalidCredentials)
  | some user =>
      if user.status = .active ∧ validPassword then
        issueSession crypto user metadata
      else
        throw (.authFailure .invalidCredentials)

def refresh (token : String) (metadata : AuthRequestMetadata) : Service AuthTokenResult := do
  let newRefreshToken ← newToken crypto
  let now ← currentTime
  let refreshTokenExpiresAt := now + refreshTokenTtlSeconds * 1000
  let (sessionId, user) ← tryCatch
    (rotateRefreshToken
      { metadata with
        currentTokenHash := hashRefreshToken crypto token
        tokenHash := hashRefreshToken crypto newRefreshToken
        expiresAt := refreshTokenExpiresAt
        now })
    fun error =>
      if error = invalidRefreshToken then throw (.authFailure .invalidRefreshToken)
      else throw error
  let (accessToken, accessTokenExpiresAt) ← issueAccessToken crypto user.id sessionId
  return { accessToken, accessTokenExpiresAt, refreshTokenExpiresAt
           refreshToken := newRefreshToken
           user := publicUser user }

def logout (token : String) : Service Unit := do
  let now ← Program.perform .now (fun _ => some (.leaving (hashRefreshToken crypto token))) .pure
  revokeRefreshToken (hashRefreshToken crypto token) now

def session (accessToken : String) : Service AuthUser := do
  let now ← currentTime
  match crypto.verifyAccessToken accessToken now with
  | none => throw (.authFailure .unauthenticated)
  | some verified =>
      let found ← findUserById verified.userId
      match found with
      | none => throw (.authFailure .unauthenticated)
      | some user =>
          if user.status ≠ .active then
            throw (.authFailure .unauthenticated)
          else
            let now ← currentTime
            let active ← isAccessSessionActive verified.sessionId user.id now
            if active then
              return publicUser user
            else
              throw (.authFailure .unauthenticated)

end AuthService

end Mosp.Auth
