import Mosp.Health.Schema
import Mosp.Services.Command

/-!
# Provider connections and their health

`ProviderConnectionService.update` and `test`, and
`ProviderHealthReconciliationService`.  A configuration is read in one step,
tried out in another, and what comes of it is recorded in a third.
-/

namespace Mosp.Health

open Mosp.Concurrency Mosp.Data Mosp.Sql Mosp.Provider
open Mosp.Database (Id Time ProviderStatus ActivityLog)

/-! ## What the services call -/

/-- `new S3ProviderAdapter(options)`, without what only concerns other calls. -/
structure S3ProviderAdapter where
  configuration : Configuration

structure CapabilityResult where
  capability : String
  supported : Bool
  details : Option (List (String × String)) := none

structure ConnectionTestResult where
  bucketNames : List String := []
  capabilities : List CapabilityResult := []

/-- What the services reach besides the database. -/
inductive Elsewhere : Type → Type 1 where
  /-- The answers of the name server. -/
  | lookupAll : Elsewhere (String → Except String (List LookupAddress))
  | encrypt (providerConnectionId : Id) (input : ProviderCredentialPayload) :
      Elsewhere (Except Failure EncryptedProviderCredential)
  | decrypt (providerConnectionId : Id) (encrypted : EncryptedProviderCredential) :
      Elsewhere (Except Failure ProviderCredentialPayload)
  | testConnection (configuration : Configuration) (bucketName : Option String) :
      Elsewhere (Except Failure ConnectionTestResult)

abbrev Service (α : Type) : Type 1 :=
  Program (Whole Elsewhere Db Write Unit Failure Phase) Phase Failure α

/-- A transaction whose error is thrown; `note` is shown when it has ended. -/
def transaction {α : Type} (body : Tx α) (note : Except Failure α → Option Phase := fun _ => none) :
    Service α :=
  .perform (.transaction body) note .ofExcept

/-- Perform a command besides the database, whose answer may be an error. -/
def attempt {α : Type} (command : Elsewhere (Except Failure α))
    (note : Except Failure α → Option Phase := fun _ => none) : Service α :=
  .perform (.outside command) note .ofExcept

/-- `new Date()` -/
def currentTime : Service Time :=
  .perform .now (fun _ => none) .pure

/-- The pure parts of the libraries that the services use, and the options of the service. -/
structure Environment where
  /-- `new URL(text)` -/
  parseUrl : String → Except String Url
  /-- `url.toString()` -/
  toString : Url → String
  /-- The credentials that decrypting gives, if it gives any. -/
  decrypted : Id → EncryptedProviderCredential → Option ProviderCredentialPayload
  options : EndpointValidationOptions

variable (environment : Environment)

/-- `assertSafeProviderEndpoint` with the service's options. -/
def assertSafeEndpoint (endpoint : String) : Service Url :=
  .perform (.outside .lookupAll) (fun _ => none) fun lookupAll =>
    match assertSafeProviderEndpoint environment.parseUrl lookupAll endpoint environment.options with
    | .ok url => .pure url
    | .error message => .throw (.error message)

structure ProviderActionMetadata where
  actorId : Id
  requestId : String

structure ProviderConnectionSummary where
  addressingMode : AddressingMode
  displayName : String
  endpoint : String
  id : Id
  lastHealthCheckedAt : Option Time
  region : String
  status : ProviderStatus
  type : ProviderType

structure ProviderConnectionUpdateRequest where
  displayName : Option String := none
  endpoint : Option String := none
  region : Option String := none
  addressingMode : Option AddressingMode := none
  accessKeyId : Option String := none
  secretAccessKey : Option String := none
  /-- Absent, `null`, or a token. -/
  sessionToken : Option (Option String) := none

structure ProviderTestResult where
  bucketNames : List String
  capabilities : List CapabilityResult
  ok : Bool

/-- The connection of an organization and its credential. -/
def findConnection (organizationId providerId : Id) :
    Tx (Option (ProviderConnection × Option ProviderCredential)) :=
  .read fun db =>
    (db.providerConnection.find? fun row =>
      row.id == providerId && row.organizationId == organizationId).map fun row =>
        (row, db.providerCredential.find? fun credential => credential.providerConnectionId == row.id)

/-- Record one capability, tested at a time. -/
def upsertCapability (providerId : Id) (testedAt : Time) (result : CapabilityResult) : Tx Unit := do
  let id ← Tx.randomUUID
  let _ ← providerCapability.upsert
    (fun row => row.providerConnectionId == providerId && row.capability == result.capability)
    { id
      providerConnectionId := providerId
      capability := result.capability
      supported := result.supported
      details := result.details
      testedAt }
    fun row =>
      { row with
        supported := result.supported
        details := result.details.or row.details
        testedAt }

namespace ProviderConnectionService

def toSummary (provider : ProviderConnection) : ProviderConnectionSummary :=
  { addressingMode := provider.addressingMode
    displayName := provider.displayName
    endpoint := provider.endpoint
    id := provider.id
    lastHealthCheckedAt := provider.lastHealthCheckedAt
    region := provider.region
    status := provider.status
    type := provider.type }

/-- Whether a request names credentials. -/
def isCredentialUpdate (input : ProviderConnectionUpdateRequest) : Bool :=
  input.accessKeyId.isSome || input.secretAccessKey.isSome || input.sessionToken.isSome

/-- The data of the update of the connection. -/
def updatedConnection (input : ProviderConnectionUpdateRequest) (endpoint : Option String)
    (connectionChanged : Bool) (row : ProviderConnection) : ProviderConnection :=
  let row :=
    { row with
      displayName := input.displayName.getD row.displayName
      endpoint := endpoint.getD row.endpoint
      region := input.region.getD row.region
      addressingMode := input.addressingMode.getD row.addressingMode }
  if connectionChanged then
    { row with status := .pending, lastHealthCheckedAt := none, healthDetails := none }
  else row

def writeActivity (organizationId : Id) (metadata : ProviderActionMetadata) (action : String)
    (providerId : Id) : Tx Unit := do
  let id ← Tx.randomUUID
  let _ ← activityLog.create
    { id
      organizationId := some organizationId
      actorId := some metadata.actorId
      action
      entityType := "ProviderConnection"
      entityId := some providerId
      requestId := metadata.requestId }

/-- The transaction of `update`. -/
def updateTransaction (organizationId providerId : Id) (input : ProviderConnectionUpdateRequest)
    (endpoint : Option String) (encrypted : Option EncryptedProviderCredential)
    (connectionChanged : Bool) (metadata : ProviderActionMetadata) : Tx ProviderConnection := do
  let count ← providerConnection.updateMany
    (fun row => row.id == providerId && row.organizationId == organizationId)
    (updatedConnection input endpoint connectionChanged)
  Program.throwIf (count ≠ 1) .providerConnectionNotFound
  match encrypted with
  | none => pure ()
  | some encrypted => do
      let now ← Tx.now
      let _ ← providerCredential.update (fun row => row.providerConnectionId == providerId) fun row =>
        { row with encrypted, rotatedAt := some now }
  writeActivity organizationId metadata "providers.update" providerId
  providerConnection.findFirstOrThrow fun row =>
    row.id == providerId && row.organizationId == organizationId

/-- The credentials that a request asks for, encrypted. -/
def encryptInput (providerId : Id) (input : ProviderConnectionUpdateRequest) :
    Service (Option EncryptedProviderCredential) :=
  if isCredentialUpdate input then
    match input.accessKeyId, input.secretAccessKey with
    | some accessKeyId, some secretAccessKey => do
        let encrypted ← attempt (.encrypt providerId
          { accessKeyId
            secretAccessKey
            sessionToken := input.sessionToken.join.filter (· != "") })
        return some encrypted
    | _, _ => throw (.providerConnectionValidationError "INVALID_PROVIDER_CREDENTIALS")
  else
    return none

/-- The endpoint that a request asks for, checked. -/
def checkInput (input : ProviderConnectionUpdateRequest) : Service (Option Url) :=
  match input.endpoint with
  | none => return none
  | some endpoint => do
      let url ← tryCatch (assertSafeEndpoint environment endpoint) fun _ =>
        throw (.providerConnectionValidationError "INVALID_PROVIDER_ENDPOINT")
      return some url

def update (organizationId providerId : Id) (input : ProviderConnectionUpdateRequest)
    (metadata : ProviderActionMetadata) : Service ProviderConnectionSummary := do
  match ← transaction (findConnection organizationId providerId) with
  | some (_, some _) => do
      let endpoint ← checkInput environment input
      let encrypted ← encryptInput providerId input
      let connectionChanged := endpoint.isSome || input.region.isSome ||
        input.addressingMode.isSome || isCredentialUpdate input
      let provider ← transaction (updateTransaction organizationId providerId input
        (endpoint.map environment.toString) encrypted connectionChanged metadata)
      return toSummary provider
  | _ => throw .providerConnectionNotFound

def adapterFor (organizationId providerId : Id) : Service S3ProviderAdapter := do
  match ← transaction (findConnection organizationId providerId) with
  | some (provider, some credential) => do
      let endpoint ← assertSafeEndpoint environment provider.endpoint
      let credentials ← attempt (.decrypt provider.id credential.encrypted)
      return ⟨{ endpoint := environment.toString endpoint
                region := provider.region
                addressingMode := provider.addressingMode
                credentials }⟩
  | _ => throw .providerConnectionNotFound

/-- The transaction of `recordTestResult`. -/
def recordTransaction (organizationId providerId : Id) (metadata : ProviderActionMetadata)
    (result : ConnectionTestResult) (healthy : Bool) (errorCode : Option String) : Tx Unit := do
  let now ← Tx.now
  let _ ← providerConnection.update (fun row => row.id == providerId) fun row =>
    { row with
      status := if healthy then .healthy else .unhealthy
      lastHealthCheckedAt := some now
      healthDetails := some
        (if healthy then { bucketCount := some result.bucketNames.length }
        else { code := some (errorCode.getD "PROVIDER_CONNECTION_FAILED") }) }
  Program.forEach result.capabilities fun capability => do
    let now ← Tx.now
    upsertCapability providerId now capability
  writeActivity organizationId metadata "providers.test" providerId

def recordTestResult (organizationId providerId : Id) (metadata : ProviderActionMetadata)
    (result : ConnectionTestResult) (healthy : Bool) (errorCode : Option String := none) :
    Service Unit :=
  transaction (recordTransaction organizationId providerId metadata result healthy errorCode)
    fun _ => some .idle

/-- `error.name` -/
def errorName : Failure → String
  | .provider name _ => name
  | .database _ _ => "PrismaClientKnownRequestError"
  | .rangeError _ => "RangeError"
  | _ => "Error"

/-- `/^[A-Za-z0-9_.-]{1,80}$/` -/
def isErrorName (name : String) : Bool :=
  1 ≤ name.length && name.length ≤ 80 &&
    name.toList.all fun char => char.isAlphanum || char == '_' || char == '.' || char == '-'

def sanitizeErrorCode (error : Failure) : String :=
  if isErrorName (errorName error) then errorName error else "PROVIDER_CONNECTION_FAILED"

/-- What a test of an adapter shows. -/
def noteTested (providerId : Id) (adapter : S3ProviderAdapter) :
    Except Failure ConnectionTestResult → Option Phase
  | .ok _ => some (.recording providerId adapter.configuration)
  | .error _ => none

def test (organizationId providerId : Id) (bucketName : Option String)
    (metadata : ProviderActionMetadata) : Service ProviderTestResult := do
  let adapter ← adapterFor environment organizationId providerId
  tryCatch
    (do
      let result ← attempt (.testConnection adapter.configuration bucketName)
        (noteTested providerId adapter)
      recordTestResult organizationId providerId metadata result true
      return { bucketNames := result.bucketNames, capabilities := result.capabilities, ok := true })
    fun error => do
      recordTestResult organizationId providerId metadata {} false (sanitizeErrorCode error)
      return { bucketNames := [], capabilities := [], ok := false }

end ProviderConnectionService

/-! ## The worker -/

structure ProviderHealthReconciliationOptions where
  batchSize : Int := 20
  now : Option Time := none
  minIntervalMs : Int := 0

structure ProviderHealthReconciliationResult where
  healthy : Nat
  unhealthy : Nat

namespace ProviderHealthReconciliationService

def maxBatchSize : Int := 100

def safeBatchSize (value : Int) : Except Failure Nat :=
  if value < 1 ∨ maxBatchSize < value then
    .error (.rangeError "batchSize must be an integer from 1 to 100")
  else .ok value.toNat

def safeInterval (value : Int) : Except Failure Nat :=
  if value < 0 ∨ 86400000 < value then
    .error (.rangeError "minIntervalMs must be an integer from 0 to 86400000")
  else .ok value.toNat

def providerHealthErrorCode (error : Failure) : String :=
  match error with
  | .provider _ (some status) =>
      if status = 401 ∨ status = 403 then "PROVIDER_AUTH_FAILED"
      else if status = 404 then "PROVIDER_ENDPOINT_NOT_FOUND"
      else if status = 408 ∨ status = 429 then "PROVIDER_RETRYABLE"
      else if 500 ≤ status then "PROVIDER_UNAVAILABLE"
      else "PROVIDER_HEALTH_CHECK_FAILED"
  | _ => "PROVIDER_HEALTH_CHECK_FAILED"

/-- Ascending, the rows that were never checked last. -/
def checkedBefore (first second : ProviderConnection) : Bool :=
  match first.lastHealthCheckedAt, second.lastHealthCheckedAt with
  | some one, some other => one ≤ other
  | none, some _ => false
  | _, none => true

/-- The providers of a batch. -/
def findProviders (batchSize minIntervalMs : Nat) (now : Time) : Tx (List ProviderConnection) :=
  providerConnection.findMany
    (fun row => row.status != .disabled && (minIntervalMs == 0 ||
      row.lastHealthCheckedAt.all fun checked => checked + minIntervalMs ≤ now))
    checkedBefore (some batchSize)

/-- The transaction of `recordHealthy`. -/
def recordHealthyTransaction (organizationId providerId : Id) (checkedAt : Time)
    (result : ConnectionTestResult) : Tx Unit := do
  let count ← providerConnection.updateMany
    (fun row => row.id == providerId && row.organizationId == organizationId &&
      row.status != .disabled)
    fun row =>
      { row with
        status := .healthy
        lastHealthCheckedAt := some checkedAt
        healthDetails := some
          { code := some "HEALTHY", bucketCount := some result.bucketNames.length } }
  Program.runIf (count = 1)
    (Program.forEach result.capabilities (upsertCapability providerId checkedAt))

def recordHealthy (organizationId providerId : Id) (checkedAt : Time)
    (result : ConnectionTestResult) : Service Unit :=
  transaction (recordHealthyTransaction organizationId providerId checkedAt result)
    fun _ => some .idle

def recordUnhealthy (organizationId providerId : Id) (checkedAt : Time) (code : String) :
    Service Unit :=
  transaction (do
    let _ ← providerConnection.updateMany
      (fun row => row.id == providerId && row.organizationId == organizationId &&
        row.status != .disabled)
      fun row =>
        { row with
          status := .unhealthy
          lastHealthCheckedAt := some checkedAt
          healthDetails := some { code := some code } })
    fun _ => some .idle

/-- One iteration of the loop: whether the provider is healthy. -/
def reconcileProvider (now : Time) (provider : ProviderConnection) : Service Bool :=
  tryCatch
    (do
      let adapter ←
        ProviderConnectionService.adapterFor environment provider.organizationId provider.id
      let result ← attempt (.testConnection adapter.configuration none)
        (ProviderConnectionService.noteTested provider.id adapter)
      recordHealthy provider.organizationId provider.id now result
      return true)
    fun error => do
      recordUnhealthy provider.organizationId provider.id now (providerHealthErrorCode error)
      return false

/-- The loop over the providers, with the counts so far. -/
def reconcileEach (now : Time) :
    List ProviderConnection → ProviderHealthReconciliationResult →
      Service ProviderHealthReconciliationResult
  | [], counts => return counts
  | provider :: rest, counts => do
      if ← reconcileProvider environment now provider then
        reconcileEach now rest { counts with healthy := counts.healthy + 1 }
      else
        reconcileEach now rest { counts with unhealthy := counts.unhealthy + 1 }

def reconcile (options : ProviderHealthReconciliationOptions) :
    Service ProviderHealthReconciliationResult := do
  let batchSize ← Program.ofExcept (safeBatchSize options.batchSize)
  let clock ← currentTime
  let now := options.now.getD clock
  let minIntervalMs ← Program.ofExcept (safeInterval options.minIntervalMs)
  let providers ← transaction (findProviders batchSize minIntervalMs now)
  reconcileEach environment now providers ⟨0, 0⟩

end ProviderHealthReconciliationService

end Mosp.Health
