import Mosp.Services.Command

/-!
# Folder grants

`FolderGrantService` and the normalisation of prefixes it shares with the
request schemas.
-/

namespace Mosp.Services

open Mosp.Concurrency Mosp.Database Mosp.Sql

structure FolderGrantActionMetadata where
  actorId : Id
  requestId : String

structure FolderGrantQuery where
  namespaceId : Option Id := none
  principalType : Option FolderGrantPrincipalType := none
  principalId : Option Id := none

structure FolderGrantCreateRequest where
  namespaceId : Id
  principalType : FolderGrantPrincipalType
  principalId : Id
  folderPrefix : String
  actions : List FolderGrantAction
  expiresAt : Option Time := none

structure NamespaceSummary where
  id : Id
  name : String
  slug : String

structure FolderGrantSummary where
  id : Id
  namespaceId : Id
  namespaceSummary : NamespaceSummary
  principalType : FolderGrantPrincipalType
  principalId : Id
  folderPrefix : String
  actions : List FolderGrantAction
  expiresAt : Option Time
  createdById : Id
  createdAt : Time
  updatedAt : Time

structure FolderAccessCheck where
  organizationId : Id
  namespaceId : Id
  principalType : FolderGrantPrincipalType
  principalId : Id
  action : FolderGrantAction
  key : String

/-- Drop every leading and trailing slash. -/
def trimSlashes (text : List Char) : List Char :=
  ((text.dropWhile (· == '/')).reverse.dropWhile (· == '/')).reverse

/-- The segments between slashes. -/
def segments : List Char → List (List Char)
  | [] => [[]]
  | char :: rest =>
      if char == '/' then [] :: segments rest
      else match segments rest with
        | [] => [[char]]
        | first :: others => (char :: first) :: others

def normalizeFolderPrefix (text : String) : Except Failure String :=
  let normalized := trimSlashes text.toList
  if normalized.contains '\x00' || normalized.contains '\\' ||
      (normalized.zip normalized.tail).contains ('/', '/') ||
      (segments normalized).any (fun segment => segment == ['.'] || segment == ['.', '.']) then
    .error (.error "Folder prefix contains an unsafe path segment")
  else
    .ok (String.ofList normalized)

namespace FolderGrantService

/-- The namespace that a grant includes. -/
def includeNamespace (grant : FolderGrant) : Tx (FolderGrant × NamespaceSummary) := do
  let found ← virtualNamespace.findFirstOrThrow fun row =>
    row.id == grant.namespaceId && row.organizationId == grant.organizationId
  return (grant, { id := found.id, name := found.name, slug := found.slug })

def toSummary (grant : FolderGrant) (found : NamespaceSummary) : FolderGrantSummary :=
  { id := grant.id
    namespaceId := grant.namespaceId
    namespaceSummary := found
    principalType := grant.principalType
    principalId := grant.principalId
    folderPrefix := grant.folderPrefix
    actions := grant.actions
    expiresAt := grant.expiresAt
    createdById := grant.createdById
    createdAt := grant.createdAt
    updatedAt := grant.updatedAt }

/-- `namespaceId` ascending, then `prefix` ascending, then `createdAt` descending. -/
def listOrder (first second : FolderGrant) : Bool :=
  first.namespaceId < second.namespaceId ||
    (first.namespaceId == second.namespaceId &&
      (decide (first.folderPrefix < second.folderPrefix) ||
        (first.folderPrefix == second.folderPrefix &&
          decide (second.createdAt ≤ first.createdAt))))

def list (organizationId : Id) (filter : FolderGrantQuery) :
    Service (List FolderGrantSummary) := do
  let grants ← query do
    let grants ← folderGrant.findMany
      (fun row => row.organizationId == organizationId &&
        filter.namespaceId.all (row.namespaceId == ·) &&
        filter.principalType.all (row.principalType == ·) &&
        filter.principalId.all (row.principalId == ·))
      listOrder
    grants.mapM' includeNamespace
  return grants.map fun (grant, found) => toSummary grant found

def parseExpiry (value : Option Time) (now : Time) : Except Failure (Option Time) :=
  match value with
  | none => .ok none
  | some parsed => if parsed ≤ now then .error .folderGrantExpiryInvalid else .ok (some parsed)

def assertPrincipal (organizationId namespaceId : Id) (principalType : FolderGrantPrincipalType)
    (principalId : Id) (now : Time) : Tx Unit :=
  match principalType with
  | .role => do
      match ← role.findFirst fun row => row.id == principalId &&
          row.organizationId == some organizationId && row.scope == .organization with
      | none => throw .folderGrantPrincipalNotFound
      | some _ => pure ()
  | .apiCredential => do
      match ← apiCredential.findFirst fun row => row.id == principalId &&
          row.organizationId == organizationId && row.namespaceId == namespaceId &&
          row.status == .active with
      | none => throw .folderGrantPrincipalNotFound
      | some credential =>
          if credential.expiresAt.any (· ≤ now) then throw .folderGrantCredentialNotActive
          else pure ()

def writeActivity (organizationId : Id) (metadata : FolderGrantActionMetadata) (action : String)
    (entityId : Id) : Tx Unit := do
  let id ← Tx.randomUUID
  let _ ← activityLog.create
    { id
      organizationId := some organizationId
      actorId := some metadata.actorId
      action
      entityType := "FolderGrant"
      entityId := some entityId
      requestId := metadata.requestId }

/-- The transaction of `create`. -/
def createTransaction (organizationId : Id) (input : FolderGrantCreateRequest)
    (folderPrefix : String) (expiresAt : Option Time) (now : Time)
    (metadata : FolderGrantActionMetadata) : Tx (FolderGrant × NamespaceSummary) := do
  match ← virtualNamespace.findFirst fun row =>
      row.id == input.namespaceId && row.organizationId == organizationId with
  | none => throw .folderGrantNamespaceNotFound
  | some _ =>
      assertPrincipal organizationId input.namespaceId input.principalType input.principalId now
      let id ← Tx.randomUUID
      let created ← folderGrant.create
        { id
          organizationId
          namespaceId := input.namespaceId
          principalType := input.principalType
          principalId := input.principalId
          folderPrefix
          actions := input.actions
          expiresAt
          createdById := metadata.actorId }
      let created ← includeNamespace created
      writeActivity organizationId metadata "folder_grants.create" created.1.id
      return created

def create (organizationId : Id) (input : FolderGrantCreateRequest)
    (metadata : FolderGrantActionMetadata) : Service FolderGrantSummary := do
  let now ← currentTime
  let expiresAt ← Program.ofExcept (parseExpiry input.expiresAt now)
  match normalizeFolderPrefix input.folderPrefix with
  | .error _ => throw .folderGrantPrefixInvalid
  | .ok folderPrefix =>
      let (grant, found) ← transaction
        (createTransaction organizationId input folderPrefix expiresAt now metadata)
      return toSummary grant found

def deleteTransaction (organizationId grantId : Id) (metadata : FolderGrantActionMetadata) :
    Tx Unit := do
  match ← folderGrant.findFirst fun row =>
      row.id == grantId && row.organizationId == organizationId with
  | none => throw .folderGrantNotFound
  | some _ =>
      folderGrant.delete fun row => row.id == grantId
      writeActivity organizationId metadata "folder_grants.delete" grantId

def delete (organizationId grantId : Id) (metadata : FolderGrantActionMetadata) : Service Unit :=
  transaction (deleteTransaction organizationId grantId metadata)

def principalIsActive (organizationId namespaceId : Id)
    (principalType : FolderGrantPrincipalType) (principalId : Id) (now : Time) : Service Bool :=
  match principalType with
  | .role => do
      let found ← query (role.findFirst fun row => row.id == principalId &&
        row.organizationId == some organizationId && row.scope == .organization)
      return found.isSome
  | .apiCredential => do
      let found ← query (apiCredential.findFirst fun row => row.id == principalId &&
        row.organizationId == organizationId && row.namespaceId == namespaceId &&
        row.status == .active)
      return found.any fun credential => credential.expiresAt.all (now < ·)

def prefixMatches (folderPrefix key : String) : Bool :=
  folderPrefix == "" || key == folderPrefix || startsWith key (folderPrefix ++ "/")

def canAccess (input : FolderAccessCheck) : Service Bool := do
  let now ← currentTime
  if ← principalIsActive input.organizationId input.namespaceId input.principalType
      input.principalId now then
    let grants ← query (folderGrant.findMany fun row =>
      row.organizationId == input.organizationId && row.namespaceId == input.namespaceId &&
      row.principalType == input.principalType && row.principalId == input.principalId &&
      row.actions.contains input.action && row.expiresAt.all (now < ·))
    return grants.any fun grant => prefixMatches grant.folderPrefix input.key
  else
    return false

end FolderGrantService

end Mosp.Services
