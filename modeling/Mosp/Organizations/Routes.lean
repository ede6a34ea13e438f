import Mosp.Organizations.Services

/-!
# Who may ask for what

`authorize`, and the routes of the organizations: each asks for a permission in
the organization of its header, which has to be the one of its path, before it
calls the service.
-/

namespace Mosp.Organizations

open Mosp.Concurrency Mosp.Data Mosp.Sql
open Mosp.Database (Id Time)

/-- What `authorize` reads from a request. -/
structure RequestHead where
  /-- `parseBearerToken(request)` -/
  token : Option String
  /-- The header `x-organization-id`, where it is a UUID. -/
  organizationId : Option Id
  /-- The header `x-request-id`. -/
  requestId : String

/-- Who has been authorized, and where. -/
structure Authorization where
  organizationId : Id
  userId : Id

def unauthenticated : Failure :=
  .error "UNAUTHENTICATED"

def forbidden : Failure :=
  .error "FORBIDDEN"

/-- `dependencies.authService.session(token)` -/
def session (token : String) : Service Id :=
  .perform (.outside (.session token)) (fun _ => none) .ofExcept

/-- Whether the access admits the permission. -/
def admits (access : Option OrganizationAccess) (permission : String) : Bool :=
  match access with
  | none => false
  | some access => access.membershipStatus == .active && access.permissions.contains permission

def authorize (request : RequestHead) (permission : String) : Service Authorization :=
  match request.token, request.organizationId with
  | some token, some organizationId => do
      let userId ← tryCatch (session token) fun _ => throw unauthenticated
      let access ← transaction
        (PrismaOrganizationAccessRepository.findUserAccess userId organizationId)
      if admits access permission then
        return { organizationId, userId }
      else
        throw forbidden
  | _, _ => throw unauthenticated

/-- Whether the access admits the permission. -/
def admitsGlobally (access : Option GlobalAccess) (permission : String) : Bool :=
  match access with
  | none => false
  | some access => access.permissions.contains permission

def authorizePlatform (request : RequestHead) (permission : String) : Service Id :=
  match request.token with
  | none => throw unauthenticated
  | some token => do
      let userId ← tryCatch (session token) fun _ => throw unauthenticated
      let access ← transaction (PrismaOrganizationAccessRepository.findGlobalAccess userId)
      if admitsGlobally access permission then
        return userId
      else
        throw forbidden

/-! ## Routes -/

/-- `assertPathScope`, and the answer of the route if it fails. -/
def assertPathScope (pathId : Option Id) (authorizedId : Id) : Service Id :=
  if pathId = some authorizedId then
    return authorizedId
  else
    throw .invalidRequest

/-- An identifier of the path. -/
def pathParameter : Option Id → Service Id
  | some id => return id
  | none => throw .invalidRequest

/-- What the schema makes of the body; `none` is a body that it rejects. -/
def parse {α : Type} : Option α → Service α
  | some input => return input
  | none => throw .zodError

def metadataOf (request : RequestHead) (context : Authorization) : OrganizationActionMetadata :=
  { actorId := context.userId, requestId := request.requestId }

/-- A request with the identifier of its path. -/
structure OrganizationRequest extends RequestHead where
  pathId : Option Id

namespace OrganizationRequest

variable (request : OrganizationRequest)

/-- What the routes have in common: a permission, and the organization of the path. -/
def enter {α : Type} (permission : String) (rest : Id → OrganizationActionMetadata → Service α) :
    Service α := do
  let context ← authorize request.toRequestHead permission
  let organizationId ← assertPathScope request.pathId context.organizationId
  rest organizationId (metadataOf request.toRequestHead context)

def getOrganization : Service OrganizationSummary :=
  request.enter "organizations:read" fun organizationId _ => OrganizationService.get organizationId

def patchOrganization (body : Option OrganizationUpdateRequest) : Service OrganizationSummary :=
  request.enter "organizations:update" fun organizationId metadata => do
    OrganizationService.update organizationId (← parse body) metadata

def getMembers : Service (List MemberSummary) :=
  request.enter "members:read" fun organizationId _ => OrganizationService.listMembers organizationId

def getRoles : Service (List RoleSummary) :=
  request.enter "roles:read" fun organizationId _ => OrganizationService.listRoles organizationId

/-- A second permission, for the permissions of a role. -/
def managePermissions (asked : Prop) [Decidable asked] : Service Unit :=
  if asked then do
    let _ ← authorize request.toRequestHead "permissions:manage"
  else
    return ()

def postRole (body : Option RoleCreateRequest) : Service RoleSummary :=
  request.enter "roles:create" fun organizationId metadata => do
    let input ← parse body
    request.managePermissions (0 < input.permissionKeys.length)
    OrganizationService.createRole organizationId input metadata

def patchRole (roleId : Option Id) (body : Option RoleUpdateRequest) : Service RoleSummary :=
  request.enter "roles:update" fun organizationId metadata => do
    let roleId ← pathParameter roleId
    let input ← parse body
    request.managePermissions (input.permissionKeys.isSome = true)
    OrganizationService.updateRole organizationId roleId input metadata

def deleteRole (roleId : Option Id) : Service Unit :=
  request.enter "roles:delete" fun organizationId metadata => do
    OrganizationService.deleteRole organizationId (← pathParameter roleId) metadata

def postMember (body : Option MemberAddRequest) : Service MemberSummary :=
  request.enter "members:create" fun organizationId metadata => do
    OrganizationService.addMember organizationId (← parse body) metadata

def patchMember (membershipId : Option Id) (body : Option MemberStatusUpdateRequest) :
    Service MemberSummary :=
  request.enter "members:update" fun organizationId metadata => do
    let membershipId ← pathParameter membershipId
    OrganizationService.updateMemberStatus organizationId membershipId (← parse body) metadata

def postMemberRole (membershipId : Option Id) (body : Option RoleAssignmentRequest) :
    Service MemberSummary :=
  request.enter "roles:assign" fun organizationId metadata => do
    let membershipId ← pathParameter membershipId
    OrganizationService.assignRole organizationId membershipId (← parse body) metadata

end OrganizationRequest

/-! ## Requests -/

/-- A request to one of the routes. -/
inductive Route where
  | getOrganization
  | patchOrganization (body : Option OrganizationUpdateRequest)
  | getMembers
  | getRoles
  | postRole (body : Option RoleCreateRequest)
  | patchRole (roleId : Option Id) (body : Option RoleUpdateRequest)
  | deleteRole (roleId : Option Id)
  | postMember (body : Option MemberAddRequest)
  | patchMember (membershipId : Option Id) (body : Option MemberStatusUpdateRequest)
  | postMemberRole (membershipId : Option Id) (body : Option RoleAssignmentRequest)

/-- Run a service for its effect. -/
def discard {α : Type} (program : Service α) : Service Unit :=
  program.bind fun _ => .pure ()

/-- The program of a request; its answer goes to the client. -/
def Route.program (request : OrganizationRequest) : Route → Service Unit
  | .getOrganization => discard request.getOrganization
  | .patchOrganization body => discard (request.patchOrganization body)
  | .getMembers => discard request.getMembers
  | .getRoles => discard request.getRoles
  | .postRole body => discard (request.postRole body)
  | .patchRole roleId body => discard (request.patchRole roleId body)
  | .deleteRole roleId => discard (request.deleteRole roleId)
  | .postMember body => discard (request.postMember body)
  | .patchMember membershipId body => discard (request.patchMember membershipId body)
  | .postMemberRole membershipId body => discard (request.postMemberRole membershipId body)

end Mosp.Organizations
