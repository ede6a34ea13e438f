import Mosp.Organizations.Transactions
import Mosp.Sql.Atomic

/-!
# What the routes keep

`authorize` admits exactly those that have a permission.  A route calls its
transaction with the permissions that it asked for, so what the transaction
changes is known from what its caller may do.
-/

namespace Mosp.Organizations

open Mosp.Concurrency Mosp.Data Mosp.Sql
open Mosp.Database (Id Time)
open OrganizationService

/-! ## Access -/

section

variable {db : Db}

theorem mem_permissionKeysOf {roleId : Id} {key : String} :
    key ∈ permissionKeysOf db roleId ↔ ∃ granted ∈ db.rolePermission, granted.roleId = roleId ∧
      ∃ permission ∈ db.permission, permission.id = granted.permissionId ∧ permission.key = key := by
  simp only [permissionKeysOf, List.mem_filterMap, Table.mem_filter, beq_iff_eq,
    Option.map_eq_some_iff, Table.get?_some, rowId_permission, and_assoc]

theorem mem_rolesOf {membership : Membership} {role : Role} :
    role ∈ rolesOf db membership ↔ role ∈ db.role ∧
      role.organizationId = some membership.organizationId ∧
      Assigned db membership.organizationId membership.id role.id := by
  simp only [rolesOf, List.mem_filterMap, Table.mem_filter, Bool.and_eq_true, beq_iff_eq]
  constructor
  · rintro ⟨assigned, ⟨member, sameMembership, sameOrganization⟩, found⟩
    obtain ⟨roleMem, same⟩ := Table.find?_some found
    simp only [Bool.and_eq_true, beq_iff_eq] at same
    rw [sameOrganization] at same
    exact ⟨roleMem, same.2, assigned, member, sameMembership, same.1.symm, sameOrganization⟩
  · rintro ⟨roleMem, organization, assigned, member, sameMembership, sameRole, sameOrganization⟩
    refine ⟨assigned, ⟨member, sameMembership, sameOrganization⟩, ?_⟩
    apply Table.find?_eq_some_of_id roleMem
    · simp [sameRole, sameOrganization, organization]
    · intro other _ holds
      simp only [Bool.and_eq_true, beq_iff_eq] at holds
      exact holds.1.trans sameRole

/-- `authorize` admits a user exactly if the user is granted the permission. -/
theorem admits_iff (valid : Valid db) {userId organizationId : Id} {key : String} :
    admits (userAccess db userId organizationId) key = true ↔
      Grants db userId organizationId key := by
  constructor
  · intro admitted
    unfold userAccess at admitted
    cases found : db.membership.find? fun row =>
        row.userId == userId && row.organizationId == organizationId with
    | none => simp [found, admits] at admitted
    | some membership =>
        simp only [found, Option.map_some, admits, Bool.and_eq_true, beq_iff_eq,
          List.contains_iff_mem, List.mem_flatMap, mem_rolesOf, mem_permissionKeysOf] at admitted
        obtain ⟨active, role, ⟨roleMem, organization, assigned⟩, granted⟩ := admitted
        obtain ⟨member, own⟩ := Table.find?_some found
        simp only [Bool.and_eq_true, beq_iff_eq] at own
        obtain ⟨user, rfl⟩ := own
        exact ⟨membership.id, role.id, ⟨membership, member, rfl, user, rfl, active⟩, assigned,
          ⟨role, roleMem, rfl, organization⟩, granted⟩
  · rintro ⟨_, _, ⟨membership, member, rfl, user, rfl, active⟩, assigned,
      ⟨role, roleMem, rfl, organization⟩, granted⟩
    have found : (db.membership.find? fun row =>
        row.userId == userId && row.organizationId == membership.organizationId) =
          some membership := by
      apply Table.find?_eq_some_of_id member
      · simp [user]
      · -- a user has one membership in an organization
        intro other otherMem same
        simp only [Bool.and_eq_true, beq_iff_eq] at same
        apply valid .membershipUserOrganization other otherMem membership member
        · exact Option.some_ne_none _
        · exact congrArg some (Prod.ext (same.1.trans user.symm) same.2)
    simp only [userAccess, found, Option.map_some, admits, Bool.and_eq_true, beq_iff_eq,
      List.contains_iff_mem, List.mem_flatMap, mem_rolesOf, mem_permissionKeysOf]
    exact ⟨active, role, ⟨roleMem, organization, assigned⟩, granted⟩

theorem mem_globalRolesOf {userId : Id} {role : Role} :
    role ∈ globalRolesOf db userId ↔ ∃ assigned ∈ db.userRole, assigned.userId = userId ∧
      assigned.roleScope = .global ∧ role ∈ db.role ∧ role.id = assigned.roleId ∧
        role.scope = .global := by
  simp only [globalRolesOf, List.mem_filterMap, Table.mem_filter, Bool.and_eq_true, beq_iff_eq]
  constructor
  · rintro ⟨assigned, ⟨member, user, scope⟩, found⟩
    obtain ⟨roleMem, same⟩ := Table.find?_some found
    simp only [Bool.and_eq_true, beq_iff_eq] at same
    exact ⟨assigned, member, user, scope, roleMem, same.1.1, same.2⟩
  · rintro ⟨assigned, member, user, scope, roleMem, sameRole, global⟩
    refine ⟨assigned, ⟨member, user, scope⟩, ?_⟩
    apply Table.find?_eq_some_of_id roleMem
    · simp [sameRole, scope, global]
    · intro other _ holds
      simp only [Bool.and_eq_true, beq_iff_eq] at holds
      exact holds.1.1.trans sameRole.symm

/-- `authorizePlatform` admits a user exactly if the user is granted the permission. -/
theorem admitsGlobally_iff (valid : Valid db) {userId : Id} {key : String} :
    admitsGlobally (globalAccess db userId) key = true ↔ GrantsPlatform db userId key := by
  have admitted : admitsGlobally (globalAccess db userId) key = true ↔
      ∃ role ∈ globalRolesOf db userId, key ∈ permissionKeysOf db role.id := by
    unfold globalAccess
    by_cases empty : (globalRolesOf db userId).isEmpty = true
    · rw [if_pos empty, List.isEmpty_iff.mp empty]
      simp [admitsGlobally]
    · rw [if_neg empty]
      simp [admitsGlobally, List.mem_flatMap]
  rw [admitted]
  simp only [mem_globalRolesOf, mem_permissionKeysOf]
  constructor
  · rintro ⟨role, ⟨assigned, member, user, _, roleMem, sameRole, global⟩, granted⟩
    exact ⟨assigned, member, user, role, roleMem, sameRole, global, granted⟩
  · rintro ⟨assigned, member, user, role, roleMem, sameRole, global, granted⟩
    have scope : assigned.roleScope = .global := by
      simpa using valid .userRoleGlobalScopeCheck assigned member
    exact ⟨role, ⟨assigned, member, user, scope, roleMem, sameRole, global⟩, granted⟩

/-- What users may do on the platform lasts. -/
theorem Lasting.platform {after : Db} (lasting : Lasting db after) (valid : Valid db) (userId : Id)
    (key : String) : GrantsPlatform after userId key ↔ GrantsPlatform db userId key := by
  constructor
  · rintro ⟨assigned, member, user, role, roleMem, sameRole, global, granted, grantedMem, of, known⟩
    have memberBefore := (lasting.userRole assigned).mp member
    obtain ⟨owner, ownerMem, same⟩ := valid .userRoleRole assigned memberBefore _ rfl
    obtain ⟨sameId, _⟩ := Prod.mk.inj same
    have ownerGlobal := valid.userRole_global memberBefore ownerMem sameId.symm
    obtain ⟨ownerStays, permissions⟩ := lasting.fixed owner ownerMem (.inr ownerGlobal)
    obtain rfl : role = owner :=
      Table.eq_of_id_eq roleMem ownerStays (sameRole.trans sameId.symm)
    rw [lasting.permission] at known
    exact ⟨assigned, memberBefore, user, role, ownerMem, sameRole, global, granted,
      (permissions granted of).mp grantedMem, of, known⟩
  · rintro ⟨assigned, member, user, role, roleMem, sameRole, global, granted, grantedMem, of, known⟩
    obtain ⟨roleStays, permissions⟩ := lasting.fixed role roleMem (.inr global)
    rw [← lasting.permission] at known
    exact ⟨assigned, (lasting.userRole assigned).mpr member, user, role, roleStays, sameRole, global,
      granted, (permissions granted of).mpr grantedMem, of, known⟩

end

/-! ## The contract of the routes -/

/-- The database and the clock. -/
abbrev World := Room Db Unit

variable (owner : String → Id)

/-- A token is valid for its owner, or the service fails. -/
def answer {β : Type} (command : Elsewhere β) (failure : Option Failure) (_ : Time)
    (outside : Unit) : β × Unit :=
  match command with
  | .session token => (failure.elim (.ok (owner token)) .error, outside)

/-- What is kept of the database, as long as callers have only some permissions. -/
structure Keeper (callers : Id → Prop) where
  kept : Db → Prop
  /-- What is assumed of the database whenever a call acts. -/
  condition : Db → Prop
  may : Id → Id → String → Prop
  admits : ∀ {db userId organizationId key}, kept db → condition db → callers userId →
    Grants db userId organizationId key → may userId organizationId key
  changes : ∀ {db after userId organizationId}, kept db → callers userId →
    Audited (may userId organizationId) organizationId userId db after → kept after

variable {callers : Id → Prop} (keeper : Keeper callers)

/-- The constraints hold, nothing is lost that lasts, and events account for all changes. -/
def keeping : Contract (Whole Elsewhere Db Write Unit Failure Unit) Unit Failure World
    (Outcome Failure (Option Failure)) where
  Inv view := Valid view.shared.state.db ∧ keeper.kept view.shared.state.db
  Rely _ before after :=
    Lasting before.shared.state.db after.shared.state.db ∧
      Accounted before.shared.state.db after.shared.state.db
  Allowed _ _ _ _ view := keeper.condition view.shared.state.db
  Forked _ _ _ := False
  rely_refl _ _ := ⟨.refl _, .refl _⟩
  rely_trans first second := ⟨first.1.trans second.1, first.2.trans second.2⟩
  inv_idle inv := inv
  rely_idle _ _ := ⟨.refl _, .refl _⟩

/-- A program that returns only such values, whatever the other calls do. -/
def Runs (self : Nat) {α : Type} (program : Service α) (returns : α → Prop) : Prop :=
  Contract.Triple (atomic violation (answer owner)) (keeping keeper) self (fun _ => True) program
    (fun value _ => returns value) fun _ _ => True

namespace Runs

variable {owner keeper} {self : Nat} {α β : Type} {returns : α → Prop}

theorem pure {value : α} (ends : returns value) : Runs owner keeper self (.pure value) returns :=
  Contract.Triple.pure fun _ _ => ends

theorem throw {error : Failure} : Runs owner keeper self (.throw error) returns :=
  Contract.Triple.throw fun _ _ => trivial

theorem bind {middle : β → Prop} {program : Service β} {rest : β → Service α}
    (first : Runs owner keeper self program middle)
    (second : ∀ value, middle value → Runs owner keeper self (rest value) returns) :
    Runs owner keeper self (program.bind rest) returns :=
  Contract.Triple.bind first fun value view met => second value met view trivial

theorem ite {condition : Prop} [Decidable condition] {first second : Service α}
    (holds : condition → Runs owner keeper self first returns)
    (fails : ¬condition → Runs owner keeper self second returns) :
    Runs owner keeper self (if condition then first else second) returns :=
  Contract.Triple.ite holds fails

theorem catchWith {program : Service α} {handler : Failure → Service α}
    (first : Runs owner keeper self program returns)
    (second : ∀ error, Runs owner keeper self (handler error) returns) :
    Runs owner keeper self (program.catchWith handler) returns :=
  Contract.Triple.catchWith first second

theorem ofExcept {value : Except Failure α} (ends : ∀ result, value = .ok result → returns result) :
    Runs owner keeper self (Program.ofExcept value) returns := by
  cases value with
  | ok result => exact pure (ends result rfl)
  | error error => exact throw

/-- A transaction that makes changes. -/
theorem transaction {body : Tx α} {userId organizationId : Id} (caller : callers userId)
    (changes : ∀ time state, Valid state.db → keeper.kept state.db →
      body.wp violation time
        (fun _ after =>
          Audited (keeper.may userId organizationId) organizationId userId state.db after.db)
        (fun _ => True) state) :
    Runs owner keeper self (Organizations.transaction body) fun _ => True := by
  apply Contract.triple_transaction fun _ _ => True
  · exact fun _ _ _ _ _ _ => trivial
  · exact fun before error _ inv => ⟨⟨inv, fun _ _ => ⟨.refl _, .refl _⟩⟩, trivial⟩
  · rintro before outcome - ⟨valid, kept⟩ -
    have ends := Tx.wp_valid (violation_eq_none.mpr valid) (changes before.shared.clock _ valid kept)
    apply Tx.wp_mono ends _ fun _ _ => trivial
    rintro value after ⟨changed, checked⟩
    have inv : Valid after.db ∧ keeper.kept after.db :=
      ⟨violation_eq_none.mp checked, keeper.changes kept caller changed⟩
    exact ⟨⟨inv, fun _ _ => ⟨changed.lasting, changed.accounted⟩⟩, trivial⟩
  · exact fun result => ofExcept fun _ _ => trivial

/-- A query. -/
theorem read {value : Db → α}
    (reads : ∀ db, Valid db → keeper.kept db → keeper.condition db → returns (value db)) :
    Runs owner keeper self (Organizations.transaction (.read value)) returns := by
  apply Contract.triple_transaction fun result _ => ∀ found, result = .ok found → returns found
  · exact fun _ _ _ _ _ holds => holds
  · exact fun before error _ inv => ⟨⟨inv, fun _ _ => ⟨.refl _, .refl _⟩⟩, fun _ => nofun⟩
  · intro before outcome _ inv holds
    rw [Tx.wp_read]
    refine ⟨⟨inv, fun _ _ => ⟨.refl _, .refl _⟩⟩, ?_⟩
    rintro found same
    rw [← Except.ok.inj same]
    exact reads _ inv.1 inv.2 holds
  · exact fun result view met => ofExcept met view trivial

theorem readAny {value : Db → α} :
    Runs owner keeper self (Organizations.transaction (.read value)) fun _ => True :=
  read fun _ _ _ _ => trivial

theorem session {token : String} :
    Runs owner keeper self (Organizations.session token) fun userId => userId = owner token := by
  apply Contract.triple_outside fun result _ => ∀ found, result = .ok found → found = owner token
  · exact fun _ _ _ _ _ holds => holds
  · intro before failure _ inv
    refine ⟨⟨inv, fun _ _ => ⟨.refl _, .refl _⟩⟩, ?_⟩
    intro found same
    cases failure with
    | some error => contradiction
    | none => exact (Except.ok.inj same).symm
  · exact fun result view met => ofExcept met view trivial

end Runs

/-- The token of a request is the one of a caller. -/
def CalledBy (callers : Id → Prop) (request : RequestHead) : Prop :=
  ∀ token, request.token = some token → callers (owner token)

/-- Who makes a request, and where: its token and its header say so. -/
structure MadeBy (request : RequestHead) (context : Authorization) : Prop where
  user : request.token.map owner = some context.userId
  organization : request.organizationId = some context.organizationId

variable {owner}

theorem MadeBy.unique {request : RequestHead} {first second : Authorization}
    (one : MadeBy owner request first) (other : MadeBy owner request second) : first = second := by
  have sameUser := Option.some.inj (one.user.symm.trans other.user)
  have sameOrganization := Option.some.inj (one.organization.symm.trans other.organization)
  cases first
  cases second
  simp_all

variable {keeper} {self : Nat} {α : Type}

theorem runs_authorize {request : RequestHead} {permission : String}
    (called : CalledBy owner callers request) :
    Runs owner keeper self (authorize request permission) fun context =>
      MadeBy owner request context ∧ callers context.userId ∧
        keeper.may context.userId context.organizationId permission := by
  unfold authorize
  split
  · rename_i token organizationId sameToken sameOrganization
    simp only [Program.bind_eq, Program.tryCatch_eq, Program.throw_eq]
    apply Runs.bind (Runs.catchWith Runs.session fun _ => Runs.throw)
    rintro userId rfl
    have caller := called token sameToken
    -- what is read shows whether the caller has the permission
    have reads : Runs owner keeper self (transaction
        (PrismaOrganizationAccessRepository.findUserAccess (owner token) organizationId))
          fun access => admits access permission = true →
            keeper.may (owner token) organizationId permission :=
      Runs.read fun db valid kept holds admitted =>
        keeper.admits kept holds caller ((admits_iff valid).mp admitted)
    apply reads.bind
    intro access admitted
    apply Runs.ite
    · intro passes
      have made : MadeBy owner request ⟨organizationId, owner token⟩ :=
        ⟨by rw [sameToken, Option.map_some], sameOrganization⟩
      exact Runs.pure ⟨made, caller, admitted passes⟩
    · exact fun _ => Runs.throw
  · exact Runs.throw

theorem runs_parse {body : Option α} :
    Runs owner keeper self (parse body) fun _ => True := by
  cases body with
  | none => exact Runs.throw
  | some input => exact Runs.pure trivial

theorem runs_pathParameter {id : Option Id} :
    Runs owner keeper self (pathParameter id) fun _ => True := by
  cases id with
  | none => exact Runs.throw
  | some id => exact Runs.pure trivial

namespace OrganizationRequest

variable {request : OrganizationRequest}

/-- A route that asks for a permission and then for its organization. -/
theorem runs_enter {permission : String}
    {rest : Id → OrganizationActionMetadata → Service α}
    (called : CalledBy owner callers request.toRequestHead)
    (runs : ∀ userId organizationId metadata,
      MadeBy owner request.toRequestHead ⟨organizationId, userId⟩ → callers userId →
      keeper.may userId organizationId permission →
      metadata.actorId = userId → Runs owner keeper self (rest organizationId metadata)
        fun _ => True) :
    Runs owner keeper self (request.enter permission rest) fun _ => True := by
  unfold enter
  apply (runs_authorize called).bind
  rintro context ⟨made, caller, may⟩
  have inPath : Runs owner keeper self (assertPathScope request.pathId context.organizationId)
      fun organizationId => organizationId = context.organizationId :=
    Runs.ite (fun _ => Runs.pure rfl) fun _ => Runs.throw
  apply inPath.bind
  rintro _ rfl
  exact runs context.userId context.organizationId _ made caller may rfl

/-- The second permission is one of the same caller. -/
theorem runs_managePermissions {asked : Prop} [Decidable asked] {userId organizationId : Id}
    (called : CalledBy owner callers request.toRequestHead)
    (made : MadeBy owner request.toRequestHead ⟨organizationId, userId⟩) :
    Runs owner keeper self (request.managePermissions asked) fun _ =>
      asked → keeper.may userId organizationId "permissions:manage" := by
  unfold managePermissions
  apply Runs.ite
  · intro _
    apply (runs_authorize called).bind
    rintro context ⟨madeAgain, _, may⟩
    obtain rfl := made.unique madeAgain
    exact Runs.pure fun _ => may
  · exact fun not_asked => Runs.pure fun asked => absurd asked not_asked

end OrganizationRequest

/-- Every request keeps what is kept, and loses nothing that lasts. -/
theorem runs_route {request : OrganizationRequest} (route : Route)
    (called : CalledBy owner callers request.toRequestHead) :
    Runs owner keeper self (route.program request) fun _ => True := by
  have discards : ∀ {β : Type} {program : Service β},
      Runs owner keeper self program (fun _ => True) →
        Runs owner keeper self (discard program) fun _ => True :=
    fun runs => runs.bind fun _ _ => Runs.pure trivial
  cases route with
  | getOrganization =>
      apply discards
      apply OrganizationRequest.runs_enter called
      rintro userId organizationId metadata made caller may rfl
      apply Runs.readAny.bind
      rintro (_ | found) -
      · exact Runs.throw
      · exact Runs.pure trivial
  | patchOrganization body =>
      apply discards
      apply OrganizationRequest.runs_enter called
      rintro userId organizationId metadata made caller may rfl
      apply runs_parse.bind
      intro input _
      apply (Runs.transaction caller fun _ _ _ _ => wp_updateTransaction may).bind
      exact fun _ _ => Runs.pure trivial
  | getMembers =>
      apply discards
      apply OrganizationRequest.runs_enter called
      rintro userId organizationId metadata made caller may rfl
      apply Runs.readAny.bind
      exact fun _ _ => Runs.ofExcept fun _ _ => trivial
  | getRoles =>
      apply discards
      apply OrganizationRequest.runs_enter called
      rintro userId organizationId metadata made caller may rfl
      exact Runs.readAny
  | postRole body =>
      apply discards
      apply OrganizationRequest.runs_enter called
      rintro userId organizationId metadata made caller may rfl
      apply runs_parse.bind
      intro input _
      apply (OrganizationRequest.runs_managePermissions called made).bind
      intro _ _
      exact Runs.transaction caller fun _ _ valid _ => wp_createRoleTransaction valid may
  | patchRole roleId body =>
      apply discards
      apply OrganizationRequest.runs_enter called
      rintro userId organizationId metadata made caller may rfl
      apply runs_pathParameter.bind
      intro roleId _
      apply runs_parse.bind
      intro input _
      apply (OrganizationRequest.runs_managePermissions called made).bind
      intro _ manages
      refine Runs.transaction caller fun _ _ _ _ => wp_updateRoleTransaction may ?_
      exact fun requested => manages (Option.isSome_iff_ne_none.mpr requested)
  | deleteRole roleId =>
      apply discards
      apply OrganizationRequest.runs_enter called
      rintro userId organizationId metadata made caller may rfl
      apply runs_pathParameter.bind
      intro roleId _
      exact Runs.transaction caller fun _ _ valid _ => wp_deleteRoleTransaction valid may
  | postMember body =>
      apply discards
      apply OrganizationRequest.runs_enter called
      rintro userId organizationId metadata made caller may rfl
      apply runs_parse.bind
      intro input _
      exact Runs.transaction caller fun _ _ _ _ => wp_addMemberTransaction may
  | patchMember membershipId body =>
      apply discards
      apply OrganizationRequest.runs_enter called
      rintro userId organizationId metadata made caller may rfl
      apply runs_pathParameter.bind
      intro membershipId _
      apply runs_parse.bind
      intro input _
      exact Runs.transaction caller fun _ _ _ _ => wp_updateMemberStatusTransaction may
  | postMemberRole membershipId body =>
      apply discards
      apply OrganizationRequest.runs_enter called
      rintro userId organizationId metadata made caller may rfl
      apply runs_pathParameter.bind
      intro membershipId _
      apply runs_parse.bind
      intro input _
      exact Runs.transaction caller fun _ _ valid _ => wp_assignRoleTransaction valid may

/-! ## The platform -/

/-- Neither the database nor the session fails. -/
def Unfailing {β : Type} (_ : Whole Elsewhere Db Write Unit Failure Unit β)
    (outcome : Outcome Failure (Option Failure)) : Prop :=
  outcome.failure = none ∧ outcome.outside = none

/-- `authorizePlatform`, on its own and without a failure, lets the request of a user pass. -/
def AuthorizesPlatform (owner : String → Id) (world : World) (request : RequestHead)
    (permission : String) (userId : Id) : Prop :=
  (authorizePlatform request permission).Ends (atomic violation (answer owner)) Unfailing 0
    (fun result _ => result = .ok userId) world

section

variable {α : Type} {world : World} {ends : Except Failure α → World → Prop}

theorem ends_session {token : String} {ends : Except Failure Id → World → Prop} :
    (session token).Ends (atomic violation (answer owner)) Unfailing 0 ends world ↔
      ends (.ok (owner token)) world := by
  constructor
  · intro holds
    obtain ⟨_, _, executed, rest⟩ := holds { outside := none } ⟨rfl, rfl⟩
    obtain ⟨rfl, rfl⟩ := Prod.mk.inj (Option.some.inj executed)
    exact rest
  · rintro holds ⟨failure, outside⟩ ⟨rfl, rfl⟩
    exact ⟨_, _, rfl, holds⟩

theorem ends_read {value : Db → α} :
    (transaction (.read value)).Ends (atomic violation (answer owner)) Unfailing 0 ends world ↔
      ends (.ok (value world.state.db)) world := by
  constructor
  · intro holds
    obtain ⟨_, _, executed, rest⟩ := holds { outside := none } ⟨rfl, rfl⟩
    obtain ⟨rfl, rfl⟩ := Prod.mk.inj (Option.some.inj executed)
    exact rest
  · rintro holds ⟨failure, outside⟩ ⟨rfl, rfl⟩
    exact ⟨_, _, rfl, holds⟩

end

/-- `authorizePlatform` lets exactly the owners of tokens with the permission pass. -/
theorem authorizesPlatform_iff {world : World} {request : RequestHead} {permission : String}
    {userId : Id} : AuthorizesPlatform owner world request permission userId ↔
      request.token.map owner = some userId ∧
        admitsGlobally (globalAccess world.state.db userId) permission = true := by
  unfold AuthorizesPlatform authorizePlatform
  cases request.token with
  | none => simp [Program.Ends]
  | some token =>
      simp only [Program.bind_eq, Program.tryCatch_eq, Program.throw_eq, Program.ends_bind,
        Program.ends_catchWith, ends_session, PrismaOrganizationAccessRepository.findGlobalAccess,
        ends_read, Option.map_some, Option.some.injEq]
      by_cases admitted : admitsGlobally (globalAccess world.state.db (owner token)) permission
      · rw [if_pos admitted]
        constructor
        · intro passes
          obtain rfl := Except.ok.inj passes
          exact ⟨rfl, admitted⟩
        · rintro ⟨rfl, -⟩
          exact rfl
      · rw [if_neg admitted]
        constructor
        · intro passes
          contradiction
        · rintro ⟨rfl, passes⟩
          exact absurd passes admitted

end Mosp.Organizations
