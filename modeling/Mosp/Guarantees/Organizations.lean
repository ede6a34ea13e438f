import Mosp.Organizations.Authorization

/-!
# Access to organizations

Any number of requests to the routes of organizations, each transaction taken
as one step.  What the members of an organization may do is decided by those
with a few permissions; the platform and what the system set up are out of
reach; and events say who did what.
-/

namespace Mosp.Guarantees

open Mosp.Concurrency Mosp.Data Mosp.Sql Mosp.Organizations
open Mosp.Database (Id Time)

/-- A request with the token of a caller, and its route. -/
structure RouteRequest (owner : String → Id) (callers : Id → Prop) where
  request : OrganizationRequest
  route : Route
  called : CalledBy owner callers request.toRequestHead

/-- The calls in progress. -/
abbrev OrganizationCalls := Pool (Whole Organizations.Elsewhere Organizations.Db Organizations.Write
  Unit Organizations.Failure Unit) Unit Organizations.Failure Organizations.World

/-- What runs of the routes reach from some calls, if calls act only on such databases. -/
def OrganizationReach (owner : String → Id) (callers : Id → Prop)
    (condition : Organizations.Db → Prop) : OrganizationCalls → OrganizationCalls → Prop :=
  Pool.Reachable (atomic Organizations.violation (Organizations.answer owner)) passes
    (Whole.Permitted (fun asked : RouteRequest owner callers => asked.route.program asked.request)
      fun _ view => condition view.shared.state.db)

section

variable {owner : String → Id} {callers : Id → Prop}

theorem respects_keeping (keeper : Keeper callers) :
    Contract.Respects (atomic Organizations.violation (Organizations.answer owner)) passes
      (Whole.Permitted (fun asked : RouteRequest owner callers => asked.route.program asked.request)
        fun _ view => keeper.condition view.shared.state.db) (keeping keeper) := by
  apply Contract.respects_whole
  · intro asked self
    exact Contract.Triple.weaken (runs_route asked.route asked.called) (fun _ _ => trivial)
      (fun _ _ _ => trivial) fun _ _ _ => trivial
  · exact fun _ _ holds _ _ _ => holds
  · exact fun _ _ _ forked => forked
  · exact fun view self inv => ⟨inv, fun _ => ⟨.refl _, .refl _⟩⟩
  · exact fun view _ inv => ⟨inv, fun _ => ⟨.refl _, .refl _⟩⟩

variable {start : Organizations.World} {calls : OrganizationCalls}

/-- What is kept at the start is kept in every run. -/
theorem kept_along (keeper : Keeper callers) (valid : Valid start.state.db)
    (kept : keeper.kept start.state.db)
    (reached : OrganizationReach owner callers keeper.condition ⟨start, []⟩ calls) :
    keeper.kept calls.shared.state.db :=
  ((respects_keeping keeper).invariant ⟨valid, kept⟩ reached).2

end

/-! ## Keepers -/

/-- The access to one organization stays as it is, if none of the callers may decide about it. -/
def accessKeeper (callers : Id → Prop) (organizationId : Id) (base : Organizations.Db)
    (powerless : ∀ userId, callers userId → ∀ key ∈ decisive,
      ¬Grants base userId organizationId key) : Keeper callers where
  kept db := ∀ userId key, Grants db userId organizationId key ↔
    Grants base userId organizationId key
  condition _ := True
  may userId other key := other = organizationId → Grants base userId organizationId key
  admits := by
    rintro db userId _ key same _ _ grants rfl
    exact (same userId key).mp grants
  changes := by
    intro db after userId other same caller audited user key
    refine (audited.grants ?_ user key).trans (same user key)
    exact fun own key isDecisive may => powerless userId caller key isDecisive (may own)

/-- Every event is one of an actor that may have been granted what its action asks for. -/
def eventKeeper (callers : Id → Prop) (may : Id → Id → String → Prop) (base : Organizations.Db) :
    Keeper callers where
  kept db := ∀ event ∈ db.activityLog, event ∈ base.activityLog ∨
    ∃ permission, (event.action, permission) ∈ requirements ∧
      may event.actorId event.organizationId permission
  condition db := ∀ userId organizationId key, Grants db userId organizationId key →
    may userId organizationId key
  may := may
  admits _ holds _ grants := holds _ _ _ grants
  changes := by
    intro db after userId organizationId same _ audited event member
    rcases audited.event member with old | ⟨rfl, rfl, allowed⟩
    · exact same event old
    · exact .inr allowed

/-- Nothing in particular. -/
def anyKeeper (callers : Id → Prop) : Keeper callers where
  kept _ := True
  condition _ := True
  may _ _ _ := True
  admits _ _ _ _ := trivial
  changes _ _ _ := trivial

section

variable {owner : String → Id} {callers : Id → Prop} {start : Organizations.World}
  {calls later : OrganizationCalls}

theorem holds_keeping (valid : Valid start.state.db)
    (reached : OrganizationReach owner callers (fun _ => True) ⟨start, []⟩ calls) :
    Contract.Holds (atomic Organizations.violation (Organizations.answer owner))
      (keeping (anyKeeper callers)) calls := by
  have begins : Contract.Holds (atomic Organizations.violation (Organizations.answer owner))
      (keeping (anyKeeper callers)) (⟨start, []⟩ : OrganizationCalls) :=
    ⟨⟨valid, trivial⟩, fun _ _ found => by simp at found⟩
  exact (respects_keeping (anyKeeper callers)).holds begins reached

/-- What lasts, and what events account for, along a run. -/
theorem reach_rely (valid : Valid start.state.db)
    (reached : OrganizationReach owner callers (fun _ => True) ⟨start, []⟩ calls)
    (continued : OrganizationReach owner callers (fun _ => True) calls later) :
    Lasting calls.shared.state.db later.shared.state.db ∧
      Accounted calls.shared.state.db later.shared.state.db :=
  (respects_keeping (anyKeeper callers)).rely (holds_keeping valid reached) continued
    (Nat.le_refl _)

end

/-! ## An organization -/

namespace Tenant

def owner (token : String) : Id :=
  if token = "admin" then 5 else 6

/-- An organization with an administrator, and a member who may invite others and create roles. -/
def start : Organizations.World where
  state :=
    ⟨{ organization := .ofRows [{ id := 1, name := "Tenant", slug := "tenant" }]
       user := .ofRows
        [{ id := 5, email := "admin@example.com" }, { id := 6, email := "member@example.com" },
          { id := 7, email := "guest@example.com" }]
       membership := .ofRows
        [{ id := 11, userId := 5, organizationId := 1, status := .active },
          { id := 12, userId := 6, organizationId := 1, status := .active }]
       role := .ofRows
        [{ id := 21, organizationId := some 1, name := "Admin", scope := .organization
           isSystem := true },
          { id := 22, organizationId := some 1, name := "Inviter", scope := .organization },
          { id := 23, organizationId := none, name := "Operator", scope := .global }]
       permission := .ofRows
        [{ id := 31, key := "roles:assign" }, { id := 32, key := "members:create" },
          { id := 33, key := "roles:create" }]
       rolePermission := .ofRows
        [{ roleId := 21, permissionId := 31 }, { roleId := 22, permissionId := 32 },
          { roleId := 22, permissionId := 33 }, { roleId := 23, permissionId := 31 }]
       memberRole := .ofRows
        [{ membershipId := 11, roleId := 21, organizationId := 1 },
          { membershipId := 12, roleId := 22, organizationId := 1 }]
       userRole := .ofRows [{ userId := 5, roleId := 23 }] }, 100⟩
  outside := ()

theorem valid : Valid start.state.db := by
  rw [← violation_eq_none]
  decide +kernel

/-- The member. -/
def member : OrganizationRequest :=
  { token := some "member", organizationId := some 1, requestId := "request", pathId := some 1 }

/-- The member invites the guest as an administrator, creates a role, and asks for a role that is
not the member's to assign. -/
def routes : List Route :=
  [.postMember (some { email := "guest@example.com", roleId := some 21 }),
    .postRole (some { name := "Helper" }), .postMemberRole (some 12) (some { roleId := 21 })]

def callers (userId : Id) : Prop :=
  userId = 6

theorem called : CalledBy owner callers member.toRequestHead := by
  rintro _ ⟨⟩
  rfl

/-- Start the requests, and let the calls take turns. -/
def run (check : Organizations.Db → Bool) : Option OrganizationCalls :=
  Pool.runWhere (atomic Organizations.violation (Organizations.answer owner)) passes
    (fun calls event => match event with
      | .act _ _ => check calls.shared.state.db
      | _ => true)
    ⟨start, []⟩
    (routes.map (fun route => .start (route.program member)) ++
      [0, 1, 2, 0, 1, 2, 1, 0].map fun self => .act self { outside := none })

theorem reaches_run {check : Organizations.Db → Bool} {condition : Organizations.Db → Prop}
    {calls : OrganizationCalls} (ran : run check = some calls)
    (passed : ∀ db, check db = true → condition db) :
    OrganizationReach owner callers condition ⟨start, []⟩ calls := by
  apply Pool.Reachable.runWhere .refl _ ran
  intro event listed calls checked
  rcases List.mem_append.mp listed with starts | acts
  · obtain ⟨route, -, rfl⟩ := List.mem_map.mp starts
    exact ⟨⟨member, route, called⟩, rfl⟩
  · obtain ⟨self, -, rfl⟩ := List.mem_map.mp acts
    exact passed _ checked

/-- The guest is invited. -/
def invited (calls : OrganizationCalls) : Bool :=
  calls.shared.state.db.memberRole.rows.length == 3

theorem exists_run : ∃ calls, run (fun _ => true) = some calls ∧ invited calls = true :=
  (Option.any_eq_true _ _).mp (by decide +kernel : (run fun _ => true).any invited = true)

/-- The member may not decide about the organization. -/
theorem powerless : ∀ userId, callers userId → ∀ key ∈ decisive, ¬Grants start.state.db userId 1 key := by
  rintro _ rfl key isDecisive grants
  have admitted := (admits_iff valid).mpr grants
  have refused : ∀ key ∈ decisive, admits (userAccess start.state.db 6 1) key = false := by
    decide +kernel
  rw [refused key isDecisive] at admitted
  contradiction

/-- Everything that is granted is among these. -/
def Within (granted : List (Id × Id × String)) (db : Organizations.Db) : Prop :=
  ∀ membership ∈ db.membership.rows, membership.status = .active →
    ∀ assigned ∈ db.memberRole.rows, assigned.membershipId = membership.id →
      ∀ given ∈ db.rolePermission.rows, given.roleId = assigned.roleId →
        ∀ permission ∈ db.permission.rows, permission.id = given.permissionId →
          (membership.userId, membership.organizationId, permission.key) ∈ granted

instance (granted : List (Id × Id × String)) (db : Organizations.Db) :
    Decidable (Within granted db) := by
  unfold Within
  infer_instance

theorem Within.mem {granted : List (Id × Id × String)} {db : Organizations.Db}
    (within : Within granted db) {userId organizationId : Id} {key : String}
    (grants : Grants db userId organizationId key) : (userId, organizationId, key) ∈ granted := by
  obtain ⟨_, _, ⟨membership, membershipMem, rfl, rfl, rfl, active⟩,
    ⟨assigned, assignedMem, sameMembership, rfl, _⟩,
    ⟨_, given, givenMem, sameRole, permission, permissionMem, samePermission, rfl⟩⟩ := grants
  exact within membership membershipMem active assigned assignedMem sameMembership given givenMem
    sameRole permission permissionMem samePermission

/-- What is granted in the run. -/
def granted : List (Id × Id × String) :=
  [(5, 1, "roles:assign"), (6, 1, "members:create"), (6, 1, "roles:create")]

theorem exists_run_within : ∃ calls, run (fun db => decide (Within granted db)) = some calls ∧
    invited calls = true :=
  (Option.any_eq_true _ _).mp
    (by decide +kernel : (run fun db => decide (Within granted db)).any invited = true)

end Tenant

/-! ## The guarantees -/

/-- Requests of callers that may neither manage permissions nor assign roles nor update members of
an organization leave what every user may do there as it is. -/
theorem access_kept {owner : String → Id} {callers : Id → Prop} {organizationId : Id}
    {start : Organizations.World} {calls : OrganizationCalls} (valid : Valid start.state.db)
    (powerless : ∀ userId, callers userId → ∀ key ∈ decisive,
      ¬Grants start.state.db userId organizationId key)
    (reached : OrganizationReach owner callers (fun _ => True) ⟨start, []⟩ calls) :
    ∀ userId key, Grants calls.shared.state.db userId organizationId key ↔
      Grants start.state.db userId organizationId key :=
  kept_along (accessKeeper callers organizationId start.state.db powerless) valid
    (fun _ _ => Iff.rfl) reached

/-- The guest becomes a member and the member creates a role. -/
theorem access_kept_tenant : ∃ calls, Tenant.invited calls = true ∧
    ∀ userId key, Grants calls.shared.state.db userId 1 key ↔
      Grants Tenant.start.state.db userId 1 key := by
  obtain ⟨calls, ran, invited⟩ := Tenant.exists_run
  have reached := Tenant.reaches_run ran fun _ _ => trivial
  exact ⟨calls, invited, access_kept Tenant.valid Tenant.powerless reached⟩

/-- From any point of a run on, memberships and assigned roles remain, the roles of the system and
of the platform are the same, and so is what every user may do on the platform. -/
theorem platform_kept {owner : String → Id} {callers : Id → Prop} {start : Organizations.World}
    {calls later : OrganizationCalls} (valid : Valid start.state.db)
    (reached : OrganizationReach owner callers (fun _ => True) ⟨start, []⟩ calls)
    (continued : OrganizationReach owner callers (fun _ => True) calls later) :
    Lasting calls.shared.state.db later.shared.state.db ∧
      (∀ userId key, admitsGlobally (globalAccess later.shared.state.db userId) key =
        admitsGlobally (globalAccess calls.shared.state.db userId) key) ∧
      ∀ request permission userId,
        AuthorizesPlatform owner later.shared request permission userId ↔
          AuthorizesPlatform owner calls.shared request permission userId := by
  have lasting := (reach_rely valid reached continued).1
  have holds := holds_keeping valid reached
  have validCalls : Valid calls.shared.state.db := holds.inv.1
  have validLater : Valid later.shared.state.db :=
    ((respects_keeping (anyKeeper callers)).holds holds continued).inv.1
  have same : ∀ userId key, admitsGlobally (globalAccess later.shared.state.db userId) key =
      admitsGlobally (globalAccess calls.shared.state.db userId) key := by
    intro userId key
    rw [Bool.eq_iff_iff, admitsGlobally_iff validLater, admitsGlobally_iff validCalls]
    exact lasting.platform validCalls userId key
  refine ⟨lasting, same, fun request permission userId => ?_⟩
  rw [authorizesPlatform_iff, authorizesPlatform_iff, same]

/-- The run of the tenant, from its start. -/
theorem platform_kept_tenant : ∃ calls : OrganizationCalls, Tenant.invited calls = true ∧
    Lasting Tenant.start.state.db calls.shared.state.db ∧
      (∀ userId key, admitsGlobally (globalAccess calls.shared.state.db userId) key =
        admitsGlobally (globalAccess Tenant.start.state.db userId) key) ∧
      ∀ request permission userId,
        AuthorizesPlatform Tenant.owner calls.shared request permission userId ↔
          AuthorizesPlatform Tenant.owner Tenant.start request permission userId := by
  obtain ⟨calls, ran, invited⟩ := Tenant.exists_run
  have reached := Tenant.reaches_run ran fun _ _ => trivial
  exact ⟨calls, invited, platform_kept Tenant.valid .refl reached⟩

/-- A new event names an actor that was granted the permission of its action in its
organization, whatever includes all that is granted when a call acts. -/
theorem events_authorized {owner : String → Id} {callers : Id → Prop}
    {may : Id → Id → String → Prop} {start : Organizations.World} {calls : OrganizationCalls}
    (valid : Valid start.state.db)
    (reached : OrganizationReach owner callers (fun db => ∀ userId organizationId key,
      Grants db userId organizationId key → may userId organizationId key) ⟨start, []⟩ calls) :
    ∀ event ∈ calls.shared.state.db.activityLog, event ∈ start.state.db.activityLog ∨
      ∃ permission, (event.action, permission) ∈ requirements ∧
        may event.actorId event.organizationId permission :=
  kept_along (eventKeeper callers may start.state.db) valid (fun _ member => .inl member) reached

/-- The events of the run of the tenant are those of the member. -/
theorem events_authorized_tenant : ∃ calls : OrganizationCalls, Tenant.invited calls = true ∧
    ∀ event ∈ calls.shared.state.db.activityLog, event ∈ Tenant.start.state.db.activityLog ∨
      ∃ permission, (event.action, permission) ∈ requirements ∧
        (event.actorId, event.organizationId, permission) ∈ Tenant.granted := by
  obtain ⟨calls, ran, invited⟩ := Tenant.exists_run_within
  have within : ∀ db, decide (Tenant.Within Tenant.granted db) = true →
      ∀ userId organizationId key, Grants db userId organizationId key →
        (userId, organizationId, key) ∈ Tenant.granted :=
    fun db checked _ _ _ grants => (of_decide_eq_true checked).mem grants
  exact ⟨calls, invited, events_authorized Tenant.valid (Tenant.reaches_run ran within)⟩

/-- Events are never taken back, and where no event is added nothing else has changed. -/
theorem changes_recorded {owner : String → Id} {callers : Id → Prop} {start : Organizations.World}
    {calls later : OrganizationCalls} (valid : Valid start.state.db)
    (reached : OrganizationReach owner callers (fun _ => True) ⟨start, []⟩ calls)
    (continued : OrganizationReach owner callers (fun _ => True) calls later) :
    Accounted calls.shared.state.db later.shared.state.db :=
  (reach_rely valid reached continued).2

/-- The run of the tenant, from its start. -/
theorem changes_recorded_tenant : ∃ calls : OrganizationCalls, Tenant.invited calls = true ∧
    Accounted Tenant.start.state.db calls.shared.state.db := by
  obtain ⟨calls, ran, invited⟩ := Tenant.exists_run
  have reached := Tenant.reaches_run ran fun _ _ => trivial
  exact ⟨calls, invited, changes_recorded Tenant.valid .refl reached⟩

end Mosp.Guarantees
