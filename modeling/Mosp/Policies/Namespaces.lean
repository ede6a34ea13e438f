import Mosp.Policies.Schema
import Mosp.Sql.Atomic

/-!
# Placement policies of namespaces

`NamespaceService.updatePolicy` and `addTarget`.  Replacing a policy deletes the
targets that it has and creates the requested ones in one transaction.
-/

namespace Mosp.Policies

open Mosp.Concurrency Mosp.Data Mosp.Sql
open Mosp.Database (Id Time NamespaceStatus NamespaceTransferMode PlacementPolicyStatus
  BucketConnection UploadSession)

structure NamespaceActionMetadata where
  actorId : Id
  requestId : String

/-- A target that the schema of the request accepts. -/
structure PlacementTargetCreateRequest where
  bucketConnectionId : Id
  priorityTier : Nat := 0
  weight : Nat := 100
  /-- Absent, `null`, or a number. -/
  configuredCapacityBytes : Option (Option Nat) := none
  thresholdPercent : Nat := 100
  enabled : Bool := true
  priorityTier_le : priorityTier ≤ 2147483647 := by decide
  one_le_weight : 1 ≤ weight := by decide
  weight_le : weight ≤ 2147483647 := by decide
  configuredCapacityBytes_le :
    ∀ value ∈ configuredCapacityBytes, ∀ bytes ∈ value, bytes ≤ 9223372036854775807 := by decide
  thresholdPercent_le : thresholdPercent ≤ 100 := by decide

/-- The request of an update, with the defaults of its schema. -/
structure PlacementPolicyUpdateRequest where
  strategy : PlacementPolicyStrategy := .priorityWeighted
  status : PlacementPolicyStatus := .active
  targets : Option (List PlacementTargetCreateRequest) := none
  targets_le : ∀ listed ∈ targets, listed.length ≤ 100 := by decide

structure PlacementTargetSummary where
  bucketConnectionId : Id
  configuredCapacityBytes : Option String
  createdAt : Time
  enabled : Bool
  id : Id
  priorityTier : Int
  thresholdPercent : Int
  updatedAt : Time
  weight : Int
  deriving DecidableEq

structure PlacementPolicySummary where
  createdAt : Time
  id : Id
  status : PlacementPolicyStatus
  strategy : PlacementPolicyStrategy
  targets : List PlacementTargetSummary
  updatedAt : Time
  deriving DecidableEq

structure NamespaceSummary where
  createdAt : Time
  defaultTransferMode : NamespaceTransferMode
  id : Id
  maxObjectSizeBytes : Option String
  name : String
  placementPolicy : Option PlacementPolicySummary
  quotaBytes : String
  slug : String
  status : NamespaceStatus
  updatedAt : Time
  versioningMode : NamespaceVersioningMode
  deriving DecidableEq

/-- `namespaceInclude`: a namespace with its policy and the targets of this. -/
abbrev Included : Type :=
  VirtualNamespace × Option (PlacementPolicy × List PlacementTarget)

/-- `priorityTier` and then `createdAt`, ascending. -/
def targetBefore (first second : PlacementTarget) : Bool :=
  first.priorityTier < second.priorityTier ||
    (first.priorityTier == second.priorityTier && first.createdAt ≤ second.createdAt)

def included (db : Db) (row : VirtualNamespace) : Included :=
  (row, (db.placementPolicy.find? fun policy =>
    policy.namespaceId == row.id && policy.organizationId == row.organizationId).map fun policy =>
      (policy, placementTarget.select
        (fun target => target.policyId == policy.id &&
          target.organizationId == policy.organizationId) targetBefore db))

namespace NamespaceService

def toTargetSummary (target : PlacementTarget) : PlacementTargetSummary :=
  { id := target.id
    bucketConnectionId := target.bucketConnectionId
    priorityTier := target.priorityTier
    weight := target.weight
    configuredCapacityBytes := target.configuredCapacityBytes.map toString
    thresholdPercent := target.thresholdPercent
    enabled := target.enabled
    createdAt := target.createdAt
    updatedAt := target.updatedAt }

def toSummary : Included → NamespaceSummary
  | (row, placementPolicy) =>
      { id := row.id
        name := row.name
        slug := row.slug
        status := row.status
        quotaBytes := toString row.quotaBytes
        maxObjectSizeBytes := row.maxObjectSizeBytes.map toString
        defaultTransferMode := row.defaultTransferMode
        versioningMode := row.versioningMode
        createdAt := row.createdAt
        updatedAt := row.updatedAt
        placementPolicy := placementPolicy.map fun (policy, targets) =>
          { id := policy.id
            strategy := policy.strategy
            status := policy.status
            createdAt := policy.createdAt
            updatedAt := policy.updatedAt
            targets := targets.map toTargetSummary } }

/-- What `targetData` takes from the request. -/
def configurationOf (target : PlacementTargetCreateRequest) : TargetConfiguration :=
  { bucketConnectionId := target.bucketConnectionId
    priorityTier := target.priorityTier
    weight := target.weight
    configuredCapacityBytes := target.configuredCapacityBytes.join.map Nat.cast
    thresholdPercent := target.thresholdPercent
    enabled := target.enabled }

def targetData (policyId organizationId : Id) (target : PlacementTargetCreateRequest) :
    Tx PlacementTarget := do
  let id ← Tx.randomUUID
  return { configurationOf target with id, policyId, organizationId }

/-- `targets.map((target) => this.targetData(…))` -/
def targetsData (policyId organizationId : Id) :
    List PlacementTargetCreateRequest → Tx (List PlacementTarget)
  | [] => pure []
  | target :: rest => do
      let row ← targetData policyId organizationId target
      let rows ← targetsData policyId organizationId rest
      return row :: rows

def writeActivity (organizationId : Id) (metadata : NamespaceActionMetadata) (action : String)
    (entityId : Id) (recorded : ActivityMetadata) : Tx Unit := do
  let id ← Tx.randomUUID
  let _ ← activityLog.create
    { id
      organizationId
      actorId := metadata.actorId
      action
      entityType := if action.startsWith "placement_" then "PlacementPolicy" else "VirtualNamespace"
      entityId
      requestId := metadata.requestId
      metadata := recorded }

/-- The buckets that a request names are buckets of the organization. -/
def checkBuckets (organizationId : Id) (targetBucketIds : List Id) : Tx Unit :=
  Program.runIf (0 < targetBucketIds.length) do
    let buckets ← bucketConnection.findMany fun row =>
      row.organizationId == organizationId && targetBucketIds.contains row.id
    Program.throwIf (buckets.length ≠ targetBucketIds.length) Failure.placementBucketNotFound

/-- The policy of the namespace: it is created or updated, and stays as it is when a target is
appended. -/
def ensurePolicy (organizationId namespaceId : Id) (input : PlacementPolicyUpdateRequest)
    (appendTarget : Bool) : Tx Id := do
  let policy ← placementPolicy.findFirst fun row =>
    row.namespaceId == namespaceId && row.organizationId == organizationId
  match policy with
  | none =>
      let id ← Tx.randomUUID
      let created ← placementPolicy.create
        { id, namespaceId, organizationId, strategy := input.strategy, status := input.status }
      return created.id
  | some policy =>
      if appendTarget then
        return policy.id
      else
        let _ ← placementPolicy.update (fun row => row.id == policy.id) fun row =>
          { row with strategy := input.strategy, status := input.status }
        return policy.id

/-- Put the requested targets in the place of those that the policy has. -/
def replaceTargets (organizationId policyId : Id) (targets : List PlacementTargetCreateRequest) :
    Tx Unit := do
  let _ ← placementTarget.deleteMany fun row =>
    row.policyId == policyId && row.organizationId == organizationId
  Program.runIf (0 < targets.length) do
    let rows ← targetsData policyId organizationId targets
    placementTarget.createMany rows

/-- Add the first of the targets to those that the policy has. -/
def createTarget (organizationId policyId : Id) :
    List PlacementTargetCreateRequest → Tx Unit
  | [] => throw (Failure.typeError "Cannot read properties of undefined")
  | target :: _ => do
      let row ← targetData policyId organizationId target
      let _ ← placementTarget.create row

/-- `virtualNamespace.findFirstOrThrow` with `namespaceInclude` -/
def findIncluded (organizationId namespaceId : Id) : Tx Included :=
  .statement fun _ db =>
    match db.virtualNamespace.find? fun row =>
        row.id == namespaceId && row.organizationId == organizationId with
    | none => .error DatabaseError.notFound
    | some row => .ok { value := included db row }

/-- What the transaction of `updatePolicy` does after its checks. -/
def writePolicy (organizationId namespaceId : Id) (input : PlacementPolicyUpdateRequest)
    (metadata : NamespaceActionMetadata) (appendTarget : Bool) : Tx Included := do
  let targets := input.targets.getD []
  let policyId ← ensurePolicy organizationId namespaceId input appendTarget
  Program.runIf (input.targets.isSome = true)
    (if appendTarget then createTarget organizationId policyId targets
      else replaceTargets organizationId policyId targets)
  writeActivity organizationId metadata
    (if appendTarget then "placement_targets.create" else "placement_policies.update") policyId
    { targetCount := targets.length, strategy := input.strategy, status := input.status }
  findIncluded organizationId namespaceId

/-- The transaction of `updatePolicy`. -/
def updatePolicyTransaction (organizationId namespaceId : Id) (input : PlacementPolicyUpdateRequest)
    (metadata : NamespaceActionMetadata) (appendTarget : Bool) : Tx Included := do
  let namespaceExists ← virtualNamespace.findFirst fun row =>
    row.id == namespaceId && row.organizationId == organizationId
  Program.throwIf (namespaceExists.isNone = true) Failure.namespaceNotFound
  let targets := input.targets.getD []
  checkBuckets organizationId (targets.map PlacementTargetCreateRequest.bucketConnectionId).eraseDups
  writePolicy organizationId namespaceId input metadata appendTarget

/-- Run the transaction; `failure` is an error of the connection to the database. -/
def updatePolicy (organizationId namespaceId : Id) (input : PlacementPolicyUpdateRequest)
    (metadata : NamespaceActionMetadata) (failure : Option Failure) (room : Room Db Unit)
    (appendTarget : Bool := false) : Except Failure NamespaceSummary × Room Db Unit :=
  let (answer, after) := room.execute violation
    (updatePolicyTransaction organizationId namespaceId input metadata appendTarget) failure
  (answer.map toSummary, after)

def addTarget (organizationId namespaceId : Id) (input : PlacementTargetCreateRequest)
    (metadata : NamespaceActionMetadata) (failure : Option Failure) (room : Room Db Unit) :
    Except Failure NamespaceSummary × Room Db Unit :=
  updatePolicy organizationId namespaceId
    { strategy := .priorityWeighted
      status := .active
      targets := some [input]
      targets_le := by simp }
    metadata failure room true

end NamespaceService

end Mosp.Policies
