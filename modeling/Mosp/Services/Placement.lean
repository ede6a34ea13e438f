import Mosp.Services.Command

/-!
# Placement

`PlacementService`: which bucket an upload goes to, and whether a target still
has room for it.
-/

namespace Mosp.Services

open Mosp.Concurrency Mosp.Database Mosp.Sql

structure PlacementTargetSelection where
  id : Id
  bucketConnection : BucketConnection

namespace PlacementService

/-- The targets of an organization's active policy whose bucket and provider
can be used; the conditions on related rows are part of one statement. -/
def isCandidate (organizationId namespaceId : Id) (db : Db) (target : PlacementTarget) : Bool :=
  target.organizationId == organizationId && target.enabled &&
    db.placementPolicy.rows.any (fun policy => policy.id == target.policyId &&
      policy.organizationId == target.organizationId &&
      policy.organizationId == organizationId && policy.namespaceId == namespaceId &&
      policy.status == .active) &&
    db.bucketConnection.rows.any (fun bucket => bucket.id == target.bucketConnectionId &&
      bucket.organizationId == target.organizationId &&
      bucket.organizationId == organizationId && bucket.status == .active &&
      db.providerConnection.rows.any fun provider => provider.id == bucket.providerConnectionId &&
        provider.organizationId == bucket.organizationId &&
        provider.organizationId == organizationId && provider.status == .healthy)

/-- `priorityTier`, then `createdAt`, then `id`, all ascending. -/
def candidateOrder (first second : PlacementTarget) : Bool :=
  decide (first.priorityTier < second.priorityTier) ||
    (first.priorityTier == second.priorityTier &&
      (decide (first.createdAt < second.createdAt) ||
        (first.createdAt == second.createdAt && decide (first.id ≤ second.id))))

/-- The candidates with the buckets they select. -/
def candidates (organizationId namespaceId : Id) :
    Tx (List (PlacementTarget × BucketConnection)) := do
  let targets ← Tx.read fun db =>
    placementTarget.select (isCandidate organizationId namespaceId db) candidateOrder db
  let buckets ← bucketConnection.findMany fun bucket =>
    targets.any fun target => target.bucketConnectionId == bucket.id
  return targets.filterMap fun target =>
    (buckets.find? fun bucket => bucket.id == target.bucketConnectionId).map (target, ·)

/-- The bytes that available objects and open sessions take up in a bucket. -/
def usedBytesOf (organizationId bucketConnectionId : Id) (db : Db) : Int :=
  ((db.objectLocation.filter fun location => location.organizationId == organizationId &&
      location.bucketConnectionId == bucketConnectionId && location.state == .active).map
    fun location =>
      ((db.objectRecord.filter fun record => record.id == location.objectRecordId &&
        record.organizationId == location.organizationId && record.state == .available).map
          ObjectRecord.sizeBytes).sum).sum +
  ((db.uploadSession.filter fun session => session.organizationId == organizationId &&
      session.bucketConnectionId == bucketConnectionId &&
      (session.state == .initiated || session.state == .completing)).map
    UploadSession.reservedBytes).sum

def targetUsedBytes (organizationId bucketConnectionId : Id) : Tx Int :=
  Tx.read (usedBytesOf organizationId bucketConnectionId)

/-- Keep the candidates that the object still fits in. -/
def eligible (organizationId : Id) (sizeBytes : Int) :
    List (PlacementTarget × BucketConnection) →
      Service (List (PlacementTarget × BucketConnection))
  | [] => pure []
  | (target, bucket) :: rest => do
      let usedBytes ← query (targetUsedBytes organizationId bucket.id)
      let others ← eligible organizationId sizeBytes rest
      match target.configuredCapacityBytes with
      | some capacity =>
          if usedBytes + sizeBytes > capacity * target.thresholdPercent / 100 then
            return others
          else
            return (target, bucket) :: others
      | none => return (target, bucket) :: others

/-- Walk along the weights. -/
def walkWeights (pick : Int) :
    List (PlacementTarget × BucketConnection) → Option PlacementTargetSelection
  | [] => none
  | (target, bucket) :: rest =>
      if pick < target.weight then some ⟨target.id, bucket⟩
      else walkWeights (pick - target.weight) rest

/-- The last target is the fallback. -/
def pickByWeight (pick : Int) (tier : List (PlacementTarget × BucketConnection)) :
    Option PlacementTargetSelection :=
  (walkWeights pick tier).or (tier.getLast?.map fun (target, bucket) => ⟨target.id, bucket⟩)

/-- Choose among the candidates of the lowest tier that still have room. -/
def select (organizationId : Id) (sizeBytes : Int)
    (found : List (PlacementTarget × BucketConnection)) :
    Service (Option PlacementTargetSelection) := do
  let fitting ← eligible organizationId sizeBytes found
  match (fitting.map fun entry => entry.1.priorityTier).min? with
  | none => return none
  | some lowestTier =>
      let tier := fitting.filter fun entry => entry.1.priorityTier == lowestTier
      let totalWeight := (tier.map fun entry => entry.1.weight).sum
      let pick ← randomInt totalWeight
      return pickByWeight pick tier

def selectTarget (organizationId namespaceId : Id) (sizeBytes : Int) :
    Service (Option PlacementTargetSelection) := do
  let found ← query (candidates organizationId namespaceId)
  select organizationId sizeBytes found

/-- The join of a target with its policy, its bucket and the bucket's provider in
`assertTargetCapacity`. -/
def isJoined (organizationId namespaceId targetId : Id) (db : Db) (target : PlacementTarget) :
    Bool :=
  target.id == targetId && target.organizationId == organizationId && target.enabled &&
    db.placementPolicy.rows.any (fun policy => policy.id == target.policyId &&
      policy.organizationId == target.organizationId && policy.namespaceId == namespaceId &&
      policy.status == .active) &&
    db.bucketConnection.rows.any (fun bucket => bucket.id == target.bucketConnectionId &&
      bucket.organizationId == target.organizationId && bucket.status == .active &&
      db.providerConnection.rows.any fun provider => provider.id == bucket.providerConnectionId &&
        provider.organizationId == bucket.organizationId && provider.status == .healthy)

/-- Whether a target is still usable and has room, with its row locked. -/
def assertTargetCapacity (organizationId namespaceId targetId : Id) (sizeBytes : Int) :
    Tx Bool := do
  let targets ← Tx.statement fun _ db =>
    let targets := db.placementTarget.filter (isJoined organizationId namespaceId targetId db)
    .ok { value := targets, locks := targets.map fun target => Lock.row "PlacementTarget" target.id }
  match targets with
  | [] => return false
  | target :: _ =>
      match target.configuredCapacityBytes with
      | none => return true
      | some capacity =>
          let usedBytes ← targetUsedBytes organizationId target.bucketConnectionId
          return decide (usedBytes + sizeBytes ≤ capacity * target.thresholdPercent / 100)

end PlacementService

end Mosp.Services
