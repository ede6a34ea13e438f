import Mosp.Access.Listing
import Mosp.Data.Weights

/-!
# Selecting a placement target

What `PlacementService` answers on one snapshot of the database: the same targets pass the
filter with its loop as pass the join with its check, and the pick among them is by weight.
-/

namespace Mosp.Placement

open Mosp.Concurrency Mosp.Data Mosp.Database Mosp.Sql Mosp.Services Mosp.System Mosp.Access
open PlacementService

/-! ## Fit targets -/

/-- `assertTargetCapacity` would return true. -/
def isFit (constraints : Db → Option Failure) (world : World) (organizationId namespaceId : Id)
    (sizeBytes : Int) (targetId : Id) : Bool :=
  match (assertTargetCapacity organizationId namespaceId targetId sizeBytes).run constraints
      world.clock world.state with
  | .ok (fits, _) => fits
  | .error _ => false

/-- There is room in a bucket for the capacity that a target is configured with. -/
def hasRoom (db : Db) (organizationId : Id) (sizeBytes : Int) (target : PlacementTarget)
    (bucketId : Id) : Bool :=
  target.configuredCapacityBytes.all fun capacity => decide (usedBytesOf organizationId bucketId db + sizeBytes ≤
    capacity * target.thresholdPercent / 100)

/-- The filter and the join agree. -/
theorem isJoined_eq (organizationId namespaceId targetId : Id) (db : Db)
    (target : PlacementTarget) :
    isJoined organizationId namespaceId targetId db target =
      (target.id == targetId && isCandidate organizationId namespaceId db target) := by
  unfold isJoined isCandidate
  rw [Bool.eq_iff_iff]
  simp only [Bool.and_eq_true, List.any_eq_true, beq_iff_eq]
  constructor
  · rintro ⟨⟨⟨⟨sameId, own⟩, enabled⟩, policy, policyMem, ⟨⟨policyId, policyOwn⟩, named⟩, active⟩,
      bucket, bucketMem, ⟨⟨bucketId, bucketOwn⟩, bucketActive⟩, provider, providerMem,
      ⟨providerId, providerOwn⟩, healthy⟩
    exact ⟨sameId, ⟨⟨own, enabled⟩, policy, policyMem,
      ⟨⟨⟨policyId, policyOwn⟩, policyOwn.trans own⟩, named⟩, active⟩, bucket, bucketMem,
      ⟨⟨⟨bucketId, bucketOwn⟩, bucketOwn.trans own⟩, bucketActive⟩, provider, providerMem,
      ⟨⟨providerId, providerOwn⟩, providerOwn.trans (bucketOwn.trans own)⟩, healthy⟩
  · rintro ⟨sameId, ⟨⟨own, enabled⟩, policy, policyMem, ⟨⟨⟨policyId, policyOwn⟩, -⟩, named⟩,
      active⟩, bucket, bucketMem, ⟨⟨⟨bucketId, bucketOwn⟩, -⟩, bucketActive⟩, provider,
      providerMem, ⟨⟨providerId, providerOwn⟩, -⟩, healthy⟩
    exact ⟨⟨⟨⟨sameId, own⟩, enabled⟩, policy, policyMem, ⟨⟨policyId, policyOwn⟩, named⟩, active⟩,
      bucket, bucketMem, ⟨⟨bucketId, bucketOwn⟩, bucketActive⟩, provider, providerMem,
      ⟨providerId, providerOwn⟩, healthy⟩

theorem run_assertTargetCapacity {constraints : Db → Option Failure} {time : Time}
    {organizationId namespaceId targetId : Id} {sizeBytes : Int} {state : State Db} :
    (assertTargetCapacity organizationId namespaceId targetId sizeBytes).run constraints time
        state =
      .ok ((state.db.placementTarget.filter
        (isJoined organizationId namespaceId targetId state.db)).head?.any fun target =>
          hasRoom state.db organizationId sizeBytes target target.bucketConnectionId, state) := by
  simp only [assertTargetCapacity, Tx.statement, Program.bind_eq, Program.perform_bind, Tx.run,
    Program.pure_bind]
  cases state.db.placementTarget.filter
      (isJoined organizationId namespaceId targetId state.db) with
  | nil => rfl
  | cons target rest =>
      cases capacity : target.configuredCapacityBytes with
      | none => simp [hasRoom, capacity, Program.pure_eq, Tx.run]
      | some bytes =>
          simp [hasRoom, capacity, Program.pure_eq, Tx.run, targetUsedBytes, Tx.read,
            Tx.statement]

/-- The check passes for the candidates that have room. -/
theorem isFit_iff {constraints : Db → Option Failure} {world : World}
    {organizationId namespaceId : Id} {sizeBytes : Int} {target : PlacementTarget}
    (member : target ∈ world.db.placementTarget) :
    isFit constraints world organizationId namespaceId sizeBytes target.id = true ↔
      isCandidate organizationId namespaceId world.db target = true ∧
        hasRoom world.db organizationId sizeBytes target target.bucketConnectionId = true := by
  have byId : ∀ other ∈ world.db.placementTarget,
      isJoined organizationId namespaceId target.id world.db other = true →
        Row.id other = target.id := by
    intro other _ joined
    rw [isJoined_eq, Bool.and_eq_true] at joined
    exact beq_iff_eq.mp joined.1
  rw [isFit, run_assertTargetCapacity]
  change (world.db.placementTarget.filter
    (isJoined organizationId namespaceId target.id world.db)).head?.any _ = true ↔ _
  rcases Table.filter_byId byId with none | ⟨other, otherMem, joined, only⟩
  · have unjoined : ¬ isCandidate organizationId namespaceId world.db target = true := by
      intro candidate
      have joined : target ∈ world.db.placementTarget.filter
          (isJoined organizationId namespaceId target.id world.db) := by
        rw [Table.mem_filter, isJoined_eq, candidate]
        exact ⟨member, by simp⟩
      rw [none] at joined
      cases joined
    rw [none]
    simp [unjoined]
  · obtain rfl := Table.eq_of_id_eq otherMem member (byId other otherMem joined)
    rw [isJoined_eq, Bool.and_eq_true] at joined
    rw [only]
    simp [joined.2]
    rfl

/-! ## The selection -/

/-- The candidates with their buckets, in the order in which they are asked. -/
def candidateList (db : Db) (organizationId namespaceId : Id) :
    List (PlacementTarget × BucketConnection) :=
  (placementTarget.select (isCandidate organizationId namespaceId db) candidateOrder db).filterMap
    fun target => (db.bucketConnection.find? fun bucket =>
      bucket.id == target.bucketConnectionId).map (target, ·)

theorem wp_candidates {constraints : Db → Option Failure} {time : Time}
    {organizationId namespaceId : Id}
    {returns : List (PlacementTarget × BucketConnection) → State Db → Prop}
    {throws : Failure → Prop} {state : State Db} :
    Tx.wp constraints time (candidates organizationId namespaceId) returns throws state ↔
      returns (candidateList state.db organizationId namespaceId) state := by
  unfold candidates
  rw [Program.bind_eq, Tx.wp_bind, Tx.wp_read, Program.bind_eq, Tx.wp_bind, Tx.wp_findMany,
    Program.pure_eq, Tx.wp_pure, candidateList]
  generalize placementTarget.select _ _ state.db = targets
  have located : ∀ target ∈ targets,
      ((bucketConnection.select (fun bucket => targets.any fun target =>
          target.bucketConnectionId == bucket.id) (fun _ _ => true) state.db).find?
        fun bucket => bucket.id == target.bucketConnectionId) =
      state.db.bucketConnection.find? fun bucket => bucket.id == target.bucketConnectionId := by
    intro target member
    apply find?_select
    · intro bucket _ wanted
      have same := beq_iff_eq.mp wanted
      exact List.any_eq_true.mpr ⟨target, member, beq_iff_eq.mpr same.symm⟩
    · intro first _ second _ isFirst isSecond
      exact (beq_iff_eq.mp isFirst).trans (beq_iff_eq.mp isSecond).symm
  have same : (targets.filterMap fun target =>
      ((bucketConnection.select (fun bucket => targets.any fun target =>
          target.bucketConnectionId == bucket.id) (fun _ _ => true) state.db).find?
        fun bucket => bucket.id == target.bucketConnectionId).map (target, ·)) =
      targets.filterMap fun target =>
        (state.db.bucketConnection.find? fun bucket =>
          bucket.id == target.bucketConnectionId).map (target, ·) :=
    List.filterMap_congr fun target member => by rw [located target member]
  rw [Option.elim_none, same]

variable {constraints : Db → Option Failure} {may : {β : Type} → Command β → Choice → Prop}
  {α : Type} {ends : Except Failure α → World → Prop} {world : World}
  {organizationId namespaceId : Id} {sizeBytes : Int}

theorem ends_eligible (answers : Answers may) (found : List (PlacementTarget × BucketConnection))
    {rest : List (PlacementTarget × BucketConnection) → Service α}
    (holds : EndsAlone constraints may (rest (found.filter fun entry =>
      hasRoom world.db organizationId sizeBytes entry.1 entry.2.id)) ends world) :
    EndsAlone constraints may (Program.bind (eligible organizationId sizeBytes found) rest) ends
      world := by
  induction found generalizing rest with
  | nil => exact holds
  | cons entry others ih =>
      obtain ⟨target, bucket⟩ := entry
      unfold eligible
      rw [Program.bind_eq, Program.bind_assoc]
      apply EndsAlone.query (answers _)
      unfold targetUsedBytes
      rw [Tx.wp_read, Program.bind_eq, Program.bind_assoc]
      apply ih
      rw [List.filter_cons] at holds
      cases capacity : target.configuredCapacityBytes with
      | none =>
          rw [if_pos (by simp [hasRoom, capacity])] at holds
          exact holds
      | some bytes =>
          by_cases full : usedBytesOf organizationId bucket.id world.state.db + sizeBytes >
              bytes * target.thresholdPercent / 100
          · have crowded : ¬ hasRoom world.db organizationId sizeBytes target bucket.id = true := by
              rw [hasRoom, capacity]
              exact fun fits => absurd (of_decide_eq_true fits) (not_le.mpr full)
            rw [if_neg crowded] at holds
            dsimp only
            rw [if_pos full]
            exact holds
          · have roomy : hasRoom world.db organizationId sizeBytes target bucket.id = true := by
              rw [hasRoom, capacity]
              exact decide_eq_true (not_lt.mp full)
            rw [if_pos roomy] at holds
            dsimp only
            rw [if_neg full]
            exact holds

/-- The candidates that have room. -/
def fitting (db : Db) (organizationId namespaceId : Id) (sizeBytes : Int) :
    List (PlacementTarget × BucketConnection) :=
  (candidateList db organizationId namespaceId).filter fun entry =>
    hasRoom db organizationId sizeBytes entry.1 entry.2.id

/-- Random numbers are the given one, and no query fails. -/
def Picks (pick : Nat) {β : Type} (command : Command β) (choice : Choice) : Prop :=
  choice.failure = none ∧ match command with
    | .randomInt _ => choice.number = pick
    | _ => True

theorem ends_selectTarget_none (answers : Answers may)
    (nothing : fitting world.db organizationId namespaceId sizeBytes = [])
    {ends : Except Failure (Option PlacementTargetSelection) → World → Prop}
    (holds : ends (.ok none) world) :
    EndsAlone constraints may (selectTarget organizationId namespaceId sizeBytes) ends world := by
  unfold selectTarget PlacementService.select
  rw [Program.bind_eq]
  apply EndsAlone.query (answers _)
  rw [wp_candidates, Program.bind_eq]
  apply ends_eligible answers
  have none_left : (candidateList world.state.db organizationId namespaceId).filter (fun entry =>
      hasRoom world.db organizationId sizeBytes entry.1 entry.2.id) = [] := nothing
  rw [none_left]
  exact holds

theorem ends_selectTarget_some (answers : Answers may) {lowestTier : Int}
    (lowest : ((fitting world.db organizationId namespaceId sizeBytes).map
      fun entry => entry.1.priorityTier).min? = some lowestTier)
    {ends : Except Failure (Option PlacementTargetSelection) → World → Prop}
    (holds : ∀ choice, may (.randomInt (totalWeight (fun entry => entry.1.weight)
          ((fitting world.db organizationId namespaceId sizeBytes).filter fun entry =>
            entry.1.priorityTier == lowestTier))) choice →
      ends (.ok (pickByWeight choice.number
        ((fitting world.db organizationId namespaceId sizeBytes).filter fun entry =>
          entry.1.priorityTier == lowestTier))) world) :
    EndsAlone constraints may (selectTarget organizationId namespaceId sizeBytes) ends world := by
  unfold selectTarget PlacementService.select
  rw [Program.bind_eq]
  apply EndsAlone.query (answers _)
  rw [wp_candidates, Program.bind_eq]
  apply ends_eligible answers
  have least : (((candidateList world.state.db organizationId namespaceId).filter fun entry =>
      hasRoom world.db organizationId sizeBytes entry.1 entry.2.id).map
        fun entry => entry.1.priorityTier).min? = some lowestTier := lowest
  simp only [least]
  exact fun choice chosen => ⟨_, world, rfl, holds choice chosen⟩

/-! ## Shares of the pick range -/

theorem walkWeights_eq (pick : Int) (tier : List (PlacementTarget × BucketConnection)) :
    walkWeights pick tier =
      (itemAt (fun entry => entry.1.weight) pick tier).map fun entry => ⟨entry.1.id, entry.2⟩ := by
  induction tier generalizing pick with
  | nil => rfl
  | cons entry rest ih =>
      unfold walkWeights itemAt
      split
      · rfl
      · exact ih _

/-- Each candidate is asked about with its own bucket. -/
theorem map_fst_filter {db : Db} {targets : List PlacementTarget}
    (located : ∀ target ∈ targets, ∃ bucket, bucket.id = target.bucketConnectionId ∧
      (db.bucketConnection.find? fun bucket => bucket.id == target.bucketConnectionId) =
        some bucket) :
    ((targets.filterMap fun target => (db.bucketConnection.find? fun bucket =>
        bucket.id == target.bucketConnectionId).map (target, ·)).filter fun entry =>
          hasRoom db organizationId sizeBytes entry.1 entry.2.id).map Prod.fst =
      targets.filter fun target =>
        hasRoom db organizationId sizeBytes target target.bucketConnectionId := by
  induction targets with
  | nil => rfl
  | cons target rest ih =>
      obtain ⟨bucket, own, found⟩ := located target List.mem_cons_self
      have inner := ih fun other member => located other (List.mem_cons_of_mem _ member)
      rw [List.filterMap_cons, found]
      dsimp only [Option.map_some]
      rw [List.filter_cons, List.filter_cons]
      dsimp only
      rw [own]
      split
      · rw [List.map_cons, inner]
      · exact inner

/-- The fitting candidates are the fit targets. -/
theorem fitting_perm :
    ((fitting world.db organizationId namespaceId sizeBytes).map Prod.fst).Perm
      (world.db.placementTarget.filter fun target =>
        isFit constraints world organizationId namespaceId sizeBytes target.id) := by
  have located : ∀ target ∈ placementTarget.select
      (isCandidate organizationId namespaceId world.db) candidateOrder world.db,
      ∃ bucket, bucket.id = target.bucketConnectionId ∧
        (world.db.bucketConnection.find? fun bucket => bucket.id == target.bucketConnectionId) =
          some bucket := by
    intro target member
    rw [Relation.select, List.mem_insertionSort, Table.mem_filter] at member
    have candidate := member.2
    simp only [isCandidate, Bool.and_eq_true, List.any_eq_true, beq_iff_eq] at candidate
    obtain ⟨-, bucket, bucketMem, ⟨⟨⟨own, -⟩, -⟩, -⟩, -⟩ := candidate
    refine ⟨bucket, own, Table.find?_eq_some_of_id bucketMem (beq_iff_eq.mpr own) ?_⟩
    intro other _ same
    exact (beq_iff_eq.mp same).trans own.symm
  have sorted : (placementTarget.select (isCandidate organizationId namespaceId world.db)
      candidateOrder world.db).Perm
        (world.db.placementTarget.filter (isCandidate organizationId namespaceId world.db)) :=
    List.perm_insertionSort _ _
  have fit : (world.db.placementTarget.filter fun target =>
      isFit constraints world organizationId namespaceId sizeBytes target.id) =
      (world.db.placementTarget.filter
        (isCandidate organizationId namespaceId world.db)).filter fun target =>
          hasRoom world.db organizationId sizeBytes target target.bucketConnectionId := by
    rw [Table.filter, Table.filter, List.filter_filter]
    apply List.filter_congr
    intro target member
    rw [Bool.eq_iff_iff, isFit_iff member, Bool.and_eq_true, and_comm]
  rw [fitting, candidateList, map_fst_filter located, fit]
  exact sorted.filter _

end Mosp.Placement
