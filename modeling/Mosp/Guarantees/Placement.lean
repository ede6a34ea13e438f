import Mosp.Index.CompletionCommit
import Mosp.Placement.Selection

/-!
# Guarantees about placement

The selection of a placement target is exact: it fails only where no target is fit, and each
fit target of the lowest tier gets as many picks as its weight says.
-/

namespace Mosp.Guarantees

open Mosp.Concurrency Mosp.Data Mosp.Database Mosp.Sql Mosp.Services Mosp.System Mosp.Access
open Mosp.Placement PlacementService

/-- The bounds that are checked when a target is configured. -/
structure Configured (target : PlacementTarget) : Prop where
  weight : 1 ≤ target.weight
  tier : 0 ≤ target.priorityTier
  capacity : ∀ bytes, target.configuredCapacityBytes = some bytes → 0 ≤ bytes
  threshold : 0 ≤ target.thresholdPercent ∧ target.thresholdPercent ≤ 100

/-- The targets that the admission check would let in. -/
def fitTargets (constraints : Db → Option Failure) (world : World)
    (organizationId namespaceId : Id) (sizeBytes : Int) : List PlacementTarget :=
  world.db.placementTarget.filter fun target =>
    isFit constraints world organizationId namespaceId sizeBytes target.id

/-- The fit targets of a tier. -/
def fitTier (constraints : Db → Option Failure) (world : World)
    (organizationId namespaceId : Id) (sizeBytes lowestTier : Int) : List PlacementTarget :=
  (fitTargets constraints world organizationId namespaceId sizeBytes).filter fun target =>
    target.priorityTier == lowestTier

/-- What the code walks along. -/
def tierEntries (db : Db) (organizationId namespaceId : Id) (sizeBytes lowestTier : Int) :
    List (PlacementTarget × BucketConnection) :=
  (fitting db organizationId namespaceId sizeBytes).filter fun entry =>
    entry.1.priorityTier == lowestTier

section

variable {constraints : Db → Option Failure} {world : World} {organizationId namespaceId : Id}
  {sizeBytes lowestTier : Int}

theorem tierEntries_perm :
    ((tierEntries world.db organizationId namespaceId sizeBytes lowestTier).map Prod.fst).Perm
      (fitTier constraints world organizationId namespaceId sizeBytes lowestTier) := by
  have filtered := (@fitting_perm constraints world organizationId namespaceId sizeBytes).filter
    fun target => target.priorityTier == lowestTier
  rwa [List.filter_map] at filtered

/-- The weights that the code adds up. -/
theorem totalWeight_tierEntries :
    totalWeight (fun entry => entry.1.weight)
        (tierEntries world.db organizationId namespaceId sizeBytes lowestTier) =
      totalWeight PlacementTarget.weight
        (fitTier constraints world organizationId namespaceId sizeBytes lowestTier) := by
  have same := (@tierEntries_perm constraints world organizationId namespaceId sizeBytes
    lowestTier).map PlacementTarget.weight
  rw [List.map_map] at same
  exact same.sum_eq

theorem lowest_of_fit
    (reached : ∃ target ∈ fitTargets constraints world organizationId namespaceId sizeBytes,
      target.priorityTier = lowestTier)
    (least : ∀ target ∈ fitTargets constraints world organizationId namespaceId sizeBytes,
      lowestTier ≤ target.priorityTier) :
    ((fitting world.db organizationId namespaceId sizeBytes).map
      fun entry => entry.1.priorityTier).min? = some lowestTier := by
  have same := (@fitting_perm constraints world organizationId namespaceId sizeBytes).map
    PlacementTarget.priorityTier
  rw [List.map_map] at same
  rw [List.min?_eq_some_iff]
  constructor
  · obtain ⟨target, member, rfl⟩ := reached
    exact same.mem_iff.mpr (List.mem_map_of_mem member)
  · intro tier member
    obtain ⟨target, fit, rfl⟩ := List.mem_map.mp (same.mem_iff.mp member)
    exact least target fit

/-- The weight of one target of a tier. -/
theorem totalWeight_single {target : PlacementTarget}
    (member : target ∈ fitTier constraints world organizationId namespaceId sizeBytes lowestTier) :
    totalWeight (fun entry => entry.1.weight)
        ((tierEntries world.db organizationId namespaceId sizeBytes lowestTier).filter
          fun entry => entry.1.id == target.id) =
      target.weight := by
  have same := ((@tierEntries_perm constraints world organizationId namespaceId sizeBytes
    lowestTier).filter fun other => other.id == target.id).map PlacementTarget.weight
  rw [List.filter_map, List.map_map] at same
  have only : (fitTier constraints world organizationId namespaceId sizeBytes lowestTier).filter
      (fun other => other.id == target.id) = [target] := by
    let wanted : PlacementTarget → Bool := fun other =>
      other.id == target.id && other.priorityTier == lowestTier &&
        isFit constraints world organizationId namespaceId sizeBytes other.id
    have joined : (fitTier constraints world organizationId namespaceId sizeBytes
        lowestTier).filter (fun other => other.id == target.id) =
          world.db.placementTarget.filter wanted := by
      rw [fitTier, fitTargets, Table.filter, Table.filter, List.filter_filter,
        List.filter_filter]
    have inside : target ∈ world.db.placementTarget.filter wanted := by
      rw [← joined]
      exact List.mem_filter.mpr ⟨member, by simp⟩
    have byId : ∀ other ∈ world.db.placementTarget, wanted other = true →
        Row.id other = target.id := by
      intro other _ holds
      simp only [wanted, Bool.and_eq_true, beq_iff_eq] at holds
      exact holds.1.1
    rw [joined]
    rcases Table.filter_byId byId with none | ⟨other, -, -, only⟩
    · rw [none] at inside
      cases inside
    · rw [only] at inside ⊢
      rw [List.mem_singleton.mp inside]
  rw [only] at same
  exact same.sum_eq.trans (by simp)

/-- The lowest tier has a target. -/
theorem tierEntries_nonempty
    (lowest : ((fitting world.db organizationId namespaceId sizeBytes).map
      fun entry => entry.1.priorityTier).min? = some lowestTier) :
    ∃ entry, entry ∈ tierEntries world.db organizationId namespaceId sizeBytes lowestTier := by
  obtain ⟨entry, member, same⟩ := List.mem_map.mp (List.min?_eq_some_iff.mp lowest).1
  exact ⟨entry, List.mem_filter.mpr ⟨member, beq_iff_eq.mpr same⟩⟩

end

/-- Nothing is selected exactly if nothing is fit.  Otherwise each fit target of the lowest tier
is selected by as many picks as its weight says, and each pick within the weights selects one
while walking along them. -/
theorem weighted_placement_exact {constraints : Db → Option Failure} {world : World}
    {organizationId namespaceId : Id} {sizeBytes : Int}
    (configured : ∀ target ∈ world.db.placementTarget, Configured target) :
    EndsAlone constraints Calm (selectTarget organizationId namespaceId sizeBytes)
        (fun result after => after = world ∧ ∃ selection, result = .ok selection ∧
          (selection = none ↔
            fitTargets constraints world organizationId namespaceId sizeBytes = [])) world ∧
    ∀ lowestTier,
      (∃ target ∈ fitTargets constraints world organizationId namespaceId sizeBytes,
        target.priorityTier = lowestTier) →
      (∀ target ∈ fitTargets constraints world organizationId namespaceId sizeBytes,
        lowestTier ≤ target.priorityTier) →
      0 < totalWeight PlacementTarget.weight
          (fitTier constraints world organizationId namespaceId sizeBytes lowestTier) ∧
      ∃ tier : List (PlacementTarget × BucketConnection),
        (tier.map Prod.fst).Perm
          (fitTier constraints world organizationId namespaceId sizeBytes lowestTier) ∧
        (∀ pick : Nat, (pick : Int) < totalWeight PlacementTarget.weight
            (fitTier constraints world organizationId namespaceId sizeBytes lowestTier) →
          ∃ entry ∈ tier, walkWeights pick tier = some ⟨entry.1.id, entry.2⟩ ∧
            EndsAlone constraints (Picks pick) (selectTarget organizationId namespaceId sizeBytes)
              (fun result after => after = world ∧
                result = .ok (some ⟨entry.1.id, entry.2⟩)) world) ∧
        ∀ target ∈ fitTier constraints world organizationId namespaceId sizeBytes lowestTier,
          ((List.range (totalWeight PlacementTarget.weight (fitTier constraints world
              organizationId namespaceId sizeBytes lowestTier)).toNat).countP fun (pick : Nat) =>
            (walkWeights pick tier).any fun selection => selection.id == target.id : Int) =
          target.weight := by
  have positive : ∀ tier, ∀ entry ∈ tierEntries world.db organizationId namespaceId sizeBytes tier,
      1 ≤ entry.1.weight := by
    intro tier entry member
    have fit := (@tierEntries_perm constraints world organizationId namespaceId sizeBytes
      tier).mem_iff.mp (List.mem_map_of_mem member)
    rw [fitTier, fitTargets] at fit
    exact (configured entry.1 (Table.mem_filter.mp (List.mem_filter.mp fit).1).1).weight
  have found : ∀ tier (pick : Nat), (pick : Int) < totalWeight (fun entry => entry.1.weight)
        (tierEntries world.db organizationId namespaceId sizeBytes tier) →
      ∃ entry ∈ tierEntries world.db organizationId namespaceId sizeBytes tier,
        walkWeights pick (tierEntries world.db organizationId namespaceId sizeBytes tier) =
          some ⟨entry.1.id, entry.2⟩ := by
    intro tier pick below
    obtain ⟨entry, picked⟩ := Option.isSome_iff_exists.mp (itemAt_isSome below (by omega))
    exact ⟨entry, itemAt_mem picked, by rw [walkWeights_eq, picked, Option.map_some]⟩
  have nonneg : ∀ tier, ∀ entry ∈ tierEntries world.db organizationId namespaceId sizeBytes tier,
      0 ≤ entry.1.weight := by
    intro tier entry member
    have least := positive tier entry member
    omega
  have total : ∀ tier, ((fitting world.db organizationId namespaceId sizeBytes).map
        fun entry => entry.1.priorityTier).min? = some tier →
      0 < totalWeight (fun entry => entry.1.weight)
        (tierEntries world.db organizationId namespaceId sizeBytes tier) := by
    intro tier lowest
    obtain ⟨entry, member⟩ := tierEntries_nonempty lowest
    have least := positive tier entry member
    have part := le_totalWeight (nonneg tier) member
    omega
  constructor
  · have same := @fitting_perm constraints world organizationId namespaceId sizeBytes
    cases lowest : ((fitting world.db organizationId namespaceId sizeBytes).map
        fun entry => entry.1.priorityTier).min? with
    | none =>
        rw [List.min?_eq_none_iff, List.map_eq_nil_iff] at lowest
        rw [lowest] at same
        apply ends_selectTarget_none answers_calm lowest
        exact ⟨rfl, none, rfl, iff_of_true rfl same.nil_eq.symm⟩
    | some tier =>
        apply ends_selectTarget_some answers_calm lowest
        intro choice calm
        obtain ⟨entry, -, walked⟩ := found tier choice.number (calm.2 (total tier lowest))
        have picked : pickByWeight choice.number
            (tierEntries world.db organizationId namespaceId sizeBytes tier) =
              some ⟨entry.1.id, entry.2⟩ := by
          rw [pickByWeight, walked, Option.some_or]
        refine ⟨rfl, _, congrArg Except.ok picked, iff_of_false (Option.some_ne_none _) ?_⟩
        intro nothing
        change List.Perm _ (fitTargets constraints world organizationId namespaceId sizeBytes)
          at same
        rw [nothing] at same
        rw [List.map_eq_nil_iff.mp same.eq_nil] at lowest
        cases lowest
  · intro lowestTier reached least
    have lowest := lowest_of_fit reached least
    rw [← totalWeight_tierEntries]
    constructor
    · exact total lowestTier lowest
    use tierEntries world.db organizationId namespaceId sizeBytes lowestTier
    refine ⟨tierEntries_perm, ?_, ?_⟩
    · intro pick below
      obtain ⟨entry, member, walked⟩ := found lowestTier pick below
      refine ⟨entry, member, walked, ends_selectTarget_some (fun _ _ picks => picks.1) lowest ?_⟩
      intro choice picks
      have same : choice.number = pick := picks.2
      refine ⟨rfl, ?_⟩
      change Except.ok (pickByWeight choice.number
        (tierEntries world.db organizationId namespaceId sizeBytes lowestTier)) = _
      rw [same, pickByWeight, walked, Option.some_or]
    · intro target member
      have counted := countP_itemAt (nonneg lowestTier) fun entry => entry.1.id == target.id
      rw [totalWeight_single member] at counted
      simpa only [walkWeights_eq, Option.any_map, Function.comp_def] using counted

namespace Shares

def larger : PlacementTarget :=
  { id := 14
    policyId := 11
    organizationId := 1
    bucketConnectionId := 6
    weight := 3
    configuredCapacityBytes := some 50
    thresholdPercent := 80 }

def smaller : PlacementTarget :=
  { id := 12, policyId := 11, organizationId := 1, bucketConnectionId := 6, weight := 1 }

/-- Two targets in one tier. -/
def world : World :=
  { state := ⟨{ Index.Overwrite.base with placementTarget := .ofRows [smaller, larger] }, 50⟩
    objects := fun _ => none
    clock := 0 }

theorem configured : ∀ target ∈ world.db.placementTarget, Configured target := by
  intro target member
  have cases : target = smaller ∨ target = larger := by
    simpa [world, World.db] using List.mem_cons.mp member
  rcases cases with rfl | rfl
  · exact ⟨by decide, by decide, nofun, by decide⟩
  · refine ⟨by decide, by decide, ?_, by decide⟩
    rintro _ ⟨⟩
    decide

end Shares

/-- The target of weight 3 gets three of four picks. -/
theorem weighted_placement_exact_example :
    ∃ tier : List (PlacementTarget × BucketConnection),
      (tier.map Prod.fst).Perm (fitTier violation Shares.world 1 3 5 0) ∧
      ((List.range 4).countP fun (pick : Nat) =>
        (walkWeights pick tier).any fun selection => selection.id == 14 : Int) = 3 := by
  have fit : fitTargets violation Shares.world 1 3 5 = [Shares.smaller, Shares.larger] := by
    have first : isFit violation Shares.world 1 3 5 12 = true := by decide +kernel
    have second : isFit violation Shares.world 1 3 5 14 = true := by decide +kernel
    change [Shares.smaller, Shares.larger].filter (fun target =>
      isFit violation Shares.world 1 3 5 target.id) = _
    simp [Shares.smaller, Shares.larger, first, second]
  have tier : fitTier violation Shares.world 1 3 5 0 = [Shares.smaller, Shares.larger] := by
    rw [fitTier, fit]
    rfl
  have reached : ∃ target ∈ fitTargets violation Shares.world 1 3 5, target.priorityTier = 0 := by
    rw [fit]
    exact ⟨Shares.smaller, List.mem_cons_self, rfl⟩
  have least : ∀ target ∈ fitTargets violation Shares.world 1 3 5, 0 ≤ target.priorityTier :=
    fun target member => (Shares.configured target (Table.mem_filter.mp member).1).tier
  obtain ⟨-, entries, same, -, shares⟩ :=
    (weighted_placement_exact Shares.configured).2 0 reached least
  use entries
  constructor
  · exact same
  · have share := shares Shares.larger (by rw [tier]; simp)
    rw [tier] at share
    exact share

end Mosp.Guarantees
