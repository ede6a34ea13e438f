import Mosp.System.Outcomes
import Mosp.Worker.Scheduling

/-!
# Guarantees about the migration scheduler

Every claimed item runs once, and never too many at a provider together.
-/

namespace Mosp.Guarantees

open Mosp.Concurrency Mosp.Database Mosp.Sql Mosp.Services Mosp.System
open Mosp.Worker Mosp.Worker.MigrationReconciliationService

/-- The loop over the claimed items comes to its end after at most one round for each of them,
and if no call rejected, every item ran in one of the rounds.  Items whose source and target
differ come with distinct keys. -/
theorem scheduler_runs_once (constraints : Db → Option Failure) (world : World)
    (maxConcurrentPerProvider : Nat) (positive : 1 ≤ maxConcurrentPerProvider)
    (processItem : Processing) (claimedItems : List ClaimedItem)
    (distinct : DistinctKeys claimedItems) :
    (∃ ended, (∀ fuel, claimedItems.length ≤ fuel →
        batchLoop maxConcurrentPerProvider processItem fuel claimedItems {} = ended) ∧
      Finished maxConcurrentPerProvider processItem claimedItems ended) ∧
    ∀ item : MigrationItem, item.sourceBucketConnectionId ≠ item.targetBucketConnectionId →
      (∀ found, (providerKeysFrom item found).Nodup) ∧
        Returns constraints (providerKeysForItem item) (fun providerKeys _ =>
          ∃ found, providerKeys = providerKeysFrom item found) world := by
  constructor
  · apply batchLoop_finished positive distinct (List.Sublist.refl _)
    constructor
    · exact nofun
    · exact .refl _
    · exact nofun
    · exact nofun
    · exact nofun
    · rfl
    · rfl
  · intro item differ
    constructor
    · exact nodup_providerKeysFrom differ
    · rw [providerKeysForItem]
      apply Returns.bind
      apply Returns.query
      rw [Tx.wp_findMany]
      exact Returns.pure ⟨some _, rfl⟩

namespace Scheduling

/-- An item that moves an object between two buckets. -/
def work (id : Id) : ClaimedItem where
  item := {
    id, organizationId := 1, migrationRunId := 2, objectRecordId := 3, sourceLocationId := 4
    sourceBucketConnectionId := 5, targetBucketConnectionId := 6
    sourcePhysicalKey := .object 9 10, targetPhysicalKey := .migration 9 2 11, sizeBytes := 10 }
  previousState := .pending
  providerKeys := [7, 8]

end Scheduling

open Scheduling in
/-- Items that share a provider run one after the other if the limit is one. -/
theorem scheduler_runs_once_example :
    batchLoop 1 (fun _ _ => some .completed) 2 [work 10, work 11] {} =
        .returned ⟨[[(work 10, .completed)], [(work 11, .completed)]], 2, 0⟩ ∧
      Finished 1 (fun _ _ => some .completed) [work 10, work 11]
        (batchLoop 1 (fun _ _ => some .completed) 2 [work 10, work 11] {}) := by
  constructor
  · rfl
  · obtain ⟨ended, ends, finished⟩ :=
      (scheduler_runs_once (fun _ => none) ⟨⟨{}, 100⟩, fun _ => none, 0⟩ 1 (by decide)
        (fun _ _ => some .completed) [work 10, work 11] (by unfold DistinctKeys; decide)).1
    rwa [ends 2 (by decide)]

end Mosp.Guarantees
