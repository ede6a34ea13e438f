import Mosp.Worker.MigrationReconciliation
import Mathlib.Data.List.Perm.Basic
import Mathlib.Logic.Function.Basic

/-!
# The batching loop of the migration worker

The loop of `reconcile` that hands the claimed items to `Promise.all` in rounds, with its
map of active providers and its two counters.  What `processItem` returns is given from
outside.
-/

namespace Mosp.Worker.MigrationReconciliationService

open Mosp.Database

/-- What `processItem` returns. -/
inductive ItemResult where
  | completed
  | failed
  | skipped
deriving DecidableEq

/-! ## One round -/

/-- The variables of the loop over the pending items. -/
structure Selection where
  selected : List ClaimedItem := []
  deferred : List ClaimedItem := []
  activeByProvider : Id → Nat := fun _ => 0

/-- Count one more active item for each key. -/
def addKeys (activeByProvider : Id → Nat) (providerKeys : List Id) : Id → Nat :=
  providerKeys.foldl (fun active key => Function.update active key (active key + 1))
    activeByProvider

def selectWork (maxConcurrentPerProvider : Nat) (selection : Selection) (work : ClaimedItem) :
    Selection :=
  let canRun := work.providerKeys.all fun key =>
    selection.activeByProvider key < maxConcurrentPerProvider
  if !canRun && decide (selection.selected.length > 0) then
    { selection with deferred := selection.deferred ++ [work] }
  else
    { selection with
      selected := selection.selected ++ [work]
      activeByProvider := addKeys selection.activeByProvider work.providerKeys }

def selectRound (maxConcurrentPerProvider : Nat) (pending : List ClaimedItem) : Selection :=
  pending.foldl (selectWork maxConcurrentPerProvider) {}

/-- The items of a round: those selected, or else the first one. -/
def roundOf (pending selected : List ClaimedItem) : List ClaimedItem :=
  if selected.length = 0 then pending.head?.toList else selected

/-! ## All rounds -/

/-- What the loop has done: the items of each round with what came back for them, and the
counters. -/
structure Batches where
  rounds : List (List (ClaimedItem × ItemResult)) := []
  completed : Nat := 0
  failed : Nat := 0

/-- Count the results of a round. -/
def Batches.add (batches : Batches) (round : List (ClaimedItem × ItemResult)) : Batches where
  rounds := batches.rounds ++ [round]
  completed := round.foldl
    (fun completed entry => if entry.2 = .completed then completed + 1 else completed)
    batches.completed
  failed := round.foldl
    (fun failed entry => if entry.2 = .failed then failed + 1 else failed) batches.failed

/-- What comes back for an item of the round with a number: nothing if the call rejects. -/
abbrev Processing :=
  Nat → ClaimedItem → Option ItemResult

/-- `Promise.all` over a round: all results, or nothing as soon as one call rejects. -/
def settle (processItem : Processing) (number : Nat) :
    List ClaimedItem → Option (List (ClaimedItem × ItemResult))
  | [] => some []
  | work :: rest => do
      let result ← processItem number work
      let results ← settle processItem number rest
      return (work, result) :: results

/-- How the loop ends. -/
inductive LoopEnd where
  | returned (batches : Batches)
  /-- A call of the round after these rejected. -/
  | rejected (batches : Batches)
  /-- There were more rounds than fuel. -/
  | cutOff

def batchLoop (maxConcurrentPerProvider : Nat) (processItem : Processing) :
    Nat → List ClaimedItem → Batches → LoopEnd
  | 0, pending, batches => if pending.length > 0 then .cutOff else .returned batches
  | fuel + 1, pending, batches =>
      if pending.length > 0 then
        let selection := selectRound maxConcurrentPerProvider pending
        let round := roundOf pending selection.selected
        match settle processItem batches.rounds.length round with
        | none => .rejected batches
        | some results =>
            batchLoop maxConcurrentPerProvider processItem fuel selection.deferred
              (batches.add results)
      else
        .returned batches

/-- The keys of an item, from the buckets that were found; without `findMany` they are the
buckets themselves. -/
def providerKeysFrom (item : MigrationItem) (found : Option (List BucketConnection)) : List Id :=
  let fallback := [item.sourceBucketConnectionId, item.targetBucketConnectionId]
  match found with
  | none => fallback
  | some buckets =>
      (fallback.map fun bucketId =>
        ((buckets.find? fun bucket => bucket.id == bucketId).map
          BucketConnection.providerConnectionId).getD bucketId).eraseDups

/-! ## What a round selects -/

variable {maxConcurrentPerProvider : Nat} {pending : List ClaimedItem} {selection : Selection}
  {work : ClaimedItem}

/-- Each key is listed once. -/
def DistinctKeys (items : List ClaimedItem) : Prop :=
  ∀ work ∈ items, work.providerKeys.Nodup

theorem addKeys_apply {active : Id → Nat} {keys : List Id} (distinct : keys.Nodup) (key : Id) :
    addKeys active keys key = active key + if key ∈ keys then 1 else 0 := by
  induction keys generalizing active with
  | nil => rfl
  | cons first rest ih =>
      have parts := List.nodup_cons.mp distinct
      have step : addKeys active (first :: rest) =
          addKeys (Function.update active first (active first + 1)) rest := rfl
      rw [step, ih parts.2]
      by_cases same : key = first
      · subst same
        simp [parts.1]
      · simp [same]

/-- What the loop over the pending items keeps: the map counts the selected items, a key is
never used too often, and only what was seen is selected or deferred. -/
structure Selecting (maxConcurrentPerProvider : Nat) (seen : List ClaimedItem)
    (selection : Selection) : Prop where
  counts : ∀ key, selection.activeByProvider key = activeByProvider selection.selected key
  bounded : ∀ key, activeByProvider selection.selected key ≤ maxConcurrentPerProvider
  parts : (selection.selected ++ selection.deferred).Perm seen
  selectedOrder : selection.selected.Sublist seen
  deferredOrder : selection.deferred.Sublist seen
  progress : seen ≠ [] → selection.selected ≠ []

theorem activeByProvider_append {selected : List ClaimedItem} {key : Id} :
    activeByProvider (selected ++ [work]) key =
      activeByProvider selected key + if key ∈ work.providerKeys then 1 else 0 := by
  by_cases member : key ∈ work.providerKeys <;> simp [activeByProvider, member]

theorem Selecting.step {seen : List ClaimedItem}
    (selecting : Selecting maxConcurrentPerProvider seen selection)
    (positive : 1 ≤ maxConcurrentPerProvider) (distinct : work.providerKeys.Nodup) :
    Selecting maxConcurrentPerProvider (seen ++ [work])
      (selectWork maxConcurrentPerProvider selection work) := by
  unfold selectWork
  dsimp only
  split
  · rename_i defer
    simp only [Bool.and_eq_true, decide_eq_true_eq] at defer
    constructor
    · exact selecting.counts
    · exact selecting.bounded
    · rw [← List.append_assoc]
      exact selecting.parts.append_right [work]
    · exact selecting.selectedOrder.trans (List.sublist_append_left _ _)
    · exact selecting.deferredOrder.append (List.Sublist.refl _)
    · exact fun _ => List.ne_nil_of_length_pos defer.2
  · rename_i run
    have free : ∀ key ∈ work.providerKeys,
        activeByProvider selection.selected key < maxConcurrentPerProvider := by
      intro key member
      cases chosen : selection.selected with
      | nil => exact positive
      | cons first rest =>
          simp only [chosen, List.length_cons, gt_iff_lt, Nat.zero_lt_succ, decide_true,
            Bool.and_true, Bool.not_eq_true', Bool.not_eq_false, List.all_eq_true,
            decide_eq_true_eq] at run
          rw [← chosen, ← selecting.counts]
          exact run key member
    constructor
    · intro key
      change addKeys selection.activeByProvider work.providerKeys key = _
      rw [addKeys_apply distinct, selecting.counts, activeByProvider_append]
    · intro key
      rw [activeByProvider_append]
      by_cases member : key ∈ work.providerKeys
      · rw [if_pos member]
        exact free key member
      · rw [if_neg member]
        exact selecting.bounded key
    · have moved : (selection.selected ++ [work] ++ selection.deferred).Perm
          (selection.selected ++ selection.deferred ++ [work]) := by
        rw [List.append_assoc, List.append_assoc]
        exact List.perm_append_comm.append_left _
      exact moved.trans (selecting.parts.append_right [work])
    · exact selecting.selectedOrder.append (List.Sublist.refl _)
    · exact selecting.deferredOrder.trans (List.sublist_append_left _ _)
    · exact fun _ => by simp

/-- A round keeps the limit, splits the pending items and takes at least one of them. -/
theorem selecting_selectRound (positive : 1 ≤ maxConcurrentPerProvider)
    (distinct : DistinctKeys pending) :
    Selecting maxConcurrentPerProvider pending (selectRound maxConcurrentPerProvider pending) := by
  have start : Selecting maxConcurrentPerProvider [] ({} : Selection) :=
    ⟨fun _ => rfl, fun _ => Nat.zero_le _, .nil, .slnil, .slnil, fun some_ => absurd rfl some_⟩
  suffices goesOn : ∀ (rest seen : List ClaimedItem) (selection : Selection),
      (∀ work ∈ rest, work.providerKeys.Nodup) →
      Selecting maxConcurrentPerProvider seen selection →
      Selecting maxConcurrentPerProvider (seen ++ rest)
        (rest.foldl (selectWork maxConcurrentPerProvider) selection) from
    goesOn pending [] {} distinct start
  intro rest
  induction rest with
  | nil =>
      intro seen selection _ selecting
      rwa [List.append_nil]
  | cons work rest ih =>
      intro seen selection nodup selecting
      have next := ih (seen ++ [work]) (selectWork maxConcurrentPerProvider selection work)
        (fun other member => nodup other (List.mem_cons_of_mem _ member))
        (selecting.step positive (nodup work List.mem_cons_self))
      rwa [List.append_assoc, List.singleton_append] at next

/-- The round is what was selected: there is always something. -/
theorem roundOf_selected (positive : 1 ≤ maxConcurrentPerProvider)
    (distinct : DistinctKeys pending) :
    roundOf pending (selectRound maxConcurrentPerProvider pending).selected =
      (selectRound maxConcurrentPerProvider pending).selected := by
  have selecting := selecting_selectRound positive distinct
  cases pending with
  | nil => rfl
  | cons first rest =>
      rw [roundOf, if_neg]
      exact fun none_ => selecting.progress (List.cons_ne_nil _ _) (List.length_eq_zero_iff.mp none_)

/-- The rounds of the service are those of the loop. -/
theorem schedule_eq_selectRound (distinct : DistinctKeys pending) :
    schedule maxConcurrentPerProvider [] pending =
      ((selectRound maxConcurrentPerProvider pending).selected,
        (selectRound maxConcurrentPerProvider pending).deferred) := by
  suffices goesOn : ∀ (rest : List ClaimedItem) (selection : Selection),
      (∀ work ∈ rest, work.providerKeys.Nodup) →
      (∀ key, selection.activeByProvider key = activeByProvider selection.selected key) →
      ((rest.foldl (selectWork maxConcurrentPerProvider) selection).selected,
          (rest.foldl (selectWork maxConcurrentPerProvider) selection).deferred) =
        ((schedule maxConcurrentPerProvider selection.selected rest).1,
          selection.deferred ++ (schedule maxConcurrentPerProvider selection.selected rest).2) from
    (goesOn pending {} distinct fun _ => rfl).symm
  intro rest
  induction rest with
  | nil =>
      intro selection _ _
      simp [schedule]
  | cons work rest ih =>
      intro selection nodup counts
      have later : ∀ other ∈ rest, other.providerKeys.Nodup :=
        fun other member => nodup other (List.mem_cons_of_mem _ member)
      have busy : (!(work.providerKeys.all fun key =>
            decide (selection.activeByProvider key < maxConcurrentPerProvider)) &&
              decide (selection.selected.length > 0)) =
          (!(work.providerKeys.all fun key =>
            decide (activeByProvider selection.selected key < maxConcurrentPerProvider)) &&
              !selection.selected.isEmpty) := by
        simp only [counts]
        cases selection.selected <;> simp
      rw [List.foldl_cons, schedule, ← busy, selectWork]
      by_cases defer : (!(work.providerKeys.all fun key =>
          decide (selection.activeByProvider key < maxConcurrentPerProvider)) &&
            decide (selection.selected.length > 0)) = true
      · rw [if_pos defer, if_pos defer]
        apply (ih { selection with deferred := selection.deferred ++ [work] } later counts).trans
        simp
      · rw [if_neg defer, if_neg defer]
        apply ih _ later
        intro key
        change addKeys selection.activeByProvider work.providerKeys key = _
        rw [addKeys_apply (nodup work List.mem_cons_self), counts, activeByProvider_append]

/-! ## What the loop does -/

/-- What has come of the claimed items when `pending` is left: the rest ran in rounds that are
not empty, keep the order of the list and the limit, and were counted. -/
structure RunsOnce (maxConcurrentPerProvider : Nat) (processItem : Processing)
    (claimedItems pending : List ClaimedItem) (batches : Batches) : Prop where
  nonempty : ∀ round ∈ batches.rounds, round ≠ []
  once : (batches.rounds.flatten.map Prod.fst ++ pending).Perm claimedItems
  order : ∀ round ∈ batches.rounds, (round.map Prod.fst).Sublist claimedItems
  limited : ∀ round ∈ batches.rounds, ∀ key,
    activeByProvider (round.map Prod.fst) key ≤ maxConcurrentPerProvider
  answers : ∀ index round, batches.rounds[index]? = some round →
    ∀ entry ∈ round, processItem index entry.1 = some entry.2
  completed : batches.completed =
    (batches.rounds.flatten.filter fun entry => entry.2 = .completed).length
  failed : batches.failed = (batches.rounds.flatten.filter fun entry => entry.2 = .failed).length

theorem foldl_count {α : Type} {condition : α → Prop} [DecidablePred condition] (elements : List α)
    (start : Nat) :
    elements.foldl (fun count element => if condition element then count + 1 else count) start =
      start + (elements.filter fun element => condition element).length := by
  induction elements generalizing start with
  | nil => rfl
  | cons element elements ih =>
      rw [List.foldl_cons, ih, List.filter_cons]
      by_cases holds : condition element
      · simp only [holds, decide_true, if_true, List.length_cons]
        omega
      · simp [holds]

theorem settle_some {processItem : Processing} {number : Nat} {round : List ClaimedItem}
    {results : List (ClaimedItem × ItemResult)}
    (settled : settle processItem number round = some results) :
    results.map Prod.fst = round ∧
      ∀ entry ∈ results, processItem number entry.1 = some entry.2 := by
  induction round generalizing results with
  | nil =>
      rw [settle, Option.some.injEq] at settled
      subst settled
      simp
  | cons work rest ih =>
      simp only [settle, Option.bind_eq_bind, Option.bind_eq_some_iff, Option.pure_def,
        Option.some.injEq] at settled
      obtain ⟨result, answered, others, settledRest, rfl⟩ := settled
      have later := ih settledRest
      constructor
      · rw [List.map_cons, later.1]
      · intro entry member
        cases member with
        | head => exact answered
        | tail _ member => exact later.2 entry member

theorem settle_none {processItem : Processing} {number : Nat} {round : List ClaimedItem}
    (settled : settle processItem number round = none) :
    ∃ work ∈ round, processItem number work = none := by
  induction round with
  | nil => cases settled
  | cons work rest ih =>
      cases answered : processItem number work with
      | none => exact ⟨work, List.mem_cons_self, answered⟩
      | some result =>
          cases others : settle processItem number rest with
          | none =>
              obtain ⟨other, member, rejects⟩ := ih others
              exact ⟨other, List.mem_cons_of_mem _ member, rejects⟩
          | some results => simp [settle, answered, others] at settled

/-- One more round. -/
theorem RunsOnce.add {processItem : Processing} {claimedItems deferred round : List ClaimedItem}
    {batches : Batches} {results : List (ClaimedItem × ItemResult)}
    (runs : RunsOnce maxConcurrentPerProvider processItem claimedItems pending batches)
    (settled : settle processItem batches.rounds.length round = some results)
    (some_ : round ≠ []) (parts : (round ++ deferred).Perm pending)
    (order : round.Sublist claimedItems)
    (limited : ∀ key, activeByProvider round key ≤ maxConcurrentPerProvider) :
    RunsOnce maxConcurrentPerProvider processItem claimedItems deferred (batches.add results) := by
  obtain ⟨works, answered⟩ := settle_some settled
  have rounds {property : List (ClaimedItem × ItemResult) → Prop}
      (old : ∀ each ∈ batches.rounds, property each) (last : property results) :
      ∀ each ∈ (batches.add results).rounds, property each := by
    intro each member
    rcases List.mem_append.mp member with inOld | isLast
    · exact old each inOld
    · rw [List.mem_singleton.mp isLast]
      exact last
  constructor
  · apply rounds runs.nonempty
    intro none_
    rw [none_] at works
    exact some_ works.symm
  · change ((batches.rounds ++ [results]).flatten.map Prod.fst ++ deferred).Perm claimedItems
    rw [List.flatten_append, List.map_append, List.flatten_singleton, works, List.append_assoc]
    exact (parts.append_left _).trans runs.once
  · exact rounds runs.order (by rwa [works])
  · exact rounds runs.limited (by rwa [works])
  · intro index each found
    change (batches.rounds ++ [results])[index]? = some each at found
    rw [List.getElem?_append] at found
    split at found
    · exact runs.answers index each found
    · rename_i beyond
      obtain ⟨inside, rfl⟩ := List.getElem?_eq_some_iff.mp found
      simp only [List.length_singleton] at inside
      have last : index = batches.rounds.length := by omega
      subst last
      simpa using answered
  · change List.foldl _ _ _ = ((batches.rounds ++ [results]).flatten.filter _).length
    rw [foldl_count, runs.completed, List.flatten_append, List.flatten_singleton,
      List.filter_append, List.length_append]
  · change List.foldl _ _ _ = ((batches.rounds ++ [results]).flatten.filter _).length
    rw [foldl_count, runs.failed, List.flatten_append, List.flatten_singleton,
      List.filter_append, List.length_append]

/-- The loop came to its end: all items ran, or a call rejected. -/
inductive Finished (maxConcurrentPerProvider : Nat) (processItem : Processing)
    (claimedItems : List ClaimedItem) : LoopEnd → Prop where
  | returned {batches : Batches}
      (runs : RunsOnce maxConcurrentPerProvider processItem claimedItems [] batches) :
      Finished maxConcurrentPerProvider processItem claimedItems (.returned batches)
  | rejected {batches : Batches} {work : ClaimedItem} (member : work ∈ claimedItems)
      (rejects : processItem batches.rounds.length work = none) :
      Finished maxConcurrentPerProvider processItem claimedItems (.rejected batches)

/-- As many rounds as there are items are enough. -/
theorem batchLoop_finished {processItem : Processing} {claimedItems : List ClaimedItem}
    {batches : Batches} (positive : 1 ≤ maxConcurrentPerProvider)
    (distinct : DistinctKeys claimedItems) (order : pending.Sublist claimedItems)
    (runs : RunsOnce maxConcurrentPerProvider processItem claimedItems pending batches) :
    ∃ ended, (∀ fuel, pending.length ≤ fuel →
        batchLoop maxConcurrentPerProvider processItem fuel pending batches = ended) ∧
      Finished maxConcurrentPerProvider processItem claimedItems ended := by
  induction size : pending.length using Nat.strong_induction_on generalizing pending batches with
  | _ number ih =>
      cases pending with
      | nil =>
          refine ⟨.returned batches, fun fuel _ => ?_, .returned runs⟩
          cases fuel <;> rfl
      | cons first rest =>
          have own : DistinctKeys (first :: rest) :=
            fun work member => distinct work (order.subset member)
          have selecting := selecting_selectRound positive own
          have taken := selecting.progress (List.cons_ne_nil _ _)
          have inOrder := selecting.selectedOrder.trans order
          have unfolded (fuel : Nat) (enough : number ≤ fuel) : ∃ less, fuel = less + 1 ∧
              batchLoop maxConcurrentPerProvider processItem fuel (first :: rest) batches =
                match settle processItem batches.rounds.length
                  (selectRound maxConcurrentPerProvider (first :: rest)).selected with
                | none => .rejected batches
                | some results =>
                    batchLoop maxConcurrentPerProvider processItem less
                      (selectRound maxConcurrentPerProvider (first :: rest)).deferred
                      (batches.add results) := by
            cases fuel with
            | zero =>
                rw [List.length_cons] at size
                omega
            | succ less =>
                refine ⟨less, rfl, ?_⟩
                rw [batchLoop, if_pos (by simp)]
                dsimp only
                rw [roundOf_selected positive own]
          cases settled : settle processItem batches.rounds.length
              (selectRound maxConcurrentPerProvider (first :: rest)).selected with
          | none =>
              obtain ⟨work, member, rejects⟩ := settle_none settled
              refine ⟨.rejected batches, fun fuel enough => ?_,
                .rejected (inOrder.subset member) rejects⟩
              obtain ⟨less, -, step⟩ := unfolded fuel enough
              rw [step, settled]
          | some results =>
              have fewer := selecting.parts.length_eq
              rw [List.length_append, size] at fewer
              have positive := List.length_pos_of_ne_nil taken
              obtain ⟨ended, ends, done⟩ := ih _ (by omega)
                (selecting.deferredOrder.trans order)
                (runs.add settled taken selecting.parts inOrder selecting.bounded) rfl
              refine ⟨ended, fun fuel enough => ?_, done⟩
              obtain ⟨less, rfl, step⟩ := unfolded fuel enough
              rw [step, settled]
              exact ends less (by omega)

/-- The keys of an item with two buckets are listed once. -/
theorem nodup_providerKeysFrom {item : MigrationItem}
    (differ : item.sourceBucketConnectionId ≠ item.targetBucketConnectionId)
    (found : Option (List BucketConnection)) : (providerKeysFrom item found).Nodup := by
  cases found with
  | none => simpa [providerKeysFrom] using differ
  | some buckets =>
      have nodup (first second : Id) : [first, second].eraseDups.Nodup := by
        rw [List.eraseDups_cons]
        by_cases same : second = first
        · simp [same]
        · simp [same, Ne.symm same, List.eraseDups_cons]
      exact nodup _ _

end Mosp.Worker.MigrationReconciliationService
