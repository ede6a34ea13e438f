import Mosp.Security.FixedWindow
import Mathlib.Data.List.Perm.Subperm

/-!
# The limiters keep fixed windows

After any calls the entries that have not expired are the open windows, in memory and in
the store.
-/

namespace Mosp.Security

open Mosp.Data

variable {history : List RateLimitCall} {call : RateLimitCall}

/-- Whether all calls came before a time. -/
def Before (history : List RateLimitCall) (now : Int) : Prop :=
  ∀ call ∈ history, call.time ≤ now

theorem Before.init {now : Int} (before : Before (history ++ [call]) now) : Before history now :=
  fun earlier member => before earlier (List.mem_append_left _ member)

theorem Before.last {now : Int} (before : Before (history ++ [call]) now) : call.time ≤ now :=
  before call (by simp)

/-- Entries that expired earlier are expired later. -/
theorem filter_later {current : Option RateLimitEntry} {earlier later : Int}
    (le : earlier ≤ later) :
    (current.filter fun entry => !decide (entry.resetAt ≤ earlier)).filter
        (fun entry => decide (later < entry.resetAt)) =
      current.filter fun entry => decide (later < entry.resetAt) := by
  cases current with
  | none => rfl
  | some entry =>
      by_cases expired : entry.resetAt ≤ earlier
      · have expiredLater : ¬later < entry.resetAt := by omega
        simp [Option.filter_some, expired, expiredLater]
      · simp [Option.filter_some, expired]

/-! ## In memory -/

namespace InMemoryRateLimiter

variable (limiter : InMemoryRateLimiter)

/-- The entries after some calls. -/
def after (history : List RateLimitCall) : RateLimitEntries :=
  history.foldl (fun entries call => (limiter.consume entries call.time call.key).2) .empty

variable {limiter}

theorem after_append : limiter.after (history ++ [call]) =
    (limiter.consume (limiter.after history) call.time call.key).2 := by
  rw [after, List.foldl_append]
  rfl

/-! ### Every call leaves a small map -/

/-- The entries that remain are among those that have not expired. -/
theorem mem_evictExpired {entries : RateLimitEntries} {now : Int} {entry : String × RateLimitEntry}
    (member : entry ∈ (limiter.evictExpired entries now).entries) :
    entry ∈ entries.entries ∧ now < entry.2.resetAt := by
  have kept : entry ∈ (entries.filter fun entry => !decide (entry.2.resetAt ≤ now)).entries := by
    unfold evictExpired at member
    dsimp only at member
    split at member
    · exact member
    · exact (OrderedMap.mem_filter.mp member).1
  obtain ⟨present, unexpired⟩ := OrderedMap.mem_filter.mp kept
  exact ⟨present, by simpa using unexpired⟩

/-- Taking the first of a sort away leaves as many as there may be. -/
theorem size_evict (entries : RateLimitEntries) (bound : Nat) :
    (entries.filter fun entry =>
      !(((byResetAt entries).take (entries.size - bound)).map Prod.fst).contains entry.1).size ≤
        bound := by
  generalize taken : entries.size - bound = count
  have permutation : List.Perm (byResetAt entries) entries.entries :=
    List.perm_insertionSort _ _
  have length : (byResetAt entries).length = entries.size := permutation.length_eq
  change (entries.entries.filter _).length ≤ bound
  rw [← (permutation.filter _).length_eq]
  conv_lhs => rw [← List.take_append_drop count (byResetAt entries)]
  rw [List.filter_append]
  have removed : ((byResetAt entries).take count).filter (fun entry =>
      !(((byResetAt entries).take count).map Prod.fst).contains entry.1) = [] := by
    rw [List.filter_eq_nil_iff]
    intro entry member
    simp only [Bool.not_eq_true', Bool.not_eq_false, List.contains_iff_mem]
    exact List.mem_map_of_mem member
  rw [List.take_append_drop, removed, List.nil_append]
  apply Nat.le_trans (List.length_filter_le _ _)
  rw [List.length_drop, length]
  omega

theorem size_evictExpired (entries : RateLimitEntries) (now : Int) :
    (limiter.evictExpired entries now).size ≤ limiter.maxEntries := by
  unfold evictExpired
  dsimp only
  split
  · assumption
  · exact size_evict _ _

theorem size_after : (limiter.after history).size ≤ limiter.maxEntries := by
  induction history using List.reverseRecOn with
  | nil => exact Nat.zero_le _
  | append_singleton history call _ =>
      rw [after_append]
      exact size_evictExpired _ _

/-! ### The entry of the last key stays -/

theorem counted_resetAt (entries : RateLimitEntries) (now : Int) (key : String) :
    now < (limiter.counted entries now key).resetAt := by
  have positive := limiter.positive.2.1
  unfold counted
  cases entries.get? key with
  | none => simp only; omega
  | some current =>
      by_cases expired : current.resetAt ≤ now
      · simp only [if_pos expired]
        omega
      · simp only [if_neg expired]
        omega

/-- Where nothing is too much, the entries that have not expired stay. -/
theorem evictExpired_fits {entries : RateLimitEntries} {now : Int}
    (fits : (entries.filter fun entry => !decide (entry.2.resetAt ≤ now)).size ≤
      limiter.maxEntries) :
    limiter.evictExpired entries now =
      entries.filter fun entry => !decide (entry.2.resetAt ≤ now) :=
  if_pos fits

/-- No window ends later than one that starts now. -/
theorem resetAt_after (ordered : Ordered history) {now : Int} (before : Before history now) :
    ∀ entry ∈ (limiter.after history).entries, entry.2.resetAt ≤ now + limiter.windowMs := by
  induction history using List.reverseRecOn with
  | nil => exact fun entry member => absurd member (by simp [after, OrderedMap.empty])
  | append_singleton history call ih =>
      intro entry member
      have old := ih ordered.init before.init
      rw [after_append] at member
      obtain ⟨present, -⟩ := mem_evictExpired member
      rcases OrderedMap.mem_set.mp present with rfl | ⟨inMap, -⟩
      · have last := before.last
        unfold counted
        cases found : (limiter.after history).get? call.key with
        | none => simp only; omega
        | some current =>
            have bound := old _ (OrderedMap.get?_eq_some.mp found)
            by_cases expired : current.resetAt ≤ call.time
            · simp only [if_pos expired]
              omega
            · simp only [if_neg expired]
              exact bound
      · exact old entry inMap

/-- The entry of the key that was consumed is there, with its count. -/
theorem get?_consume {entries : RateLimitEntries} {now : Int} {key : String}
    (small : entries.size ≤ limiter.maxEntries)
    (recent : ∀ entry ∈ entries.entries, entry.2.resetAt ≤ now + limiter.windowMs) :
    (limiter.consume entries now key).2.get? key = some (limiter.counted entries now key) := by
  have unexpired := limiter.counted_resetAt entries now key
  have here : ((entries.set key (limiter.counted entries now key)).filter fun entry =>
      !decide (entry.2.resetAt ≤ now)).get? key = some (limiter.counted entries now key) := by
    rw [OrderedMap.get?_filter, OrderedMap.get?_set_self, Option.filter_some]
    simp [unexpired]
  change (limiter.evictExpired _ now).get? key = _
  unfold evictExpired
  dsimp only
  split
  · exact here
  · rename_i tooMany
    have found : entries.get? key = none := by
      cases found : entries.get? key with
      | none => rfl
      | some old =>
          have size := OrderedMap.size_set_old found (limiter.counted entries now key)
          have le := (entries.set key (limiter.counted entries now key)).size_filter_le
            fun entry => !decide (entry.2.resetAt ≤ now)
          omega
    have kept : ((entries.set key (limiter.counted entries now key)).filter fun entry =>
        !decide (entry.2.resetAt ≤ now)).entries =
        (entries.filter fun entry => !decide (entry.2.resetAt ≤ now)).entries ++
          [(key, limiter.counted entries now key)] := by
      change List.filter _ (entries.set key _).entries = List.filter _ entries.entries ++ _
      rw [OrderedMap.entries_set_new found, List.filter_append]
      simp [unexpired]
    generalize (entries.set key (limiter.counted entries now key)).filter
      (fun entry => !decide (entry.2.resetAt ≤ now)) = current at here kept tooMany ⊢
    have length := congrArg List.length kept
    have le := entries.size_filter_le fun entry => !decide (entry.2.resetAt ≤ now)
    simp only [OrderedMap.size, List.length_append, List.length_singleton] at length le small tooMany
    have one : current.size - limiter.maxEntries = 1 := by
      simp only [OrderedMap.size]
      omega
    rw [OrderedMap.get?_filter, here, Option.filter_some, one, if_pos]
    cases sorted : byResetAt current with
    | nil => simp
    | cons first rest =>
        have other : first ∈ (entries.filter fun entry => !decide (entry.2.resetAt ≤ now)).entries := by
          refine insertionSort_head ?_ ?_ (by rw [← kept]; exact sorted)
          · intro empty
            have positive := limiter.positive.2.2
            rw [empty] at length
            simp only [List.length_nil] at length
            omega
          · intro entry member
            have inMap := (OrderedMap.mem_filter.mp member).1
            have bound := recent entry inMap
            have starts : (limiter.counted entries now key).resetAt = now + limiter.windowMs := by
              simp [counted, found]
            exact bound.trans_eq starts.symm
        have distinct := OrderedMap.get?_eq_none.mp found first (OrderedMap.mem_filter.mp other).1
        simp [Ne.symm distinct]

/-! ### The entries are the open windows -/

theorem counted_eq {entries : RateLimitEntries} {now : Int} {key : String} :
    limiter.counted entries now key = countedEntry limiter.windowMs
      ((entries.get? key).filter fun entry => decide (now < entry.resetAt)) now := by
  unfold counted countedEntry
  cases entries.get? key with
  | none => rfl
  | some current =>
      by_cases expired : current.resetAt ≤ now
      · simp [Option.filter_some, expired, Int.not_lt.mpr expired]
      · simp [Option.filter_some, expired, Int.not_le.mp expired]

/-- As long as the open windows fit, the entries that have not expired are the open windows. -/
theorem after_opens {calls : List RateLimitCall} (ordered : Ordered calls)
    (fits : ∀ history call, history ++ [call] <+: calls →
      (openKeys limiter.windowMs (history ++ [call]) call.time).length ≤ limiter.maxEntries)
    {now : Int} (before : Before calls now) (key : String) :
    ((limiter.after calls).get? key).filter (fun entry => decide (now < entry.resetAt)) =
      openEntry limiter.windowMs key calls now := by
  induction calls using List.reverseRecOn generalizing key now with
  | nil => rfl
  | append_singleton history call ih =>
      have old : ∀ {time : Int}, Before history time → ∀ key,
          ((limiter.after history).get? key).filter (fun entry => decide (time < entry.resetAt)) =
            openEntry limiter.windowMs key history time := by
        intro time earlier key
        apply ih ordered.init _ earlier
        intro first last before
        exact fits first last (before.trans (List.prefix_append _ _))
      have counted : limiter.counted (limiter.after history) call.time call.key =
          countedEntry limiter.windowMs (openEntry limiter.windowMs call.key history call.time)
            call.time := by
        rw [counted_eq, old ordered.le_last]
      have updated : ∀ {time : Int}, call.time ≤ time → ∀ key,
          (((limiter.after history).set call.key
              (limiter.counted (limiter.after history) call.time call.key)).get? key).filter
            (fun entry => decide (time < entry.resetAt)) =
            openEntry limiter.windowMs key (history ++ [call]) time := by
        intro time last key
        by_cases own : key = call.key
        · subst own
          rw [OrderedMap.get?_set_self, openEntry_own limiter.positive.2.1 ordered, counted]
        · rw [OrderedMap.get?_set_other own, openEntry_other (Ne.symm own)]
          exact old (fun earlier member => (ordered.le_last earlier member).trans last) key
      have small : (((limiter.after history).set call.key
          (limiter.counted (limiter.after history) call.time call.key)).filter fun entry =>
            !decide (entry.2.resetAt ≤ call.time)).size ≤ limiter.maxEntries := by
        apply Nat.le_trans _ (fits history call List.prefix_rfl)
        rw [OrderedMap.size, ← List.length_map (f := Prod.fst)]
        apply (List.Nodup.subperm (OrderedMap.nodup _) _).length_le
        intro key member
        obtain ⟨entry, kept, rfl⟩ := List.mem_map.mp member
        obtain ⟨present, unexpired⟩ := OrderedMap.mem_filter.mp kept
        apply mem_openKeys.mpr
        refine ⟨entry.2, ?_⟩
        rw [← updated (Int.le_refl _), OrderedMap.get?_eq_some.mpr present, Option.filter_some,
          if_pos (by simpa using unexpired)]
      rw [after_append]
      change ((limiter.evictExpired _ call.time).get? key).filter _ = _
      rw [evictExpired_fits small, OrderedMap.get?_filter, filter_later before.last]
      exact updated before.last key

/-- As long as the open windows fit, the decisions are those of a fixed window. -/
theorem consume_fixedWindow (ordered : Ordered (history ++ [call]))
    (fits : ∀ first last, first ++ [last] <+: history ++ [call] →
      (openKeys limiter.windowMs (first ++ [last]) last.time).length ≤ limiter.maxEntries) :
    (limiter.consume (limiter.after history) call.time call.key).1 =
      fixedWindow limiter.limit limiter.windowMs history call := by
  have opens := after_opens ordered.init
    (fun first last before => fits first last (before.trans (List.prefix_append _ _)))
    ordered.le_last call.key
  rw [fixedWindow_eq limiter.positive.2.1 ordered, consume, counted_eq, opens]

end InMemoryRateLimiter

/-! ## In the store -/

namespace RedisRateLimiter

variable (limiter : RedisRateLimiter) (sha256 : String → String)

/-- The store after some calls. -/
def after (history : List RateLimitCall) : RateLimitStore :=
  history.foldl (fun store call => (limiter.consume sha256 store call.time call.key).2)
    fun _ => none

variable {limiter} {sha256}

theorem after_append : limiter.after sha256 (history ++ [call]) =
    (limiter.consume sha256 (limiter.after sha256 history) call.time call.key).2 := by
  rw [after, List.foldl_append]
  rfl

/-- An open window as a counter of the store. -/
def storedWindow (entry : RateLimitEntry) : StoredCount :=
  ⟨entry.count, some entry.resetAt⟩

/-- What the script stores. -/
theorem eval_counts {store : RateLimitStore} {now : Int} {key : String} {windowMs : Nat}
    {current : Option RateLimitEntry} (live : store.live now key = current.map storedWindow)
    (counts : ∀ entry, current = some entry → 1 ≤ entry.count) :
    store.eval now key windowMs =
      ([((countedEntry windowMs current now).count : Int),
          (countedEntry windowMs current now).resetAt - now],
        store.put key (storedWindow (countedEntry windowMs current now))) := by
  unfold RateLimitStore.eval
  cases current with
  | none => simp [live, countedEntry, storedWindow, RateLimitStore.pttl]
  | some entry =>
      have positive := counts entry rfl
      have several : ¬entry.count = 0 := by omega
      simp [live, countedEntry, storedWindow, RateLimitStore.pttl, several]

theorem live_put_self {store : RateLimitStore} {key : String} {entry : RateLimitEntry}
    {now : Int} : (store.put key (storedWindow entry)).live now key =
      ((some entry).filter fun entry => decide (now < entry.resetAt)).map storedWindow := by
  by_cases within : now < entry.resetAt <;>
    simp [RateLimitStore.live, RateLimitStore.put, storedWindow, Option.filter_some, within]

theorem live_put_other {store : RateLimitStore} {key other : String} {stored : StoredCount}
    {now : Int} (distinct : other ≠ key) :
    (store.put key stored).live now other = store.live now other := by
  simp [RateLimitStore.live, RateLimitStore.put, distinct]

theorem storeKey_inj {first second : String} :
    limiter.storeKey sha256 first = limiter.storeKey sha256 second ↔
      sha256 first = sha256 second :=
  String.append_right_inj _

/-- The counters that have not expired are the open windows. -/
theorem after_live {calls : List RateLimitCall} (ordered : Ordered calls) {keys : Set String}
    (known : ∀ call ∈ calls, call.key ∈ keys) (distinct : keys.InjOn sha256)
    {now : Int} (before : Before calls now) {key : String} (member : key ∈ keys) :
    (limiter.after sha256 calls).live now (limiter.storeKey sha256 key) =
      (openEntry limiter.windowMs key calls now).map storedWindow := by
  induction calls using List.reverseRecOn generalizing key now with
  | nil => rfl
  | append_singleton history call ih =>
      have old : ∀ {time : Int}, Before history time → ∀ {key : String}, key ∈ keys →
          (limiter.after sha256 history).live time (limiter.storeKey sha256 key) =
            (openEntry limiter.windowMs key history time).map storedWindow := by
        intro time earlier key member
        apply ih ordered.init _ earlier member
        exact fun each inHistory => known each (List.mem_append_left _ inHistory)
      have ownKey : call.key ∈ keys := known call (by simp)
      have counts := @eval_counts _ _ _ limiter.windowMs _ (old ordered.le_last ownKey)
        fun entry opened => openEntry_count opened
      rw [after_append, consume, counts]
      by_cases own : key = call.key
      · subst own
        rw [live_put_self, openEntry_own limiter.positive.2 ordered]
      · have others : limiter.storeKey sha256 key ≠ limiter.storeKey sha256 call.key :=
          fun same => own (distinct member ownKey (storeKey_inj.mp same))
        rw [live_put_other others, old before.init member, openEntry_other (Ne.symm own)]

/-- The decisions are those of a fixed window. -/
theorem consume_fixedWindow (ordered : Ordered (history ++ [call]))
    (distinct : Set.InjOn sha256 {key | ∃ each ∈ history ++ [call], each.key = key}) :
    (limiter.consume sha256 (limiter.after sha256 history) call.time call.key).1 =
      .ok (fixedWindow limiter.limit limiter.windowMs history call) := by
  have ownKey : call.key ∈ {key | ∃ each ∈ history ++ [call], each.key = key} :=
    ⟨call, by simp, rfl⟩
  have known : ∀ each ∈ history, each.key ∈ {key | ∃ each ∈ history ++ [call], each.key = key} :=
    fun each member => ⟨each, List.mem_append_left _ member, rfl⟩
  have live := @after_live limiter sha256 _ ordered.init _ known distinct _ ordered.le_last _ ownKey
  rw [fixedWindow_eq limiter.positive.2 ordered, consume,
    eval_counts live fun entry opened => openEntry_count opened]
  have open_ : 0 ≤ (countedEntry limiter.windowMs
      (openEntry limiter.windowMs call.key history call.time) call.time).resetAt - call.time := by
    cases opened : openEntry limiter.windowMs call.key history call.time with
    | none => simp [countedEntry]
    | some entry =>
        have later := openEntry_resetAt opened
        simp only [countedEntry]
        omega
  simp [decision, max_eq_right open_]

end RedisRateLimiter

end Mosp.Security
