import Mosp.Security.Limiters

/-!
# Guarantees about rate limits

Both limiters decide like a fixed window, and the one in memory never keeps more than it
may.
-/

namespace Mosp.Guarantees

open Mosp.Data Mosp.Security

/-- The keys of some calls. -/
def keysOf (calls : List RateLimitCall) : Set String :=
  {key | ∃ call ∈ calls, call.key = key}

/-- The open windows never are too many. -/
def Fits (windowMs maxEntries : Nat) (calls : List RateLimitCall) : Prop :=
  ∀ first last, first ++ [last] <+: calls →
    (openKeys windowMs (first ++ [last]) last.time).length ≤ maxEntries

/-- What a call leaves in memory. -/
structure Left (memory : InMemoryRateLimiter) (history : List RateLimitCall)
    (call : RateLimitCall) : Prop where
  size : (memory.after (history ++ [call])).size ≤ memory.maxEntries
  unexpired : ∀ entry ∈ (memory.after (history ++ [call])).entries, call.time < entry.2.resetAt
  /-- The entry of the key is there with one more call than before, if the times of the calls
  do not decrease. -/
  present : Ordered (history ++ [call]) →
    (memory.after (history ++ [call])).get? call.key =
      some (countedEntry memory.windowMs
        (((memory.after history).get? call.key).filter fun entry =>
          decide (call.time < entry.resetAt)) call.time)

/-- Each call gets the same decision from both limiters, that of a fixed window: the shared one
always, the one in memory as long as the open windows fit; and every call whatsoever leaves
a small map without expired entries. -/
theorem rate_limiters_agree (memory : InMemoryRateLimiter) (redis : RedisRateLimiter)
    (sameLimit : redis.limit = memory.limit) (sameWindow : redis.windowMs = memory.windowMs)
    (sha256 : String → String) (history : List RateLimitCall) (call : RateLimitCall) :
    (Ordered (history ++ [call]) → (keysOf (history ++ [call])).InjOn sha256 →
      (redis.consume sha256 (redis.after sha256 history) call.time call.key).1 =
          .ok (fixedWindow memory.limit memory.windowMs history call) ∧
        (Fits memory.windowMs memory.maxEntries (history ++ [call]) →
          (memory.consume (memory.after history) call.time call.key).1 =
            fixedWindow memory.limit memory.windowMs history call)) ∧
    Left memory history call := by
  constructor
  · intro ordered distinct
    constructor
    · rw [← sameLimit, ← sameWindow]
      exact redis.consume_fixedWindow ordered distinct
    · exact memory.consume_fixedWindow ordered
  · constructor
    · exact InMemoryRateLimiter.size_after
    · intro entry member
      rw [InMemoryRateLimiter.after_append] at member
      exact (InMemoryRateLimiter.mem_evictExpired member).2
    · intro ordered
      rw [InMemoryRateLimiter.after_append, ← InMemoryRateLimiter.counted_eq]
      apply InMemoryRateLimiter.get?_consume InMemoryRateLimiter.size_after
      exact InMemoryRateLimiter.resetAt_after ordered.init ordered.le_last

namespace RateLimit

/-- Two calls of a client at once. -/
def history : List RateLimitCall :=
  [⟨"client", 1000⟩, ⟨"client", 1000⟩]

def memory : InMemoryRateLimiter :=
  ⟨2, 1000, 10, by decide⟩

def redis : RedisRateLimiter :=
  ⟨2, 1000, "mosp:ratelimit", by decide⟩

def sha256 (key : String) : String :=
  if key = "client" then "948fe603f61dc036b5c596dc09fe3ce3f3d30dc90f024c85f3c82db2ccab679d"
  else key

end RateLimit

open RateLimit in
/-- A third call in the window is refused by both. -/
theorem rate_limiters_agree_example :
    (redis.consume sha256 (redis.after sha256 history) 1500 "client").1 = .ok ⟨false, 1⟩ ∧
      (memory.consume (memory.after history) 1500 "client").1 = ⟨false, 1⟩ := by
  have ordered : Ordered (history ++ [⟨"client", 1500⟩]) := by
    unfold Ordered
    decide
  have distinct : (keysOf (history ++ [⟨"client", 1500⟩])).InjOn sha256 := by
    have only : ∀ key ∈ keysOf (history ++ [⟨"client", 1500⟩]), key = "client" := by
      rintro key ⟨call, member, rfl⟩
      revert call
      decide
    intro first firstMem second secondMem _
    rw [only first firstMem, only second secondMem]
  have fits : Fits memory.windowMs memory.maxEntries (history ++ [⟨"client", 1500⟩]) := by
    intro first last before
    have few : (openKeys memory.windowMs (first ++ [last]) last.time).length ≤
        (first ++ [last]).length :=
      (List.length_filter_le _ _).trans ((List.dedup_sublist _).length_le.trans_eq
        (List.length_map _))
    exact few.trans (before.length_le.trans (by decide))
  have decided : fixedWindow memory.limit memory.windowMs history ⟨"client", 1500⟩ = ⟨false, 1⟩ := by
    decide
  obtain ⟨shared, alone⟩ :=
    (rate_limiters_agree memory redis rfl rfl sha256 history ⟨"client", 1500⟩).1 ordered distinct
  exact ⟨shared.trans (congrArg _ decided), (alone fits).trans decided⟩

/-- When the clock goes back, the entry of the key that was just consumed may be evicted. -/
theorem rate_limit_entry_evicted :
    ((InMemoryRateLimiter.after ⟨2, 1000, 1, by decide⟩
      ([⟨"first", 1000⟩] ++ [⟨"second", 0⟩])).get? "second") = none := by
  decide

end Mosp.Guarantees
