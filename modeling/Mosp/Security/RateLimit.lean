import Mosp.Data.OrderedMap
import Mathlib.Tactic.Linarith

/-!
# Rate limiters

The limiter that keeps its windows in memory and the one that shares them through a store,
from `apps/api/src/security/rate-limit.ts`.  Times are integer milliseconds.
-/

namespace Mosp.Security

open Mosp.Data

structure RateLimitDecision where
  allowed : Bool
  retryAfterSeconds : Int
deriving DecidableEq

/-- `Math.ceil(number / divisor)` -/
def ceilDiv (number divisor : Int) : Int :=
  -(-number / divisor)

structure RateLimitEntry where
  count : Nat
  resetAt : Int
deriving DecidableEq

/-! ## In memory -/

abbrev RateLimitEntries := OrderedMap String RateLimitEntry

structure InMemoryRateLimiter where
  limit : Nat
  windowMs : Nat
  maxEntries : Nat
  positive : 1 ≤ limit ∧ 1 ≤ windowMs ∧ 1 ≤ maxEntries

namespace InMemoryRateLimiter

/-- The constructor. -/
def create (limit windowMs : Nat) (maxEntries : Nat := 10000) :
    Except String InMemoryRateLimiter :=
  if rejected : limit < 1 ∨ windowMs < 1 ∨ maxEntries < 1 then
    .error "Rate limiter settings must be positive"
  else
    .ok
      { limit
        windowMs
        maxEntries
        positive := by
          simp only [not_or, Nat.not_lt] at rejected
          exact rejected }

variable (limiter : InMemoryRateLimiter)

/-- The entries in the order of their reset times. -/
def byResetAt (entries : RateLimitEntries) : List (String × RateLimitEntry) :=
  entries.entries.insertionSort fun left right => left.2.resetAt ≤ right.2.resetAt

def evictExpired (entries : RateLimitEntries) (now : Int) : RateLimitEntries :=
  let entries := entries.filter fun entry => !decide (entry.2.resetAt ≤ now)
  if entries.size ≤ limiter.maxEntries then
    entries
  else
    let oldest := (byResetAt entries).take (entries.size - limiter.maxEntries)
    entries.filter fun entry => !(oldest.map Prod.fst).contains entry.1

/-- The entry of a key with one more call. -/
def counted (entries : RateLimitEntries) (now : Int) (key : String) : RateLimitEntry :=
  let entry : RateLimitEntry :=
    match entries.get? key with
    | none => { count := 0, resetAt := now + limiter.windowMs }
    | some current =>
        if current.resetAt ≤ now then { count := 0, resetAt := now + limiter.windowMs }
        else current
  { entry with count := entry.count + 1 }

def consume (entries : RateLimitEntries) (now : Int) (key : String) :
    RateLimitDecision × RateLimitEntries :=
  let entry := limiter.counted entries now key
  (⟨decide (entry.count ≤ limiter.limit), max 1 (ceilDiv (entry.resetAt - now) 1000)⟩,
    limiter.evictExpired (entries.set key entry) now)

end InMemoryRateLimiter

/-! ## A shared store -/

/-- A counter of the store, with the time at which it is dropped. -/
structure StoredCount where
  count : Nat
  expiresAt : Option Int
deriving DecidableEq

/-- The counters by their keys. -/
abbrev RateLimitStore := String → Option StoredCount

namespace RateLimitStore

/-- What is stored under a key that has not expired. -/
def live (store : RateLimitStore) (now : Int) (key : String) : Option StoredCount :=
  (store key).filter fun stored => stored.expiresAt.all (now < ·)

def put (store : RateLimitStore) (key : String) (stored : StoredCount) : RateLimitStore :=
  fun other => if other = key then some stored else store other

/-- `PTTL`: how long a counter is kept, `-1` without a limit. -/
def pttl (stored : StoredCount) (now : Int) : Int :=
  match stored.expiresAt with
  | some expiresAt => expiresAt - now
  | none => -1

/-- The script of `RedisRateLimiter`, run atomically. -/
def eval (store : RateLimitStore) (now : Int) (key : String) (windowMs : Nat) :
    List Int × RateLimitStore :=
  let found := (store.live now key).getD { count := 0, expiresAt := none }
  let counted := { found with count := found.count + 1 }
  let stored :=
    if counted.count = 1 then { counted with expiresAt := some (now + windowMs) } else counted
  ([(stored.count : Int), pttl stored now], store.put key stored)

end RateLimitStore

/-- What `eval` of a store comes back with. -/
inductive RedisReply where
  | failed
  /-- A value that is not an array. -/
  | other
  /-- The elements as numbers, if they are finite ones. -/
  | array (elements : List (Option Int))

structure RedisRateLimiter where
  limit : Nat
  windowMs : Nat
  keyPrefix : String
  positive : 1 ≤ limit ∧ 1 ≤ windowMs

namespace RedisRateLimiter

/-- The constructor. -/
def create (limit windowMs : Nat) (keyPrefix : String := "mosp:ratelimit") :
    Except String RedisRateLimiter :=
  if rejected : limit < 1 ∨ windowMs < 1 then
    .error "Rate limiter settings must be positive"
  else
    .ok
      { limit
        windowMs
        keyPrefix
        positive := by
          simp only [not_or, Nat.not_lt] at rejected
          exact rejected }

variable (limiter : RedisRateLimiter) (sha256 : String → String)

def storeKey (key : String) : String :=
  limiter.keyPrefix ++ ":" ++ sha256 key

/-- The decision on a reply of the store. -/
def decision : RedisReply → Except String RateLimitDecision
  | .array (some count :: some ttlMs :: _) =>
      .ok ⟨decide (count ≤ limiter.limit), max 1 (ceilDiv (max 0 ttlMs) 1000)⟩
  | _ => .error "RATE_LIMITER_UNAVAILABLE"

/-- `consume` over a store that runs the script. -/
def consume (store : RateLimitStore) (now : Int) (key : String) :
    Except String RateLimitDecision × RateLimitStore :=
  let (result, after) := store.eval now (limiter.storeKey sha256 key) limiter.windowMs
  (limiter.decision (.array (result.map some)), after)

end RedisRateLimiter

end Mosp.Security
