import Mosp.Data.OrderedMap
import Mathlib.Algebra.Group.Int.Defs
import Mathlib.Algebra.Order.Group.Unbundled.Int

/-!
# Requests in flight

`BoundedInFlightLimiter` and the middleware of the storage routes: a request is
admitted or turned away, and an admitted one is released when its response
finishes or closes, whichever comes first.
-/

namespace Mosp.Security

open Mosp.Data

/-! ## Metrics -/

/-- The counters and gauges of `MetricsRegistry`.  Amounts are whole numbers here. -/
structure MetricsRegistry where
  counters : OrderedMap String Nat := .empty
  gauges : OrderedMap String Int := .empty

namespace MetricsRegistry

def counter (metrics : MetricsRegistry) (name : String) : Nat :=
  (metrics.counters.get? name).getD 0

def incrementCounter (metrics : MetricsRegistry) (name : String) (value : Nat := 1) :
    MetricsRegistry :=
  { metrics with counters := metrics.counters.set name (metrics.counter name + value) }

def setGauge (metrics : MetricsRegistry) (name : String) (value : Int) : MetricsRegistry :=
  { metrics with gauges := metrics.gauges.set name value }

variable (metrics : MetricsRegistry) (name : String)

@[simp]
theorem counter_incrementCounter (value : Nat) :
    (metrics.incrementCounter name value).counter name = metrics.counter name + value := by
  rw [counter, incrementCounter, OrderedMap.get?_set_self, Option.getD_some]

@[simp]
theorem gauges_incrementCounter (value : Nat) :
    (metrics.incrementCounter name value).gauges = metrics.gauges :=
  rfl

@[simp]
theorem counter_setGauge (other : String) (value : Int) :
    (metrics.setGauge other value).counter name = metrics.counter name :=
  rfl

@[simp]
theorem get?_setGauge (value : Int) :
    (metrics.setGauge name value).gauges.get? name = some value :=
  OrderedMap.get?_set_self _ _ _

end MetricsRegistry

/-! ## The limiter -/

structure BoundedInFlightLimiter where
  limit : Int
  inFlight : Int := 0
  deriving DecidableEq

/-- What the function that `tryAcquire` returns remembers. -/
structure Release where
  released : Bool := false
  deriving DecidableEq

namespace BoundedInFlightLimiter

def create (limit : Int) : Except String BoundedInFlightLimiter :=
  if limit < 1 then
    .error "In-flight limiter limit must be a positive integer"
  else
    .ok { limit }

def tryAcquire (limiter : BoundedInFlightLimiter) : Option Release × BoundedInFlightLimiter :=
  if limiter.limit ≤ limiter.inFlight then
    (none, limiter)
  else
    (some {}, { limiter with inFlight := limiter.inFlight + 1 })

/-- Call the function that `tryAcquire` returned. -/
def release (limiter : BoundedInFlightLimiter) (release : Release) :
    Release × BoundedInFlightLimiter :=
  if release.released then
    (release, limiter)
  else
    ({ released := true }, { limiter with inFlight := limiter.inFlight - 1 })

def activeCount (limiter : BoundedInFlightLimiter) : Int :=
  limiter.inFlight

theorem limit_of_create {limit : Int} {limiter : BoundedInFlightLimiter}
    (created : create limit = .ok limiter) : limiter.limit = limit := by
  unfold create at created
  split at created
  · contradiction
  · rw [← Except.ok.inj created]

/-- Only the first call gives anything back. -/
theorem release_eq (limiter : BoundedInFlightLimiter) (release : Release) :
    limiter.release release =
      ({ released := true },
        { limiter with inFlight := limiter.inFlight - if release.released then 0 else 1 }) := by
  obtain ⟨released⟩ := release
  cases released with
  | true => simp [BoundedInFlightLimiter.release]
  | false => rfl

end BoundedInFlightLimiter

/-! ## The middleware -/

/-- A response of the storage routes, with the listeners that `once` left. -/
structure StorageResponse where
  release : Option Release
  onFinish : Bool
  onClose : Bool
  deriving DecidableEq

structure Gateway where
  limiter : BoundedInFlightLimiter
  metrics : MetricsRegistry := {}
  responses : List StorageResponse := []

/-- What happens to the responses. -/
inductive GatewayEvent where
  | request
  | finish (index : Nat)
  | close (index : Nat)

namespace Gateway

def overloadedName : String :=
  "mosp_storage_overloaded_total"

def inFlightName : String :=
  "mosp_storage_in_flight"

def request (gateway : Gateway) : Gateway :=
  match gateway.limiter.tryAcquire with
  | (none, limiter) =>
      { limiter
        metrics := gateway.metrics.incrementCounter overloadedName
        responses := gateway.responses ++ [{ release := none, onFinish := false, onClose := false }] }
  | (some release, limiter) =>
      { limiter
        metrics := gateway.metrics.setGauge inFlightName limiter.activeCount
        responses := gateway.responses ++
          [{ release := some release, onFinish := true, onClose := true }] }

/-- The listener of a response whose event it was. -/
def releaseAndObserve (gateway : Gateway) (index : Nat) (response : StorageResponse) : Gateway :=
  match response.release with
  | none => gateway
  | some release =>
      let (release, limiter) := gateway.limiter.release release
      { limiter
        metrics := gateway.metrics.setGauge inFlightName limiter.activeCount
        responses := gateway.responses.set index { response with release := some release } }

/-- An event of a response runs its listener once. -/
def emit (gateway : Gateway) (index : Nat) (listens : StorageResponse → Bool)
    (unlisten : StorageResponse → StorageResponse) : Gateway :=
  match gateway.responses[index]? with
  | none => gateway
  | some response =>
      if listens response then
        gateway.releaseAndObserve index (unlisten response)
      else
        gateway

def step (gateway : Gateway) : GatewayEvent → Gateway
  | .request => gateway.request
  | .finish index =>
      gateway.emit index StorageResponse.onFinish fun response => { response with onFinish := false }
  | .close index =>
      gateway.emit index StorageResponse.onClose fun response => { response with onClose := false }

def run (gateway : Gateway) (events : List GatewayEvent) : Gateway :=
  events.foldl step gateway

end Gateway

namespace Gateway

theorem limit_step (gateway : Gateway) (event : GatewayEvent) :
    (gateway.step event).limiter.limit = gateway.limiter.limit := by
  have emitted : ∀ index listens unlisten,
      (gateway.emit index listens unlisten).limiter.limit = gateway.limiter.limit := by
    intro index listens unlisten
    unfold emit
    split
    · rfl
    · split
      · unfold releaseAndObserve
        split
        · rfl
        · simp only [BoundedInFlightLimiter.release_eq]
      · rfl
  cases event with
  | request =>
      simp only [step, request, BoundedInFlightLimiter.tryAcquire]
      by_cases full : gateway.limiter.limit ≤ gateway.limiter.inFlight
      · simp only [if_pos full]
      · simp only [if_neg full]
  | finish index => exact emitted _ _ _
  | close index => exact emitted _ _ _

theorem limit_run (gateway : Gateway) (events : List GatewayEvent) :
    (gateway.run events).limiter.limit = gateway.limiter.limit := by
  induction events generalizing gateway with
  | nil => rfl
  | cons event rest ih => exact (ih (gateway.step event)).trans (gateway.limit_step event)

end Gateway

/-! ## What the listeners keep -/

/-- The request was admitted, and its response has neither finished nor closed. -/
def StorageResponse.isOpen (response : StorageResponse) : Bool :=
  response.release.isSome && response.onFinish && response.onClose

def StorageResponse.isRejected (response : StorageResponse) : Bool :=
  response.release.isNone

/-- The function was called once the response has finished or closed, and not before. -/
structure StorageResponse.Coherent (response : StorageResponse) : Prop where
  released : ∀ release, response.release = some release →
    release.released = !(response.onFinish && response.onClose)
  rejected : response.release = none → response.onFinish = false ∧ response.onClose = false

namespace Gateway

def openCount (gateway : Gateway) : Nat :=
  gateway.responses.countP StorageResponse.isOpen

def rejectedCount (gateway : Gateway) : Nat :=
  gateway.responses.countP StorageResponse.isRejected

structure Balanced (gateway : Gateway) : Prop where
  coherent : ∀ response ∈ gateway.responses, response.Coherent
  inFlight : gateway.limiter.inFlight = gateway.openCount
  limited : gateway.limiter.inFlight ≤ gateway.limiter.limit
  overloaded : gateway.metrics.counter overloadedName = gateway.rejectedCount
  gauge : (∃ response ∈ gateway.responses, response.release ≠ none) →
    gateway.metrics.gauges.get? inFlightName = some gateway.limiter.inFlight

theorem balanced_start {limit : Int} {limiter : BoundedInFlightLimiter}
    (created : BoundedInFlightLimiter.create limit = .ok limiter) :
    Balanced { limiter } := by
  unfold BoundedInFlightLimiter.create at created
  split at created
  · contradiction
  · rename_i positive
    obtain rfl := Except.ok.inj created
    constructor
    · simp
    · rfl
    · exact Int.le_of_lt (Int.lt_of_lt_of_le Int.zero_lt_one (Int.not_lt.mp positive))
    · rfl
    · simp

namespace Balanced

variable {gateway : Gateway}

/-- A request is turned away and counted. -/
theorem reject (balanced : Balanced gateway) :
    Balanced
      { gateway with
        metrics := gateway.metrics.incrementCounter overloadedName
        responses := gateway.responses ++
          [{ release := none, onFinish := false, onClose := false }] } := by
  constructor
  · intro response member
    rcases List.mem_append.mp member with old | new
    · exact balanced.coherent response old
    · rw [List.mem_singleton.mp new]
      exact ⟨nofun, fun _ => ⟨rfl, rfl⟩⟩
  · simpa [openCount, List.countP_append, StorageResponse.isOpen] using balanced.inFlight
  · exact balanced.limited
  · simp [rejectedCount, StorageResponse.isRejected, List.countP_append, balanced.overloaded]
  · rintro ⟨response, member, admitted⟩
    rcases List.mem_append.mp member with old | new
    · exact balanced.gauge ⟨response, old, admitted⟩
    · rw [List.mem_singleton.mp new] at admitted
      contradiction

/-- A request is admitted while there is room. -/
theorem accept (balanced : Balanced gateway)
    (room : gateway.limiter.inFlight < gateway.limiter.limit) :
    Balanced
      { limiter := { gateway.limiter with inFlight := gateway.limiter.inFlight + 1 }
        metrics := gateway.metrics.setGauge inFlightName (gateway.limiter.inFlight + 1)
        responses := gateway.responses ++
          [{ release := some {}, onFinish := true, onClose := true }] } := by
  constructor
  · intro response member
    rcases List.mem_append.mp member with old | new
    · exact balanced.coherent response old
    · rw [List.mem_singleton.mp new]
      exact ⟨by rintro _ ⟨⟩; rfl, nofun⟩
  · simp [openCount, List.countP_append, StorageResponse.isOpen, balanced.inFlight]
  · exact room
  · simpa [rejectedCount, List.countP_append, StorageResponse.isRejected] using balanced.overloaded
  · simp

theorem request (balanced : Balanced gateway) : Balanced gateway.request := by
  unfold Gateway.request BoundedInFlightLimiter.tryAcquire
  by_cases full : gateway.limiter.limit ≤ gateway.limiter.inFlight
  · simp only [if_pos full]
    exact balanced.reject
  · simp only [if_neg full]
    exact balanced.accept (Int.not_le.mp full)

/-- A response that no longer counts has counted once before, if at all. -/
theorem countP_settle {responses : List StorageResponse} {counts : StorageResponse → Bool}
    {index : Nat} {old new : StorageResponse} (found : responses[index]? = some old)
    (settled : counts new = false) :
    (responses.set index new).countP counts + (if counts old then 1 else 0) =
      responses.countP counts := by
  obtain ⟨inside, isOld⟩ := List.getElem?_eq_some_iff.mp found
  rw [List.countP_set inside, isOld, settled]
  by_cases counted : counts old = true
  · have positive : 0 < responses.countP counts :=
      List.countP_pos_iff.mpr ⟨old, List.mem_of_getElem? found, counted⟩
    simp only [counted, if_true, Bool.false_eq_true, if_false]
    omega
  · simp [counted]

/-- A response holds its place, or has given it back. -/
theorem releaseAndObserve (balanced : Balanced gateway) {index : Nat}
    {response : StorageResponse} {release : Release} {unlistened : StorageResponse}
    (found : gateway.responses[index]? = some response) (held : response.release = some release)
    (sameRelease : unlistened.release = response.release)
    (stops : (unlistened.onFinish && unlistened.onClose) = false) :
    Balanced (gateway.releaseAndObserve index unlistened) := by
  have coherent := balanced.coherent response (List.mem_of_getElem? found)
  have wasOpen : response.isOpen = !release.released := by
    simp [StorageResponse.isOpen, held, coherent.released release held]
  have wasAdmitted : response.isRejected = false := by
    simp [StorageResponse.isRejected, held]
  -- the response that is left holds nothing
  let left : StorageResponse := { unlistened with release := some { released := true } }
  have leftClosed : left.isOpen = false := by
    simp only [StorageResponse.isOpen, left, Bool.and_assoc, stops, Bool.and_false]
  have opens := countP_settle found leftClosed
  have rejects := countP_settle found (rfl : left.isRejected = false)
  rw [wasOpen] at opens
  rw [wasAdmitted] at rejects
  have inFlight := balanced.inFlight
  have limited := balanced.limited
  unfold Gateway.openCount at inFlight
  unfold Gateway.releaseAndObserve
  rw [sameRelease, held]
  simp only [BoundedInFlightLimiter.release_eq]
  constructor
  · intro other otherMem
    rcases List.mem_or_eq_of_mem_set otherMem with old | rfl
    · exact balanced.coherent other old
    · exact ⟨by rintro _ ⟨⟩; simp [stops], nofun⟩
  · change _ = (((gateway.responses.set index left).countP StorageResponse.isOpen : Nat) : Int)
    cases was : release.released <;> simp [was] at opens ⊢ <;> omega
  · change gateway.limiter.inFlight - _ ≤ gateway.limiter.limit
    split <;> omega
  · rw [MetricsRegistry.counter_setGauge, balanced.overloaded]
    simpa [Gateway.rejectedCount] using rejects.symm
  · exact fun _ => MetricsRegistry.get?_setGauge _ _ _

/-- An event of a response releases what it holds, unless the other event has. -/
theorem emit (balanced : Balanced gateway) {index : Nat} {listens : StorageResponse → Bool}
    {unlisten : StorageResponse → StorageResponse}
    (sameRelease : ∀ response, (unlisten response).release = response.release)
    (listened : ∀ response, listens response = true →
      (response.onFinish || response.onClose) = true)
    (stops : ∀ response, ((unlisten response).onFinish && (unlisten response).onClose) = false) :
    Balanced (gateway.emit index listens unlisten) := by
  unfold Gateway.emit
  cases found : gateway.responses[index]? with
  | none => exact balanced
  | some response =>
      by_cases hears : listens response = true
      · simp only [if_pos hears]
        have coherent := balanced.coherent response (List.mem_of_getElem? found)
        cases held : response.release with
        | none =>
            obtain ⟨noFinish, noClose⟩ := coherent.rejected held
            have heard := listened response hears
            rw [noFinish, noClose] at heard
            contradiction
        | some release =>
            exact balanced.releaseAndObserve found held (sameRelease response) (stops response)
      · simp only [if_neg hears]
        exact balanced

theorem step (balanced : Balanced gateway) (event : GatewayEvent) : Balanced (gateway.step event) := by
  cases event with
  | request => exact balanced.request
  | finish index =>
      apply balanced.emit
      · exact fun _ => rfl
      · exact fun response listens => by simp [listens]
      · exact fun _ => rfl
  | close index =>
      apply balanced.emit
      · exact fun _ => rfl
      · exact fun response listens => by simp [listens]
      · exact fun response => Bool.and_false _

theorem run (balanced : Balanced gateway) (events : List GatewayEvent) :
    Balanced (gateway.run events) := by
  induction events generalizing gateway with
  | nil => exact balanced
  | cons event rest ih => exact ih (balanced.step event)

end Balanced

end Gateway

end Mosp.Security
