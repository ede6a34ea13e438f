import Mosp.Security.InFlight
import Mosp.Worker.Lifecycle

/-!
# The processes

How many requests the gateway has in flight, and how a worker runs its passes
and shuts down, whatever happens in whatever order.
-/

namespace Mosp.Guarantees

open Mosp.Security Mosp.Worker

/-- After any requests, and any ends of their responses, exactly the open responses are in flight,
at most as many as the limit; a request is turned away only at the limit; and the metrics tell. -/
theorem in_flight_exact {limit : Int} {limiter : BoundedInFlightLimiter}
    (created : BoundedInFlightLimiter.create limit = .ok limiter) (events : List GatewayEvent) :
    let gateway := Gateway.run { limiter } events
    gateway.limiter.activeCount = gateway.openCount ∧ (gateway.openCount : Int) ≤ limit ∧
      (gateway.limiter.tryAcquire.1 = none ↔ (gateway.openCount : Int) = limit) ∧
        gateway.metrics.counter Gateway.overloadedName = gateway.rejectedCount ∧
          ((∃ response ∈ gateway.responses, response.release ≠ none) →
            gateway.metrics.gauges.get? Gateway.inFlightName = some (gateway.openCount : Int)) := by
  intro gateway
  have balanced : Gateway.Balanced gateway := (Gateway.balanced_start created).run events
  have ofLimit : gateway.limiter.limit = limit :=
    (Gateway.limit_run { limiter } events).trans (BoundedInFlightLimiter.limit_of_create created)
  have inFlight := balanced.inFlight
  have limited := balanced.limited
  refine ⟨inFlight, by omega, ?_, balanced.overloaded, ?_⟩
  · unfold BoundedInFlightLimiter.tryAcquire
    by_cases full : gateway.limiter.limit ≤ gateway.limiter.inFlight
    · simp only [if_pos full, true_iff]
      omega
    · simp only [if_neg full, reduceCtorEq, false_iff]
      omega
  · intro admitted
    rw [← inFlight]
    exact balanced.gauge admitted

/-- The second request is turned away, and the third is admitted once the first has finished. -/
theorem in_flight_exact_one :
    let gateway := Gateway.run { limiter := { limit := 1 } } [.request, .request, .finish 0,
      .close 0, .request]
    gateway.responses.map StorageResponse.isOpen = [false, false, true] ∧
      gateway.limiter.activeCount = gateway.openCount ∧
        gateway.metrics.counter Gateway.overloadedName = gateway.rejectedCount := by
  have created : BoundedInFlightLimiter.create 1 = .ok { limit := 1 } := rfl
  obtain ⟨exact_, -, -, overloaded, -⟩ := in_flight_exact created
    [.request, .request, .finish 0, .close 0, .request]
  exact ⟨by decide, exact_, overloaded⟩

/-- At most one pass of a worker runs, the database is disconnected at most once, and then no pass
runs unless the drain timed out.  Once the worker shuts down no pass starts, and at the latest the
timeout lets it disconnect. -/
theorem worker_winds_down (events : List LifecycleEvent) :
    let worker := Lifecycle.run {} events
    (∀ first second, worker.IsRunning first → worker.IsRunning second → first = second) ∧
      worker.disconnects ≤ 1 ∧
        (worker.disconnects = 1 → worker.shutdownPromise = some (.disconnected true) ∨
          ∀ pass, ¬worker.IsRunning pass) ∧
          (worker.shutdownPromise ≠ none →
            (worker.run [.timeout, .drained]).disconnects = 1 ∧
              ∀ later, (worker.run later).passes.length = worker.passes.length) := by
  intro worker
  have sound : Lifecycle.Sound worker := Lifecycle.sound_start.run events
  have once := sound.once
  refine ⟨?_, ?_, ?_, ?_⟩
  · intro first second firstRuns secondRuns
    exact Option.some.inj ((sound.isRunning firstRuns).symm.trans (sound.isRunning secondRuns))
  · rw [once]
    split <;> decide
  · intro isOnce
    rw [once] at isOnce
    split at isOnce
    · rename_i timedOut disconnected
      cases timedOut with
      | true => exact .inl disconnected
      | false => exact .inr (sound.disconnected disconnected)
    · contradiction
  · intro begun
    constructor
    · exact Lifecycle.disconnects_of_timeout sound begun
    · exact fun later => (Lifecycle.winds_run worker later).passes begun

end Mosp.Guarantees
