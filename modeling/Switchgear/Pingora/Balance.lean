/-
  Switchgear.Pingora.Balance — `PingoraLnBalancer::select_backend`.

  A backend is accepted when it is ready, carries an extension that serves the
  offer's partition, has cached metrics and, while a capacity bias is given,
  has the capacity for the amount.  The capacity test is floating-point
  arithmetic on the bias; it is a predicate of the configuration here.
-/
import Switchgear.ServiceApi.Offer
import Switchgear.Pingora.LoadBalancer

namespace Switchgear.Pingora

open Switchgear.Offer

structure PingoraLnMetrics where
  healthy : Bool
  nodeEffectiveInboundMsat : UInt64
  deriving DecidableEq

/-- How a balancer selects: its selector, its iteration limit, the hash of a `Backend`
and the capacity test `amount <= inbound * (1 + bias)`. -/
structure SelectionConfig (Bias : Type) where
  selection : BackendSelection
  /-- `MaxIterations::max_iterations` of the number of backends. -/
  maxIterations : ℕ → ℕ
  hashBackend : BackendId → UInt64
  withinCapacity : (amountMsat : UInt64) → (inboundMsat : UInt64) → Bias → Bool

/-- `PingoraLnMetricsCache::get_cached_metrics`. -/
abbrev MetricsCache := BackendId → Option PingoraLnMetrics

namespace SelectionConfig

variable {Bias : Type} (config : SelectionConfig Bias)

/-- The closure `select_backend` gives to `select_with`. -/
def accept (metrics : MetricsCache) (offer : Offer) (amountMsat : UInt64)
    (currentSelectionCapacityBias : Option Bias) (backend : Backend) (health : Bool) : Bool :=
  if !health then false
  else
    match backend.ext with
    | none => false
    | some extension =>
        if offer.partition ∈ extension.partitions then
          -- a backend no health check has measured is passed over
          match metrics backend.id with
          | none => false
          | some metrics =>
              match currentSelectionCapacityBias with
              | none => true
              | some bias =>
                  config.withinCapacity amountMsat metrics.nodeEffectiveInboundMsat bias
        else false

def selectBackend (lb : LoadBalancer) (metrics : MetricsCache) (offer : Offer)
    (amountMsat : UInt64) (key : Bytes) (currentSelectionCapacityBias : Option Bias) :
    Option Backend :=
  lb.selectWith config.hashBackend config.selection key
    (config.maxIterations lb.backends.size)
    (config.accept metrics offer amountMsat currentSelectionCapacityBias)

/-- What an accepted backend satisfies. -/
structure Acceptable (metrics : MetricsCache) (offer : Offer) (backend : Backend)
    (ready : Bool) : Prop where
  ready : ready = true
  serves : ∃ extension, backend.ext = some extension ∧ offer.partition ∈ extension.partitions
  hasMetrics : (metrics backend.id).isSome = true

theorem acceptable_of_accept {metrics : MetricsCache} {offer : Offer} {amountMsat : UInt64}
    {bias : Option Bias} {backend : Backend} {ready : Bool}
    (h : config.accept metrics offer amountMsat bias backend ready = true) :
    Acceptable metrics offer backend ready := by
  unfold accept at h
  cases hready : ready with
  | false =>
      rw [hready] at h
      cases h
  | true =>
      rw [hready] at h
      cases hext : backend.ext with
      | none => simp [hext] at h
      | some extension =>
          by_cases hserves : offer.partition ∈ extension.partitions
          · cases hmetrics : metrics backend.id with
            | none => simp [hext, hserves, hmetrics] at h
            | some m => exact ⟨rfl, ⟨extension, hext, hserves⟩, by rw [hmetrics]; rfl⟩
          · simp [hext, hserves] at h

/-- Every selected backend is in the set of the balancer and acceptable. -/
theorem selectBackend_some {lb : LoadBalancer} {metrics : MetricsCache} {offer : Offer}
    {amountMsat : UInt64} {key : Bytes} {bias : Option Bias} {backend : Backend}
    (h : config.selectBackend lb metrics offer amountMsat key bias = some backend) :
    lb.backends[backend.id]? = some backend.ext
      ∧ Acceptable metrics offer backend (lb.ready config.hashBackend backend) := by
  obtain ⟨hmem, haccept⟩ := LoadBalancer.selectWith_some h
  exact ⟨hmem, config.acceptable_of_accept haccept⟩

end SelectionConfig

end Switchgear.Pingora
