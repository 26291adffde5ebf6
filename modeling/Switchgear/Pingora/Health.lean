/-
  Switchgear.Pingora.Health — `DefaultPingoraLnClientPool` and
  `PingoraLnHealthCheck`: how metrics get into the cache that selections read.

  `answer` is what the RPC of a client ends in.  The checks of the backends of a
  set may run one after the other or at once: they write under different keys.

  Main results:
    * `checkAll_pool` — a health check leaves the clients alone,
    * `checkAll_cached` — the metrics that are cached afterwards were cached
      before, or a client under that key has just answered them.
-/
import Switchgear.Pool.Clients
import Switchgear.Pingora.Balance

namespace Switchgear.Pool.LnClientPool

open Std (TransOrd)

variable {Key Client : Type} [Ord Key] [TransOrd Key] [Repr Key]

/-- `get_metrics`: a success is cached, a failure leaves what was cached before. -/
def getMetrics (answer : Client → Except LnPoolError LnMetrics) (key : Key)
    (self : LnClientPool Key Client) : Except LnPoolError LnMetrics × LnClientPool Key Client :=
  match self.getClient key with
  | .error e => (.error e, self)
  | .ok client =>
      match answer client with
      | .error e => (.error e, self)
      | .ok metrics =>
          (.ok metrics, { self with metricsCache := self.metricsCache.insert key metrics })

end Switchgear.Pool.LnClientPool

namespace Switchgear.Pingora

open Switchgear.Pool
open Std (ExtTreeMap LawfulEqOrd)

/-! ## §1. The pool under the balancer. -/

/-- The metrics of the pool, as the balancer reads them. -/
def pingoraLnMetrics (metrics : LnMetrics) : PingoraLnMetrics where
  healthy := metrics.healthy
  nodeEffectiveInboundMsat := metrics.nodeEffectiveInboundMsat

namespace DefaultPingoraLnClientPool

variable {Client : Type}

def getMetrics [Repr BackendId] (answer : Client → Except LnPoolError LnMetrics)
    (key : BackendId) (pool : LnClientPool BackendId Client) :
    Except LnPoolError PingoraLnMetrics × LnClientPool BackendId Client :=
  let (metrics, pool) := pool.getMetrics answer key
  (metrics.map pingoraLnMetrics, pool)

/-- `PingoraLnMetricsCache` of the pool. -/
def getCachedMetrics (pool : LnClientPool BackendId Client) : MetricsCache :=
  fun key => (pool.getCachedMetrics key).map pingoraLnMetrics

end DefaultPingoraLnClientPool

/-! ## §2. The health check. -/

/-- What a failed check reports: an `InternalError` with its cause, or a `ConnectError`. -/
inductive HealthCheckError where
  | internalError (context : String) (cause : LnPoolError)
  | connectError

namespace PingoraLnHealthCheck

variable {Client : Type} [Repr BackendId]

/-- `check` of one backend. -/
def check (answer : Client → Except LnPoolError LnMetrics) (target : BackendId)
    (pool : LnClientPool BackendId Client) :
    Except HealthCheckError Unit × LnClientPool BackendId Client :=
  match DefaultPingoraLnClientPool.getMetrics answer target pool with
  | (.error e, pool) =>
      (.error (.internalError ("health health for backend " ++ reprStr target) e), pool)
  | (.ok metrics, pool) =>
      (if metrics.healthy then .ok () else .error .connectError, pool)

/-- What the pool is after the check of every backend of a set. -/
def checkAll (answer : BackendId → Client → Except LnPoolError LnMetrics)
    (targets : List BackendId) (pool : LnClientPool BackendId Client) :
    LnClientPool BackendId Client :=
  targets.foldl (fun pool target => (check (answer target) target pool).2) pool

/-! ## §3. What a check leaves behind. -/

/-- A check stores what a client under the key answers, or nothing. -/
theorem check_cases (answer : Client → Except LnPoolError LnMetrics) (target : BackendId)
    (pool : LnClientPool BackendId Client) :
    (check answer target pool).2 = pool
      ∨ ∃ client metrics, pool.pool[target]? = some client ∧ answer client = .ok metrics
          ∧ (check answer target pool).2
              = { pool with metricsCache := pool.metricsCache.insert target metrics } := by
  unfold check DefaultPingoraLnClientPool.getMetrics LnClientPool.getMetrics
    LnClientPool.getClient
  cases hclient : pool.pool[target]? with
  | none => exact .inl rfl
  | some client =>
      dsimp only
      cases hanswer : answer client with
      | error e => exact .inl rfl
      | ok metrics => exact .inr ⟨client, metrics, rfl, hanswer, rfl⟩

theorem check_pool (answer : Client → Except LnPoolError LnMetrics) (target : BackendId)
    (pool : LnClientPool BackendId Client) :
    (check answer target pool).2.pool = pool.pool := by
  rcases check_cases answer target pool with heq | ⟨client, metrics, -, -, heq⟩
  · rw [heq]
  · rw [heq]

theorem checkAll_pool (answer : BackendId → Client → Except LnPoolError LnMetrics)
    (targets : List BackendId) (pool : LnClientPool BackendId Client) :
    (checkAll answer targets pool).pool = pool.pool := by
  induction targets generalizing pool with
  | nil => rfl
  | cons target targets ih =>
      show (checkAll answer targets (check (answer target) target pool).2).pool = pool.pool
      rw [ih, check_pool]

/-- The metrics cached after one check. -/
theorem check_cached {answer : Client → Except LnPoolError LnMetrics} {target key : BackendId}
    {pool : LnClientPool BackendId Client} {metrics : LnMetrics}
    (h : (check answer target pool).2.metricsCache[key]? = some metrics) :
    pool.metricsCache[key]? = some metrics
      ∨ key = target ∧ ∃ client, pool.pool[key]? = some client ∧ answer client = .ok metrics := by
  rcases check_cases answer target pool with heq | ⟨client, answered, hclient, hanswer, heq⟩
  · rw [heq] at h
    exact .inl h
  · rw [heq] at h
    change (pool.metricsCache.insert target answered)[key]? = some metrics at h
    rw [ExtTreeMap.getElem?_insert] at h
    by_cases hkey : compare target key = .eq
    · rw [if_pos hkey] at h
      obtain rfl : target = key := LawfulEqOrd.eq_of_compare hkey
      obtain rfl : answered = metrics := Option.some.inj h
      exact .inr ⟨rfl, client, hclient, hanswer⟩
    · rw [if_neg hkey] at h
      exact .inl h

theorem checkAll_cached {answer : BackendId → Client → Except LnPoolError LnMetrics}
    {targets : List BackendId} {key : BackendId} {pool : LnClientPool BackendId Client}
    {metrics : LnMetrics} (h : (checkAll answer targets pool).metricsCache[key]? = some metrics) :
    pool.metricsCache[key]? = some metrics
      ∨ key ∈ targets
          ∧ ∃ client, pool.pool[key]? = some client ∧ answer key client = .ok metrics := by
  induction targets generalizing pool with
  | nil => exact .inl h
  | cons target targets ih =>
      change (checkAll answer targets (check (answer target) target pool).2).metricsCache[key]?
        = some metrics at h
      rcases ih h with hbefore | ⟨hmem, client, hclient, hanswer⟩
      · rcases check_cached hbefore with hold | ⟨rfl, client, hclient, hanswer⟩
        · exact .inl hold
        · exact .inr ⟨List.mem_cons_self, client, hclient, hanswer⟩
      · rw [check_pool] at hclient
        exact .inr ⟨List.mem_cons_of_mem target hmem, client, hclient, hanswer⟩

end PingoraLnHealthCheck

end Switchgear.Pingora
