/-
  Switchgear.Pingora.Traffic — which node is asked for an invoice, over whole runs.

  One pool is shared by the discovery service, the health check and the calls of
  `get_invoice`.  A call first selects a backend and then takes the client under
  its key from the pool: between the two, updates, health checks and other calls
  go on.  Nothing ever leaves the pool, so what is under a key is not enough to
  say that a node may be asked; the run is.

  Main result:
    * `asked_node_was_discovered` — whenever an invoice is asked of a node, its
      client was made from a record that an update found in the store; when it
      was selected, the last update had found it enabled, an update had found it
      with the partition of the offer, and a health check had measured it.
-/
import Switchgear.Lib.History
import Switchgear.Pingora.BalancerSync
import Switchgear.Pingora.Health
import Switchgear.Pingora.CapacityBias

namespace Switchgear.Pingora

open Switchgear.Lib
open Switchgear.Discovery
open Switchgear.Offer
open Switchgear.Pool
open Std (ExtTreeMap TransOrd LawfulEqOrd)

/-! ## §1. The balancer at work. -/

/-- An attempt of `get_invoice` between its selection and its RPC. -/
structure InvoiceAttempt (Bias : Type) where
  request : InvoiceRequest
  bias : Option Bias
  backend : Backend

structure TrafficState (ι σ Bias : Type) where
  balancer : BalancerState σ LnRpcClient
  attempts : ι → Option (InvoiceAttempt Bias)

/-- A discovery event, where a `discover` is part of an update; a health check of all backends,
with what the clients answer and the flags it leaves; the two halves of an attempt. -/
inductive TrafficEvent (ι K ε Bias : Type) where
  | discovery (event : DiscoverEvent K ε)
  | healthCheck (answer : BackendId → LnRpcClient → Except LnPoolError LnMetrics)
      (healthy : UInt64 → Bool)
  | select (k : ι) (config : SelectionConfig Bias) (request : InvoiceRequest)
      (bias : Option Bias)
  | invoice (k : ι) (now : DateTime)

/-- What an attempt asks the node it has selected. -/
structure InvoiceRpc (Bias : Type) where
  attempt : InvoiceAttempt Bias
  sent : Except LnPoolError NodeRequest

section Machine

variable {ι K σ ε E Bias : Type}

/-- The event that runs a whole update. -/
abbrev TrafficEvent.update : TrafficEvent ι K ε Bias := .discovery .discover

/-- How many mutations an event is. -/
def TrafficEvent.mutations : TrafficEvent ι K ε Bias → ℕ
  | .discovery event => event.mutations
  | _ => 0

/-- The health check: the pool learns the metrics, the balancer the flags. -/
def BalancerState.checked [Repr BackendId]
    (answer : BackendId → LnRpcClient → Except LnPoolError LnMetrics) (healthy : UInt64 → Bool)
    (s : BalancerState σ LnRpcClient) : BalancerState σ LnRpcClient :=
  { s with
    service :=
      { s.service with
        pool := PingoraLnHealthCheck.checkAll answer s.loadBalancer.backends.keys s.service.pool }
    loadBalancer := s.loadBalancer.runHealthCheck healthy }

/-- The selection of an attempt, from the metrics the pool has cached.  A `Backend` has one
hash. -/
def BalancerState.select (env : DiscoveryEnv K LnRpcClient E) (config : SelectionConfig Bias)
    (request : InvoiceRequest) (bias : Option Bias) (s : BalancerState σ LnRpcClient) :
    Option Backend :=
  { config with hashBackend := env.hashBackend }.selectBackend s.loadBalancer
    (DefaultPingoraLnClientPool.getCachedMetrics s.service.pool) request.offer request.amountMsat
    request.key bias

variable [Ord K] [DecidableEq K] [DecidableEq ι] [Repr BackendId]

/-- All of it together; an output is an RPC. -/
def traffic (sha256 : Sha256) (store : DiscoveryBackendStore K σ ε)
    (env : DiscoveryEnv K LnRpcClient E) :
    Machine (TrafficState ι σ Bias) (TrafficEvent ι K ε Bias) (Option (InvoiceRpc Bias)) :=
  fun s event =>
    match event with
    | .discovery event =>
        (none, { s with balancer := (balanced store env s.balancer (.discovery event)).2 })
    | .healthCheck answer healthy =>
        (none, { s with balancer := s.balancer.checked answer healthy })
    | .select k config request bias =>
        let selection := s.balancer.select env config request bias
        let attempt := selection.map fun backend => { request, bias, backend }
        -- a selection that finds nothing ends the attempt
        (none, { s with attempts := Function.update s.attempts k attempt })
    | .invoice k now =>
        match s.attempts k with
        | none => (none, s)
        | some attempt =>
            -- the pool is read now: what came between may have put another client under the key
            let sent := s.balancer.service.pool.getInvoice sha256 now attempt.request.offer
              attempt.backend.id (some attempt.request.amountMsat)
              (some attempt.request.expirySecs)
            (some { attempt, sent }, { s with attempts := Function.update s.attempts k none })

def TrafficState.start (S : VersionedStore K σ ε) (hasHealthCheck : Bool) :
    TrafficState ι σ Bias where
  balancer := .start S hasHealthCheck
  attempts := fun _ => none

/-- The state after a run of events. -/
def reached (sha256 : Sha256) (S : VersionedStore K σ ε) (env : DiscoveryEnv K LnRpcClient E)
    (hasHealthCheck : Bool) (events : List (TrafficEvent ι K ε Bias)) : TrafficState ι σ Bias :=
  ((traffic sha256 S.store env).run (.start S hasHealthCheck) events).2

/-- The hashes tell the stored records apart when an update reloads. -/
def HashesTellApartInTraffic (S : VersionedStore K σ ε) (env : DiscoveryEnv K LnRpcClient E)
    (s : TrafficState ι σ Bias) : TrafficEvent ι K ε Bias → Prop
  | .discovery event => HashesTellApart S env (s.balancer.store, s.balancer.service) event
  | _ => True

end Machine

/-! ## §2. What an update leaves in the pool and in the balancer. -/

section Update

variable {K σ ε Client E : Type} {env : DiscoveryEnv K Client E}

/-- What is in the pool after the loop was there before, or is the client of a record. -/
theorem foldl_visit_pool (bs : List (DiscoveryBackend K)) (acc : Reload Client) {id : BackendId}
    {client : Client} (h : (bs.foldl (visit env) acc).pool.pool[id]? = some client) :
    acc.pool.pool[id]? = some client
      ∨ ∃ b ∈ bs, env.admits b = some client ∧ (env.pingoraBackend b).id = id := by
  -- by the last record that wrote the key, or by none
  induction bs generalizing acc with
  | nil => exact .inl h
  | cons b bs ih =>
      rcases ih (visit env acc b) h with hvisited | ⟨a, ha, hadmits, hid⟩
      · cases hadmits : env.admits b with
        | none =>
            rw [visit_skipped hadmits] at hvisited
            exact .inl hvisited
        | some client' =>
            rw [visit_admitted hadmits] at hvisited
            change (acc.pool.pool.insert (env.pingoraBackend b).id client')[id]? = some client
              at hvisited
            rw [ExtTreeMap.getElem?_insert] at hvisited
            by_cases hkey : compare (env.pingoraBackend b).id id = .eq
            · rw [if_pos hkey] at hvisited
              obtain rfl : client' = client := Option.some.inj hvisited
              exact .inr ⟨b, List.mem_cons_self, hadmits, LawfulEqOrd.eq_of_compare hkey⟩
            · rw [if_neg hkey] at hvisited
              exact .inl hvisited
      · exact .inr ⟨a, List.mem_cons_of_mem b ha, hadmits, hid⟩

/-- No client leaves the pool. -/
theorem foldl_visit_kept (bs : List (DiscoveryBackend K)) (acc : Reload Client) {id : BackendId}
    (h : (acc.pool.pool[id]?).isSome = true) :
    ((bs.foldl (visit env) acc).pool.pool[id]?).isSome = true := by
  induction bs generalizing acc with
  | nil => exact h
  | cons b bs ih =>
      apply ih
      cases hadmits : env.admits b with
      | none =>
          rw [visit_skipped hadmits]
          exact h
      | some client =>
          rw [visit_admitted hadmits]
          show ((acc.pool.pool.insert (env.pingoraBackend b).id client)[id]?).isSome = true
          rw [ExtTreeMap.getElem?_insert]
          split
          · rfl
          · exact h

/-- The loop does not touch the cached metrics. -/
theorem foldl_visit_metricsCache (bs : List (DiscoveryBackend K)) (acc : Reload Client) :
    (bs.foldl (visit env) acc).pool.metricsCache = acc.pool.metricsCache := by
  induction bs generalizing acc with
  | nil => rfl
  | cons b bs ih =>
      have hvisit : (visit env acc b).pool.metricsCache = acc.pool.metricsCache := by
        cases hadmits : env.admits b with
        | none => rw [visit_skipped hadmits]
        | some client => rw [visit_admitted hadmits]
      show (bs.foldl (visit env) (visit env acc b)).pool.metricsCache = _
      rw [ih, hvisit]

variable [Ord K] [DecidableEq K] {S : VersionedStore K σ ε}

/-- The balancer holds what a store had, under its flags, and the pool has the clients. -/
def InStepWith (S : VersionedStore K σ ε) (env : DiscoveryEnv K Client E) (store : σ)
    (state : BalancerState σ Client) : Prop :=
  ∀ id ∈ state.loadBalancer.backends.keys, ∃ b client,
    Connected S env store b client ∧ (env.pingoraBackend b).id = id
      ∧ state.loadBalancer.enabled env.hashBackend id = some b.backend.enabled
      ∧ state.service.pool.pool[id]? = some client

variable {state : BalancerState σ Client}

/-- Under the invariant the pool has a client for every backend of the balancer. -/
theorem BalancerInv.client (h : BalancerInv S env state) {id : BackendId}
    (hid : id ∈ state.loadBalancer.backends.keys) :
    (state.service.pool.pool[id]?).isSome = true := by
  obtain ⟨list, -, hloaded, -⟩ := h.loaded
  obtain ⟨enablement, hbuilt⟩ := hloaded.built
  rw [h.keys, ExtTreeMap.mem_keys, ExtTreeMap.mem_iff_isSome_getElem?] at hid
  obtain ⟨ext, hext⟩ := Option.isSome_iff_exists.mp hid
  obtain ⟨b, hb, hadmits, hbackend⟩ := (hbuilt.backends id ext).mp hext
  obtain ⟨client, hclient⟩ := Option.isSome_iff_exists.mp hadmits
  have hpool := hbuilt.pool b hb client hclient
  rw [hbackend] at hpool
  rw [hpool]
  rfl

/-- An update puts the balancer in step with the store. -/
theorem BalancerInv.inStepWith (h : BalancerInv S env state)
    (hinjective : HashesInjective env (S.content state.store)) :
    InStepWith S env state.store (balanced S.store env state .update).2 := by
  obtain ⟨s, service, lb⟩ := state
  obtain ⟨-, -, hloaded, hflags, enablement, hlb⟩ := h.update_content hinjective
  obtain ⟨flags, hbuilt⟩ := hloaded.built
  intro id hid
  rw [hlb, LoadBalancer.doUpdate_keys, ← hloaded.cache, ExtTreeMap.mem_keys,
    ExtTreeMap.mem_iff_isSome_getElem?] at hid
  obtain ⟨ext, hext⟩ := Option.isSome_iff_exists.mp hid
  obtain ⟨b, hb, hadmits, hbackend⟩ := (hbuilt.backends id ext).mp hext
  obtain ⟨client, hclient⟩ := Option.isSome_iff_exists.mp hadmits
  have hid' : (env.pingoraBackend b).id = id := by rw [hbackend]
  refine ⟨b, client, ⟨(S.mem_content_iff s h.wf b).mp hb,
    DiscoveryEnv.admits_eq_some_iff.mp hclient⟩, hid', ?_, ?_⟩
  · rw [← hid']
    exact hflags b hb hadmits
  · rw [← hid']
    exact hbuilt.pool b hb client hclient

/-- What the balancer holds after an update it held before, or the store has it. -/
theorem BalancerInv.update_backends (h : BalancerInv S env state)
    (hinjective : HashesInjective env (S.content state.store)) {id : BackendId}
    {ext : Option PingoraLnBackendExtension}
    (hext : (balanced S.store env state .update).2.loadBalancer.backends[id]? = some ext) :
    state.loadBalancer.backends[id]? = some ext
      ∨ ∃ b client, Connected S env state.store b client
          ∧ env.pingoraBackend b = { id, ext } := by
  obtain ⟨s, service, lb⟩ := state
  obtain ⟨-, -, hloaded, -, enablement, hlb⟩ := h.update_content hinjective
  obtain ⟨flags, hbuilt⟩ := hloaded.built
  rw [hlb] at hext
  -- with the same keys the old set stays, its extensions too
  by_cases hkeys : lb.backends.keys = (eligible env (S.content s)).keys
  · rw [LoadBalancer.doUpdate_same hkeys] at hext
    exact .inl hext
  · rw [LoadBalancer.doUpdate_changed hkeys, ← hloaded.cache] at hext
    right
    rw [← exists_admitted_iff h.wf fun b => env.pingoraBackend b = { id, ext }]
    exact (hbuilt.backends id ext).mp hext

/-- What the pool holds after an update it held before, or the store has it. -/
theorem update_pool (hwf : S.Wf state.store) {id : BackendId} {client : Client}
    (hclient : (balanced S.store env state .update).2.service.pool.pool[id]? = some client) :
    state.service.pool.pool[id]? = some client
      ∨ ∃ b, Connected S env state.store b client ∧ (env.pingoraBackend b).id = id := by
  obtain ⟨s, service, lb⟩ := state
  by_cases hcurrent : service.lastEtag = S.etag s
  · rw [balanced_notModified hwf hcurrent] at hclient
    exact .inl hclient
  · rw [balanced_modified hwf hcurrent] at hclient
    rcases foldl_visit_pool (btreeSet (S.content s)) _ hclient with hold | ⟨b, hb, hadmits, hid⟩
    · exact .inl hold
    · have hmem : b ∈ S.content s := (mem_btreeSet _ b).mp hb
      exact .inr ⟨b, ⟨(S.mem_content_iff s hwf b).mp hmem,
        DiscoveryEnv.admits_eq_some_iff.mp hadmits⟩, hid⟩

/-- An update keeps the keys of the pool and the cached metrics. -/
theorem update_keeps (hwf : S.Wf state.store) :
    (∀ id : BackendId, (state.service.pool.pool[id]?).isSome = true →
      ((balanced S.store env state .update).2.service.pool.pool[id]?).isSome = true)
    ∧ (balanced S.store env state .update).2.service.pool.metricsCache
        = state.service.pool.metricsCache := by
  obtain ⟨s, service, lb⟩ := state
  by_cases hcurrent : service.lastEtag = S.etag s
  · rw [balanced_notModified hwf hcurrent]
    exact ⟨fun _ h => h, rfl⟩
  · rw [balanced_modified hwf hcurrent]
    exact ⟨fun _ h => foldl_visit_kept _ _ h, foldl_visit_metricsCache _ _⟩

end Update

/-! ## §3. The invariant. -/

section Invariant

variable {ι K σ ε E Bias : Type} [Ord K] [DecidableEq K] [DecidableEq ι] [Repr BackendId]
  {sha256 : Sha256} {S : VersionedStore K σ ε} {env : DiscoveryEnv K LnRpcClient E}

/-- The balancer follows the store, and the pool has a client for every attempt under way. -/
structure TrafficInv (S : VersionedStore K σ ε) (env : DiscoveryEnv K LnRpcClient E)
    (s : TrafficState ι σ Bias) : Prop where
  balancer : BalancerInv S env s.balancer
  client : ∀ k attempt, s.attempts k = some attempt →
    (s.balancer.service.pool.pool[attempt.backend.id]?).isSome = true

omit [DecidableEq ι] [Repr BackendId] in
theorem TrafficInv.start (S : VersionedStore K σ ε) (env : DiscoveryEnv K LnRpcClient E)
    (hasHealthCheck : Bool) :
    TrafficInv S env (.start S hasHealthCheck : TrafficState ι σ Bias) where
  balancer := BalancerInv.start S env hasHealthCheck
  client := by
    intro k attempt h
    cases h

/-- A health check keeps what the balancer knows of the store. -/
theorem BalancerInv.checked {state : BalancerState σ LnRpcClient} (h : BalancerInv S env state)
    (answer : BackendId → LnRpcClient → Except LnPoolError LnMetrics) (healthy : UInt64 → Bool) :
    BalancerInv S env (state.checked answer healthy) := by
  obtain ⟨list, hsound, ⟨hcache, flags, hbuilt⟩, hflags⟩ := h.loaded
  refine ⟨h.wf, h.populated.runHealthCheck healthy, h.keys, list, hsound,
    ⟨hcache, flags, hbuilt.backends, hbuilt.enablement, ?_⟩, ?_⟩
  · intro b hb client hclient
    show (PingoraLnHealthCheck.checkAll answer _ state.service.pool).pool[_]? = some client
    rw [PingoraLnHealthCheck.checkAll_pool]
    exact hbuilt.pool b hb client hclient
  · intro b hb hadmits
    show (state.loadBalancer.runHealthCheck healthy).enabled env.hashBackend _ = _
    rw [LoadBalancer.runHealthCheck_enabled]
    exact hflags b hb hadmits

omit [Ord K] [DecidableEq K] [DecidableEq ι] [Repr BackendId] in
/-- A selected backend is one of the balancer, and enabled. -/
theorem select_some {state : BalancerState σ LnRpcClient} {config : SelectionConfig Bias}
    {request : InvoiceRequest} {bias : Option Bias} {backend : Backend}
    (hpop : state.loadBalancer.Populated env.hashBackend)
    (h : state.select env config request bias = some backend) :
    backend.id ∈ state.loadBalancer.backends.keys
      ∧ state.loadBalancer.backends[backend.id]? = some backend.ext
      ∧ state.loadBalancer.enabled env.hashBackend backend.id = some true := by
  obtain ⟨hmem, hacceptable⟩ := SelectionConfig.selectBackend_some _ h
  have hid : backend.id ∈ state.loadBalancer.backends.keys := by
    rw [ExtTreeMap.mem_keys, ExtTreeMap.mem_iff_isSome_getElem?, hmem]
    rfl
  refine ⟨hid, hmem, ?_⟩
  obtain ⟨health, hhealth⟩ := Option.isSome_iff_exists.mp (hpop _ hid)
  have hready : state.loadBalancer.ready env.hashBackend backend = true := hacceptable.ready
  unfold LoadBalancer.ready at hready
  unfold LoadBalancer.enabled
  rw [hhealth] at hready ⊢
  have hboth : (health.healthy && health.enabled) = true := hready
  rw [Bool.and_eq_true] at hboth
  rw [Option.map_some, hboth.2]

omit [Repr BackendId] in
/-- An event that is not an update leaves the service and the balancer alone. -/
theorem balanced_quiet (S : VersionedStore K σ ε) (env : DiscoveryEnv K LnRpcClient E)
    {event : DiscoverEvent K ε} (hevent : event ≠ .discover)
    (state : BalancerState σ LnRpcClient) :
    (balanced S.store env state (.discovery event)).2.service = state.service
      ∧ (balanced S.store env state (.discovery event)).2.loadBalancer = state.loadBalancer := by
  obtain ⟨s, service, lb⟩ := state
  cases event with
  | mutate now m => exact ⟨rfl, rfl⟩
  | providerFailure error => exact ⟨rfl, rfl⟩
  | discover => exact absurd rfl hevent

/-- What an event that is not an update leaves alone: the clients, the set of the balancer and
its flags. -/
structure Quiet (env : DiscoveryEnv K LnRpcClient E) (s s' : BalancerState σ LnRpcClient) :
    Prop where
  pool : s'.service.pool.pool = s.service.pool.pool
  backends : s'.loadBalancer.backends = s.loadBalancer.backends
  enabled : ∀ id, s'.loadBalancer.enabled env.hashBackend id
    = s.loadBalancer.enabled env.hashBackend id

theorem traffic_quiet {event : TrafficEvent ι K ε Bias} (hevent : event ≠ .update)
    (s : TrafficState ι σ Bias) :
    Quiet env s.balancer (traffic sha256 S.store env s event).2.balancer := by
  cases event with
  | discovery event =>
      have hquiet := balanced_quiet S env
        (fun h => hevent (congrArg TrafficEvent.discovery h)) s.balancer
      refine ⟨?_, ?_, fun id => ?_⟩
      · show (balanced S.store env s.balancer (.discovery event)).2.service.pool.pool = _
        rw [hquiet.1]
      · show (balanced S.store env s.balancer (.discovery event)).2.loadBalancer.backends = _
        rw [hquiet.2]
      · show (balanced S.store env s.balancer (.discovery event)).2.loadBalancer.enabled _ id = _
        rw [hquiet.2]
  | healthCheck answer healthy =>
      refine ⟨PingoraLnHealthCheck.checkAll_pool _ _ _, rfl, fun id => ?_⟩
      exact LoadBalancer.runHealthCheck_enabled healthy id
  | select k config request bias => exact ⟨rfl, rfl, fun _ => rfl⟩
  | invoice k now =>
      unfold traffic
      dsimp only
      split
      · exact ⟨rfl, rfl, fun _ => rfl⟩
      · exact ⟨rfl, rfl, fun _ => rfl⟩

omit [Ord K] [DecidableEq K] [Repr BackendId] in
/-- Without an update in between, the balancer stays in step with the store of the last one. -/
theorem InStepWith.quiet {store : σ} {s s' : BalancerState σ LnRpcClient}
    (h : InStepWith S env store s) (hquiet : Quiet env s s') : InStepWith S env store s' := by
  intro id hid
  rw [hquiet.backends] at hid
  obtain ⟨b, client, hconnected, hb, henabled, hclient⟩ := h id hid
  exact ⟨b, client, hconnected, hb, by rw [hquiet.enabled, henabled],
    by rw [hquiet.pool, hclient]⟩

/-- What an attempt under way was selected by. -/
theorem attempts_step {s : TrafficState ι σ Bias} {event : TrafficEvent ι K ε Bias} {k : ι}
    {attempt : InvoiceAttempt Bias}
    (h : (traffic sha256 S.store env s event).2.attempts k = some attempt) :
    s.attempts k = some attempt
      ∨ ∃ config, event = .select k config attempt.request attempt.bias
          ∧ s.balancer.select env config attempt.request attempt.bias = some attempt.backend := by
  cases event with
  | discovery event => exact .inl h
  | healthCheck answer healthy => exact .inl h
  | select k' config request bias =>
      change Function.update s.attempts k' _ k = some attempt at h
      by_cases hk : k = k'
      · subst hk
        rw [Function.update_self, Option.map_eq_some_iff] at h
        obtain ⟨backend, hselected, rfl⟩ := h
        exact .inr ⟨config, rfl, hselected⟩
      · rw [Function.update_of_ne hk] at h
        exact .inl h
  | invoice k' now =>
      left
      unfold traffic at h
      dsimp only at h
      split at h
      · exact h
      · change Function.update s.attempts k' none k = some attempt at h
        by_cases hk : k = k'
        · rw [hk, Function.update_self] at h
          cases h
        · rw [Function.update_of_ne hk] at h
          exact h

/-- No client leaves the pool. -/
theorem traffic_keeps {s : TrafficState ι σ Bias} (hwf : S.Wf s.balancer.store)
    (event : TrafficEvent ι K ε Bias) (id : BackendId)
    (h : (s.balancer.service.pool.pool[id]?).isSome = true) :
    ((traffic sha256 S.store env s event).2.balancer.service.pool.pool[id]?).isSome = true := by
  by_cases hevent : event = .update
  · rw [hevent]
    exact (update_keeps hwf).1 id h
  · rw [(traffic_quiet hevent s).pool]
    exact h

theorem traffic_inv {s : TrafficState ι σ Bias} (h : TrafficInv S env s)
    (event : TrafficEvent ι K ε Bias)
    (hroom : (S.etag s.balancer.store).toNat + event.mutations < etagRoom)
    (hhashes : HashesTellApartInTraffic S env s event) :
    TrafficInv S env (traffic sha256 S.store env s event).2 where
  balancer := by
    cases event with
    | discovery event => exact balanced_inv h.balancer (.discovery event) hroom hhashes
    | healthCheck answer healthy => exact h.balancer.checked answer healthy
    | select k config request bias => exact h.balancer
    | invoice k now =>
        unfold traffic
        dsimp only
        split
        · exact h.balancer
        · exact h.balancer
  client := by
    intro k attempt hattempt
    apply traffic_keeps h.balancer.wf
    rcases attempts_step hattempt with hbefore | ⟨config, -, hselected⟩
    · exact h.client k attempt hbefore
    · exact h.balancer.client (select_some h.balancer.populated hselected).1

theorem traffic_etag_le {s : TrafficState ι σ Bias} (hwf : S.Wf s.balancer.store)
    (event : TrafficEvent ι K ε Bias)
    (hroom : (S.etag s.balancer.store).toNat + event.mutations < etagRoom) :
    S.Wf (traffic sha256 S.store env s event).2.balancer.store
      ∧ (S.etag (traffic sha256 S.store env s event).2.balancer.store).toNat
          ≤ (S.etag s.balancer.store).toNat + event.mutations := by
  cases event with
  | discovery event => exact balanced_etag_le hwf (.discovery event) hroom
  | healthCheck answer healthy => exact ⟨hwf, Nat.le_add_right _ _⟩
  | select k config request bias => exact ⟨hwf, Nat.le_add_right _ _⟩
  | invoice k now =>
      unfold traffic
      dsimp only
      split
      · exact ⟨hwf, Nat.le_add_right _ _⟩
      · exact ⟨hwf, Nat.le_add_right _ _⟩

/-- What holds before an event: the invariant, room for the etag, and the condition on the
hashes. -/
structure SafeStep (S : VersionedStore K σ ε) (env : DiscoveryEnv K LnRpcClient E)
    (s : TrafficState ι σ Bias) (event : TrafficEvent ι K ε Bias) : Prop where
  inv : TrafficInv S env s
  room : (S.etag s.balancer.store).toNat + event.mutations < etagRoom
  hashes : HashesTellApartInTraffic S env s event

/-- It holds before every event of a run. -/
abbrev SafeRun (sha256 : Sha256) (S : VersionedStore K σ ε)
    (env : DiscoveryEnv K LnRpcClient E) (hasHealthCheck : Bool)
    (events : List (TrafficEvent ι K ε Bias)) : Prop :=
  (traffic sha256 S.store env).Along (SafeStep S env) (.start S hasHealthCheck) events

/-- A run with fewer than `2 ^ 63` mutations is safe, and the invariant holds at its end. -/
theorem safeRun (hasHealthCheck : Bool) (events : List (TrafficEvent ι K ε Bias))
    (hroom : (events.map TrafficEvent.mutations).sum < etagRoom)
    (hhashes : (traffic sha256 S.store env).Along (HashesTellApartInTraffic S env)
      (.start S hasHealthCheck) events) :
    SafeRun sha256 S env hasHealthCheck events
      ∧ TrafficInv S env (reached sha256 S env hasHealthCheck events) := by
  have hbudget := (traffic sha256 S.store env).along_of_budget
    (fun s : TrafficState ι σ Bias => S.Wf s.balancer.store)
    (fun s => (S.etag s.balancer.store).toNat) TrafficEvent.mutations etagRoom
    (fun s event hwf hfits => traffic_etag_le hwf event hfits)
    (.start S hasHealthCheck) events S.wf_new
    (by
      show (S.etag S.new).toNat + _ < etagRoom
      rwa [S.etag_new, UInt64.toNat_zero, Nat.zero_add])
  have hboth := hbudget.and hhashes
  have hstart : TrafficInv S env (.start S hasHealthCheck : TrafficState ι σ Bias) :=
    TrafficInv.start S env hasHealthCheck
  constructor
  · exact hboth.of_invariant (TrafficInv S env)
      (fun s event hinv hside => traffic_inv hinv event hside.1 hside.2)
      (fun s event hinv hside => ⟨hinv, hside.1, hside.2⟩) hstart
  · exact (traffic sha256 S.store env).run_invariant (TrafficInv S env) _
      (fun s event hinv hside => traffic_inv hinv event hside.1 hside.2) _ events hstart hboth

end Invariant

/-! ## §4. The law of an RPC. -/

section Law

variable {ι K σ ε E Bias : Type} [Ord K] [DecidableEq K] [DecidableEq ι] [Repr BackendId]

/-- A record that an update of the run found in the store, served and connected. -/
structure FoundByUpdate (sha256 : Sha256) (S : VersionedStore K σ ε)
    (env : DiscoveryEnv K LnRpcClient E) (hasHealthCheck : Bool)
    (events before after : List (TrafficEvent ι K ε Bias)) (b : DiscoveryBackend K)
    (client : LnRpcClient) : Prop where
  update : events = before ++ .update :: after
  connected : Connected S env
    (reached sha256 S env hasHealthCheck before).balancer.store b client

/-- What holds when an attempt has selected its backend, after these events. -/
structure SelectedLaw (sha256 : Sha256) (S : VersionedStore K σ ε)
    (env : DiscoveryEnv K LnRpcClient E) (hasHealthCheck : Bool)
    (events : List (TrafficEvent ι K ε Bias)) (config : SelectionConfig Bias)
    (attempt : InvoiceAttempt Bias) : Prop where
  selected : (reached sha256 S env hasHealthCheck events).balancer.select env config
    attempt.request attempt.bias = some attempt.backend
  /-- The last update found the record enabled, and the pool has its client. -/
  enabled : ∃ before after b client,
    FoundByUpdate sha256 S env hasHealthCheck events before after b client
      ∧ (∀ event ∈ after, event ≠ .update) ∧ (env.pingoraBackend b).id = attempt.backend.id
      ∧ b.backend.enabled = true
      ∧ (reached sha256 S env hasHealthCheck events).balancer.service.pool.pool[
          attempt.backend.id]? = some client
  /-- An update, though not always the last one, found it with the partition of the offer. -/
  serves : ∃ before after b client,
    FoundByUpdate sha256 S env hasHealthCheck events before after b client
      ∧ env.pingoraBackend b = attempt.backend
      ∧ attempt.request.offer.partition ∈ b.backend.partitions
  /-- A health check measured the capacity it was selected by. -/
  measured : ∃ before answer healthy after client metrics,
    events = before ++ .healthCheck answer healthy :: after
      ∧ (reached sha256 S env hasHealthCheck before).balancer.service.pool.pool[
          attempt.backend.id]? = some client
      ∧ answer attempt.backend.id client = .ok metrics
      ∧ ∀ bias, attempt.bias = some bias → config.withinCapacity attempt.request.amountMsat
          metrics.nodeEffectiveInboundMsat bias = true

/-- What holds when an attempt asks a node, after these events. -/
structure AskedLaw (sha256 : Sha256) (S : VersionedStore K σ ε)
    (env : DiscoveryEnv K LnRpcClient E) (hasHealthCheck : Bool)
    (events : List (TrafficEvent ι K ε Bias)) (k : ι) (now : DateTime) (rpc : InvoiceRpc Bias) :
    Prop where
  selected : ∃ before config after,
    events = before ++ .select k config rpc.attempt.request rpc.attempt.bias :: after
      ∧ SelectedLaw sha256 S env hasHealthCheck before config rpc.attempt
  asked : ∃ before after b client,
    FoundByUpdate sha256 S env hasHealthCheck events before after b client
      ∧ (env.pingoraBackend b).id = rpc.attempt.backend.id
      ∧ rpc.sent = client.getInvoice sha256 now (some rpc.attempt.request.amountMsat)
          (LnClientPool.description client.getFeatures rpc.attempt.request.offer)
          (some rpc.attempt.request.expirySecs)

variable {sha256 : Sha256} {S : VersionedStore K σ ε} {env : DiscoveryEnv K LnRpcClient E}
  {hasHealthCheck : Bool} {events : List (TrafficEvent ι K ε Bias)}

theorem reached_append (before after : List (TrafficEvent ι K ε Bias)) :
    reached sha256 S env hasHealthCheck (before ++ after)
      = ((traffic sha256 S.store env).run (reached sha256 S env hasHealthCheck before)
          after).2 := by
  unfold reached
  rw [Machine.run_append]

/-- The state an event of a safe run starts from. -/
theorem SafeRun.at {before after : List (TrafficEvent ι K ε Bias)}
    {event : TrafficEvent ι K ε Bias}
    (h : SafeRun sha256 S env hasHealthCheck (before ++ event :: after)) :
    SafeStep S env (reached sha256 S env hasHealthCheck before) event :=
  ((Machine.along_append _ _ _ before (event :: after)).mp h).2.1

/-- Every client of the pool was made from a record that an update found. -/
theorem client_found (h : SafeRun sha256 S env hasHealthCheck events) {id : BackendId}
    {client : LnRpcClient}
    (hclient : (reached sha256 S env hasHealthCheck events).balancer.service.pool.pool[id]?
      = some client) :
    ∃ before after b, FoundByUpdate sha256 S env hasHealthCheck events before after b client
      ∧ (env.pingoraBackend b).id = id := by
  have hlast := (traffic sha256 S.store env).last_write_along
    (fun s => s.balancer.service.pool.pool[id]?) _
    (fun s event client => event = .update ∧ ∃ b, Connected S env s.balancer.store b client
      ∧ (env.pingoraBackend b).id = id)
    (by
      intro s event client hside hnow
      by_cases hevent : event = .update
      · rw [hevent] at hnow
        rcases update_pool hside.inv.balancer.wf hnow with hbefore | hfound
        · exact .inl hbefore
        · exact .inr ⟨hevent, hfound⟩
      · left
        rw [(traffic_quiet hevent s).pool] at hnow
        exact hnow)
    _ events h client hclient
  rcases hlast with hstart | ⟨before, event, after, hevents, ⟨rfl, b, hconnected, hid⟩, -⟩
  · have hempty := hstart [] List.nil_prefix
    change (∅ : ExtTreeMap BackendId LnRpcClient)[id]? = some client at hempty
    simp at hempty
  · exact ⟨before, after, b, ⟨hevents, hconnected⟩, hid⟩

/-- Every backend of the balancer is as an update found its record. -/
theorem backend_found (h : SafeRun sha256 S env hasHealthCheck events) {id : BackendId}
    {ext : Option PingoraLnBackendExtension}
    (hext : (reached sha256 S env hasHealthCheck events).balancer.loadBalancer.backends[id]?
      = some ext) :
    ∃ before after b client,
      FoundByUpdate sha256 S env hasHealthCheck events before after b client
        ∧ env.pingoraBackend b = { id, ext } := by
  have hlast := (traffic sha256 S.store env).last_write_along
    (fun s => s.balancer.loadBalancer.backends[id]?) _
    (fun s event ext => event = .update ∧ ∃ b client,
      Connected S env s.balancer.store b client ∧ env.pingoraBackend b = { id, ext })
    (by
      intro s event ext hside hnow
      by_cases hevent : event = .update
      · subst hevent
        rcases hside.inv.balancer.update_backends hside.hashes hnow with hbefore | hfound
        · exact .inl hbefore
        · exact .inr ⟨rfl, hfound⟩
      · left
        rw [(traffic_quiet hevent s).backends] at hnow
        exact hnow)
    _ events h ext hext
  rcases hlast with hstart | ⟨before, event, after, hevents, ⟨rfl, b, client, hconnected, hb⟩, -⟩
  · have hempty := hstart [] List.nil_prefix
    change (∅ : BackendSet)[id]? = some ext at hempty
    simp at hempty
  · exact ⟨before, after, b, client, ⟨hevents, hconnected⟩, hb⟩

/-- Only a health check writes the cached metrics. -/
theorem traffic_metrics {s : TrafficState ι σ Bias} (hwf : S.Wf s.balancer.store)
    {event : TrafficEvent ι K ε Bias} {id : BackendId} {metrics : LnMetrics}
    (h : (traffic sha256 S.store env s event).2.balancer.service.pool.metricsCache[id]?
      = some metrics) :
    s.balancer.service.pool.metricsCache[id]? = some metrics
      ∨ ∃ answer healthy client, event = .healthCheck answer healthy
          ∧ s.balancer.service.pool.pool[id]? = some client
          ∧ answer id client = .ok metrics := by
  cases event with
  | discovery event =>
      left
      change (balanced S.store env s.balancer
        (.discovery event)).2.service.pool.metricsCache[id]? = some metrics at h
      by_cases hevent : event = .discover
      · rw [hevent, (update_keeps hwf).2] at h
        exact h
      · rw [(balanced_quiet S env hevent s.balancer).1] at h
        exact h
  | healthCheck answer healthy =>
      rcases PingoraLnHealthCheck.checkAll_cached h with hbefore | ⟨-, client, hclient, hanswer⟩
      · exact .inl hbefore
      · exact .inr ⟨answer, healthy, client, rfl, hclient, hanswer⟩
  | select k config request bias => exact .inl h
  | invoice k now =>
      left
      unfold traffic at h
      dsimp only at h
      split at h
      · exact h
      · exact h

/-- Cached metrics were measured. -/
theorem metrics_measured (h : SafeRun sha256 S env hasHealthCheck events) {id : BackendId}
    {metrics : LnMetrics}
    (hmetrics : (reached sha256 S env hasHealthCheck
      events).balancer.service.pool.metricsCache[id]? = some metrics) :
    ∃ before answer healthy after client,
      events = before ++ .healthCheck answer healthy :: after
        ∧ (reached sha256 S env hasHealthCheck before).balancer.service.pool.pool[id]?
            = some client
        ∧ answer id client = .ok metrics := by
  have hlast := (traffic sha256 S.store env).last_write_along
    (fun s => s.balancer.service.pool.metricsCache[id]?) _
    (fun s event metrics => ∃ answer healthy client, event = .healthCheck answer healthy
      ∧ s.balancer.service.pool.pool[id]? = some client ∧ answer id client = .ok metrics)
    (fun s event metrics hside hnow => traffic_metrics hside.inv.balancer.wf hnow)
    _ events h metrics hmetrics
  rcases hlast with hstart
    | ⟨before, event, after, hevents, ⟨answer, healthy, client, rfl, hclient, hanswer⟩, -⟩
  · have hempty := hstart [] List.nil_prefix
    change (∅ : ExtTreeMap BackendId LnMetrics)[id]? = some metrics at hempty
    simp at hempty
  · exact ⟨before, answer, healthy, after, client, hevents, hclient, hanswer⟩

/-- What a backend of the balancer was at the last update. -/
theorem last_update (h : SafeRun sha256 S env hasHealthCheck events) {id : BackendId}
    (hid : id ∈ (reached sha256 S env hasHealthCheck
      events).balancer.loadBalancer.backends.keys) :
    ∃ before after b client,
      FoundByUpdate sha256 S env hasHealthCheck events before after b client
        ∧ (∀ event ∈ after, event ≠ .update) ∧ (env.pingoraBackend b).id = id
        ∧ (reached sha256 S env hasHealthCheck events).balancer.loadBalancer.enabled
            env.hashBackend id = some b.backend.enabled
        ∧ (reached sha256 S env hasHealthCheck events).balancer.service.pool.pool[id]?
            = some client := by
  rcases Machine.exists_last (· = TrafficEvent.update) events with
    hnone | ⟨before, event, after, rfl, rfl, hafter⟩
  · -- a balancer that was never updated has no backends
    have hempty : (reached sha256 S env hasHealthCheck
        events).balancer.loadBalancer.backends = ∅ := by
      refine (traffic sha256 S.store env).run_invariant
        (fun s : TrafficState ι σ Bias => s.balancer.loadBalancer.backends = ∅)
        (fun _ event => event ≠ .update) ?_ _ events rfl
        (Machine.along_of_forall _ _ events fun event hevent _ => hnone event hevent)
      intro s event hbackends hevent
      rw [(traffic_quiet hevent s).backends, hbackends]
    rw [hempty] at hid
    simp at hid
  · obtain ⟨hinv, -, hinjective⟩ := h.at
    have hstep : InStepWith S env (reached sha256 S env hasHealthCheck before).balancer.store
        (reached sha256 S env hasHealthCheck (before ++ .update :: after)).balancer := by
      rw [reached_append, Machine.run_cons]
      refine (traffic sha256 S.store env).run_invariant
        (fun s : TrafficState ι σ Bias => InStepWith S env _ s.balancer)
        (fun _ event => event ≠ .update) ?_ _ after (hinv.balancer.inStepWith hinjective)
        (Machine.along_of_forall _ _ after fun event hevent _ => hafter event hevent)
      intro s event hin hevent
      exact hin.quiet (traffic_quiet hevent s)
    obtain ⟨b, client, hconnected, hb, henabled, hclient⟩ := hstep id hid
    exact ⟨before, after, b, client, ⟨rfl, hconnected⟩, hafter, hb, henabled, hclient⟩

omit [Ord K] [DecidableEq K] [DecidableEq ι] [Repr BackendId] in
/-- A selection reads cached metrics, and compares them with the amount under a bias. -/
theorem select_measured {state : BalancerState σ LnRpcClient} {config : SelectionConfig Bias}
    {request : InvoiceRequest} {bias : Option Bias} {backend : Backend}
    (h : state.select env config request bias = some backend) :
    ∃ metrics, state.service.pool.metricsCache[backend.id]? = some metrics
      ∧ ∀ bias', bias = some bias' → config.withinCapacity request.amountMsat
          metrics.nodeEffectiveInboundMsat bias' = true := by
  obtain ⟨-, haccept⟩ := LoadBalancer.selectWith_some h
  have hacceptable := SelectionConfig.acceptable_of_accept _ haccept
  obtain ⟨cached, hcached⟩ := Option.isSome_iff_exists.mp hacceptable.hasMetrics
  obtain ⟨metrics, hmetrics, rfl⟩ := Option.map_eq_some_iff.mp hcached
  refine ⟨metrics, hmetrics, ?_⟩
  intro bias' hbias
  rw [hbias, accept_some_iff] at haccept
  obtain ⟨-, m, hm, hcapacity⟩ := haccept
  obtain rfl : pingoraLnMetrics metrics = m := by
    rw [hcached] at hm
    exact Option.some.inj hm
  exact hcapacity

/-- The law of a selection. -/
theorem selectedLaw (h : SafeRun sha256 S env hasHealthCheck events)
    (hinv : TrafficInv S env (reached sha256 S env hasHealthCheck events))
    {config : SelectionConfig Bias} {attempt : InvoiceAttempt Bias}
    (hselected : (reached sha256 S env hasHealthCheck events).balancer.select env config
      attempt.request attempt.bias = some attempt.backend) :
    SelectedLaw sha256 S env hasHealthCheck events config attempt := by
  obtain ⟨hid, hext, henabled⟩ := select_some hinv.balancer.populated hselected
  refine ⟨hselected, ?_, ?_, ?_⟩
  · obtain ⟨before, after, b, client, hfound, hafter, hb, hflag, hclient⟩ := last_update h hid
    rw [henabled] at hflag
    exact ⟨before, after, b, client, hfound, hafter, hb, (Option.some.inj hflag).symm, hclient⟩
  · obtain ⟨before, after, b, client, hfound, hb⟩ := backend_found h hext
    refine ⟨before, after, b, client, hfound, hb, ?_⟩
    obtain ⟨-, hacceptable⟩ := SelectionConfig.selectBackend_some _ hselected
    obtain ⟨extension, hextension, hserves⟩ := hacceptable.serves
    have hpartitions : some { partitions := b.backend.partitions } = some extension := by
      rw [← hextension]
      exact congrArg Backend.ext hb
    rw [← Option.some.inj hpartitions] at hserves
    exact hserves
  · obtain ⟨metrics, hmetrics, hcapacity⟩ := select_measured hselected
    obtain ⟨before, answer, healthy, after, client, hevents, hclient, hanswer⟩ :=
      metrics_measured h hmetrics
    exact ⟨before, answer, healthy, after, client, metrics, hevents, hclient, hanswer, hcapacity⟩

/-- **The law of an RPC.** -/
theorem askedLaw (h : SafeRun sha256 S env hasHealthCheck events)
    (hinv : TrafficInv S env (reached sha256 S env hasHealthCheck events)) {k : ι}
    {now : DateTime} {rpc : InvoiceRpc Bias}
    (hrpc : (traffic sha256 S.store env (reached sha256 S env hasHealthCheck events)
      (.invoice k now)).1 = some rpc) :
    AskedLaw sha256 S env hasHealthCheck events k now rpc := by
  unfold traffic at hrpc
  dsimp only at hrpc
  split at hrpc
  · cases hrpc
  · rename_i attempt hattempt
    obtain rfl := Option.some.inj hrpc
    constructor
    · have hlast := (traffic sha256 S.store env).last_write_along (fun s => s.attempts k) _
        (fun s event attempt => ∃ config, event = .select k config attempt.request attempt.bias
          ∧ s.balancer.select env config attempt.request attempt.bias = some attempt.backend)
        (fun s event attempt _ hnow => attempts_step hnow) _ events h attempt hattempt
      rcases hlast with hstart | ⟨before, event, after, rfl, ⟨config, rfl, hselected⟩, -⟩
      · cases hstart [] List.nil_prefix
      · have hbefore := ((Machine.along_append _ _ _ before _).mp h).1
        exact ⟨before, config, after, rfl, selectedLaw hbefore h.at.inv hselected⟩
    · obtain ⟨client, hclient⟩ := Option.isSome_iff_exists.mp (hinv.client k attempt hattempt)
      obtain ⟨before, after, b, hfound, hb⟩ := client_found h hclient
      refine ⟨before, after, b, client, hfound, hb, ?_⟩
      unfold LnClientPool.getInvoice LnClientPool.getClient
      rw [hclient]

/-- Every RPC of every run obeys the law. -/
def AsksDiscovered (sha256 : Sha256) (S : VersionedStore K σ ε)
    (env : DiscoveryEnv K LnRpcClient E) (ι Bias : Type) [DecidableEq ι] : Prop :=
  ∀ (hasHealthCheck : Bool) (events : List (TrafficEvent ι K ε Bias)),
    (events.map TrafficEvent.mutations).sum < 2 ^ 63 →
    (traffic sha256 S.store env).Along (HashesTellApartInTraffic S env)
      (.start S hasHealthCheck) events →
    ∀ (k : ι) (now : DateTime) (rpc : InvoiceRpc Bias),
      (traffic sha256 S.store env (reached sha256 S env hasHealthCheck events)
        (.invoice k now)).1 = some rpc →
      AskedLaw sha256 S env hasHealthCheck events k now rpc

theorem asksDiscovered (sha256 : Sha256) (S : VersionedStore K σ ε)
    (env : DiscoveryEnv K LnRpcClient E) (ι Bias : Type) [DecidableEq ι] :
    AsksDiscovered sha256 S env ι Bias := by
  intro hasHealthCheck events hroom hhashes k now rpc hrpc
  obtain ⟨halong, hinv⟩ := safeRun hasHealthCheck events hroom hhashes
  exact askedLaw halong hinv hrpc

end Law

/-! ## §5. The two stores. -/

/-- **A node that is asked for an invoice was discovered**, enabled, serving and measured: in
every run over the memory store, and over the database store with no statement failing. -/
theorem asked_node_was_discovered {K E : Type} [Ord K] [TransOrd K] [LawfulEqOrd K]
    [DecidableEq K] [ToString K] [Repr BackendId] (sha256 : Sha256)
    (env : DiscoveryEnv K LnRpcClient E) (ι Bias : Type) [DecidableEq ι] :
    AsksDiscovered sha256 VersionedStore.memory env ι Bias
      ∧ ∀ eng : Discovery.Engine, AsksDiscovered sha256 (VersionedStore.db eng) env ι Bias :=
  ⟨asksDiscovered sha256 _ env ι Bias,
    fun eng => asksDiscovered sha256 (VersionedStore.db eng) env ι Bias⟩

section Sample

/-- The environment of a pool of two CLN nodes. -/
def sampleClnEnv : DiscoveryEnv Nat LnRpcClient Unit where
  partitions := {"default"}
  hashKey := UInt64.ofNat
  hashBackend := BackendId.addr
  create b := .ok (.cln (TonicClnGrpcClient.create
    (if b.publicKey = 1 then "https://127.0.0.1:9736" else "https://127.0.0.1:9737")))

local instance sampleRepr : Repr BackendId := ⟨fun id _ => repr id.addr⟩

/-- Two backends are posted, discovered and measured, and one is selected. -/
def sampleTraffic : List (TrafficEvent ℕ Nat DiscoveryBackendStoreError Unit) :=
  [.discovery (.mutate 0 (.post (sampleBackend 1 {"default"}))),
    .discovery (.mutate 1 (.post (sampleBackend 2 {"default"}))), .update,
    .healthCheck (fun _ _ => .ok { healthy := true, nodeEffectiveInboundMsat := 1000 })
      (fun _ => true),
    .select 0
      { selection := .inOrder
        maxIterations := id
        hashBackend := BackendId.addr
        withinCapacity := fun amountMsat inboundMsat _ => decide (amountMsat ≤ inboundMsat) }
      sampleRequest (some ())]

theorem asked_node_was_discovered_sample :
    ∃ rpc, (traffic coffeeHash VersionedStore.memory.store sampleClnEnv
        (reached coffeeHash VersionedStore.memory sampleClnEnv true sampleTraffic)
        (.invoice 0 5)).1 = some rpc
      ∧ AskedLaw coffeeHash VersionedStore.memory sampleClnEnv true sampleTraffic 0 5 rpc := by
  have hasks : (traffic coffeeHash VersionedStore.memory.store sampleClnEnv
      (reached coffeeHash VersionedStore.memory sampleClnEnv true sampleTraffic)
      (.invoice 0 5)).1.isSome = true := by decide +kernel
  obtain ⟨rpc, hrpc⟩ := Option.isSome_iff_exists.mp hasks
  have htwo : HashesInjective sampleClnEnv
      [sampleBackend 1 {"default"}, sampleBackend 2 {"default"}] := by
    constructor <;> decide
  exact ⟨rpc, hrpc, (asked_node_was_discovered coffeeHash sampleClnEnv ℕ Unit).1 true sampleTraffic
    (by decide) ⟨trivial, trivial, htwo, trivial, trivial, trivial⟩ 0 5 rpc hrpc⟩

end Sample

end Switchgear.Pingora
