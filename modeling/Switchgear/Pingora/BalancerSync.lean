/-
  Switchgear.Pingora.BalancerSync — what the balancer selects from, compared
  with the store, after every completed update.

  The discovery layer always finds the current records (`DiscoveryCache`).
  The balancer drops one kind of edit: a set that has the same addresses and
  weights as its own is not stored, so an edit of the partitions alone is lost
  until some other edit changes an address or a weight.

  Main result:
    * `update_agrees_iff` — after an update the balancer agrees with the store
      IFF the update did not find the same keys and weights with other
      partitions; and then a selected backend serves the offer's partition
      in the store.
-/
import Switchgear.Pingora.DiscoveryCache
import Switchgear.Pingora.Balance

namespace Switchgear.Pingora

open Switchgear.Lib
open Switchgear.Discovery
open Switchgear.Offer
open Std (ExtTreeMap TransOrd LawfulEqOrd)

/-! ## §1. Store, discovery service and balancer. -/

section System

variable {K σ ε Client E : Type}

/-- A discovery event, where a `discover` is part of an update; or a health check. -/
inductive BalancerEvent (K ε : Type) where
  | discovery (event : DiscoverEvent K ε)
  | healthCheck (healthy : UInt64 → Bool)

/-- The event that runs a whole update. -/
abbrev BalancerEvent.update : BalancerEvent K ε := .discovery .discover

/-- How many mutations an event is. -/
def BalancerEvent.mutations : BalancerEvent K ε → ℕ
  | .discovery event => event.mutations
  | .healthCheck _ => 0

structure BalancerState (σ Client : Type) where
  store : σ
  service : LnServiceDiscovery Client
  loadBalancer : LoadBalancer

variable [Ord K] [DecidableEq K]

/-- `LoadBalancer::update` over a discovery: the set and the flags of a discovery that
succeeds go into `do_update`; an error changes nothing. -/
def balanced (store : DiscoveryBackendStore K σ ε) (env : DiscoveryEnv K Client E) :
    Machine (BalancerState σ Client) (BalancerEvent K ε) (Option (Except (PingoraError ε) Unit)) :=
  fun s event =>
    match event with
    | .discovery event =>
        let (result, (store, service)) :=
          cachedDiscovery store env (s.store, s.service) event
        match result with
        | some (.ok (backends, enablement)) =>
            (some (.ok ()),
              { store, service,
                loadBalancer :=
                  s.loadBalancer.doUpdate env.hashBackend backends enablement })
        | some (.error e) => (some (.error e), { s with store, service })
        | none => (none, { s with store, service })
    | .healthCheck healthy =>
        (none, { s with loadBalancer := s.loadBalancer.runHealthCheck healthy })

variable {S : VersionedStore K σ ε} {env : DiscoveryEnv K Client E} {s : σ}
  {service : LnServiceDiscovery Client} {lb : LoadBalancer}

theorem balanced_notModified (hwf : S.Wf s) (hcurrent : service.lastEtag = S.etag s) :
    balanced S.store env { store := s, service, loadBalancer := lb } .update
      = (some (.ok ()),
          { store := s, service
            loadBalancer := lb.doUpdate env.hashBackend service.pingoraBackendCache ∅ }) := by
  simp only [balanced, cachedDiscovery_notModified hwf hcurrent]

/-- The service after a reload. -/
def reloaded (S : VersionedStore K σ ε) (env : DiscoveryEnv K Client E) (s : σ)
    (service : LnServiceDiscovery Client) : LnServiceDiscovery Client where
  pool := (reload env (S.content s) service.pool).pool
  pingoraBackendCache := (reload env (S.content s) service.pool).pingoraBackends
  lastEtag := S.etag s

theorem balanced_modified (hwf : S.Wf s) (hmodified : service.lastEtag ≠ S.etag s) :
    balanced S.store env { store := s, service, loadBalancer := lb } .update
      = (some (.ok ()),
          { store := s, service := reloaded S env s service
            loadBalancer := lb.doUpdate env.hashBackend
              (reload env (S.content s) service.pool).pingoraBackends
              (reload env (S.content s) service.pool).enablement }) := by
  simp only [balanced, cachedDiscovery_modified hwf hmodified, reloaded]

/-! ## §2. The invariant. -/

/-- The enabled flags are those of the records of `list`. -/
def FlagsOf (env : DiscoveryEnv K Client E) (list : List (DiscoveryBackend K))
    (lb : LoadBalancer) : Prop :=
  ∀ b ∈ list, (env.admits b).isSome = true →
    lb.enabled env.hashBackend (env.pingoraBackend b).id = some b.backend.enabled

/-- The service and the flags were loaded from one list, sound under the remembered
etag; the balancer holds the keys and weights of the cache. -/
structure BalancerInv (S : VersionedStore K σ ε) (env : DiscoveryEnv K Client E)
    (state : BalancerState σ Client) : Prop where
  wf : S.Wf state.store
  populated : state.loadBalancer.Populated env.hashBackend
  keys : state.loadBalancer.backends.keys = state.service.pingoraBackendCache.keys
  loaded : ∃ list, S.versioned.Sound state.store state.service.lastEtag.toNat list
    ∧ LoadedFrom env list state.service ∧ FlagsOf env list state.loadBalancer

/-- The hashes tell the stored records apart when an update reloads. -/
def HashesTellApartInUpdate (S : VersionedStore K σ ε) (env : DiscoveryEnv K Client E)
    (state : BalancerState σ Client) : BalancerEvent K ε → Prop
  | .discovery event => HashesTellApart S env (state.store, state.service) event
  | _ => True

/-- The state before the first event. -/
def BalancerState.start (S : VersionedStore K σ ε) (hasHealthCheck : Bool) :
    BalancerState σ Client where
  store := S.new
  service := .new
  loadBalancer := LoadBalancer.new hasHealthCheck

theorem BalancerInv.start (S : VersionedStore K σ ε) (env : DiscoveryEnv K Client E)
    (hasHealthCheck : Bool) : BalancerInv S env (.start S hasHealthCheck) where
  wf := S.wf_new
  populated := LoadBalancer.populated_new hasHealthCheck
  keys := rfl
  loaded := by
    refine ⟨[], .inr ⟨?_, S.content_new.symm⟩, ⟨rfl, ∅, Built.start _⟩, fun b hb => ?_⟩
    · show (0 : UInt64).toNat = (S.etag S.new).toNat
      rw [S.etag_new]
    · cases hb

theorem BalancerInv.content (h : BalancerInv S env { store := s, service, loadBalancer := lb })
    (hcurrent : service.lastEtag = S.etag s) :
    LoadedFrom env (S.content s) service ∧ FlagsOf env (S.content s) lb := by
  obtain ⟨list, hsound, hloaded, hflags⟩ := h.loaded
  change S.versioned.Sound s service.lastEtag.toNat list at hsound
  rw [hcurrent] at hsound
  have hlist : list = S.content s := hsound.eq_content
  rw [← hlist]
  exact ⟨hloaded, hflags⟩

omit [Ord K] [DecidableEq K] in
/-- What an update with new flags leaves: a flag for every record. -/
theorem flagsOf_doUpdate {list : List (DiscoveryBackend K)} {acc : Reload Client}
    (hbuilt : Built env list acc) (hpop : lb.Populated env.hashBackend) :
    FlagsOf env list (lb.doUpdate env.hashBackend acc.pingoraBackends acc.enablement) := by
  intro b hb hadmits
  have hbackend : acc.pingoraBackends[(env.pingoraBackend b).id]?
      = some (env.pingoraBackend b).ext := (hbuilt.backends _ _).mpr ⟨b, hb, hadmits, rfl⟩
  have hid : (env.pingoraBackend b).id ∈ acc.pingoraBackends.keys := by
    rw [ExtTreeMap.mem_keys, ExtTreeMap.mem_iff_isSome_getElem?, hbackend]
    rfl
  exact LoadBalancer.doUpdate_enabled hpop hid
    ((hbuilt.enablement _ _).mpr ⟨b, hb, hadmits, rfl, rfl⟩)

/-- After an update the flags are those of the content of the store. -/
theorem BalancerInv.update_content
    (h : BalancerInv S env { store := s, service, loadBalancer := lb })
    (hinjective : HashesInjective env (S.content s)) :
    let state' := (balanced S.store env { store := s, service, loadBalancer := lb } .update).2
    state'.store = s ∧ state'.service.lastEtag = S.etag s
      ∧ LoadedFrom env (S.content s) state'.service
      ∧ FlagsOf env (S.content s) state'.loadBalancer
      ∧ ∃ enablement, state'.loadBalancer
          = lb.doUpdate env.hashBackend (eligible env (S.content s)) enablement := by
  intro state'
  by_cases hcurrent : service.lastEtag = S.etag s
  · obtain ⟨hloaded, hflags⟩ := h.content hcurrent
    have hstate : state' = _ := congrArg Prod.snd (balanced_notModified h.wf hcurrent)
    rw [hstate]
    refine ⟨rfl, hcurrent, hloaded, ?_, ∅, by rw [hloaded.cache]⟩
    intro b hb hadmits
    rw [LoadBalancer.doUpdate_enabled_same h.keys]
    exact hflags b hb hadmits
  · have hbuilt := built_reload (S.nodup_content s h.wf) hinjective service.pool
    have hstate : state' = _ := congrArg Prod.snd (balanced_modified h.wf hcurrent)
    rw [hstate]
    refine ⟨rfl, rfl, loaded_reload h.wf hinjective, flagsOf_doUpdate hbuilt h.populated,
      (reload env (S.content s) service.pool).enablement, ?_⟩
    rw [← reload_pingoraBackends (S.content s) service.pool]

theorem balanced_inv {state : BalancerState σ Client} (h : BalancerInv S env state)
    (event : BalancerEvent K ε)
    (hroom : (S.etag state.store).toNat + event.mutations < etagRoom)
    (hhashes : HashesTellApartInUpdate S env state event) :
    BalancerInv S env (balanced S.store env state event).2 := by
  obtain ⟨s, service, lb⟩ := state
  cases event with
  | healthCheck healthy =>
      obtain ⟨list, hsound, hloaded, hflags⟩ := h.loaded
      refine ⟨h.wf, h.populated.runHealthCheck healthy, h.keys, list, hsound, hloaded, ?_⟩
      intro b hb hadmits
      show (lb.runHealthCheck healthy).enabled env.hashBackend (env.pingoraBackend b).id = _
      rw [LoadBalancer.runHealthCheck_enabled]
      exact hflags b hb hadmits
  | discovery event =>
      cases event with
      | mutate now m =>
          obtain ⟨list, hsound, hloaded, hflags⟩ := h.loaded
          exact ⟨(S.mutate_spec s h.wf hroom now m).1, h.populated, h.keys, list,
            hsound.writes (S.mutate_writes h.wf hroom now m), hloaded, hflags⟩
      | providerFailure error => exact h
      | discover =>
          obtain ⟨hstore, hetag, hloaded, hflags, enablement, hlb⟩ := h.update_content hhashes
          refine ⟨?_, ?_, ?_, S.content s, ?_, hloaded, hflags⟩
          · rw [hstore]
            exact h.wf
          · rw [hlb]
            exact h.populated.doUpdate
          · rw [hlb, hloaded.cache]
            exact LoadBalancer.doUpdate_keys
          · rw [hstore, hetag]
            exact Versioned.sound_self s

theorem balanced_etag_le {state : BalancerState σ Client} (hwf : S.Wf state.store)
    (event : BalancerEvent K ε)
    (hroom : (S.etag state.store).toNat + event.mutations < etagRoom) :
    S.Wf (balanced S.store env state event).2.store
      ∧ (S.etag (balanced S.store env state event).2.store).toNat
          ≤ (S.etag state.store).toNat + event.mutations := by
  obtain ⟨s, service, lb⟩ := state
  cases event with
  | healthCheck healthy => exact ⟨hwf, Nat.le_add_right _ _⟩
  | discovery event =>
      have hstep : S.Wf (cachedDiscovery S.store env (s, service) event).2.1 ∧ _ :=
        cachedDiscovery_etag_le hwf event hroom
      have hstore : (balanced S.store env
          { store := s, service, loadBalancer := lb } (.discovery event)).2.store
          = (cachedDiscovery S.store env (s, service) event).2.1 := by
        unfold balanced
        cases hresult : (cachedDiscovery S.store env (s, service) event).1 with
        | none => simp only [hresult]
        | some result =>
            cases result with
            | error e => simp only [hresult]
            | ok p => simp only [hresult]
      rw [hstore]
      exact hstep

theorem balanced_run_inv (hasHealthCheck : Bool) (events : List (BalancerEvent K ε))
    (hroom : (events.map BalancerEvent.mutations).sum < etagRoom)
    (hhashes : (balanced S.store env).Along (HashesTellApartInUpdate S env)
      (.start S hasHealthCheck) events) :
    BalancerInv S env ((balanced S.store env).run (.start S hasHealthCheck) events).2 := by
  have hbudget := (balanced S.store env).along_of_budget (fun state => S.Wf state.store)
    (fun state => (S.etag state.store).toNat) BalancerEvent.mutations etagRoom
    (fun state event hwf hfits => balanced_etag_le hwf event hfits)
    (.start S hasHealthCheck) events S.wf_new
    (by
      show (S.etag S.new).toNat + _ < etagRoom
      rwa [S.etag_new, UInt64.toNat_zero, Nat.zero_add])
  exact (balanced S.store env).run_invariant (BalancerInv S env) _
    (fun state event hinv hside => balanced_inv hinv event hside.1 hside.2)
    _ events (BalancerInv.start S env hasHealthCheck) (hbudget.and hhashes)

/-! ## §3. Agreement with the store. -/

/-- The balancer holds, for each connected record of the store and no other, a backend
with the record's weight, partitions and enabled flag. -/
structure Agrees (S : VersionedStore K σ ε) (env : DiscoveryEnv K Client E)
    (state : BalancerState σ Client) : Prop where
  backend : ∀ (id : BackendId) (ext : Option PingoraLnBackendExtension),
    state.loadBalancer.backends[id]? = some ext →
      ∃ b client, Connected S env state.store b client ∧ env.pingoraBackend b = { id, ext }
        ∧ state.loadBalancer.enabled env.hashBackend id = some b.backend.enabled
  record : ∀ b client, Connected S env state.store b client →
    state.loadBalancer.backends[(env.pingoraBackend b).id]? = some (env.pingoraBackend b).ext

/-- An update that finds the keys and weights the balancer holds finds the partitions
it holds, too. -/
def EditsShow (S : VersionedStore K σ ε) (env : DiscoveryEnv K Client E)
    (state : BalancerState σ Client) : Prop :=
  state.loadBalancer.backends.keys = (eligible env (S.content state.store)).keys →
    state.loadBalancer.backends = eligible env (S.content state.store)

/-- Every backend a selection returns for an offer serves its partition in the store. -/
def SelectsServing {Bias : Type} (S : VersionedStore K σ ε) (env : DiscoveryEnv K Client E)
    (config : SelectionConfig Bias) (state : BalancerState σ Client) : Prop :=
  ∀ metrics offer amountMsat key bias backend,
    config.selectBackend state.loadBalancer metrics offer amountMsat key bias = some backend →
    ∃ b, S.lookup state.store b.publicKey = some b ∧ (env.pingoraBackend b).id = backend.id
      ∧ offer.partition ∈ b.backend.partitions

omit [Ord K] [DecidableEq K] in
theorem Agrees.selectsServing {Bias : Type} {state : BalancerState σ Client}
    (h : Agrees S env state) (config : SelectionConfig Bias) :
    SelectsServing S env config state := by
  intro metrics offer amountMsat key bias backend hselected
  obtain ⟨hmem, hacceptable⟩ := config.selectBackend_some hselected
  obtain ⟨b, client, ⟨hlookup, -⟩, hbackend, -⟩ := h.backend _ _ hmem
  obtain ⟨extension, hext, hserves⟩ := hacceptable.serves
  refine ⟨b, hlookup, by rw [hbackend], ?_⟩
  have hpartitions : some { partitions := b.backend.partitions } = some extension := by
    rw [← hext]
    exact congrArg Backend.ext hbackend
  rw [← Option.some.inj hpartitions] at hserves
  exact hserves

/-- With the flags of the records, agreement is equality of the sets. -/
theorem agrees_iff_backends_eq (state : BalancerState σ Client) (hwf : S.Wf state.store)
    (hloaded : LoadedFrom env (S.content state.store) state.service)
    (hflags : FlagsOf env (S.content state.store) state.loadBalancer) :
    Agrees S env state
      ↔ state.loadBalancer.backends = eligible env (S.content state.store) := by
  obtain ⟨enablement, hbuilt⟩ := hloaded.built
  rw [hloaded.cache] at hbuilt
  have hmem : ∀ (id : BackendId) (ext : Option PingoraLnBackendExtension),
      (eligible env (S.content state.store))[id]? = some ext ↔
        ∃ b client, Connected S env state.store b client ∧ env.pingoraBackend b = { id, ext } := by
    intro id ext
    rw [← exists_admitted_iff hwf fun b => env.pingoraBackend b = { id, ext }]
    exact hbuilt.backends id ext
  constructor
  · intro hagrees
    apply ExtTreeMap.ext_getElem?
    intro id
    apply Option.ext
    intro ext
    rw [hmem]
    constructor
    · intro hfound
      obtain ⟨b, client, hconnected, hbackend, -⟩ := hagrees.backend id ext hfound
      exact ⟨b, client, hconnected, hbackend⟩
    · rintro ⟨b, client, hconnected, hbackend⟩
      have hrecord := hagrees.record b client hconnected
      rw [hbackend] at hrecord
      exact hrecord
  · intro heq
    constructor
    · intro id ext hfound
      rw [heq, hmem] at hfound
      obtain ⟨b, client, hconnected, hbackend⟩ := hfound
      refine ⟨b, client, hconnected, hbackend, ?_⟩
      have hadmits := DiscoveryEnv.admits_eq_some_iff.mpr hconnected.2
      have hflag := hflags b ((S.mem_content_iff _ hwf b).mpr hconnected.1)
        (by rw [hadmits]; rfl)
      rw [hbackend] at hflag
      exact hflag
    · intro b client hconnected
      rw [heq, hmem]
      exact ⟨b, client, hconnected, rfl⟩

/-- One update: it agrees exactly when it drops no edit. -/
theorem BalancerInv.agrees_after_update_iff {state : BalancerState σ Client}
    (h : BalancerInv S env state) (hinjective : HashesInjective env (S.content state.store)) :
    Agrees S env (balanced S.store env state .update).2 ↔ EditsShow S env state := by
  obtain ⟨s, service, lb⟩ := state
  obtain ⟨hstore, hetag, hloaded, hflags, enablement, hlb⟩ := h.update_content hinjective
  have hiff := agrees_iff_backends_eq (S := S)
    (balanced S.store env { store := s, service, loadBalancer := lb } .update).2
    (by rw [hstore]; exact h.wf) (by rw [hstore]; exact hloaded) (by rw [hstore]; exact hflags)
  rw [hiff, hlb, hstore]
  unfold EditsShow
  by_cases hkeys : lb.backends.keys = (eligible env (S.content s)).keys
  · rw [LoadBalancer.doUpdate_same hkeys]
    exact ⟨fun heq _ => heq, fun hshow => hshow hkeys⟩
  · rw [LoadBalancer.doUpdate_changed hkeys]
    exact ⟨fun _ hsame => absurd hsame hkeys, fun _ => rfl⟩

/-- The balancer follows the store: every update of every run. -/
def UpdatesAgreeIff (S : VersionedStore K σ ε) (env : DiscoveryEnv K Client E) : Prop :=
  ∀ (hasHealthCheck : Bool) (events : List (BalancerEvent K ε)),
    (events.map BalancerEvent.mutations).sum < 2 ^ 63 →
    (balanced S.store env).Along (HashesTellApartInUpdate S env) (.start S hasHealthCheck)
      (events ++ [.update]) →
    let state := ((balanced S.store env).run (.start S hasHealthCheck) events).2
    let updated := (balanced S.store env state .update).2
    (Agrees S env updated ↔ EditsShow S env state)
      ∧ (EditsShow S env state →
          ∀ (Bias : Type) (config : SelectionConfig Bias), SelectsServing S env config updated)

theorem updatesAgreeIff (S : VersionedStore K σ ε) (env : DiscoveryEnv K Client E) :
    UpdatesAgreeIff S env := by
  intro hasHealthCheck events hroom hhashes state updated
  obtain ⟨hbefore, hnow, -⟩ := (Machine.along_append _ _ _ _ _).mp hhashes
  have hinv : BalancerInv S env state := balanced_run_inv hasHealthCheck events hroom hbefore
  have hiff : Agrees S env updated ↔ EditsShow S env state := hinv.agrees_after_update_iff hnow
  exact ⟨hiff, fun hshow _ config => (hiff.mpr hshow).selectsServing config⟩

end System

/-! ## §4. The two stores. -/

/-- **After an update the balancer agrees with the store** if and only if the update
did not meet an edit of partitions under unchanged keys and weights; over the memory
store and over the database store with no statement failing. -/
theorem update_agrees_iff {K Client E : Type} [Ord K] [TransOrd K] [LawfulEqOrd K]
    [DecidableEq K] [ToString K] (env : DiscoveryEnv K Client E) :
    UpdatesAgreeIff VersionedStore.memory env
      ∧ ∀ eng : Engine, UpdatesAgreeIff (VersionedStore.db eng) env :=
  ⟨updatesAgreeIff _ env, fun eng => updatesAgreeIff (VersionedStore.db eng) env⟩

section Sample

/-- The events of a balancer over a memory store of the examples. -/
abbrev SampleEvent := BalancerEvent Nat DiscoveryBackendStoreError

/-- The one stored backend gains a partition. -/
def gainPartition : SampleEvent :=
  .discovery (.mutate 1 (.patch
    { publicKey := 1
      backend := { name := none, partitions := some {"a", "b"}, weight := none, enabled := none } }))

/-- The first of two backends gains a partition and a share of the traffic. -/
def gainPartitionAndWeight : SampleEvent :=
  .discovery (.mutate 2 (.patch
    { publicKey := 1
      backend :=
        { name := none, partitions := some {"a", "b"}, weight := some 2, enabled := none } }))

/-- Two backends; between two updates one of them is edited, its weight too. -/
theorem update_agrees_iff_weight_edit :
    let events : List SampleEvent := [.discovery (.mutate 0 (.post (sampleBackend 1 {"a"}))),
      .discovery (.mutate 1 (.post (sampleBackend 2 {"a"}))), .update, gainPartitionAndWeight]
    let M := balanced VersionedStore.memory.store sampleEnv
    let state := (M.run (.start VersionedStore.memory true) events).2
    Agrees VersionedStore.memory sampleEnv (M state .update).2 := by
  have hbefore : HashesInjective sampleEnv [sampleBackend 1 {"a"}, sampleBackend 2 {"a"}] := by
    constructor <;> decide
  have hafter : HashesInjective sampleEnv
      [{ sampleBackend 1 {"a", "b"} with
          backend := { (sampleBackend 1 {"a", "b"}).backend with weight := 2 } },
        sampleBackend 2 {"a"}] := by
    constructor <;> decide
  refine ((update_agrees_iff sampleEnv).1 true
    [.discovery (.mutate 0 (.post (sampleBackend 1 {"a"}))),
      .discovery (.mutate 1 (.post (sampleBackend 2 {"a"}))), .update, gainPartitionAndWeight]
    (by decide) ⟨trivial, trivial, hbefore, trivial, hafter, trivial⟩).1.mpr ?_
  intro hkeys
  exact absurd hkeys (by decide)

/-- A backend gains a partition between two updates and nothing else changes: the
second update drops the edit. -/
theorem update_drops_gained_partition :
    ¬ ∀ (env : DiscoveryEnv Nat (DiscoveryBackend Nat) Unit) (events : List SampleEvent),
      (events.map BalancerEvent.mutations).sum < 2 ^ 63 →
      (balanced VersionedStore.memory.store env).Along
        (HashesTellApartInUpdate VersionedStore.memory env)
        (.start VersionedStore.memory true) (events ++ [.update]) →
      let M := balanced VersionedStore.memory.store env
      let state := (M.run (.start VersionedStore.memory true) events).2
      Agrees VersionedStore.memory env (M state .update).2 := by
  intro h
  have hbefore : HashesInjective sampleEnv [sampleBackend 1 {"a"}] := by
    constructor <;> simp
  have hafter : HashesInjective sampleEnv [sampleBackend 1 {"a", "b"}] := by
    constructor <;> simp
  have hagrees := h sampleEnv
    [.discovery (.mutate 0 (.post (sampleBackend 1 {"a"}))), .update, gainPartition]
    (by decide) ⟨trivial, hbefore, trivial, hafter, trivial⟩
  have hrecord := hagrees.record (sampleBackend 1 {"a", "b"}) (sampleBackend 1 {"a", "b"})
    ⟨by decide, by decide, rfl⟩
  exact absurd hrecord (by decide)

end Sample

end Switchgear.Pingora
