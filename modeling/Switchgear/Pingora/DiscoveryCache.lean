/-
  Switchgear.Pingora.DiscoveryCache — the cached path of `discover` agrees with
  the full reload.

  A discovery store and an `LnServiceDiscovery` over it, with mutations,
  provider failures and completed `discover` calls in any order.  The cache
  was built from SOME list of records; that list is sound for the etag the
  service remembers (`Versioned.Sound`), so whenever the store answers "not
  modified" it is the content of the store.  The initial coincidence of both
  etags being 0 is the empty list.

  Main result:
    * `discover_agrees_with_reload` — on the memory store and on the database
      store, after any run with fewer than `2 ^ 63` mutations.
-/
import Switchgear.Discovery.VersionedStore
import Switchgear.Pingora.Discovery

namespace Switchgear.Pingora

open Switchgear.Lib
open Switchgear.Discovery
open Switchgear.Pool
open Std (TransOrd LawfulEqOrd)

/-! ## §1. The provider, and the store with its discovery service. -/

/-- `pingora_error::ErrorType`, as far as the provider uses it. -/
inductive ErrorType where
  | internalError
  deriving DecidableEq

/-- `pingora_error::Error`, as `Error::because` builds it. -/
structure PingoraError (ε : Type) where
  etype : ErrorType
  context : String
  cause : ε
  deriving DecidableEq

section System

variable {K σ ε Client E : Type}

/-- `PingoraDiscoveryBackendStoreProvider::backends`. -/
def providerBackends (store : DiscoveryBackendStore K σ ε) (etag : Option UInt64) (s : σ) :
    Except (PingoraError ε) (DiscoveryBackends K) × σ :=
  let (result, s') := store.getAll etag s
  (result.mapError fun e =>
    { etype := .internalError
      context := "getting all discovery backends from discovery backend store"
      cause := e }, s')

/-- A mutation of the store, a completed `discover`, or one whose provider fails. -/
inductive DiscoverEvent (K ε : Type) where
  | mutate (now : DateTime) (mutation : Mutation K)
  | discover
  | providerFailure (error : PingoraError ε)

/-- How many mutations an event is. -/
def DiscoverEvent.mutations : DiscoverEvent K ε → ℕ
  | .mutate _ _ => 1
  | _ => 0

variable [Ord K] [DecidableEq K]

/-- The store and the service over it; the answer is that of `discover`. -/
def cachedDiscovery (store : DiscoveryBackendStore K σ ε) (env : DiscoveryEnv K Client E) :
    Machine (σ × LnServiceDiscovery Client) (DiscoverEvent K ε)
      (Option (Except (PingoraError ε) (BackendSet × Enablement))) :=
  fun (s, service) event =>
    match event with
    | .mutate now m => (none, ((store.mutate now m s).2, service))
    | .discover =>
        let (answer, s') := providerBackends store (some service.lastEtag) s
        let (result, service') := discover env answer service
        (some result, (s', service'))
    | .providerFailure error =>
        let (result, service') := discover env (.error error) service
        (some result, (s, service'))

/-! ## §2. What one `discover` does. -/

variable {S : VersionedStore K σ ε} {env : DiscoveryEnv K Client E} {s : σ}
  {service : LnServiceDiscovery Client}

theorem cachedDiscovery_notModified (hwf : S.Wf s) (hcurrent : service.lastEtag = S.etag s) :
    cachedDiscovery S.store env (s, service) .discover
      = (some (.ok (service.pingoraBackendCache, ∅)), (s, service)) := by
  simp only [cachedDiscovery, providerBackends, S.getAll_eq s hwf, if_pos (congrArg some hcurrent),
    Except.mapError, discover]

theorem cachedDiscovery_modified (hwf : S.Wf s) (hmodified : service.lastEtag ≠ S.etag s) :
    cachedDiscovery S.store env (s, service) .discover
      = (some (.ok ((reload env (S.content s) service.pool).pingoraBackends,
            (reload env (S.content s) service.pool).enablement)),
          (s, { pool := (reload env (S.content s) service.pool).pool
                pingoraBackendCache := (reload env (S.content s) service.pool).pingoraBackends
                lastEtag := S.etag s })) := by
  have hne : some service.lastEtag ≠ some (S.etag s) := fun h => hmodified (Option.some.inj h)
  simp only [cachedDiscovery, providerBackends, S.getAll_eq s hwf, if_neg hne, Except.mapError,
    discover]

/-! ## §3. The invariant. -/

/-- Cache and pool were built from the records of `list`. -/
structure LoadedFrom (env : DiscoveryEnv K Client E) (list : List (DiscoveryBackend K))
    (service : LnServiceDiscovery Client) : Prop where
  cache : service.pingoraBackendCache = eligible env list
  built : ∃ enablement, Built env list
    { pool := service.pool, enablement, pingoraBackends := service.pingoraBackendCache }

/-- The service holds what it loaded from a list that is sound under its etag. -/
structure CacheInv (S : VersionedStore K σ ε) (env : DiscoveryEnv K Client E)
    (state : σ × LnServiceDiscovery Client) : Prop where
  wf : S.Wf state.1
  loaded : ∃ list, S.versioned.Sound state.1 state.2.lastEtag.toNat list
    ∧ LoadedFrom env list state.2

/-- The hashes tell the stored records apart when the service reloads. -/
def HashesTellApart (S : VersionedStore K σ ε) (env : DiscoveryEnv K Client E)
    (state : σ × LnServiceDiscovery Client) : DiscoverEvent K ε → Prop
  | .discover => HashesInjective env (S.content state.1)
  | _ => True

theorem CacheInv.start (S : VersionedStore K σ ε) (env : DiscoveryEnv K Client E) :
    CacheInv S env (S.new, LnServiceDiscovery.new) where
  wf := S.wf_new
  loaded := by
    -- both etags are 0, and the empty cache is the reload of the empty store
    refine ⟨[], .inr ⟨?_, S.content_new.symm⟩, rfl, ∅, Built.start _⟩
    show (0 : UInt64).toNat = (S.etag S.new).toNat
    rw [S.etag_new]

/-- On "not modified" the list behind the cache is the content of the store. -/
theorem CacheInv.loaded_content (h : CacheInv S env (s, service))
    (hcurrent : service.lastEtag = S.etag s) : LoadedFrom env (S.content s) service := by
  obtain ⟨list, hsound, hloaded⟩ := h.loaded
  change S.versioned.Sound s service.lastEtag.toNat list at hsound
  rw [hcurrent] at hsound
  have hlist : list = S.content s := hsound.eq_content
  rw [← hlist]
  exact hloaded

/-- After a reload it is so by construction. -/
theorem loaded_reload (hwf : S.Wf s) (hinjective : HashesInjective env (S.content s)) :
    LoadedFrom env (S.content s)
      { pool := (reload env (S.content s) service.pool).pool
        pingoraBackendCache := (reload env (S.content s) service.pool).pingoraBackends
        lastEtag := S.etag s } where
  cache := reload_pingoraBackends _ _
  built := ⟨_, built_reload (S.nodup_content s hwf) hinjective service.pool⟩

theorem cachedDiscovery_inv (h : CacheInv S env (s, service)) (event : DiscoverEvent K ε)
    (hroom : (S.etag s).toNat + event.mutations < etagRoom)
    (hhashes : HashesTellApart S env (s, service) event) :
    CacheInv S env (cachedDiscovery S.store env (s, service) event).2 := by
  cases event with
  | mutate now m =>
      obtain ⟨list, hsound, hloaded⟩ := h.loaded
      exact ⟨(S.mutate_spec s h.wf hroom now m).1, list,
        hsound.writes (S.mutate_writes h.wf hroom now m), hloaded⟩
  | discover =>
      by_cases hcurrent : service.lastEtag = S.etag s
      · rw [cachedDiscovery_notModified h.wf hcurrent]
        exact h
      · rw [cachedDiscovery_modified h.wf hcurrent]
        exact ⟨h.wf, S.content s, Versioned.sound_self s, loaded_reload h.wf hhashes⟩
  | providerFailure error => exact h

theorem cachedDiscovery_etag_le (hwf : S.Wf s) (event : DiscoverEvent K ε)
    (hroom : (S.etag s).toNat + event.mutations < etagRoom) :
    S.Wf (cachedDiscovery S.store env (s, service) event).2.1
      ∧ (S.etag (cachedDiscovery S.store env (s, service) event).2.1).toNat
          ≤ (S.etag s).toNat + event.mutations := by
  cases event with
  | mutate now m =>
      exact ⟨(S.mutate_spec s hwf hroom now m).1, S.mutate_etag_le hwf hroom now m⟩
  | discover =>
      by_cases hcurrent : service.lastEtag = S.etag s
      · rw [cachedDiscovery_notModified hwf hcurrent]
        exact ⟨hwf, Nat.le_add_right _ _⟩
      · rw [cachedDiscovery_modified hwf hcurrent]
        exact ⟨hwf, Nat.le_add_right _ _⟩
  | providerFailure error => exact ⟨hwf, Nat.le_add_right _ _⟩

/-- The invariant holds after every run that keeps to the room of the etag. -/
theorem cachedDiscovery_run_inv (events : List (DiscoverEvent K ε))
    (hroom : (events.map DiscoverEvent.mutations).sum < etagRoom)
    (hhashes : (cachedDiscovery S.store env).Along (HashesTellApart S env)
      (S.new, LnServiceDiscovery.new) events) :
    CacheInv S env
      ((cachedDiscovery S.store env).run (S.new, LnServiceDiscovery.new) events).2 := by
  have hbudget := (cachedDiscovery S.store env).along_of_budget (fun state => S.Wf state.1)
    (fun state => (S.etag state.1).toNat) DiscoverEvent.mutations etagRoom
    (fun state event hwf hfits => cachedDiscovery_etag_le hwf event hfits)
    (S.new, LnServiceDiscovery.new) events S.wf_new
    (by rwa [S.etag_new, UInt64.toNat_zero, Nat.zero_add])
  exact (cachedDiscovery S.store env).run_invariant (CacheInv S env) _
    (fun state event hinv hside => cachedDiscovery_inv hinv event hside.1 hside.2)
    _ events (CacheInv.start S env) (hbudget.and hhashes)

/-! ## §4. The outcome of a `discover`. -/

/-- The record is stored, serves one of our partitions and connects to `client`. -/
def Connected (S : VersionedStore K σ ε) (env : DiscoveryEnv K Client E) (s : σ)
    (b : DiscoveryBackend K) (client : Client) : Prop :=
  S.lookup s b.publicKey = some b ∧ ¬ Disjoint b.backend.partitions env.partitions
    ∧ env.create b = .ok client

/-- What a successful `discover` on the store state `s` returns and leaves behind. -/
structure DiscoverOutcome (S : VersionedStore K σ ε) (env : DiscoveryEnv K Client E) (s : σ)
    (service service' : LnServiceDiscovery Client) (backends : BackendSet)
    (enablement : Enablement) : Prop where
  /-- The set is the one an uncached reload would build, -/
  uncached : backends = eligible env (S.content s)
  /-- that is, one `Backend` per connected record, with its weight and partitions. -/
  mem_iff : ∀ (id : BackendId) (ext : Option PingoraLnBackendExtension),
    backends[id]? = some ext ↔
      ∃ b client, Connected S env s b client ∧ env.pingoraBackend b = { id, ext }
  /-- The pool's client for it is the one made from that record. -/
  client : ∀ b client, Connected S env s b client →
    service'.pool.pool[(env.pingoraBackend b).id]? = some client
  /-- A reload enables exactly these, as stored; -/
  reloaded : service.lastEtag ≠ S.etag s → ∀ (hash : UInt64) (enabled : Bool),
    enablement[hash]? = some enabled ↔
      ∃ b client, Connected S env s b client
        ∧ env.hashBackend (env.pingoraBackend b).id = hash ∧ b.backend.enabled = enabled
  /-- "not modified" says nothing about enablement. -/
  notModified : service.lastEtag = S.etag s → enablement = ∅

omit [Ord K] [DecidableEq K] in
/-- The records visited and admitted are the connected ones. -/
theorem exists_admitted_iff (hwf : S.Wf s) (P : DiscoveryBackend K → Prop) :
    (∃ b ∈ S.content s, (env.admits b).isSome = true ∧ P b)
      ↔ ∃ b client, Connected S env s b client ∧ P b := by
  constructor
  · rintro ⟨b, hb, hadmits, hP⟩
    obtain ⟨client, hclient⟩ := Option.isSome_iff_exists.mp hadmits
    have hserved := DiscoveryEnv.admits_eq_some_iff.mp hclient
    exact ⟨b, client, ⟨(S.mem_content_iff s hwf b).mp hb, hserved⟩, hP⟩
  · rintro ⟨b, client, ⟨hlookup, hserved⟩, hP⟩
    have hclient := DiscoveryEnv.admits_eq_some_iff.mpr hserved
    exact ⟨b, (S.mem_content_iff s hwf b).mpr hlookup, by rw [hclient]; rfl, hP⟩

/-- A service loaded from the content of the store returns what the outcome says. -/
theorem LoadedFrom.outcome {service' : LnServiceDiscovery Client}
    (h : LoadedFrom env (S.content s) service') (hwf : S.Wf s) (enablement : Enablement)
    (hreloaded : service.lastEtag ≠ S.etag s → ∀ (hash : UInt64) (enabled : Bool),
      enablement[hash]? = some enabled ↔
        ∃ b client, Connected S env s b client
          ∧ env.hashBackend (env.pingoraBackend b).id = hash ∧ b.backend.enabled = enabled)
    (hnotModified : service.lastEtag = S.etag s → enablement = ∅) :
    DiscoverOutcome S env s service service' service'.pingoraBackendCache enablement where
  uncached := h.cache
  mem_iff := by
    intro id ext
    obtain ⟨enablement', hbuilt⟩ := h.built
    rw [← exists_admitted_iff hwf fun b => env.pingoraBackend b = { id, ext }]
    exact hbuilt.backends id ext
  client := by
    rintro b client ⟨hlookup, hserved⟩
    obtain ⟨enablement', hbuilt⟩ := h.built
    exact hbuilt.pool b ((S.mem_content_iff s hwf b).mpr hlookup) client
      (DiscoveryEnv.admits_eq_some_iff.mpr hserved)
  reloaded := hreloaded
  notModified := hnotModified

/-- One `discover`, from a state that satisfies the invariant. -/
theorem CacheInv.discover_outcome (h : CacheInv S env (s, service))
    (hinjective : HashesInjective env (S.content s)) :
    ∃ backends enablement,
      (cachedDiscovery S.store env (s, service) .discover).1 = some (.ok (backends, enablement))
      ∧ DiscoverOutcome S env s service
          (cachedDiscovery S.store env (s, service) .discover).2.2 backends enablement := by
  by_cases hcurrent : service.lastEtag = S.etag s
  · rw [cachedDiscovery_notModified h.wf hcurrent]
    exact ⟨_, _, rfl, (h.loaded_content hcurrent).outcome h.wf ∅
      (fun hne => absurd hcurrent hne) fun _ => rfl⟩
  · rw [cachedDiscovery_modified h.wf hcurrent]
    have hbuilt := built_reload (S.nodup_content s h.wf) hinjective service.pool
    refine ⟨_, _, rfl, (loaded_reload h.wf hinjective).outcome h.wf _
      (fun _ hash enabled => ?_) fun heq => absurd heq hcurrent⟩
    rw [hbuilt.enablement]
    exact exists_admitted_iff h.wf _

/-- **The cached path is the reload**: what every `discover` of every run returns,
and what a failing provider leaves alone. -/
structure CachedDiscoverySound (S : VersionedStore K σ ε) (env : DiscoveryEnv K Client E) :
    Prop where
  success : ∀ events : List (DiscoverEvent K ε),
    (events.map DiscoverEvent.mutations).sum < 2 ^ 63 →
    (cachedDiscovery S.store env).Along (HashesTellApart S env)
      (S.new, LnServiceDiscovery.new) (events ++ [.discover]) →
    let state := ((cachedDiscovery S.store env).run (S.new, LnServiceDiscovery.new) events).2
    let step := cachedDiscovery S.store env state .discover
    ∃ backends enablement, step.1 = some (.ok (backends, enablement))
      ∧ DiscoverOutcome S env state.1 state.2 step.2.2 backends enablement
  failure : ∀ (state : σ × LnServiceDiscovery Client) (event : DiscoverEvent K ε)
    (error : PingoraError ε),
    (cachedDiscovery S.store env state event).1 = some (.error error) →
    (cachedDiscovery S.store env state event).2.2 = state.2

theorem cachedDiscoverySound (S : VersionedStore K σ ε) (env : DiscoveryEnv K Client E) :
    CachedDiscoverySound S env where
  success := by
    intro events hroom hhashes state step
    obtain ⟨hbefore, hnow, -⟩ := (Machine.along_append _ _ _ _ _).mp hhashes
    exact (cachedDiscovery_run_inv events hroom hbefore).discover_outcome hnow
  failure := by
    intro state event error herror
    obtain ⟨s, service⟩ := state
    cases event with
    | mutate now m => cases herror
    | providerFailure error' => rfl
    | discover =>
        -- an error of the provider is passed on before anything is stored
        simp only [cachedDiscovery] at herror ⊢
        cases hanswer : (providerBackends S.store (some service.lastEtag) s).1 with
        | error e => rfl
        | ok answer =>
            rw [hanswer] at herror
            obtain ⟨etag, backends⟩ := answer
            cases backends with
            | none => cases herror
            | some list => cases herror

end System

/-! ## §5. The two stores. -/

/-- **`discover` agrees with a full reload** over the memory store and over the
database store with no statement failing. -/
theorem discover_agrees_with_reload {K Client E : Type} [Ord K] [TransOrd K] [LawfulEqOrd K]
    [DecidableEq K] [ToString K] (env : DiscoveryEnv K Client E) :
    CachedDiscoverySound VersionedStore.memory env
      ∧ ∀ eng : Engine, CachedDiscoverySound (VersionedStore.db eng) env :=
  ⟨cachedDiscoverySound _ env, fun eng => cachedDiscoverySound (VersionedStore.db eng) env⟩

/-- A posted backend is discovered again from the cache. -/
theorem discover_agrees_with_reload_after_post :
    let events : List (DiscoverEvent Nat DiscoveryBackendStoreError) :=
      [.mutate 0 (.post (sampleBackend 1 {"a"})), .discover]
    let M := cachedDiscovery VersionedStore.memory.store sampleEnv
    let state := (M.run (VersionedStore.memory.new, LnServiceDiscovery.new) events).2
    ∃ backends enablement, (M state .discover).1 = some (.ok (backends, enablement))
      ∧ DiscoverOutcome VersionedStore.memory sampleEnv state.1 state.2 (M state .discover).2.2
          backends enablement := by
  refine (discover_agrees_with_reload sampleEnv).1.success _ (by decide) ?_
  have hone : HashesInjective sampleEnv [sampleBackend 1 {"a"}] := by
    constructor <;> simp
  exact ⟨trivial, hone, hone, trivial⟩

end Switchgear.Pingora
