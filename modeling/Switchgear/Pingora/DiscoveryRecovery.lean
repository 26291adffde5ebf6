/-
  Switchgear.Pingora.DiscoveryRecovery — `discover` when connecting a backend may
  fail at one time and succeed at another.

  Every `discover` of a run comes with its own connect outcomes.  The state of a
  run also keeps, for the statements only, what each reload was given
  (`reloads`, the last one first); the cache is what the last reload built.

  Main result:
    * `recovers_iff` — along a run, every stored backend that once failed to
      connect and would connect now is returned, if and only if each time the
      store has changed since the last reload, or that reload had connected it.
-/
import Switchgear.Discovery.VersionedStore
import Switchgear.Pingora.DiscoveryCache

namespace Switchgear.Pingora

open Switchgear.Lib
open Switchgear.Discovery
open Switchgear.Pool
open Std (ExtTreeMap TransOrd LawfulEqOrd)

/-! ## §1. Stores with conditional reads. -/

/-- A store that answers "not modified" exactly when it is asked for its etag. -/
structure ConditionalStore (K σ ε : Type) where
  store : DiscoveryBackendStore K σ ε
  etag : σ → UInt64
  content : σ → List (DiscoveryBackend K)
  getAll_eq : ∀ s requestEtag, store.getAll requestEtag s =
    (.ok { etag := etag s
           backends := if requestEtag = some (etag s) then none else some (content s) }, s)

namespace ConditionalStore

variable {K : Type} [Ord K] [TransOrd K] [LawfulEqOrd K]

def memory :
    ConditionalStore K (MemoryDiscoveryBackendStore K) DiscoveryBackendStoreError where
  store := MemoryDiscoveryBackendStore.backendStore
  etag := fun s => s.etag
  content := fun s => s.listing
  getAll_eq := by
    intro s requestEtag
    show s.getAll requestEtag = _
    unfold MemoryDiscoveryBackendStore.getAll
    by_cases hcurrent : requestEtag = some s.etag
    · rw [if_pos hcurrent, if_pos hcurrent]
    · rw [if_neg hcurrent, if_neg hcurrent]

/-- `DbDiscoveryBackendStore` with no statement failing. -/
def db [ToString K] (eng : Engine) :
    ConditionalStore K (DiscoveryDb K) DiscoveryBackendStoreError where
  store := DiscoveryDb.backendStore eng Faults.none
  etag := fun db => db.responseEtag
  content := fun db => db.models.map Model.toDomain
  getAll_eq := fun db requestEtag => DiscoveryDb.getAll_none requestEtag db

end ConditionalStore

/-! ## §2. Runs. -/

/-- What a reload was given: the records, and how the pool made clients. -/
structure Reloaded (K Client E : Type) where
  records : List (DiscoveryBackend K)
  create : DiscoveryBackend K → Except E Client

/-- The store, the service over it, and all reloads so far. -/
structure RecoveryState (K σ Client E : Type) where
  store : σ
  service : LnServiceDiscovery Client
  reloads : List (Reloaded K Client E)

/-- A mutation of the store, or a `discover` with the connect outcomes of its time. -/
inductive RecoveryEvent (K Client E : Type) where
  | mutate (now : DateTime) (mutation : Mutation K)
  | discover (create : DiscoveryBackend K → Except E Client)

section System

variable {K σ ε Client E : Type} [Ord K] [DecidableEq K]

/-- The environment at the time of some connect outcomes. -/
def DiscoveryEnv.withCreate (env : DiscoveryEnv K Client E)
    (create : DiscoveryBackend K → Except E Client) : DiscoveryEnv K Client E :=
  { env with create }

/-- One event.  What a `discover` reloads is noted. -/
def recoveryMachine (S : ConditionalStore K σ ε) (env : DiscoveryEnv K Client E) :
    Machine (RecoveryState K σ Client E) (RecoveryEvent K Client E)
      (Option (Except (PingoraError ε) (BackendSet × Enablement))) :=
  fun state event =>
    match event with
    | .mutate now m => (none, { state with store := (S.store.mutate now m state.store).2 })
    | .discover create =>
        let (answer, store) := providerBackends S.store (some state.service.lastEtag) state.store
        let (result, service) := discover (env.withCreate create) answer state.service
        let reloads :=
          match answer with
          | .ok { etag := _, backends := some records } => { records, create } :: state.reloads
          | _ => state.reloads
        (some result, { store, service, reloads })

/-- A service that has not discovered anything, over a store in any state. -/
def RecoveryState.start (s : σ) : RecoveryState K σ Client E where
  store := s
  service := LnServiceDiscovery.new
  reloads := []

/-! ## §3. One `discover`. -/

variable {S : ConditionalStore K σ ε} {env : DiscoveryEnv K Client E}
  {state : RecoveryState K σ Client E}

theorem discover_notModified (create : DiscoveryBackend K → Except E Client)
    (hcurrent : state.service.lastEtag = S.etag state.store) :
    recoveryMachine S env state (.discover create)
      = (some (.ok (state.service.pingoraBackendCache, ∅)), state) := by
  simp only [recoveryMachine, providerBackends, S.getAll_eq, if_pos (congrArg some hcurrent),
    Except.mapError, discover]

theorem discover_modified (create : DiscoveryBackend K → Except E Client)
    (hmodified : state.service.lastEtag ≠ S.etag state.store) :
    recoveryMachine S env state (.discover create)
      = (some (.ok ((reload (env.withCreate create) (S.content state.store)
              state.service.pool).pingoraBackends,
            (reload (env.withCreate create) (S.content state.store) state.service.pool).enablement)),
          { store := state.store
            service :=
              { pool := (reload (env.withCreate create) (S.content state.store) state.service.pool).pool
                pingoraBackendCache := (reload (env.withCreate create) (S.content state.store)
                  state.service.pool).pingoraBackends
                lastEtag := S.etag state.store }
            reloads := { records := S.content state.store, create } :: state.reloads }) := by
  have hne : some state.service.lastEtag ≠ some (S.etag state.store) :=
    fun h => hmodified (Option.some.inj h)
  simp only [recoveryMachine, providerBackends, S.getAll_eq, if_neg hne, Except.mapError, discover]

/-! ## §4. The cache. -/

/-- The set that the reloads so far leave: what the last one built. -/
def lastSet (env : DiscoveryEnv K Client E) : List (Reloaded K Client E) → BackendSet
  | [] => ∅
  | last :: _ => eligible (env.withCreate last.create) last.records

/-- The cache is the set of the last reload. -/
def CacheOfLast (env : DiscoveryEnv K Client E) (state : RecoveryState K σ Client E) : Prop :=
  state.service.pingoraBackendCache = lastSet env state.reloads

theorem cacheOfLast_step (h : CacheOfLast env state)
    (event : RecoveryEvent K Client E) :
    CacheOfLast env (recoveryMachine S env state event).2 := by
  cases event with
  | mutate now m => exact h
  | discover create =>
      by_cases hcurrent : state.service.lastEtag = S.etag state.store
      · rw [discover_notModified create hcurrent]
        exact h
      · rw [discover_modified create hcurrent]
        exact reload_pingoraBackends _ _

/-- **A `discover` returns the set of the last reload**, its own included. -/
theorem discover_returns (h : CacheOfLast env state)
    (create : DiscoveryBackend K → Except E Client) :
    ∃ enablement, (recoveryMachine S env state (.discover create)).1
      = some (.ok (lastSet env (recoveryMachine S env state (.discover create)).2.reloads,
          enablement)) := by
  by_cases hcurrent : state.service.lastEtag = S.etag state.store
  · rw [discover_notModified create hcurrent]
    exact ⟨∅, by rw [h]⟩
  · rw [discover_modified create hcurrent]
    exact ⟨_, by rw [reload_pingoraBackends]; rfl⟩

/-! ## §5. What a reload connects. -/

omit [Ord K] [DecidableEq K] in
theorem mem_visit_iff (env : DiscoveryEnv K Client E) (acc : Reload Client)
    (b : DiscoveryBackend K) (id : BackendId) :
    id ∈ (visit env acc b).pingoraBackends
      ↔ id ∈ acc.pingoraBackends
        ∨ (env.admits b).isSome = true ∧ (env.pingoraBackend b).id = id := by
  cases hadmits : env.admits b with
  | none =>
      rw [visit_skipped hadmits]
      simp
  | some client =>
      rw [visit_admitted hadmits]
      show id ∈ acc.pingoraBackends.insertIfNew (env.pingoraBackend b).id _ ↔ _
      rw [ExtTreeMap.mem_insertIfNew, LawfulEqOrd.compare_eq_iff_eq]
      simp [or_comm]

omit [Ord K] [DecidableEq K] in
theorem mem_foldl_visit_iff (env : DiscoveryEnv K Client E) (bs : List (DiscoveryBackend K))
    (acc : Reload Client) (id : BackendId) :
    id ∈ (bs.foldl (visit env) acc).pingoraBackends
      ↔ id ∈ acc.pingoraBackends
        ∨ ∃ b ∈ bs, (env.admits b).isSome = true ∧ (env.pingoraBackend b).id = id := by
  induction bs generalizing acc with
  | nil => simp
  | cons b bs ih =>
      rw [List.foldl_cons, ih, mem_visit_iff]
      simp only [List.mem_cons, exists_eq_or_imp, or_assoc]

/-- The set of a reload has one element for each address and weight of a connected record. -/
theorem mem_eligible_iff (env : DiscoveryEnv K Client E) (bs : List (DiscoveryBackend K))
    (id : BackendId) :
    id ∈ eligible env bs
      ↔ ∃ b ∈ bs, (env.admits b).isSome = true ∧ (env.pingoraBackend b).id = id := by
  unfold eligible reload
  rw [mem_foldl_visit_iff]
  simp only [mem_btreeSet, ExtTreeMap.not_mem_empty, false_or]

/-- The last reload connected a record with this address and weight. -/
def ConnectedAtLast (env : DiscoveryEnv K Client E) (reloads : List (Reloaded K Client E))
    (id : BackendId) : Prop :=
  ∃ last ∈ reloads.head?, ∃ b ∈ last.records,
    ((env.withCreate last.create).admits b).isSome = true ∧ (env.pingoraBackend b).id = id

theorem mem_lastSet_iff (env : DiscoveryEnv K Client E) (reloads : List (Reloaded K Client E))
    (id : BackendId) : id ∈ lastSet env reloads ↔ ConnectedAtLast env reloads id := by
  unfold ConnectedAtLast
  cases reloads with
  | nil => simp [lastSet]
  | cons last reloads =>
      show id ∈ eligible (env.withCreate last.create) last.records ↔ _
      rw [mem_eligible_iff]
      simp only [List.head?_cons, Option.mem_def, Option.some.injEq, exists_eq_left']
      rfl

/-! ## §6. Recovery. -/

/-- A record of this key serves one of our partitions, and a `discover` failed to connect it. -/
def FailedBefore (env : DiscoveryEnv K Client E) (reloads : List (Reloaded K Client E))
    (publicKey : K) : Prop :=
  ∃ earlier ∈ reloads, ∃ b ∈ earlier.records, b.publicKey = publicKey
    ∧ ¬ Disjoint b.backend.partitions env.partitions ∧ ∃ e, earlier.create b = .error e

/-- The record is stored and serves one of our partitions, it failed to connect before, and it
would connect now. -/
structure Repaired (S : ConditionalStore K σ ε) (env : DiscoveryEnv K Client E)
    (state : RecoveryState K σ Client E) (create : DiscoveryBackend K → Except E Client)
    (b : DiscoveryBackend K) : Prop where
  stored : b ∈ S.content state.store
  served : ¬ Disjoint b.backend.partitions env.partitions
  failed : FailedBefore env state.reloads b.publicKey
  connects : ∃ client, create b = .ok client

/-- A `discover` returns every repaired backend. -/
def Recovers (S : ConditionalStore K σ ε) (env : DiscoveryEnv K Client E)
    (state : RecoveryState K σ Client E) : RecoveryEvent K Client E → Prop
  | .mutate _ _ => True
  | .discover create =>
      ∀ b, Repaired S env state create b →
        ∃ backends enablement, (recoveryMachine S env state (.discover create)).1
            = some (.ok (backends, enablement))
          ∧ (env.pingoraBackend b).id ∈ backends

/-- The store has another etag than the last reload saw, or every repaired backend was
connected by that reload. -/
def Reconnects (S : ConditionalStore K σ ε) (env : DiscoveryEnv K Client E)
    (state : RecoveryState K σ Client E) : RecoveryEvent K Client E → Prop
  | .mutate _ _ => True
  | .discover create =>
      state.service.lastEtag ≠ S.etag state.store
      ∨ ∀ b, Repaired S env state create b →
          ConnectedAtLast env state.reloads (env.pingoraBackend b).id

/-- One `discover`. -/
theorem recovers_iff_reconnects (h : CacheOfLast env state) (event : RecoveryEvent K Client E) :
    Recovers S env state event ↔ Reconnects S env state event := by
  cases event with
  | mutate now m => exact Iff.rfl
  | discover create =>
      obtain ⟨enablement, hreturns⟩ := discover_returns (S := S) h create
      have hmem : ∀ b, (∃ backends enablement,
            (recoveryMachine S env state (.discover create)).1 = some (.ok (backends, enablement))
            ∧ (env.pingoraBackend b).id ∈ backends)
          ↔ ConnectedAtLast env (recoveryMachine S env state (.discover create)).2.reloads
              (env.pingoraBackend b).id := by
        intro b
        rw [hreturns, ← mem_lastSet_iff]
        simp
      unfold Recovers Reconnects
      simp only [hmem]
      by_cases hcurrent : state.service.lastEtag = S.etag state.store
      · rw [discover_notModified create hcurrent]
        simp [hcurrent]
      · -- a reload visits every stored record
        refine iff_of_true ?_ (.inl hcurrent)
        rw [discover_modified create hcurrent]
        intro b hb
        obtain ⟨client, hclient⟩ := hb.connects
        have hadmits : (env.withCreate create).admits b = some client :=
          DiscoveryEnv.admits_eq_some_iff.mpr ⟨hb.served, hclient⟩
        exact ⟨_, rfl, b, hb.stored, by rw [hadmits]; rfl, rfl⟩

/-- **Backends recover** along a run if and only if each time the store has changed since the
last reload, or that reload had connected them. -/
theorem recovers_iff (S : ConditionalStore K σ ε) (env : DiscoveryEnv K Client E) (s : σ)
    (events : List (RecoveryEvent K Client E)) :
    (recoveryMachine S env).Along (Recovers S env) (.start s) events
      ↔ (recoveryMachine S env).Along (Reconnects S env) (.start s) events :=
  (recoveryMachine S env).along_congr (CacheOfLast env)
    (fun _ event h => recovers_iff_reconnects h event)
    (fun _ event h _ => cacheOfLast_step h event) _ events rfl

end System

/-- A backend whose credentials become readable stays away. -/
theorem failed_backend_stays_away :
    ¬ ∀ events : List (RecoveryEvent ℕ (DiscoveryBackend ℕ) Unit),
      (recoveryMachine ConditionalStore.memory sampleEnv).Along
        (Recovers ConditionalStore.memory sampleEnv) (.start .new) events := by
  intro h
  let b : DiscoveryBackend ℕ := sampleBackend 1 {"a"}
  let state := ((recoveryMachine ConditionalStore.memory sampleEnv).run (.start .new)
    [.mutate 0 (.post b), .discover fun _ => .error ()]).2
  have hrecovers : Recovers ConditionalStore.memory sampleEnv state (.discover .ok) :=
    (h [.mutate 0 (.post b), .discover fun _ => .error (), .discover .ok]).2.2.1
  have hrepaired : Repaired ConditionalStore.memory sampleEnv state .ok b :=
    ⟨by decide, by decide, ⟨_, List.mem_singleton_self _, b, by decide, rfl, by decide, (), rfl⟩,
      b, rfl⟩
  obtain ⟨backends, enablement, hreturned, hmem⟩ := hrecovers b hrepaired
  -- the etag was noted by the reload that failed, so the empty cache is returned
  have hcurrent : state.service.lastEtag = ConditionalStore.memory.etag state.store := by decide
  rw [discover_notModified .ok hcurrent] at hreturned
  obtain rfl : state.service.pingoraBackendCache = backends :=
    congrArg Prod.fst (Except.ok.inj (Option.some.inj hreturned))
  exact absurd hmem (by decide)

end Switchgear.Pingora
