/-
  Switchgear.Pingora.DiscoveryRace — concurrent `discover` calls on one service.

  A call loads `last_etag`, receives the provider's answer for it, stores the
  new etag and stores the new cache: four steps, between which other calls
  and mutations of the store may run.  Etag and cache are two independent
  atomics, so the LAST etag stored and the LAST cache stored may belong to
  different calls; then a set is cached under the etag of another version and
  stays there until the store changes again.

  Main results:
    * `race_consistent` — in a run where every cache store is in step
      (`CacheStoreInStep`), the cache at rest is the eligible set of the
      version whose etag is remembered,
    * `race_consistent_of_own_etag` — so it is where every call that stores its
      cache finds the etag it has stored,
    * `race_caches_old_set` — two calls around one mutation break it.

  The set a call stores does not depend on the pool (`reload_pingoraBackends`),
  so the pool is left out here.
-/
import Switchgear.Discovery.VersionedStore
import Switchgear.Pingora.Discovery

namespace Switchgear.Pingora

open Switchgear.Lib
open Switchgear.Discovery

/-! ## §1. Versions of a store. -/

/-- One version of a discovery store. -/
structure StoreVersion (K : Type) where
  etag : UInt64
  content : List (DiscoveryBackend K)

/-- The version before the first mutation. -/
def StoreVersion.empty {K : Type} : StoreVersion K := { etag := 0, content := [] }

/-- The conditional get: "not modified" exactly for the etag of the version. -/
def StoreVersion.answer {K : Type} (version : StoreVersion K) (requestEtag : Option UInt64) :
    DiscoveryBackends K where
  etag := version.etag
  backends := if requestEtag = some version.etag then none else some version.content

/-- Both discovery stores answer `get_all` as their version does. -/
theorem VersionedStore.getAll_answer {K σ ε : Type} (S : VersionedStore K σ ε) {s : σ}
    (hwf : S.Wf s) (requestEtag : Option UInt64) :
    S.store.getAll requestEtag s
      = (.ok (StoreVersion.answer { etag := S.etag s, content := S.content s } requestEtag), s) :=
  S.getAll_eq s hwf requestEtag

/-- A mutation of one of the discovery stores leaves the version alone, or makes one
whose etag is above every etag the store has had. -/
theorem VersionedStore.mutate_version {K σ ε : Type} (S : VersionedStore K σ ε) {s : σ}
    (hwf : S.Wf s) (hroom : (S.etag s).toNat + 1 < etagRoom) (now : DateTime)
    (m : Mutation K) :
    let after := (S.store.mutate now m s).2
    (S.etag after = S.etag s ∧ S.content after = S.content s)
      ∨ ∀ old : StoreVersion K, old.etag.toNat ≤ (S.etag s).toNat → old.etag ≠ S.etag after := by
  intro after
  rcases (S.mutate_spec s hwf hroom now m).2 with hsame | hetag
  · exact .inl hsame
  · right
    intro old hold heq
    have hnew : (S.etag after).toNat = (S.etag s).toNat + 1 := by
      rw [show S.etag after = S.etag s + 1 from hetag]
      exact Discovery.VersionedStore.etag_succ_toNat hroom
    rw [heq, hnew] at hold
    omega

/-! ## §2. Calls in flight. -/

section Race

variable {K Client E ι : Type}

/-- How far a call has come. -/
inductive DiscoverPhase (K : Type) where
  | idle
  | loaded (etag : UInt64)
  | answered (etag : UInt64) (backends : List (DiscoveryBackend K))
  | etagStored (etag : UInt64) (backends : List (DiscoveryBackend K))

/-- The call has received records and has not stored its cache yet. -/
def DiscoverPhase.inHand : DiscoverPhase K → Option (UInt64 × List (DiscoveryBackend K))
  | .answered etag backends => some (etag, backends)
  | .etagStored etag backends => some (etag, backends)
  | _ => none

/-- The store, the two atomics of the service and the calls; `versions` are all
versions the store has had, the current one included. -/
structure RaceState (K ι : Type) where
  current : StoreVersion K
  versions : List (StoreVersion K)
  pingoraBackendCache : BackendSet
  lastEtag : UInt64
  calls : ι → DiscoverPhase K

def RaceState.start : RaceState K ι where
  current := .empty
  versions := [.empty]
  pingoraBackendCache := ∅
  lastEtag := 0
  calls := fun _ => .idle

/-- A mutation that makes `version` the current one, or the next step of a call. -/
inductive RaceEvent (K ι : Type) where
  | mutate (version : StoreVersion K)
  | load (call : ι)
  | receive (call : ι)
  | storeEtag (call : ι)
  | storeCache (call : ι)

variable [DecidableEq ι]

def RaceState.setPhase (s : RaceState K ι) (call : ι) (phase : DiscoverPhase K) :
    RaceState K ι :=
  { s with calls := Function.update s.calls call phase }

variable [Ord K] [DecidableEq K]

/-- One step; the answer is the set a call returns in it, if it returns.  A step
out of turn does nothing. -/
def race (env : DiscoveryEnv K Client E) :
    Machine (RaceState K ι) (RaceEvent K ι) (Option BackendSet) :=
  fun s event =>
    match event with
    | .mutate version => (none, { s with current := version, versions := version :: s.versions })
    | .load call =>
        match s.calls call with
        | .idle => (none, s.setPhase call (.loaded s.lastEtag))
        | _ => (none, s)
    | .receive call =>
        match s.calls call with
        | .loaded etag =>
            match s.current.answer (some etag) with
            -- not modified: the call returns the cache as it is at this moment
            | { etag := _, backends := none } =>
                (some s.pingoraBackendCache, s.setPhase call .idle)
            | { etag, backends := some backends } =>
                (none, s.setPhase call (.answered etag backends))
        | _ => (none, s)
    | .storeEtag call =>
        match s.calls call with
        | .answered etag backends =>
            -- from here to the cache store the etag tells of a set that is not cached yet
            (none, { s.setPhase call (.etagStored etag backends) with lastEtag := etag })
        | _ => (none, s)
    | .storeCache call =>
        match s.calls call with
        | .etagStored _ backends =>
            (some (eligible env backends),
              { s.setPhase call .idle with pingoraBackendCache := eligible env backends })
        | _ => (none, s)

/-! ## §3. Nothing in between: the steps are the method. -/

/-- The four steps of a call with nothing in between leave etag and cache as
`discover` does. -/
theorem race_call_eq_discover (env : DiscoveryEnv K Client E) (s : RaceState K ι) (call : ι)
    (hidle : s.calls call = .idle) (service : LnServiceDiscovery Client)
    (hcache : service.pingoraBackendCache = s.pingoraBackendCache)
    (hetag : service.lastEtag = s.lastEtag) :
    let s' := ((race env).run s [.load call, .receive call, .storeEtag call, .storeCache call]).2
    let service' :=
      (discover env (.ok (s.current.answer (some s.lastEtag)) : Except Unit _) service).2
    s'.pingoraBackendCache = service'.pingoraBackendCache
      ∧ s'.lastEtag = service'.lastEtag ∧ s'.calls call = .idle := by
  by_cases hcurrent : some s.lastEtag = some s.current.etag
  · simp [race, hidle, RaceState.setPhase, StoreVersion.answer, hcurrent, discover, hcache, hetag]
  · simp [race, hidle, RaceState.setPhase, StoreVersion.answer, hcurrent, discover,
      reload_pingoraBackends]

/-! ## §4. The invariant. -/

/-- A mutation leaves the version, or makes one whose etag was never used. -/
def FreshVersions (s : RaceState K ι) : RaceEvent K ι → Prop
  | .mutate version => version = s.current ∨ ∀ old ∈ s.versions, old.etag ≠ version.etag
  | _ => True

/-- A cache store is in step when another call has records in hand and will store
its own, or when the stored set is that of the version whose etag is remembered. -/
def CacheStoreInStep (env : DiscoveryEnv K Client E) (s : RaceState K ι) :
    RaceEvent K ι → Prop
  | .storeCache call => ∀ etag backends, s.calls call = .etagStored etag backends →
      (∃ other, other ≠ call ∧ (s.calls other).inHand.isSome = true)
        ∨ ∀ version ∈ s.versions, version.etag = s.lastEtag →
            eligible env version.content = eligible env backends
  | _ => True

/-- What holds after every step of an orderly run. -/
structure RaceInv (env : DiscoveryEnv K Client E) (s : RaceState K ι) : Prop where
  current : s.current ∈ s.versions
  unique : ∀ u ∈ s.versions, ∀ v ∈ s.versions, u.etag = v.etag → u = v
  inHand : ∀ call etag content, (s.calls call).inHand = some (etag, content) →
    { etag, content } ∈ s.versions
  lastEtag : ∃ version ∈ s.versions, version.etag = s.lastEtag
  cache : (∃ call, (s.calls call).inHand.isSome = true)
    ∨ ∀ version ∈ s.versions, version.etag = s.lastEtag →
        s.pingoraBackendCache = eligible env version.content

variable {env : DiscoveryEnv K Client E} {s : RaceState K ι}

omit [DecidableEq ι] in
theorem RaceInv.start : RaceInv env (RaceState.start : RaceState K ι) where
  current := List.mem_singleton.mpr rfl
  unique := by
    intro u hu v hv _
    rw [List.mem_singleton.mp hu, List.mem_singleton.mp hv]
  inHand := by
    intro call etag content h
    cases h
  lastEtag := ⟨.empty, List.mem_singleton.mpr rfl, rfl⟩
  cache := by
    right
    intro version hversion _
    rw [List.mem_singleton.mp hversion]
    rfl

omit [DecidableEq ι] in
/-- The etag of a version in hand that is remembered makes the store in step. -/
theorem RaceInv.inStep_of_own_etag (h : RaceInv env s) {call : ι} {etag : UInt64}
    {backends : List (DiscoveryBackend K)} (hphase : s.calls call = .etagStored etag backends)
    (hown : s.lastEtag = etag) : CacheStoreInStep env s (.storeCache call) := by
  intro etag' backends' hphase'
  rw [hphase] at hphase'
  cases hphase'
  -- etags are unique, so the version remembered is the one in hand
  right
  intro version hversion hetag
  have hmem := h.inHand call etag backends (by rw [hphase]; rfl)
  rw [h.unique version hversion _ hmem (hetag.trans hown)]

/-- A call that moves on without new records keeps the rest. -/
theorem RaceInv.setPhase (h : RaceInv env s) (call : ι) (phase : DiscoverPhase K)
    (hbefore : (s.calls call).inHand = none) (hafter : phase.inHand = none) :
    RaceInv env (s.setPhase call phase) where
  current := h.current
  unique := h.unique
  inHand := by
    intro call' etag content hhand
    by_cases hsame : call' = call
    · subst hsame
      simp only [RaceState.setPhase, Function.update_self, hafter] at hhand
      cases hhand
    · simp only [RaceState.setPhase, Function.update_of_ne hsame] at hhand
      exact h.inHand call' etag content hhand
  lastEtag := h.lastEtag
  cache := by
    rcases h.cache with ⟨other, hother⟩ | hcache
    · left
      refine ⟨other, ?_⟩
      by_cases hsame : other = call
      · rw [hsame, hbefore] at hother
        cases hother
      · simp only [RaceState.setPhase, Function.update_of_ne hsame]
        exact hother
    · exact .inr hcache

/-- A call that takes a version in hand, or stores its etag, has something in hand. -/
theorem RaceInv.take (h : RaceInv env s) (call : ι) {phase : DiscoverPhase K}
    {version : StoreVersion K} (hphase : phase.inHand = some (version.etag, version.content))
    (hversion : version ∈ s.versions) {lastEtag : UInt64}
    (hetag : ∃ v ∈ s.versions, v.etag = lastEtag) :
    RaceInv env { s.setPhase call phase with lastEtag := lastEtag } where
  current := h.current
  unique := h.unique
  inHand := by
    intro call' etag content hhand
    by_cases hsame : call' = call
    · subst hsame
      simp only [RaceState.setPhase, Function.update_self, hphase, Option.some.injEq,
        Prod.mk.injEq] at hhand
      obtain ⟨rfl, rfl⟩ := hhand
      exact hversion
    · simp only [RaceState.setPhase, Function.update_of_ne hsame] at hhand
      exact h.inHand call' etag content hhand
  lastEtag := hetag
  cache := by
    left
    refine ⟨call, ?_⟩
    simp only [RaceState.setPhase, Function.update_self, hphase, Option.isSome_some]

omit [DecidableEq ι] in
theorem RaceInv.mutate (h : RaceInv env s) {version : StoreVersion K}
    (hfresh : FreshVersions s (.mutate version)) :
    RaceInv env { s with current := version, versions := version :: s.versions } := by
  rcases hfresh with rfl | hfresh
  · -- the version stays: it is listed once more
    have hmem : ∀ v, v ∈ s.current :: s.versions ↔ v ∈ s.versions := by
      intro v
      rw [List.mem_cons, or_iff_right_iff_imp]
      rintro rfl
      exact h.current
    refine ⟨List.mem_cons_self, ?_, ?_, ?_, ?_⟩
    · simpa only [hmem] using h.unique
    · simpa only [hmem] using h.inHand
    · simpa only [hmem] using h.lastEtag
    · simpa only [hmem] using h.cache
  · refine ⟨List.mem_cons_self, ?_, ?_, ?_, ?_⟩
    · intro u hu v hv huv
      rcases List.mem_cons.mp hu with hu' | hu'
      · rcases List.mem_cons.mp hv with hv' | hv'
        · rw [hu', hv']
        · exact absurd (huv.symm.trans (congrArg _ hu')) (hfresh v hv')
      · rcases List.mem_cons.mp hv with hv' | hv'
        · exact absurd (huv.trans (congrArg _ hv')) (hfresh u hu')
        · exact h.unique u hu' v hv' huv
    · intro call etag content hhand
      exact List.mem_cons_of_mem _ (h.inHand call etag content hhand)
    · obtain ⟨v, hv, hetag⟩ := h.lastEtag
      exact ⟨v, List.mem_cons_of_mem _ hv, hetag⟩
    · rcases h.cache with hhand | hcache
      · exact .inl hhand
      · right
        intro v hv hetag
        rcases List.mem_cons.mp hv with rfl | hv
        · -- the remembered etag is that of an older version, not of the new one
          obtain ⟨old, hold, holdEtag⟩ := h.lastEtag
          exact absurd (holdEtag.trans hetag.symm) (hfresh old hold)
        · exact hcache v hv hetag

theorem RaceInv.storeCache (h : RaceInv env s) {call : ι} {etag : UInt64}
    {backends : List (DiscoveryBackend K)} (hphase : s.calls call = .etagStored etag backends)
    (hstep : CacheStoreInStep env s (.storeCache call)) :
    RaceInv env { s.setPhase call .idle with
      pingoraBackendCache := eligible env backends } where
  current := h.current
  unique := h.unique
  inHand := by
    intro call' etag' content hhand
    by_cases hsame : call' = call
    · subst hsame
      simp only [RaceState.setPhase, Function.update_self] at hhand
      cases hhand
    · simp only [RaceState.setPhase, Function.update_of_ne hsame] at hhand
      exact h.inHand call' etag' content hhand
  lastEtag := h.lastEtag
  cache := by
    rcases hstep etag backends hphase with ⟨other, hne, hother⟩ | hsame
    · left
      refine ⟨other, ?_⟩
      simp only [RaceState.setPhase, Function.update_of_ne hne]
      exact hother
    · exact .inr fun version hversion hetag => (hsame version hversion hetag).symm

/-- **The step lemma.** -/
theorem race_inv (h : RaceInv env s) (event : RaceEvent K ι) (hfresh : FreshVersions s event)
    (hstep : CacheStoreInStep env s event) : RaceInv env (race env s event).2 := by
  cases event with
  | mutate version => exact h.mutate hfresh
  | load call =>
      cases hphase : s.calls call with
      | idle =>
          simp only [race, hphase]
          exact h.setPhase call _ (by rw [hphase]; rfl) rfl
      | loaded etag => simpa only [race, hphase] using h
      | answered etag backends => simpa only [race, hphase] using h
      | etagStored etag backends => simpa only [race, hphase] using h
  | receive call =>
      cases hphase : s.calls call with
      | idle => simpa only [race, hphase] using h
      | loaded etag =>
          by_cases hcurrent : some etag = some s.current.etag
          · simp only [race, hphase, StoreVersion.answer, if_pos hcurrent]
            exact h.setPhase call _ (by rw [hphase]; rfl) rfl
          · simp only [race, hphase, StoreVersion.answer, if_neg hcurrent]
            exact h.take call rfl h.current h.lastEtag
      | answered etag backends => simpa only [race, hphase] using h
      | etagStored etag backends => simpa only [race, hphase] using h
  | storeEtag call =>
      cases hphase : s.calls call with
      | idle => simpa only [race, hphase] using h
      | loaded etag => simpa only [race, hphase] using h
      | answered etag backends =>
          have hmem := h.inHand call etag backends (by rw [hphase]; rfl)
          simp only [race, hphase]
          exact h.take call rfl hmem ⟨_, hmem, rfl⟩
      | etagStored etag backends => simpa only [race, hphase] using h
  | storeCache call =>
      cases hphase : s.calls call with
      | idle => simpa only [race, hphase] using h
      | loaded etag => simpa only [race, hphase] using h
      | answered etag backends => simpa only [race, hphase] using h
      | etagStored etag backends =>
          simp only [race, hphase]
          exact h.storeCache hphase hstep

/-! ## §5. Whole runs. -/

/-- No call is in flight. -/
def RaceState.AtRest (s : RaceState K ι) : Prop := ∀ call, s.calls call = .idle

/-- The cache is the eligible set of the version whose etag is remembered. -/
def RaceState.Consistent (env : DiscoveryEnv K Client E) (s : RaceState K ι) : Prop :=
  ∃ version ∈ s.versions, version.etag = s.lastEtag
    ∧ s.pingoraBackendCache = eligible env version.content

omit [DecidableEq ι] in
theorem RaceInv.consistent (h : RaceInv env s) (hrest : s.AtRest) :
    s.Consistent env
      ∧ (s.lastEtag = s.current.etag →
          s.pingoraBackendCache = eligible env s.current.content) := by
  have hcache : ∀ version ∈ s.versions, version.etag = s.lastEtag →
      s.pingoraBackendCache = eligible env version.content := by
    rcases h.cache with ⟨call, hcall⟩ | hcache
    · rw [hrest call] at hcall
      cases hcall
    · exact hcache
  obtain ⟨version, hversion, hetag⟩ := h.lastEtag
  exact ⟨⟨version, hversion, hetag, hcache version hversion hetag⟩,
    fun hcurrent => hcache s.current h.current hcurrent.symm⟩

/-- **Cache and etag agree at rest** in every run whose cache stores are in step; so
a "not modified" for the remembered etag returns the current set. -/
theorem race_consistent (env : DiscoveryEnv K Client E) (events : List (RaceEvent K ι))
    (hfresh : (race env).Along FreshVersions RaceState.start events)
    (hstep : (race env).Along (CacheStoreInStep env) RaceState.start events) :
    let s := ((race env).run RaceState.start events).2
    s.AtRest →
      s.Consistent env
      ∧ (s.lastEtag = s.current.etag →
          s.pingoraBackendCache = eligible env s.current.content) := by
  intro s hrest
  have hinv : RaceInv env s := (race env).run_invariant (RaceInv env) _
    (fun s event hinv hside => race_inv hinv event hside.1 hside.2)
    RaceState.start events RaceInv.start (hfresh.and hstep)
  exact hinv.consistent hrest

/-- A call that stores its cache finds the etag it has stored: no other call stored its own
in between. -/
def FindsOwnEtag (s : RaceState K ι) : RaceEvent K ι → Prop
  | .storeCache call => ∀ etag backends, s.calls call = .etagStored etag backends →
      s.lastEtag = etag
  | _ => True

omit [DecidableEq ι] in
theorem RaceInv.inStep_of_findsOwnEtag (h : RaceInv env s) {event : RaceEvent K ι}
    (hown : FindsOwnEtag s event) : CacheStoreInStep env s event := by
  cases event with
  | storeCache call =>
      intro etag backends hphase
      exact h.inStep_of_own_etag hphase (hown etag backends hphase) etag backends hphase
  | mutate version => trivial
  | load call => trivial
  | receive call => trivial
  | storeEtag call => trivial

/-- The same where no two calls get between each other's stores. -/
theorem race_consistent_of_own_etag (env : DiscoveryEnv K Client E)
    (events : List (RaceEvent K ι))
    (hfresh : (race env).Along FreshVersions RaceState.start events)
    (hown : (race env).Along FindsOwnEtag RaceState.start events) :
    let s := ((race env).run RaceState.start events).2
    s.AtRest →
      s.Consistent env
      ∧ (s.lastEtag = s.current.etag →
          s.pingoraBackendCache = eligible env s.current.content) := by
  intro s hrest
  have hinv : RaceInv env s := (race env).run_invariant (RaceInv env) _
    (fun s event hinv hside => race_inv hinv event hside.1 (hinv.inStep_of_findsOwnEtag hside.2))
    RaceState.start events RaceInv.start (hfresh.and hown)
  exact hinv.consistent hrest

end Race

/-- Two versions of a store with one backend, before and after an edit. -/
def editedVersions : StoreVersion Nat × StoreVersion Nat :=
  ({ etag := 1, content := [sampleBackend 1 {"a"}] },
    { etag := 2, content := [sampleBackend 1 {"a", "b"}] })

/-- Two calls around one mutation: the first stores its cache while the second has records in
hand, the second under its own etag. -/
theorem race_consistent_two_calls :
    let events := [RaceEvent.mutate editedVersions.1, .load false, .receive false, .load true,
      .mutate editedVersions.2, .receive true, .storeEtag false, .storeCache false,
      .storeEtag true, .storeCache true]
    let s := ((race (ι := Bool) sampleEnv).run RaceState.start events).2
    s.Consistent sampleEnv
      ∧ s.pingoraBackendCache = eligible sampleEnv editedVersions.2.content := by
  intro events s
  have hfresh : (race (ι := Bool) sampleEnv).Along FreshVersions RaceState.start events :=
    ⟨.inr (by decide), trivial, trivial, trivial, .inr (by decide), trivial, trivial, trivial,
      trivial, trivial, trivial⟩
  have hstep : (race (ι := Bool) sampleEnv).Along (CacheStoreInStep sampleEnv) RaceState.start
      events := by
    refine ⟨trivial, trivial, trivial, trivial, trivial, trivial, trivial, ?_, trivial, ?_,
      trivial⟩
    · intro etag backends _
      left
      exact ⟨true, by decide, by decide⟩
    · intro etag backends hphase
      cases hphase
      right
      decide
  have hrun := race_consistent sampleEnv events hfresh hstep (by intro call; cases call <;> rfl)
  exact ⟨hrun.1, hrun.2 rfl⟩

/-- Two calls around one mutation: the second stores both atomics between the two
stores of the first, and the old set stays cached under the new etag. -/
theorem race_caches_old_set :
    ¬ ∀ (env : DiscoveryEnv Nat (DiscoveryBackend Nat) Unit) (events : List (RaceEvent Nat Bool)),
      (race env).Along FreshVersions RaceState.start events →
      let s := ((race env).run RaceState.start events).2
      s.AtRest →
        s.Consistent env
        ∧ (s.lastEtag = s.current.etag →
            s.pingoraBackendCache = eligible env s.current.content) := by
  intro h
  have hrun := h sampleEnv
    [.mutate editedVersions.1, .load false, .receive false, .load true,
      .mutate editedVersions.2, .receive true, .storeEtag false, .storeEtag true,
      .storeCache true, .storeCache false]
    ⟨.inr (by decide), trivial, trivial, trivial, .inr (by decide), trivial, trivial, trivial,
      trivial, trivial, trivial⟩
    (by intro call; cases call <;> rfl)
  exact absurd (hrun.2 rfl) (by decide)

end Switchgear.Pingora
