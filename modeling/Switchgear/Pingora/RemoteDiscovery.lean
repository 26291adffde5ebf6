/-
  Switchgear.Pingora.RemoteDiscovery — a balancer that reads its backends from a
  discovery service over HTTP, with a token.

  The client keeps the token it was created with.  While the service accepts it the
  balancer does what one next to the store does; from then on every update fails,
  and a failed update leaves the balancer with what it had: it goes on selecting
  from the last set it saw, whatever the store has become.

  Main result:
    * `remote_balancer_follows_until_expiry` — over the memory store and the
      database store, whole runs, with the clock readings of the validator in any
      order.
-/
import Switchgear.Discovery.Authorized
import Switchgear.Discovery.Commands
import Switchgear.Pingora.BalancerSync

namespace Switchgear.Pingora

open Switchgear.Lib
open Switchgear.Discovery
open Switchgear.Service
open Std (ExtTreeMap TransOrd LawfulEqOrd)

/-! ## §1. What a store holds fits into a response. -/

section Compact

variable {K σ ε : Type}

/-- The record a mutation writes as a whole. -/
def written : Mutation K → Option (DiscoveryBackend K)
  | .post backend => some backend
  | .put backend => some backend
  | .patch _ => none
  | .delete _ => none

/-- An implementation that a mutation leaves in the store was there before, or was written. -/
structure KeepsImplementations (S : VersionedStore K σ ε) : Prop where
  mutate : ∀ s, S.Wf s → (S.etag s).toNat + 1 < etagRoom → ∀ now (m : Mutation K),
    ∀ b ∈ S.content (S.store.mutate now m s).2, ∃ old, (old ∈ S.content s ∨ written m = some old)
      ∧ b.backend.implementation = old.backend.implementation

/-- Every implementation in the store is JSON in compact form. -/
def CompactContent (json : JsonText) (S : VersionedStore K σ ε) (s : σ) : Prop :=
  ∀ b ∈ S.content s, CompactBackend json b

/-- The mutation writes no other. -/
def CompactMutation (json : JsonText) (m : Mutation K) : Prop :=
  ∀ b, written m = some b → CompactBackend json b

theorem CompactContent.new (json : JsonText) (S : VersionedStore K σ ε) :
    CompactContent json S S.new := by
  intro b hb
  rw [S.content_new] at hb
  cases hb

theorem CompactContent.mutate {json : JsonText} {S : VersionedStore K σ ε}
    (hS : KeepsImplementations S) {s : σ} (h : CompactContent json S s) (hwf : S.Wf s)
    (hroom : (S.etag s).toNat + 1 < etagRoom) (now : DateTime) {m : Mutation K}
    (hm : CompactMutation json m) : CompactContent json S (S.store.mutate now m s).2 := by
  intro b hb
  obtain ⟨old, hold, himplementation⟩ := hS.mutate s hwf hroom now m b hb
  unfold CompactBackend
  rw [himplementation]
  rcases hold with hold | hold
  · exact h old hold
  · exact hm old hold

end Compact

section Stores

variable {K : Type} [Ord K] [TransOrd K] [LawfulEqOrd K]

theorem keepsImplementations_memory :
    KeepsImplementations (VersionedStore.memory : VersionedStore K _ _) where
  mutate := by
    intro s _ _ now m
    let Q : DiscoveryBackend K → Prop := fun b => ∃ old, (old ∈ s.listing ∨ written m = some old)
      ∧ b.backend.implementation = old.backend.implementation
    have hstored : EveryValue (fun entry => Q entry.backend) s.store := by
      rw [EveryValue.iff_forall_mem_listing s.listing_perm]
      exact fun b hb => ⟨b, .inl hb, rfl⟩
    have hnew : EveryValue (fun entry => Q entry.backend)
        (MemoryDiscoveryBackendStore.backendStore.mutate now m s).2.store := by
      cases m with
      | post backend =>
          show EveryValue _ (s.post now backend).2.store
          unfold MemoryDiscoveryBackendStore.post
          split_ifs
          · exact hstored
          · exact hstored.insert ⟨backend, .inr rfl, rfl⟩ _
      | put backend => exact hstored.insert ⟨backend, .inr rfl, rfl⟩ _
      | patch patch =>
          show EveryValue _ (s.patch patch).2.store
          unfold MemoryDiscoveryBackendStore.patch
          cases hentry : s.store[patch.publicKey]? with
          | none => exact hstored
          | some entry =>
              have hpatched : Q (MemoryDiscoveryBackendStore.patchEntry patch.backend entry).backend :=
                hstored _ entry hentry
              exact hstored.insert hpatched _
      | delete key =>
          show EveryValue _ (s.delete key).2.store
          unfold MemoryDiscoveryBackendStore.delete
          dsimp only
          split_ifs
          · exact hstored.erase key
          · exact hstored
    exact (EveryValue.iff_forall_mem_listing
      (MemoryDiscoveryBackendStore.listing_perm _) _ Q).mp hnew

theorem keepsImplementations_db [ToString K] (eng : Engine) :
    KeepsImplementations (VersionedStore.db eng : VersionedStore K _ _) where
  mutate := by
    intro db _ hroom now m
    have hetag := DiscoveryDb.not_etagFails_none (DiscoveryDb.etag_ne_max hroom)
    let Q : DiscoveryBackend K → Prop := fun b =>
      ∃ old, (old ∈ db.models.map Model.toDomain ∨ written m = some old)
        ∧ b.backend.implementation = old.backend.implementation
    have hstored : EveryValue (fun row => Q row.toDomain) db.rows := by
      rw [EveryValue.iff_forall_mem_listing db.models_perm]
      exact fun b hb => ⟨b, .inl hb, rfl⟩
    have hnew : EveryValue (fun row => Q row.toDomain)
        ((DiscoveryDb.backendStore eng Faults.none).mutate now m db).2.rows := by
      cases m with
      | post backend =>
          show EveryValue _ (DiscoveryDb.post eng Faults.none now backend db).2.rows
          by_cases hmem : backend.publicKey ∈ db.rows
          · rw [DiscoveryDb.post_conflict eng now rfl hmem]
            exact hstored
          · rw [DiscoveryDb.post_inserted eng now rfl hmem hetag]
            exact hstored.insert ⟨backend, .inr rfl, rfl⟩ _
      | put backend =>
          show EveryValue _ (DiscoveryDb.put eng Faults.none now backend db).2.rows
          rw [DiscoveryDb.put_upserted eng now backend rfl rfl hetag]
          refine hstored.insert ⟨backend, .inr rfl, ?_⟩ _
          unfold DiscoveryDb.putRow
          cases db.rows[backend.publicKey]? with
          | none => rfl
          | some row => rfl
      | patch patch =>
          show EveryValue _ (DiscoveryDb.patch eng Faults.none now patch db).2.rows
          cases hrow : db.rows[patch.publicKey]? with
          | none =>
              rw [DiscoveryDb.patch_missing eng now rfl hrow]
              exact hstored
          | some row =>
              rw [DiscoveryDb.patch_updated eng now rfl hrow hetag]
              have hpatched : Q (DiscoveryDb.patchRow eng now patch.backend row).toDomain := by
                obtain ⟨old, hold, himplementation⟩ := hstored _ row hrow
                exact ⟨old, hold, himplementation⟩
              exact hstored.insert hpatched _
      | delete key =>
          show EveryValue _ (DiscoveryDb.delete eng Faults.none key db).2.rows
          by_cases hmem : key ∈ db.rows
          · rw [DiscoveryDb.delete_deleted eng rfl hmem hetag]
            exact hstored.erase key
          · rw [DiscoveryDb.delete_missing eng rfl hmem]
            exact hstored
    exact (EveryValue.iff_forall_mem_listing (DiscoveryDb.models_perm _) _ Q).mp hnew

end Stores

/-! ## §2. The balancer and its events. -/

/-- An event at the service or at the balancer; an update comes with the clock reading at which
the service checks its token. -/
inductive RemoteEvent (K : Type) where
  | mutate (now : DateTime) (mutation : Mutation K)
  | update (checked : DateTime)
  | healthCheck (healthy : UInt64 → Bool)

section Definitions

variable {K σ Client E : Type}

/-- The etags that an event takes. -/
def RemoteEvent.mutations : RemoteEvent K → ℕ
  | .mutate _ _ => 1
  | _ => 0

/-- What an event writes is JSON in compact form. -/
def RemoteEvent.Compact (json : JsonText) : RemoteEvent K → Prop
  | .mutate _ m => CompactMutation json m
  | _ => True

/-- The token of an update is no longer accepted. -/
def RemoteEvent.Late (exp : ℕ) : RemoteEvent K → Prop
  | .update checked => exp + leeway < epochSeconds checked
  | _ => True

/-- The event as a balancer next to the store sees it: an update until the expiry, a provider
that fails from then on. -/
def RemoteEvent.nearby (client : HttpDiscoveryBackendStore K) (exp : ℕ) :
    RemoteEvent K → BalancerEvent K DiscoveryBackendStoreError
  | .mutate now m => .discovery (.mutate now m)
  | .update checked =>
      if epochSeconds checked ≤ exp + leeway then .update
      else
        .discovery (.providerFailure
          { etype := .internalError
            context := "getting all discovery backends from discovery backend store"
            cause := client.missingEtag })
  | .healthCheck healthy => .healthCheck healthy

variable [Ord K] [DecidableEq K]

/-- The balancer over a service that has its store: others mutate it, the balancer reads it with
its token. -/
def remoteBalanced (client : HttpDiscoveryBackendStore K) (defaults : Headers)
    (auth : BearerTokenAuthLayer) (json : JsonText)
    (store : DiscoveryBackendStore K σ DiscoveryBackendStoreError) (env : DiscoveryEnv K Client E) :
    Machine (BalancerState σ Client) (RemoteEvent K)
      (Option (Except (PingoraError DiscoveryBackendStoreError) Unit)) :=
  fun state event =>
    match event with
    | .mutate now m => balanced store env state (.discovery (.mutate now m))
    | .update checked =>
        balanced (authorizedStore client defaults auth json store checked) env state .update
    | .healthCheck healthy => balanced store env state (.healthCheck healthy)

end Definitions

/-! ## §3. One event. -/

section Step

variable {K σ Client E S V : Type} [Ord K] [DecidableEq K] {jwt : JsonWebToken S V}
  {bearer : String → Option String} {signing : S} {verifying : V} {authorization : String}
  {exp : UInt64} {json : JsonText} {env : DiscoveryEnv K Client E}

/-- An update asks its store for nothing but a listing. -/
theorem balanced_update_congr {ε : Type} {store store' : DiscoveryBackendStore K σ ε}
    {state : BalancerState σ Client}
    (h : store.getAll (some state.service.lastEtag) state.store
      = store'.getAll (some state.service.lastEtag) state.store) :
    balanced store env state .update = balanced store' env state .update := by
  simp only [balanced, cachedDiscovery, providerBackends, h]

/-- An update whose listing fails is one whose provider fails. -/
theorem balanced_update_error {store store' : DiscoveryBackendStore K σ DiscoveryBackendStoreError}
    {state : BalancerState σ Client} {e : DiscoveryBackendStoreError}
    (h : store.getAll (some state.service.lastEtag) state.store = (.error e, state.store)) :
    balanced store env state .update
      = balanced store' env state (.discovery (.providerFailure
          { etype := .internalError
            context := "getting all discovery backends from discovery backend store"
            cause := e })) := by
  simp only [balanced, cachedDiscovery, providerBackends, h, Except.mapError, discover]

omit [Ord K] [DecidableEq K] in
/-- A listing over HTTP is the listing of the store, if all its content arrives. -/
theorem getAll_remote (client : HttpDiscoveryBackendStore K)
    (T : VersionedStore K σ DiscoveryBackendStoreError) {s : σ} (hwf : T.Wf s)
    (hcompact : CompactContent json T s) (requestedEtag : Option UInt64) :
    (remoteStore client json T.store).getAll requestedEtag s = T.store.getAll requestedEtag s := by
  have hdirect := T.getAll_eq s hwf requestedEtag
  obtain ⟨hstate, hanswer⟩ := getAll_delivered client json T.store requestedEtag s
  rw [hdirect] at hstate hanswer ⊢
  -- the listing succeeds, and all it lists fits into the response
  have hok := hanswer (by
    intro answer hok bs hbs
    rw [← Except.ok.inj hok] at hbs
    dsimp only at hbs
    split_ifs at hbs
    · cases hbs
    · rw [← Option.some.inj hbs]
      exact hcompact)
  rcases hremote : (remoteStore client json T.store).getAll requestedEtag s with ⟨result, s'⟩
  rw [hremote] at hstate hok
  cases result with
  | error e => cases hok
  | ok answer =>
      obtain rfl : s' = s := hstate
      rw [Option.some.inj hok]

/-- **One event**: what the balancer does is what one next to the store does. -/
theorem remoteBalanced_eq (client : HttpDiscoveryBackendStore K)
    (T : VersionedStore K σ DiscoveryBackendStoreError)
    (hkeys : Discovery.KeyPair jwt bearer signing verifying)
    (htoken : jwt.encode signing ((Claims.codec DiscoveryAudience.codec).encode
      { aud := .discovery, exp }) = some authorization)
    {state : BalancerState σ Client} (hwf : T.Wf state.store)
    (hcompact : CompactContent json T state.store) (event : RemoteEvent K) :
    remoteBalanced client [("authorization", "Bearer " ++ authorization)]
        (discoveryAuthLayer jwt bearer verifying) json T.store env state event
      = balanced T.store env state (event.nearby client exp.toNat) := by
  cases event with
  | mutate now m => rfl
  | healthCheck healthy => rfl
  | update checked =>
      have hlisting := getAll_authorized client json T.store hkeys htoken
        (some state.service.lastEtag) checked state.store
      unfold remoteBalanced RemoteEvent.nearby
      dsimp only
      by_cases htime : epochSeconds checked ≤ exp.toNat + leeway
      · rw [if_pos htime] at hlisting ⊢
        rw [getAll_remote client T hwf hcompact] at hlisting
        exact balanced_update_congr hlisting
      · rw [if_neg htime] at hlisting ⊢
        exact balanced_update_error hlisting

end Step

/-! ## §4. Whole runs. -/

section Runs

variable {K σ Client E S V : Type} [Ord K] [DecidableEq K] {jwt : JsonWebToken S V}
  {bearer : String → Option String} {signing : S} {verifying : V} {authorization : String}
  {json : JsonText} {env : DiscoveryEnv K Client E}

/-- A store with compact content, and what keeps it so. -/
structure Readable (json : JsonText) (T : VersionedStore K σ DiscoveryBackendStoreError)
    (state : BalancerState σ Client) : Prop where
  wf : T.Wf state.store
  compact : CompactContent json T state.store

omit [Ord K] [DecidableEq K] in
/-- An update is an update or a failed one. -/
theorem nearby_update (client : HttpDiscoveryBackendStore K) (exp : ℕ) (checked : DateTime) :
    (RemoteEvent.update checked).nearby client exp = .update
      ∨ ∃ error, (RemoteEvent.update checked).nearby client exp
          = .discovery (.providerFailure error) := by
  unfold RemoteEvent.nearby
  dsimp only
  split_ifs
  · exact .inl rfl
  · exact .inr ⟨_, rfl⟩

omit [Ord K] [DecidableEq K] in
theorem nearby_mutations (client : HttpDiscoveryBackendStore K) (exp : ℕ)
    (event : RemoteEvent K) : (event.nearby client exp).mutations = event.mutations := by
  cases event with
  | mutate now m => rfl
  | healthCheck healthy => rfl
  | update checked =>
      rcases nearby_update client exp checked with h | ⟨error, h⟩
      · rw [h]
        rfl
      · rw [h]
        rfl

/-- A mutation among the events of a balancer writes compact implementations. -/
def CompactEvent (json : JsonText) : BalancerEvent K DiscoveryBackendStoreError → Prop
  | .discovery (.mutate _ m) => CompactMutation json m
  | _ => True

omit [Ord K] [DecidableEq K] in
theorem compactEvent_nearby (client : HttpDiscoveryBackendStore K) (exp : ℕ)
    {event : RemoteEvent K} (h : event.Compact json) :
    CompactEvent json (event.nearby client exp) := by
  cases event with
  | mutate now m => exact h
  | healthCheck healthy => trivial
  | update checked =>
      rcases nearby_update client exp checked with h | ⟨error, h⟩
      · rw [h]
        trivial
      · rw [h]
        trivial

/-- No event but a mutation touches the store. -/
theorem Readable.step {T : VersionedStore K σ DiscoveryBackendStoreError}
    (hT : KeepsImplementations T) {state : BalancerState σ Client} (h : Readable json T state)
    {event : BalancerEvent K DiscoveryBackendStoreError}
    (hroom : (T.etag state.store).toNat + event.mutations < etagRoom)
    (hcompact : CompactEvent json event) :
    Readable json T (balanced T.store env state event).2 := by
  have hwf : T.Wf (balanced T.store env state event).2.store :=
    (balanced_etag_le h.wf event hroom).1
  refine ⟨hwf, ?_⟩
  cases event with
  | healthCheck healthy => exact h.compact
  | discovery event =>
      cases event with
      | mutate now m => exact h.compact.mutate hT h.wf hroom now hcompact
      | providerFailure error => exact h.compact
      | discover =>
          -- a listing leaves the store as it is, whatever it answers
          have hstore : (balanced T.store env state .update).2.store = state.store := by
            obtain ⟨s, service, lb⟩ := state
            by_cases hcurrent : service.lastEtag = T.etag s
            · rw [balanced_notModified h.wf hcurrent]
            · rw [balanced_modified h.wf hcurrent]
          rw [hstore]
          exact h.compact

/-- The store stays readable along a run. -/
theorem readable_run {T : VersionedStore K σ DiscoveryBackendStoreError}
    (hT : KeepsImplementations T) (hasHealthCheck : Bool)
    (events : List (BalancerEvent K DiscoveryBackendStoreError))
    (hroom : (events.map BalancerEvent.mutations).sum < etagRoom)
    (hcompact : ∀ event ∈ events, CompactEvent json event) :
    (balanced T.store env).Along (fun state _ => Readable json T state)
      (.start T hasHealthCheck) events := by
  have hbudget := (balanced T.store env).along_of_budget (fun state => T.Wf state.store)
    (fun state => (T.etag state.store).toNat) BalancerEvent.mutations etagRoom
    (fun state event hwf hfits => balanced_etag_le hwf event hfits)
    (.start T hasHealthCheck) events T.wf_new
    (by
      show (T.etag T.new).toNat + _ < etagRoom
      rwa [T.etag_new, UInt64.toNat_zero, Nat.zero_add])
  have hwrites := (balanced T.store env).along_of_forall (P := fun _ event =>
    CompactEvent json event) (.start T hasHealthCheck) events fun event hevent _ =>
      hcompact event hevent
  exact Machine.Along.of_invariant (Readable json T)
    (fun state event h hside => h.step hT hside.1 hside.2) (fun _ _ h _ => h)
    ⟨T.wf_new, CompactContent.new json T⟩ (hbudget.and hwrites)

/-- What a balancer keeps while its updates fail: its service, its set and its flags. -/
structure Frozen (env : DiscoveryEnv K Client E) (before after : BalancerState σ Client) : Prop where
  service : after.service = before.service
  backends : after.loadBalancer.backends = before.loadBalancer.backends
  enabled : ∀ id, after.loadBalancer.enabled env.hashBackend id
    = before.loadBalancer.enabled env.hashBackend id

omit [Ord K] [DecidableEq K] in
theorem Frozen.refl (state : BalancerState σ Client) : Frozen env state state :=
  ⟨rfl, rfl, fun _ => rfl⟩

/-- Nothing but an update changes what a balancer has. -/
theorem Frozen.step {T : VersionedStore K σ DiscoveryBackendStoreError}
    {before state : BalancerState σ Client} (h : Frozen env before state)
    {event : BalancerEvent K DiscoveryBackendStoreError} (hevent : event ≠ .update) :
    Frozen env before (balanced T.store env state event).2 := by
  cases event with
  | healthCheck healthy =>
      refine ⟨h.service, h.backends, fun id => ?_⟩
      show (state.loadBalancer.runHealthCheck healthy).enabled env.hashBackend id = _
      rw [LoadBalancer.runHealthCheck_enabled]
      exact h.enabled id
  | discovery event =>
      cases event with
      | mutate now m => exact ⟨h.service, h.backends, h.enabled⟩
      | providerFailure error => exact ⟨h.service, h.backends, h.enabled⟩
      | discover => exact absurd rfl hevent

omit [Ord K] [DecidableEq K] in
/-- A late update is no update. -/
theorem nearby_late (client : HttpDiscoveryBackendStore K) {exp : ℕ} {event : RemoteEvent K}
    (hlate : event.Late exp) : event.nearby client exp ≠ .update := by
  cases event with
  | mutate now m =>
      intro h
      cases h
  | healthCheck healthy =>
      intro h
      cases h
  | update checked =>
      have hchecked : ¬ epochSeconds checked ≤ exp + leeway := Nat.not_le.mpr hlate
      unfold RemoteEvent.nearby
      dsimp only
      rw [if_neg hchecked]
      intro h
      cases h

/-- What a balancer with a token does, over every run: until the leeway after the expiry what a
balancer next to the store does; and nothing from an update that is later than that on, as long
as no earlier one follows. -/
def FollowsUntilExpiry (client : HttpDiscoveryBackendStore K) (defaults : Headers)
    (auth : BearerTokenAuthLayer) (json : JsonText)
    (T : VersionedStore K σ DiscoveryBackendStoreError) (env : DiscoveryEnv K Client E)
    (exp : ℕ) : Prop :=
  ∀ (hasHealthCheck : Bool) (events : List (RemoteEvent K)),
    (events.map RemoteEvent.mutations).sum < 2 ^ 63 →
    (∀ event ∈ events, event.Compact json) →
    let remote := remoteBalanced client defaults auth json T.store env
    remote.run (.start T hasHealthCheck) events
        = (balanced T.store env).run (.start T hasHealthCheck)
            (events.map (RemoteEvent.nearby client exp))
      ∧ ∀ before after, events = before ++ after → (∀ event ∈ after, event.Late exp) →
          Frozen env (remote.run (.start T hasHealthCheck) before).2
            (remote.run (.start T hasHealthCheck) events).2

theorem followsUntilExpiry {T : VersionedStore K σ DiscoveryBackendStoreError}
    (hT : KeepsImplementations T) (client : HttpDiscoveryBackendStore K) (json : JsonText)
    (env : DiscoveryEnv K Client E) (hkeys : Discovery.KeyPair jwt bearer signing verifying)
    {exp : UInt64} (htoken : jwt.encode signing ((Claims.codec DiscoveryAudience.codec).encode
      { aud := .discovery, exp }) = some authorization) :
    FollowsUntilExpiry client [("authorization", "Bearer " ++ authorization)]
      (discoveryAuthLayer jwt bearer verifying) json T env exp.toNat := by
  intro hasHealthCheck events hroom hcompact remote
  have hmutations : (events.map (RemoteEvent.nearby client exp.toNat)).map BalancerEvent.mutations
      = events.map RemoteEvent.mutations := by
    rw [List.map_map]
    exact List.map_congr_left fun event _ => nearby_mutations client exp.toNat event
  have halong : (balanced T.store env).Along (fun state _ => Readable json T state)
      (.start T hasHealthCheck) (events.map (RemoteEvent.nearby client exp.toNat)) :=
    readable_run hT hasHealthCheck _ (by rw [hmutations]; exact hroom)
      (List.forall_mem_map.mpr fun event hevent =>
        compactEvent_nearby client exp.toNat (hcompact event hevent))
  have hrenamed := Machine.run_renamed (balanced T.store env) remote
    (RemoteEvent.nearby client exp.toNat) (fun state _ => Readable json T state)
    fun state event h => remoteBalanced_eq client T hkeys htoken h.wf h.compact event
  refine ⟨hrenamed _ events halong, ?_⟩
  rintro before after rfl hlate
  rw [List.map_append] at halong
  obtain ⟨hbefore, hafter⟩ := (Machine.along_append _ _ _ _ _).mp halong
  rw [Machine.run_append]
  rw [← hrenamed _ before hbefore] at hafter
  rw [hrenamed _ after hafter]
  -- none of the events that are left is an update
  have hquiet := (balanced T.store env).along_of_forall (P := fun _ event => event ≠ .update)
    (remote.run (.start T hasHealthCheck) before).2
    (after.map (RemoteEvent.nearby client exp.toNat))
    (List.forall_mem_map.mpr fun event hevent _ => nearby_late client (hlate event hevent))
  exact (balanced T.store env).run_invariant (Frozen env _) _
    (fun state event h hevent => h.step hevent) _ _ (Frozen.refl _) hquiet

end Runs

/-! ## §5. The two stores. -/

/-- **A balancer with a minted token follows the store until the token expires**: over every run
of mutations, updates and health checks it does what a balancer next to the store does, as long
as the service reads a clock up to a minute past the expiry when it checks an update; and through
updates that are all later it keeps its pool, its backends and their flags, whatever is done to
the store. -/
theorem remote_balancer_follows_until_expiry {K Client E S V : Type} [Ord K] [TransOrd K]
    [LawfulEqOrd K] [DecidableEq K] [ToString K] {jwt : JsonWebToken S V}
    {bearer : String → Option String} {signing : S} {verifying : V}
    (hkeys : Discovery.KeyPair jwt bearer signing verifying) {minted : DateTime} {expires : UInt64}
    (hclock : epochSeconds minted + expires.toNat < 2 ^ 64) {authorization : String}
    (hmint : mintDiscoveryToken jwt signing minted expires = some authorization)
    {keyText : PublicKeyText K} {displayStatus : StatusCode → String}
    {parseUrl : String → Except String Unit} {baseUrl : String}
    {client : HttpDiscoveryBackendStore K} {defaults : Headers}
    (hcreate : HttpDiscoveryBackendStore.create keyText displayStatus parseUrl baseUrl authorization
      = .ok (client, defaults)) (json : JsonText) (env : DiscoveryEnv K Client E) :
    let exp := epochSeconds minted + expires.toNat
    let auth := discoveryAuthLayer jwt bearer verifying
    FollowsUntilExpiry client defaults auth json VersionedStore.memory env exp
      ∧ ∀ eng : Engine,
          FollowsUntilExpiry client defaults auth json (VersionedStore.db eng) env exp := by
  intro exp auth
  have hexp : (tokenClaims DiscoveryAudience.discovery minted expires).exp.toNat = exp :=
    tokenClaims_exp DiscoveryAudience.discovery hclock
  obtain rfl := create_ok hcreate
  rw [← hexp]
  refine ⟨?_, fun eng => ?_⟩
  · exact followsUntilExpiry keepsImplementations_memory client json env hkeys hmint
  · exact followsUntilExpiry (keepsImplementations_db eng) client json env hkeys hmint

section Sample

theorem keyPair_plainTokens : Discovery.KeyPair plainTokens plainBearer () () :=
  signedKeys_plainTokens rfl

/-- An environment of the examples, where every node connects. -/
def sampleHexEnv : DiscoveryEnv Bool Unit Unit where
  partitions := {"a"}
  hashKey key := if key then 1 else 0
  hashBackend := BackendId.addr
  create _ := .ok ()

/-- A node is registered and found. -/
def sampleFound : List (RemoteEvent Bool) :=
  [.mutate 1 (.post (sampleCompactBackend true)), .update (1000 * second)]

/-- It is disabled, and the next update comes too late. -/
def sampleMissed : List (RemoteEvent Bool) :=
  [.mutate 2 (.patch (enablePatch false true)), .update (1121 * second)]

theorem sampleDiscoveryToken_minted :
    mintDiscoveryToken plainTokens () (1000 * second) 60 = some "discovery.1060" := by
  decide +kernel

theorem sampleDiscoveryToken_expiry :
    epochSeconds (1000 * second) + (60 : UInt64).toNat = 1060 := by decide +kernel

theorem sampleHexClient_created :
    HttpDiscoveryBackendStore.create sampleHexClient.keyText toString (fun _ => .ok ())
        "https://base.com/" "discovery.1060"
      = .ok (sampleHexClient, [("authorization", "Bearer discovery.1060")]) := by
  have hheader : headerValue ("Bearer " ++ "discovery.1060") = .ok "Bearer discovery.1060" := by
    decide +kernel
  have hbase : String.ofList ("https://base.com/".toList.rdropWhile fun c => c == '/')
      = "https://base.com" := by decide +kernel
  unfold HttpDiscoveryBackendStore.create
  rw [hheader, hbase]
  rfl

theorem sample_compact : ∀ event ∈ sampleFound ++ sampleMissed, event.Compact sampleJsonText := by
  have hbackend : CompactBackend sampleJsonText (sampleCompactBackend true) := by
    refine ⟨sampleImplementation, ?_, rfl⟩
    unfold sampleJsonText sampleCompactBackend
    dsimp only
    exact if_pos rfl
  have hpost : CompactMutation sampleJsonText (.post (sampleCompactBackend true)) := by
    intro b hb
    rw [← Option.some.inj hb]
    exact hbackend
  have hpatch : CompactMutation sampleJsonText (.patch (enablePatch false true)) := by
    intro b hb
    cases hb
  unfold sampleFound sampleMissed
  simp only [List.cons_append, List.nil_append, List.forall_mem_cons, List.not_mem_nil,
    false_implies, implies_true, and_true]
  exact ⟨hpost, trivial, hpatch, trivial⟩

/-- The balancer does not learn that a node is disabled after its token has expired. -/
theorem remote_balancer_follows_until_expiry_disabled :
    let remote := remoteBalanced sampleHexClient [("authorization", "Bearer discovery.1060")]
      (discoveryAuthLayer plainTokens plainBearer ()) sampleJsonText
      (VersionedStore.memory (K := Bool)).store sampleHexEnv
    let found := (remote.run (.start VersionedStore.memory true) sampleFound).2
    let missed := (remote.run (.start VersionedStore.memory true) (sampleFound ++ sampleMissed)).2
    Frozen sampleHexEnv found missed
      ∧ (VersionedStore.memory.lookup missed.store true).map (·.backend.enabled) = some false
      ∧ missed.loadBalancer.enabled BackendId.addr { addr := 1, weight := 1 } = some true := by
  intro remote found missed
  have hfollows := (remote_balancer_follows_until_expiry keyPair_plainTokens
    (by rw [sampleDiscoveryToken_expiry]; decide) sampleDiscoveryToken_minted
    sampleHexClient_created sampleJsonText sampleHexEnv).1
  rw [sampleDiscoveryToken_expiry] at hfollows
  have hlate : ∀ event ∈ sampleMissed, event.Late 1060 := by
    unfold sampleMissed
    simp only [List.forall_mem_cons, List.not_mem_nil, false_implies, implies_true, and_true]
    refine ⟨trivial, ?_⟩
    show 1060 + leeway < epochSeconds (1121 * second)
    decide +kernel
  obtain ⟨hrun, hfrozen⟩ :=
    hfollows true (sampleFound ++ sampleMissed) (by decide) sample_compact
  have hmissed : missed = ((balanced VersionedStore.memory.store sampleHexEnv).run
      (.start VersionedStore.memory true) ((sampleFound ++ sampleMissed).map
        (RemoteEvent.nearby sampleHexClient 1060))).2 := congrArg Prod.snd hrun
  refine ⟨hfrozen sampleFound sampleMissed rfl hlate, ?_, ?_⟩
  · rw [hmissed]
    decide +kernel
  · rw [hmissed]
    decide +kernel

end Sample

end Switchgear.Pingora
