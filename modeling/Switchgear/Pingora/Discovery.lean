/-
  Switchgear.Pingora.Discovery — `LnServiceDiscovery`: the etag and the set of
  the last reload, and the loop that builds a set from store records.

  `DiscoveryEnv` holds what the loop calls out to: the two `DefaultHasher`
  runs and the pool's client constructor.  The loop itself (`visit`, folded
  by `reload`) fills the pool, the enablement map and the backend set at once;
  `Built` says what all three hold of the records visited so far.
-/
import Switchgear.ServiceApi.Discovery
import Switchgear.Pool.ClientPool
import Switchgear.Pingora.Backend

namespace Switchgear.Pingora

open Switchgear.Discovery
open Switchgear.Pool
open Std (ExtTreeMap TransOrd LawfulEqOrd)

/-! ## §1. The state and `discover`. -/

/-- The served partitions, the two hashes and the client constructor. -/
structure DiscoveryEnv (K Client E : Type) where
  partitions : Finset String
  /-- The hash of `public_key.serialize()`. -/
  hashKey : K → UInt64
  /-- The hash of a `Backend`. -/
  hashBackend : BackendId → UInt64
  /-- How the pool makes a client, or fails to. -/
  create : DiscoveryBackend K → Except E Client

/-- `HashMap<u64, bool>`: the enabled flag under the hash of a `Backend`. -/
abbrev Enablement := ExtTreeMap UInt64 Bool

structure LnServiceDiscovery (Client : Type) where
  pool : LnClientPool BackendId Client
  pingoraBackendCache : BackendSet
  lastEtag : UInt64

def LnServiceDiscovery.new {Client : Type} : LnServiceDiscovery Client where
  pool := LnClientPool.new
  pingoraBackendCache := ∅
  lastEtag := 0

/-- What the reload loop accumulates. -/
structure Reload (Client : Type) where
  pool : LnClientPool BackendId Client
  enablement : Enablement
  pingoraBackends : BackendSet

section Loop

variable {K Client E : Type}

/-- The `Backend` of a record. -/
def DiscoveryEnv.pingoraBackend (env : DiscoveryEnv K Client E) (b : DiscoveryBackend K) :
    Backend where
  id := { addr := env.hashKey b.publicKey, weight := b.backend.weight }
  ext := some { partitions := b.backend.partitions }

/-- The body of the loop: skip a record of other partitions, skip one whose
connect fails, else record it in all three. -/
def visit (env : DiscoveryEnv K Client E) (acc : Reload Client) (b : DiscoveryBackend K) :
    Reload Client :=
  if Disjoint b.backend.partitions env.partitions then acc
  else
    let backend := env.pingoraBackend b
    match acc.pool.connect env.create backend.id b with
    -- only logged: the record is left out until the store changes
    | (.error _, pool) => { acc with pool }
    | (.ok (), pool) =>
        { pool
          enablement := acc.enablement.insert (env.hashBackend backend.id) b.backend.enabled
          pingoraBackends := acc.pingoraBackends.insertBackend backend }

variable [Ord K] [DecidableEq K]

/-- `BTreeSet::from_iter`. -/
def btreeSet (backends : List (DiscoveryBackend K)) : List (DiscoveryBackend K) :=
  (backends.insertionSort fun a b => (compare a b).isLE = true).dedup

/-- The loop over the records of an answer. -/
def reload (env : DiscoveryEnv K Client E) (backends : List (DiscoveryBackend K))
    (pool : LnClientPool BackendId Client) : Reload Client :=
  (btreeSet backends).foldl (visit env) { pool, enablement := ∅, pingoraBackends := ∅ }

/-- The set an uncached reload of these records builds. -/
def eligible (env : DiscoveryEnv K Client E) (backends : List (DiscoveryBackend K)) :
    BackendSet :=
  (reload env backends LnClientPool.new).pingoraBackends

/-- `discover`, given what the provider answered to `last_etag`. -/
def discover {ε : Type} (env : DiscoveryEnv K Client E)
    (answer : Except ε (DiscoveryBackends K)) (self : LnServiceDiscovery Client) :
    Except ε (BackendSet × Enablement) × LnServiceDiscovery Client :=
  match answer with
  | .error e => (.error e, self)
  -- not modified: the cached set again, with no flags to apply
  | .ok { etag := _, backends := none } => (.ok (self.pingoraBackendCache, ∅), self)
  | .ok { etag, backends := some backends } =>
      -- the pool is shared by all reloads: a client stays after its record is gone
      let loaded := reload env backends self.pool
      (.ok (loaded.pingoraBackends, loaded.enablement),
        { pool := loaded.pool
          pingoraBackendCache := loaded.pingoraBackends
          lastEtag := etag })

end Loop

/-- An environment of the examples of later files: numbers as keys and as their own hashes, and a
client that is the record it was made from. -/
def sampleEnv : DiscoveryEnv Nat (DiscoveryBackend Nat) Unit where
  partitions := {"a"}
  hashKey := UInt64.ofNat
  hashBackend := BackendId.addr
  create := .ok

/-! ## §2. One record. -/

section Visit

variable {K Client E : Type} (env : DiscoveryEnv K Client E)

/-- The record is served and its client can be made: the client. -/
def DiscoveryEnv.admits (b : DiscoveryBackend K) : Option Client :=
  if Disjoint b.backend.partitions env.partitions then none else (env.create b).toOption

variable {env}

theorem DiscoveryEnv.admits_eq_some_iff {b : DiscoveryBackend K} {client : Client} :
    env.admits b = some client
      ↔ ¬ Disjoint b.backend.partitions env.partitions ∧ env.create b = .ok client := by
  unfold admits
  by_cases hdisjoint : Disjoint b.backend.partitions env.partitions
  · rw [if_pos hdisjoint]
    exact ⟨fun h => (by cases h), fun h => absurd hdisjoint h.1⟩
  · rw [if_neg hdisjoint]
    cases hcreate : env.create b with
    | error e => simp [Except.toOption]
    | ok client' => simp [Except.toOption, hdisjoint]

theorem visit_skipped {b : DiscoveryBackend K} (h : env.admits b = none) (acc : Reload Client) :
    visit env acc b = acc := by
  unfold visit
  unfold DiscoveryEnv.admits at h
  by_cases hdisjoint : Disjoint b.backend.partitions env.partitions
  · rw [if_pos hdisjoint]
  · rw [if_neg hdisjoint] at h ⊢
    unfold LnClientPool.connect
    cases hcreate : env.create b with
    | error e => rfl
    | ok client =>
        rw [hcreate] at h
        cases h

theorem visit_admitted {b : DiscoveryBackend K} {client : Client} (h : env.admits b = some client)
    (acc : Reload Client) :
    visit env acc b =
      { pool := { acc.pool with pool := acc.pool.pool.insert (env.pingoraBackend b).id client }
        enablement :=
          acc.enablement.insert (env.hashBackend (env.pingoraBackend b).id) b.backend.enabled
        pingoraBackends := acc.pingoraBackends.insertBackend (env.pingoraBackend b) } := by
  unfold visit
  unfold DiscoveryEnv.admits at h
  by_cases hdisjoint : Disjoint b.backend.partitions env.partitions
  · rw [if_pos hdisjoint] at h
    cases h
  · rw [if_neg hdisjoint] at h ⊢
    unfold LnClientPool.connect
    cases hcreate : env.create b with
    | error e =>
        rw [hcreate] at h
        cases h
    | ok client' =>
        rw [hcreate] at h
        cases h
        rfl

/-- The set and the flags do not depend on what the pool held. -/
theorem visit_congr {acc acc' : Reload Client}
    (henablement : acc.enablement = acc'.enablement)
    (hbackends : acc.pingoraBackends = acc'.pingoraBackends) (b : DiscoveryBackend K) :
    (visit env acc b).enablement = (visit env acc' b).enablement
      ∧ (visit env acc b).pingoraBackends = (visit env acc' b).pingoraBackends := by
  cases hadmits : env.admits b with
  | none =>
      rw [visit_skipped hadmits, visit_skipped hadmits]
      exact ⟨henablement, hbackends⟩
  | some client =>
      rw [visit_admitted hadmits, visit_admitted hadmits]
      exact ⟨by rw [henablement], by rw [hbackends]⟩

theorem foldl_visit_congr (bs : List (DiscoveryBackend K)) (acc acc' : Reload Client)
    (henablement : acc.enablement = acc'.enablement)
    (hbackends : acc.pingoraBackends = acc'.pingoraBackends) :
    (bs.foldl (visit env) acc).enablement = (bs.foldl (visit env) acc').enablement
      ∧ (bs.foldl (visit env) acc).pingoraBackends
          = (bs.foldl (visit env) acc').pingoraBackends := by
  induction bs generalizing acc acc' with
  | nil => exact ⟨henablement, hbackends⟩
  | cons b bs ih =>
      obtain ⟨henablement', hbackends'⟩ := visit_congr henablement hbackends b
      exact ih _ _ henablement' hbackends'

/-- Every reload of the same records builds the same set. -/
theorem reload_pingoraBackends [Ord K] [DecidableEq K] (bs : List (DiscoveryBackend K))
    (pool : LnClientPool BackendId Client) :
    (reload env bs pool).pingoraBackends = eligible env bs :=
  (foldl_visit_congr (btreeSet bs) { pool, enablement := ∅, pingoraBackends := ∅ }
    { pool := LnClientPool.new, enablement := ∅, pingoraBackends := ∅ } rfl rfl).2

end Visit

/-! ## §3. The whole loop. -/

section Built

variable {K Client E : Type}

/-- Distinct records among these have distinct `Backend`s, and distinct
`Backend`s distinct hashes. -/
structure HashesInjective (env : DiscoveryEnv K Client E) (bs : List (DiscoveryBackend K)) :
    Prop where
  key : ∀ a ∈ bs, ∀ b ∈ bs, env.hashKey a.publicKey = env.hashKey b.publicKey →
    a.publicKey = b.publicKey
  backend : ∀ a ∈ bs, ∀ b ∈ bs,
    env.hashBackend (env.pingoraBackend a).id = env.hashBackend (env.pingoraBackend b).id →
    (env.pingoraBackend a).id = (env.pingoraBackend b).id

/-- One record per key, and no two of them collide. -/
theorem HashesInjective.eq_of_id {env : DiscoveryEnv K Client E} {bs : List (DiscoveryBackend K)}
    (h : HashesInjective env bs) (hnodup : (bs.map (·.publicKey)).Nodup)
    {a b : DiscoveryBackend K} (ha : a ∈ bs) (hb : b ∈ bs)
    (hid : (env.pingoraBackend a).id = (env.pingoraBackend b).id) : a = b := by
  have haddr : env.hashKey a.publicKey = env.hashKey b.publicKey :=
    congrArg BackendId.addr hid
  exact List.inj_on_of_nodup_map hnodup ha hb (h.key a ha b hb haddr)

/-- What the accumulator holds of the records visited so far. -/
structure Built (env : DiscoveryEnv K Client E) (seen : List (DiscoveryBackend K))
    (acc : Reload Client) : Prop where
  backends : ∀ (id : BackendId) (ext : Option PingoraLnBackendExtension),
    acc.pingoraBackends[id]? = some ext ↔
      ∃ b ∈ seen, (env.admits b).isSome = true ∧ env.pingoraBackend b = { id, ext }
  enablement : ∀ (hash : UInt64) (enabled : Bool),
    acc.enablement[hash]? = some enabled ↔
      ∃ b ∈ seen, (env.admits b).isSome = true
        ∧ env.hashBackend (env.pingoraBackend b).id = hash ∧ b.backend.enabled = enabled
  pool : ∀ b ∈ seen, ∀ client, env.admits b = some client →
    acc.pool.pool[(env.pingoraBackend b).id]? = some client

variable {env : DiscoveryEnv K Client E}

theorem Built.start (pool : LnClientPool BackendId Client) :
    Built env ([] : List (DiscoveryBackend K))
      { pool, enablement := ∅, pingoraBackends := ∅ } where
  backends := by
    intro id ext
    simp
  enablement := by
    intro hash enabled
    simp
  pool := by
    intro b hb
    cases hb

/-- A record that is not admitted leaves the accumulator as it is. -/
theorem Built.skip {seen : List (DiscoveryBackend K)} {acc : Reload Client}
    (h : Built env seen acc) {b : DiscoveryBackend K} (hadmits : env.admits b = none) :
    Built env (seen ++ [b]) acc where
  backends := by
    intro id ext
    rw [h.backends]
    simp [hadmits]
  enablement := by
    intro hash enabled
    rw [h.enablement]
    simp [hadmits]
  pool := by
    intro a ha client hclient
    rcases List.mem_append.mp ha with ha | ha
    · exact h.pool a ha client hclient
    · rw [List.mem_singleton.mp ha, hadmits] at hclient
      cases hclient

/-- One more admitted record: the set of backends. -/
theorem Built.insert_backends {seen : List (DiscoveryBackend K)} {acc : Reload Client}
    (h : Built env seen acc) {b : DiscoveryBackend K} (hadmits : (env.admits b).isSome = true)
    (hid : ∀ a ∈ seen, (env.pingoraBackend a).id = (env.pingoraBackend b).id → a = b)
    (id : BackendId) (ext : Option PingoraLnBackendExtension) :
    (acc.pingoraBackends.insertBackend (env.pingoraBackend b))[id]? = some ext ↔
      ∃ a ∈ seen ++ [b], (env.admits a).isSome = true ∧ env.pingoraBackend a = { id, ext } := by
  rw [BackendSet.getElem?_insertBackend]
  by_cases hnew : (env.pingoraBackend b).id = id ∧ acc.pingoraBackends[id]? = none
  · -- the identity is free, so no earlier record has it
    rw [if_pos hnew]
    obtain ⟨rfl, hfree⟩ := hnew
    constructor
    · intro hext
      refine ⟨b, by simp, hadmits, ?_⟩
      rw [← Option.some.inj hext]
    · rintro ⟨a, ha, hadmitted, hbackend⟩
      rcases List.mem_append.mp ha with ha | ha
      · have hfound := (h.backends _ ext).mpr ⟨a, ha, hadmitted, hbackend⟩
        rw [hfree] at hfound
        cases hfound
      · rw [List.mem_singleton.mp ha] at hbackend
        rw [hbackend]
  · -- the identity is another one, or was taken by the same record
    rw [if_neg hnew, h.backends]
    constructor
    · rintro ⟨a, ha, hrest⟩
      exact ⟨a, List.mem_append_left _ ha, hrest⟩
    · rintro ⟨a, ha, hadmitted, hbackend⟩
      rcases List.mem_append.mp ha with ha | ha
      · exact ⟨a, ha, hadmitted, hbackend⟩
      · rw [List.mem_singleton.mp ha] at hbackend
        have hsame : (env.pingoraBackend b).id = id := by rw [hbackend]
        obtain ⟨ext', hext'⟩ :=
          Option.ne_none_iff_exists'.mp fun hfree => hnew ⟨hsame, hfree⟩
        obtain ⟨a', ha', hadmitted', hbackend'⟩ := (h.backends id ext').mp hext'
        have heq : a' = b := hid a' ha' (by rw [hbackend', hsame])
        exact ⟨a', ha', hadmitted', by rw [heq, hbackend]⟩

/-- One more admitted record: the map of enablement. -/
theorem Built.insert_enablement {seen : List (DiscoveryBackend K)} {acc : Reload Client}
    (h : Built env seen acc) {b : DiscoveryBackend K} (hadmits : (env.admits b).isSome = true)
    (hhash : ∀ a ∈ seen, env.hashBackend (env.pingoraBackend a).id
      = env.hashBackend (env.pingoraBackend b).id → a = b) (hash : UInt64) (enabled : Bool) :
    (acc.enablement.insert (env.hashBackend (env.pingoraBackend b).id) b.backend.enabled)[hash]?
        = some enabled ↔
      ∃ a ∈ seen ++ [b], (env.admits a).isSome = true
        ∧ env.hashBackend (env.pingoraBackend a).id = hash ∧ a.backend.enabled = enabled := by
  rw [ExtTreeMap.getElem?_insert]
  by_cases hk : compare (env.hashBackend (env.pingoraBackend b).id) hash = .eq
  · rw [if_pos hk]
    have hsame := LawfulEqOrd.eq_of_compare hk
    constructor
    · intro henabled
      exact ⟨b, by simp, hadmits, hsame, Option.some.inj henabled⟩
    · rintro ⟨a, ha, -, hhash', henabled⟩
      rcases List.mem_append.mp ha with ha | ha
      · rw [← henabled, hhash a ha (hhash'.trans hsame.symm)]
      · rw [← henabled, List.mem_singleton.mp ha]
  · rw [if_neg hk, h.enablement]
    constructor
    · rintro ⟨a, ha, hrest⟩
      exact ⟨a, List.mem_append_left _ ha, hrest⟩
    · rintro ⟨a, ha, hadmitted, hhash', henabled⟩
      rcases List.mem_append.mp ha with ha | ha
      · exact ⟨a, ha, hadmitted, hhash', henabled⟩
      · rw [List.mem_singleton.mp ha] at hhash'
        exact absurd (hhash' ▸ Std.ReflCmp.compare_self) hk

/-- One more admitted record: the pool of clients. -/
theorem Built.insert_pool {seen : List (DiscoveryBackend K)} {acc : Reload Client}
    (h : Built env seen acc) {b : DiscoveryBackend K} {client : Client}
    (hadmits : env.admits b = some client)
    (hid : ∀ a ∈ seen, (env.pingoraBackend a).id = (env.pingoraBackend b).id → a = b)
    {a : DiscoveryBackend K} (ha : a ∈ seen ++ [b]) {client' : Client}
    (hclient : env.admits a = some client') :
    (acc.pool.pool.insert (env.pingoraBackend b).id client)[(env.pingoraBackend a).id]?
      = some client' := by
  rw [ExtTreeMap.getElem?_insert]
  by_cases hk : compare (env.pingoraBackend b).id (env.pingoraBackend a).id = .eq
  · rw [if_pos hk]
    have hsame : a = b := by
      rcases List.mem_append.mp ha with ha | ha
      · exact hid a ha (LawfulEqOrd.eq_of_compare hk).symm
      · exact List.mem_singleton.mp ha
    rw [← hclient, ← hadmits, hsame]
  · rw [if_neg hk]
    rcases List.mem_append.mp ha with ha | ha
    · exact h.pool a ha client' hclient
    · rw [List.mem_singleton.mp ha] at hk
      exact absurd Std.ReflCmp.compare_self hk

/-- One more record, whose hash tells it from the records before. -/
theorem Built.visit {seen : List (DiscoveryBackend K)} {acc : Reload Client}
    (h : Built env seen acc) (b : DiscoveryBackend K)
    (hhash : ∀ a ∈ seen, env.hashBackend (env.pingoraBackend a).id
      = env.hashBackend (env.pingoraBackend b).id → a = b) :
    Built env (seen ++ [b]) (visit env acc b) := by
  have hid : ∀ a ∈ seen, (env.pingoraBackend a).id = (env.pingoraBackend b).id → a = b :=
    fun a ha heq => hhash a ha (congrArg env.hashBackend heq)
  cases hadmits : env.admits b with
  | none =>
      rw [visit_skipped hadmits]
      exact h.skip hadmits
  | some client =>
      have hadmitted : (env.admits b).isSome = true := by rw [hadmits]; rfl
      rw [visit_admitted hadmits]
      exact
        { backends := h.insert_backends hadmitted hid
          enablement := h.insert_enablement hadmitted hhash
          pool := fun a ha client' hclient => h.insert_pool hadmits hid ha hclient }

theorem Built.foldl (bs : List (DiscoveryBackend K)) {seen : List (DiscoveryBackend K)}
    {acc : Reload Client} (h : Built env seen acc)
    (hhash : ∀ a ∈ seen ++ bs, ∀ b ∈ seen ++ bs, env.hashBackend (env.pingoraBackend a).id
      = env.hashBackend (env.pingoraBackend b).id → a = b) :
    Built env (seen ++ bs) (bs.foldl (Pingora.visit env) acc) := by
  induction bs generalizing seen acc with
  | nil =>
      rw [List.append_nil]
      exact h
  | cons b bs ih =>
      have hstep := h.visit b fun a ha heq =>
        hhash a (List.mem_append_left _ ha) b (by simp) heq
      have hsplit : seen ++ b :: bs = seen ++ [b] ++ bs := by simp
      rw [hsplit] at hhash ⊢
      exact ih hstep hhash

variable [Ord K] [DecidableEq K]

theorem mem_btreeSet (bs : List (DiscoveryBackend K)) (b : DiscoveryBackend K) :
    b ∈ btreeSet bs ↔ b ∈ bs := by
  unfold btreeSet
  rw [List.mem_dedup, List.mem_insertionSort]

omit [Ord K] [DecidableEq K] in
theorem Built.congr {seen seen' : List (DiscoveryBackend K)} {acc : Reload Client}
    (h : Built env seen acc) (hmem : ∀ b, b ∈ seen ↔ b ∈ seen') : Built env seen' acc where
  backends := by
    intro id ext
    rw [h.backends]
    simp only [hmem]
  enablement := by
    intro hash enabled
    rw [h.enablement]
    simp only [hmem]
  pool := fun b hb => h.pool b ((hmem b).mpr hb)

/-- **What a reload builds** from records whose hashes do not collide. -/
theorem built_reload {bs : List (DiscoveryBackend K)} (hnodup : (bs.map (·.publicKey)).Nodup)
    (hinjective : HashesInjective env bs) (pool : LnClientPool BackendId Client) :
    Built env bs (reload env bs pool) := by
  have hmem := mem_btreeSet bs
  have hbuilt : Built env ([] ++ btreeSet bs) (reload env bs pool) := by
    refine (Built.start pool).foldl (btreeSet bs) ?_
    intro a ha b hb hhash
    have ha' : a ∈ bs := (hmem a).mp ha
    have hb' : b ∈ bs := (hmem b).mp hb
    exact hinjective.eq_of_id hnodup ha' hb' (hinjective.backend a ha' b hb' hhash)
  exact hbuilt.congr fun b => hmem b

end Built

end Switchgear.Pingora
