/-
  Switchgear.Pingora.LoadBalancer — the part of `pingora-load-balancing` that
  the balancer runs on: health by `Backend` hash, `update` and `select_with`.

  An update replaces the backend set only when the new one differs under
  `Backend` equality, that is, in the addresses and weights it holds; else it
  applies the enablement map alone.  The selector is rebuilt from a set when
  the set is stored, so selection visits elements of the stored set; in which
  order, and how many, is a parameter (`BackendSelection`).
-/
import Switchgear.Pingora.Discovery

namespace Switchgear.Pingora

open Std (ExtTreeMap TransOrd LawfulEqOrd)

/-! ## §1. Health. -/

structure Health where
  healthy : Bool
  enabled : Bool
  deriving DecidableEq

/-- `Health::default`: a new backend is healthy and enabled. -/
def Health.default : Health := { healthy := true, enabled := true }

def Health.ready (health : Health) : Bool := health.healthy && health.enabled

/-- `enable`, when the map has a flag for the backend. -/
def Health.override (flag : Option Bool) (health : Health) : Health :=
  { health with enabled := flag.getD health.enabled }

@[simp] theorem Health.override_some (flag : Bool) (health : Health) :
    (health.override (some flag)).enabled = flag := rfl

@[simp] theorem Health.override_none (health : Health) : health.override none = health := rfl

/-! ## §2. The balancer. -/

/-- `LoadBalancer` with its `Backends`. -/
structure LoadBalancer where
  backends : BackendSet
  health : ExtTreeMap UInt64 Health
  hasHealthCheck : Bool

/-- Which elements of the set a selection visits, in order; at most `max_iterations`
of them. -/
structure BackendSelection where
  visit : BackendSet → (key : Bytes) → (maxIterations : ℕ) → List Backend
  visit_mem : ∀ backends key n, ∀ b ∈ visit backends key n, backends[b.id]? = some b.ext
  visit_length : ∀ backends key n, (visit backends key n).length ≤ n

/-- The selector that visits the set in its order. -/
def BackendSelection.inOrder : BackendSelection where
  visit backends _ maxIterations :=
    (backends.toList.take maxIterations).map fun entry => { id := entry.1, ext := entry.2 }
  visit_mem := by
    intro backends key n b hb
    obtain ⟨entry, hentry, rfl⟩ := List.mem_map.mp hb
    exact ExtTreeMap.mem_toList_iff_getElem?_eq_some.mp (List.mem_of_mem_take hentry)
  visit_length := by
    intro backends key n
    rw [List.length_map]
    exact List.length_take_le n _

namespace LoadBalancer

def new (hasHealthCheck : Bool) : LoadBalancer where
  backends := ∅
  health := ∅
  hasHealthCheck := hasHealthCheck

/-- The health map of a new set: what was known of a backend, or the default, with
the enablement of the update. -/
def rebuildHealth (hashBackend : BackendId → UInt64) (ids : List BackendId)
    (enablement : Enablement) (oldHealth : ExtTreeMap UInt64 Health) :
    ExtTreeMap UInt64 Health :=
  ids.foldl (fun health id =>
    let hashKey := hashBackend id
    health.insert hashKey
      ((oldHealth[hashKey]?.getD Health.default).override enablement[hashKey]?)) ∅

/-- `Backends::do_update`. -/
def doUpdate (hashBackend : BackendId → UInt64) (newBackends : BackendSet)
    (enablement : Enablement) (self : LoadBalancer) : LoadBalancer :=
  -- the sets are compared by keys and weights, so a change of extensions alone is not a change
  if self.backends.keys ≠ newBackends.keys then
    { self with
      backends := newBackends
      health := rebuildHealth hashBackend newBackends.keys enablement self.health }
  else
    { self with
      health := self.health.map fun hashKey health => health.override enablement[hashKey]? }

/-- `Backends::ready`. -/
def ready (hashBackend : BackendId → UInt64) (backend : Backend) (self : LoadBalancer) : Bool :=
  (self.health[hashBackend backend.id]?.map Health.ready).getD (!self.hasHealthCheck)

/-- A health check of every backend. -/
def runHealthCheck (healthy : UInt64 → Bool) (self : LoadBalancer) : LoadBalancer :=
  { self with health := self.health.map fun hashKey health =>
      { health with healthy := healthy hashKey } }

/-- `select_with`: the first visited backend that is accepted. -/
def selectWith (hashBackend : BackendId → UInt64) (selection : BackendSelection) (key : Bytes)
    (maxIterations : ℕ) (accept : Backend → Bool → Bool) (self : LoadBalancer) :
    Option Backend :=
  (selection.visit self.backends key maxIterations).find? fun backend =>
    accept backend (self.ready hashBackend backend)

/-! ## §3. What an update does. -/

variable {hashBackend : BackendId → UInt64} {lb : LoadBalancer} {newBackends : BackendSet}
  {enablement : Enablement}

theorem getElem?_rebuildHealth (ids : List BackendId) (oldHealth : ExtTreeMap UInt64 Health)
    {id : BackendId} (hid : id ∈ ids) :
    (rebuildHealth hashBackend ids enablement oldHealth)[hashBackend id]?
      = some ((oldHealth[hashBackend id]?.getD Health.default).override
          enablement[hashBackend id]?) := by
  -- what an insert stores depends on the hash alone, so a later collision is harmless
  suffices h : ∀ (acc : ExtTreeMap UInt64 Health),
      (id ∈ ids ∨ acc[hashBackend id]?
        = some ((oldHealth[hashBackend id]?.getD Health.default).override
            enablement[hashBackend id]?)) →
      (ids.foldl (fun health id =>
        health.insert (hashBackend id)
          ((oldHealth[hashBackend id]?.getD Health.default).override
            enablement[hashBackend id]?)) acc)[hashBackend id]?
        = some ((oldHealth[hashBackend id]?.getD Health.default).override
            enablement[hashBackend id]?) from h ∅ (.inl hid)
  clear hid
  induction ids with
  | nil =>
      rintro acc (h | h)
      · cases h
      · exact h
  | cons id' ids ih =>
      intro acc h
      apply ih
      rcases h with h | h
      · rcases List.mem_cons.mp h with rfl | h
        · right
          rw [ExtTreeMap.getElem?_insert_self]
        · exact .inl h
      · right
        rw [ExtTreeMap.getElem?_insert]
        by_cases hk : compare (hashBackend id') (hashBackend id) = .eq
        · rw [if_pos hk, LawfulEqOrd.eq_of_compare hk]
        · rw [if_neg hk]
          exact h

theorem doUpdate_changed (h : lb.backends.keys ≠ newBackends.keys) :
    lb.doUpdate hashBackend newBackends enablement
      = { lb with
          backends := newBackends
          health := rebuildHealth hashBackend newBackends.keys enablement lb.health } :=
  if_pos h

theorem doUpdate_same (h : lb.backends.keys = newBackends.keys) :
    lb.doUpdate hashBackend newBackends enablement
      = { lb with
          health := lb.health.map fun hashKey health => health.override enablement[hashKey]? } :=
  if_neg (not_not_intro h)

/-- After an update the balancer holds the keys and weights of the new set. -/
theorem doUpdate_keys :
    (lb.doUpdate hashBackend newBackends enablement).backends.keys = newBackends.keys := by
  by_cases h : lb.backends.keys = newBackends.keys
  · rw [doUpdate_same h]
    exact h
  · rw [doUpdate_changed h]

/-- Every backend of the set has a health entry. -/
def Populated (hashBackend : BackendId → UInt64) (self : LoadBalancer) : Prop :=
  ∀ id ∈ self.backends.keys, (self.health[hashBackend id]?).isSome = true

theorem populated_new (hasHealthCheck : Bool) : (new hasHealthCheck).Populated hashBackend := by
  intro id hid
  simp [new] at hid

theorem Populated.doUpdate (hpop : lb.Populated hashBackend) :
    (lb.doUpdate hashBackend newBackends enablement).Populated hashBackend := by
  intro id hid
  by_cases h : lb.backends.keys = newBackends.keys
  · rw [doUpdate_same h] at hid ⊢
    rw [ExtTreeMap.getElem?_map, Option.isSome_map]
    exact hpop id hid
  · rw [doUpdate_changed h] at hid ⊢
    rw [getElem?_rebuildHealth _ _ hid]
    rfl

theorem Populated.runHealthCheck (hpop : lb.Populated hashBackend) (healthy : UInt64 → Bool) :
    (lb.runHealthCheck healthy).Populated hashBackend := by
  intro id hid
  show ((lb.health.map _)[hashBackend id]?).isSome = true
  rw [ExtTreeMap.getElem?_map, Option.isSome_map]
  exact hpop id hid

/-- The enabled flag of a backend. -/
def enabled (hashBackend : BackendId → UInt64) (id : BackendId) (self : LoadBalancer) :
    Option Bool :=
  self.health[hashBackend id]?.map Health.enabled

/-- The flag an update carries for a backend of the new set is set. -/
theorem doUpdate_enabled (hpop : lb.Populated hashBackend) {id : BackendId}
    (hid : id ∈ newBackends.keys) {flag : Bool} (hflag : enablement[hashBackend id]? = some flag) :
    (lb.doUpdate hashBackend newBackends enablement).enabled hashBackend id = some flag := by
  unfold enabled
  by_cases h : lb.backends.keys = newBackends.keys
  · obtain ⟨health, hhealth⟩ := Option.isSome_iff_exists.mp (hpop id (h ▸ hid))
    rw [doUpdate_same h]
    simp only [ExtTreeMap.getElem?_map, hhealth, hflag, Option.map_some, Health.override_some]
  · rw [doUpdate_changed h]
    simp only [getElem?_rebuildHealth _ _ hid, hflag, Option.map_some, Health.override_some]

/-- An update without flags and with the same keys and weights changes no flag. -/
theorem doUpdate_enabled_same (h : lb.backends.keys = newBackends.keys) (id : BackendId) :
    (lb.doUpdate hashBackend newBackends ∅).enabled hashBackend id = lb.enabled hashBackend id := by
  unfold enabled
  rw [doUpdate_same h]
  simp only [ExtTreeMap.getElem?_map, ExtTreeMap.getElem?_empty, Health.override_none,
    Option.map_id']

theorem runHealthCheck_enabled (healthy : UInt64 → Bool) (id : BackendId) :
    (lb.runHealthCheck healthy).enabled hashBackend id = lb.enabled hashBackend id := by
  unfold enabled runHealthCheck
  simp only [ExtTreeMap.getElem?_map, Option.map_map, Function.comp_def]

/-- A selected backend is in the set, was visited and was accepted. -/
theorem selectWith_some {selection : BackendSelection} {key : Bytes} {maxIterations : ℕ}
    {accept : Backend → Bool → Bool} {backend : Backend}
    (h : lb.selectWith hashBackend selection key maxIterations accept = some backend) :
    lb.backends[backend.id]? = some backend.ext
      ∧ accept backend (lb.ready hashBackend backend) = true :=
  ⟨selection.visit_mem _ _ _ _ (List.mem_of_find?_eq_some h),
    List.find?_some (p := fun backend => accept backend (lb.ready hashBackend backend)) h⟩

end LoadBalancer

end Switchgear.Pingora
