/-
  Switchgear.Pingora.Weighted — the weighted selector that is rebuilt from what
  `discover` returns.

  `Weighted` keeps the index of each backend as often as its weight says, and an
  iteration starts at a remainder by the length of that list.  Nothing between
  the API and the selector keeps a weight from being 0.

  Main result:
    * `weighted_selection_iff` — after every run, selecting from what a `discover`
      returns divides by zero unless nothing was connected or a connected record
      has a weight other than 0.
-/
import Switchgear.Pingora.DiscoveryRecovery

namespace Switchgear.Pingora

open Switchgear.Lib
open Switchgear.Discovery
open Std (ExtTreeMap TransOrd LawfulEqOrd)

/-! ## §1. The selector. -/

/-- `Weighted`: the backends in their order, and their indices by weight. -/
structure Weighted where
  backends : List BackendId
  weighted : List ℕ

/-- The indices of a list of backends from `start` on, each repeated weight times. -/
def weightedIndices : List BackendId → (start : ℕ) → List ℕ
  | [], _ => []
  | id :: ids, start => List.replicate id.weight.toNat start ++ weightedIndices ids (start + 1)

/-- `Weighted::build`. -/
def Weighted.build (backends : BackendSet) : Weighted where
  backends := backends.keys
  weighted := weightedIndices backends.keys 0

/-- `%`, which panics on zero. -/
def checkedRem (a b : ℕ) : Option ℕ := if b = 0 then none else some (a % b)

/-- The first step of an iteration, from an index of the algorithm; `none` is the panic. -/
def Weighted.first (self : Weighted) (index : UInt64) : Option (Option BackendId) :=
  if self.backends = [] then some none
  else
    (checkedRem index.toNat self.weighted.length).map fun position =>
      self.weighted[position]?.bind fun index => self.backends[index]?

/-- No selection from the set divides by zero. -/
def NeverDividesByZero (backends : BackendSet) : Prop :=
  ∀ index, ((Weighted.build backends).first index).isSome = true

/-! ## §2. When the list of indices is empty. -/

theorem weightedIndices_eq_nil_iff (ids : List BackendId) (start : ℕ) :
    weightedIndices ids start = [] ↔ ∀ id ∈ ids, id.weight = 0 := by
  induction ids generalizing start with
  | nil => simp [weightedIndices]
  | cons id ids ih =>
      have hweight : List.replicate id.weight.toNat start = [] ↔ id.weight = 0 := by
        rw [List.replicate_eq_nil_iff, ← UInt64.toNat_inj, UInt64.toNat_zero]
      unfold weightedIndices
      rw [List.append_eq_nil_iff, hweight, ih, List.forall_mem_cons]

/-- **Selection is safe** if and only if the set is empty or has a weight other than 0. -/
theorem neverDividesByZero_iff (backends : BackendSet) :
    NeverDividesByZero backends
      ↔ ((∃ id, id ∈ backends) → ∃ id ∈ backends, id.weight ≠ 0) := by
  have hkeys : (Weighted.build backends).backends = [] ↔ ¬ ∃ id, id ∈ backends := by
    show backends.keys = [] ↔ _
    rw [List.eq_nil_iff_forall_not_mem]
    simp only [ExtTreeMap.mem_keys, not_exists]
  have hlength : (Weighted.build backends).weighted.length = 0
      ↔ ¬ ∃ id ∈ backends, id.weight ≠ 0 := by
    show (weightedIndices backends.keys 0).length = 0 ↔ _
    rw [List.length_eq_zero_iff, weightedIndices_eq_nil_iff]
    simp only [ExtTreeMap.mem_keys, not_exists, not_and, not_not]
  have hfirst : ∀ index, ((Weighted.build backends).first index).isSome = true
      ↔ ((∃ id, id ∈ backends) → ∃ id ∈ backends, id.weight ≠ 0) := by
    intro index
    unfold Weighted.first checkedRem
    by_cases hempty : (Weighted.build backends).backends = []
    · rw [if_pos hempty]
      exact iff_of_true rfl fun h => absurd h (hkeys.mp hempty)
    · have hsome : ∃ id, id ∈ backends := not_not.mp (mt hkeys.mpr hempty)
      rw [if_neg hempty]
      by_cases hzero : (Weighted.build backends).weighted.length = 0
      · rw [if_pos hzero]
        refine iff_of_false (by simp) ?_
        intro h
        exact hlength.mp hzero (h hsome)
      · rw [if_neg hzero]
        exact iff_of_true rfl fun _ => not_not.mp (mt hlength.mpr hzero)
  unfold NeverDividesByZero
  simp only [hfirst, forall_const]

/-! ## §3. After a `discover`. -/

section System

variable {K σ ε Client E : Type} [Ord K] [DecidableEq K]

/-- The last reload was given the record and connected it. -/
def LastConnected (env : DiscoveryEnv K Client E) (reloads : List (Reloaded K Client E))
    (b : DiscoveryBackend K) : Prop :=
  ∃ last ∈ reloads.head?, b ∈ last.records
    ∧ ((env.withCreate last.create).admits b).isSome = true

omit [Ord K] [DecidableEq K] in
/-- The elements of the last set are the addresses and weights of the connected records. -/
theorem connectedAtLast_iff (env : DiscoveryEnv K Client E) (reloads : List (Reloaded K Client E))
    (id : BackendId) :
    ConnectedAtLast env reloads id
      ↔ ∃ b, LastConnected env reloads b ∧ (env.pingoraBackend b).id = id := by
  unfold ConnectedAtLast LastConnected
  constructor
  · intro h
    obtain ⟨last, hlast, b, hb, hadmits, hid⟩ := h
    exact ⟨b, ⟨last, hlast, hb, hadmits⟩, hid⟩
  · intro h
    obtain ⟨b, ⟨last, hlast, hb, hadmits⟩, hid⟩ := h
    exact ⟨last, hlast, b, hb, hadmits, hid⟩

/-- **Selection after a discover**: whatever ran before, what a `discover` returns is safe to
select from if and only if the last reload, the `discover`'s own included, connected nothing
or connected a record with a weight other than 0.  A `discover` that sees a new etag is itself
that reload, of the content of the store. -/
theorem weighted_selection_iff (S : ConditionalStore K σ ε) (env : DiscoveryEnv K Client E)
    (s : σ) (events : List (RecoveryEvent K Client E))
    (create : DiscoveryBackend K → Except E Client) :
    let state := ((recoveryMachine S env).run (.start s) events).2
    let step := recoveryMachine S env state (.discover create)
    (∃ backends enablement, step.1 = some (.ok (backends, enablement))
      ∧ (NeverDividesByZero backends
        ↔ ((∃ b, LastConnected env step.2.reloads b) →
            ∃ b, LastConnected env step.2.reloads b ∧ b.backend.weight ≠ 0)))
    ∧ (state.service.lastEtag ≠ S.etag state.store →
        step.2.reloads.head? = some { records := S.content state.store, create }) := by
  intro state step
  have hcache : CacheOfLast env state :=
    (recoveryMachine S env).run_invariant (CacheOfLast env) (fun _ _ => True)
      (fun _ event h _ => cacheOfLast_step h event) _ events rfl
      ((recoveryMachine S env).along_of_forall _ _ fun _ _ _ => trivial)
  constructor
  · obtain ⟨enablement, hreturns⟩ := discover_returns (S := S) hcache create
    refine ⟨_, enablement, hreturns, ?_⟩
    rw [neverDividesByZero_iff]
    simp only [mem_lastSet_iff, connectedAtLast_iff]
    constructor
    · intro h hconnected
      obtain ⟨b, hb⟩ := hconnected
      obtain ⟨id, ⟨b', hb', hid⟩, hweight⟩ := h ⟨_, b, hb, rfl⟩
      rw [← hid] at hweight
      exact ⟨b', hb', hweight⟩
    · intro h hset
      obtain ⟨id, b, hb, -⟩ := hset
      obtain ⟨b', hb', hweight⟩ := h ⟨b, hb⟩
      exact ⟨_, ⟨b', hb', rfl⟩, hweight⟩
  · intro hmodified
    show (recoveryMachine S env state (.discover create)).2.reloads.head? = _
    rw [discover_modified create hmodified]
    rfl

end System

/-- A backend of weight 0, alone in the store. -/
theorem weight_zero_divides_by_zero :
    ¬ ∀ (events : List (RecoveryEvent ℕ (DiscoveryBackend ℕ) Unit)) (backends : BackendSet)
        (enablement : Enablement),
      (recoveryMachine ConditionalStore.memory sampleEnv
          ((recoveryMachine ConditionalStore.memory sampleEnv).run (.start .new) events).2
          (.discover .ok)).1 = some (.ok (backends, enablement)) →
      NeverDividesByZero backends := by
  intro h
  let b : DiscoveryBackend ℕ :=
    { sampleBackend 1 {"a"} with
      backend := { (sampleBackend 1 {"a"}).backend with weight := 0 } }
  have hsafe := h [.mutate 0 (.post b)] _ _ rfl 0
  revert hsafe
  decide

end Switchgear.Pingora
