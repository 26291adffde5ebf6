/-
  Switchgear.Pingora.RoundRobin — the round-robin selection and
  `RoundRobinMaxIterations`.

  The weighted iterator takes the values of a shared counter.  Its first step
  looks up the list of indices by weight, each further step the list of the
  backends, both by remainder.  The limit is the number of backends: the first
  step and the others together.  So the walk over the backends is one step
  short of a round, and misses a position unless the first step hits it.

  Main result:
    * `round_robin_coverage_iff` — exactly when `select_backend` and `health`
      find a backend wherever there is one.
-/
import Switchgear.Pingora.Weighted
import Switchgear.Pingora.CapacityBias

namespace Switchgear.Pingora

open Switchgear.Offer
open Std (ExtTreeMap)

/-! ## §1. The iterator. -/

/-- `RoundRobin::next`: the value of the counter, which goes up. -/
def roundRobinNext (counter : UInt64) : UInt64 × UInt64 := (counter, counter + 1)

/-- `WeightedIterator`. -/
structure WeightedIterator where
  index : UInt64
  first : Bool

namespace WeightedIterator

/-- An iterator with the value of the counter, and the counter. -/
def new (counter : UInt64) : WeightedIterator × UInt64 :=
  let (index, counter) := roundRobinNext counter
  ({ index, first := true }, counter)

/-- `next`.  A division by zero ends the iteration here. -/
def next (backend : Weighted) (self : WeightedIterator) (counter : UInt64) :
    Option BackendId × WeightedIterator × UInt64 :=
  if self.first then
    -- the first step goes by weight, with the value the iterator was made with
    ((backend.first self.index).join, { self with first := false }, counter)
  else
    -- every later step takes a new value, and goes by position
    let (index, counter) := roundRobinNext counter
    (backend.backends[index.toNat % backend.backends.length]?, { self with index }, counter)

/-- The backends of at most so many steps. -/
def walk (backend : Weighted) : ℕ → WeightedIterator → UInt64 → List BackendId
  | 0, _, _ => []
  | steps + 1, self, counter =>
      match self.next backend counter with
      | (some id, self, counter) => id :: walk backend steps self counter
      | (none, _, _) => []

theorem length_walk (backend : Weighted) (steps : ℕ) (self : WeightedIterator) (counter : UInt64) :
    (walk backend steps self counter).length ≤ steps := by
  induction steps generalizing self counter with
  | zero => exact le_rfl
  | succ steps ih =>
      unfold walk
      rcases self.next backend counter with ⟨id, self', counter'⟩
      cases id with
      | none => exact Nat.zero_le _
      | some id => exact Nat.succ_le_succ (ih self' counter')

end WeightedIterator

/-- The selection by round-robin, from a value of the counter. -/
def BackendSelection.roundRobin (counter : UInt64) : BackendSelection where
  visit backends _ maxIterations :=
    let (self, counter) := WeightedIterator.new counter
    (self.walk (.build backends) maxIterations counter).filterMap fun id =>
      backends[id]?.map fun ext => { id, ext }
  visit_mem := by
    intro backends key n b hb
    obtain ⟨id, -, hid⟩ := List.mem_filterMap.mp hb
    obtain ⟨ext, hext, rfl⟩ := Option.map_eq_some_iff.mp hid
    exact hext
  visit_length := by
    intro backends key n
    exact (List.length_filterMap_le _ _).trans (WeightedIterator.length_walk _ _ _ _)

/-- `RoundRobinMaxIterations`. -/
def roundRobinMaxIterations (backends : ℕ) : ℕ := backends

/-- The configuration with round-robin selection. -/
def SelectionConfig.roundRobin {Bias : Type} (config : SelectionConfig Bias) (counter : UInt64) :
    SelectionConfig Bias :=
  { config with
    selection := .roundRobin counter
    maxIterations := roundRobinMaxIterations }

/-- `PingoraLnBalancer::health`. -/
def SelectionConfig.checkHealth {Bias : Type} (E : Type) (config : SelectionConfig Bias)
    (lb : LoadBalancer) : Except (PingoraLnError E) Unit :=
  match lb.selectWith config.hashBackend config.selection []
      (config.maxIterations lb.backends.size) (fun _ health => health) with
  | some _ => .ok ()
  | none => .error (PingoraLnError.noAvailableNodes .upstream "health check")

/-! ## §2. The positions a walk reaches. -/

namespace Weighted

variable (self : Weighted) (counter : UInt64)

/-- **A position is missed** from a value of the counter: neither the index by weight nor
that of one of the later values, one fewer than there are backends. -/
def Missed (position : ℕ) : Prop :=
  self.weighted[counter.toNat % self.weighted.length]? ≠ some position
    ∧ ∀ k, 0 < k → k < self.backends.length →
        (counter + UInt64.ofNat k).toNat % self.backends.length ≠ position

/-- The backend has a position that is not missed. -/
def Reaches (id : BackendId) : Prop :=
  ∃ position, self.backends[position]? = some id ∧ ¬ self.Missed counter position

end Weighted

/-- One value further. -/
theorem counter_shift (counter : UInt64) (k : ℕ) :
    counter + UInt64.ofNat (k + 1) = counter + 1 + UInt64.ofNat k := by
  rw [UInt64.ofNat_add, UInt64.add_comm (UInt64.ofNat k), ← UInt64.add_assoc]
  rfl

namespace WeightedIterator

/-- After the first step, a walk takes the values of the counter one by one. -/
theorem mem_walk_rest {backend : Weighted} (hne : backend.backends ≠ []) (id : BackendId)
    (steps : ℕ) (index counter : UInt64) :
    id ∈ walk backend steps { index, first := false } counter
      ↔ ∃ k < steps, backend.backends[(counter + UInt64.ofNat k).toNat
          % backend.backends.length]? = some id := by
  have hpos : 0 < backend.backends.length := List.length_pos_of_ne_nil hne
  -- the counter goes up by one in each step, whatever the index is
  induction steps generalizing index counter with
  | zero => simp [walk]
  | succ steps ih =>
      have hlt : counter.toNat % backend.backends.length < backend.backends.length :=
        Nat.mod_lt _ hpos
      have hnext : ({ index, first := false } : WeightedIterator).next backend counter
          = (some backend.backends[counter.toNat % backend.backends.length],
              { index := counter, first := false }, counter + 1) := by
        simp [next, roundRobinNext, List.getElem?_eq_getElem hlt]
      unfold walk
      rw [hnext]
      dsimp only
      rw [List.mem_cons]
      refine (or_congr_right (ih counter (counter + 1))).trans ?_
      constructor
      · intro h
        rcases h with rfl | ⟨k, hk, hid⟩
        · refine ⟨0, Nat.succ_pos _, ?_⟩
          simp [List.getElem?_eq_getElem hlt]
        · exact ⟨k + 1, by omega, by rw [counter_shift]; exact hid⟩
      · intro h
        obtain ⟨k, hk, hid⟩ := h
        cases k with
        | zero =>
            left
            simpa [List.getElem?_eq_getElem hlt, eq_comm] using hid
        | succ k =>
            right
            rw [counter_shift] at hid
            exact ⟨k, by omega, hid⟩

end WeightedIterator

/-! ## §3. What the selection visits. -/

theorem weightedIndices_lt {ids : List BackendId} {start index : ℕ}
    (h : index ∈ weightedIndices ids start) : index < start + ids.length := by
  induction ids generalizing start with
  | nil => cases h
  | cons id ids ih =>
      unfold weightedIndices at h
      rw [List.length_cons]
      rcases List.mem_append.mp h with h | h
      · rw [List.eq_of_mem_replicate h]
        omega
      · have hlt := ih h
        omega

section Visit

variable {backends : BackendSet} (hnonempty : ∃ id, id ∈ backends)
  (hweights : ∀ id ∈ backends, id.weight ≠ 0) (counter : UInt64)
include hnonempty hweights

/-- The first step takes the index by weight. -/
theorem first_eq : ∃ position id,
    (Weighted.build backends).weighted[counter.toNat % (Weighted.build backends).weighted.length]?
        = some position
      ∧ (Weighted.build backends).backends[position]? = some id
      ∧ (Weighted.build backends).first counter = some (some id) := by
  have hkeys : (Weighted.build backends).backends ≠ [] := by
    obtain ⟨id, hid⟩ := hnonempty
    exact List.ne_nil_of_mem (ExtTreeMap.mem_keys.mpr hid)
  have hweighted : (Weighted.build backends).weighted ≠ [] := by
    intro hnil
    obtain ⟨id, hid⟩ := hnonempty
    exact hweights id hid
      ((weightedIndices_eq_nil_iff _ _).mp hnil id (ExtTreeMap.mem_keys.mpr hid))
  have hlength : 0 < (Weighted.build backends).weighted.length :=
    List.length_pos_of_ne_nil hweighted
  have hlt := Nat.mod_lt counter.toNat hlength
  have hposition := List.getElem?_eq_getElem hlt
  have hbound : (Weighted.build backends).weighted[counter.toNat
      % (Weighted.build backends).weighted.length] < (Weighted.build backends).backends.length := by
    have h := weightedIndices_lt (List.getElem_mem hlt)
    rwa [Nat.zero_add] at h
  refine ⟨_, _, hposition, List.getElem?_eq_getElem hbound, ?_⟩
  unfold Weighted.first checkedRem
  rw [if_neg hkeys, if_neg hlength.ne', Option.map_some, hposition, Option.bind_some,
    List.getElem?_eq_getElem hbound]

/-- **The walk reaches** the positions that are not missed, and no others. -/
theorem mem_walk (id : BackendId) :
    id ∈ WeightedIterator.walk (.build backends) backends.size (WeightedIterator.new counter).1
        (WeightedIterator.new counter).2
      ↔ (Weighted.build backends).Reaches counter id := by
  obtain ⟨position, first, hweighted, hposition, hfirst⟩ := first_eq hnonempty hweights counter
  have hne : (Weighted.build backends).backends ≠ [] := by
    obtain ⟨id, hid⟩ := hnonempty
    exact List.ne_nil_of_mem (ExtTreeMap.mem_keys.mpr hid)
  have hlength : (Weighted.build backends).backends.length = backends.size :=
    ExtTreeMap.length_keys
  -- one step by weight, and one fewer by position than there are backends
  obtain ⟨rest, hrest⟩ : ∃ rest, backends.size = rest + 1 := by
    have hpos := List.length_pos_of_ne_nil hne
    exact ⟨backends.size - 1, by omega⟩
  have hwalk : WeightedIterator.walk (.build backends) backends.size
        (WeightedIterator.new counter).1 (WeightedIterator.new counter).2
      = first :: WeightedIterator.walk (.build backends) rest
          { index := counter, first := false } (counter + 1) := by
    rw [hrest]
    simp [WeightedIterator.walk, WeightedIterator.new, WeightedIterator.next, roundRobinNext, hfirst]
  rw [hwalk, List.mem_cons, WeightedIterator.mem_walk_rest hne]
  unfold Weighted.Reaches Weighted.Missed
  constructor
  · intro h
    rcases h with rfl | ⟨k, hk, hid⟩
    · refine ⟨position, hposition, ?_⟩
      intro hmissed
      exact hmissed.1 hweighted
    · refine ⟨_, hid, ?_⟩
      intro hmissed
      refine hmissed.2 (k + 1) (Nat.succ_pos k) (by omega) ?_
      rw [counter_shift]
  · intro h
    obtain ⟨p, hid, hreached⟩ := h
    rw [not_and_or, not_ne_iff] at hreached
    rcases hreached with hp | hp
    · left
      obtain rfl : position = p := Option.some.inj (hweighted.symm.trans hp)
      exact Option.some.inj (hid.symm.trans hposition)
    · right
      push Not at hp
      obtain ⟨k, hpos, hk, rfl⟩ := hp
      obtain ⟨k, rfl⟩ : ∃ j, k = j + 1 := ⟨k - 1, by omega⟩
      rw [counter_shift] at hid
      exact ⟨k, by omega, hid⟩

/-- A selection finds a backend exactly when it accepts one that is reached. -/
theorem selectWith_roundRobin_iff (lb : LoadBalancer) (hlb : lb.backends = backends)
    (hashBackend : BackendId → UInt64) (key : Bytes) (accept : Backend → Bool → Bool) :
    lb.selectWith hashBackend (.roundRobin counter) key
        (roundRobinMaxIterations lb.backends.size) accept ≠ none
      ↔ ∃ backend : Backend, lb.backends[backend.id]? = some backend.ext
        ∧ accept backend (lb.ready hashBackend backend) = true
        ∧ (Weighted.build lb.backends).Reaches counter backend.id := by
  subst hlb
  have hmem := mem_walk hnonempty hweights counter
  show List.find? _ (List.filterMap _ (WeightedIterator.walk (.build lb.backends) lb.backends.size
    (WeightedIterator.new counter).1 (WeightedIterator.new counter).2)) ≠ none ↔ _
  rw [Ne, List.find?_eq_none]
  push Not
  simp only [List.mem_filterMap, Option.map_eq_some_iff, hmem]
  constructor
  · intro h
    obtain ⟨backend, ⟨id, hreached, ext, hext, rfl⟩, haccept⟩ := h
    exact ⟨{ id, ext }, hext, haccept, hreached⟩
  · intro h
    obtain ⟨backend, hext, haccept, hreached⟩ := h
    exact ⟨backend, ⟨backend.id, hreached, backend.ext, hext, rfl⟩, haccept⟩

end Visit

/-! ## §4. The position a round leaves out. -/

/-- Among the remainders of `n - 1` consecutive numbers after `c` only that of `c` is missing. -/
theorem exists_remainder_iff {n position : ℕ} (c : ℕ) (hposition : position < n) :
    (∃ k, 0 < k ∧ k < n ∧ (c + k) % n = position) ↔ position ≠ c % n := by
  have hsplit : n * (c / n) + c % n = c := Nat.div_add_mod c n
  have hlt : c % n < n := Nat.mod_lt c (by omega)
  have hround : ∀ k, (c + k) % n = (c % n + k) % n := by
    intro k
    rw [Nat.mod_add_mod]
  constructor
  · rintro ⟨k, hpos, hk, rfl⟩ hsame
    rw [hround] at hsame
    by_cases hwrap : c % n + k < n
    · rw [Nat.mod_eq_of_lt hwrap] at hsame
      omega
    · rw [Nat.mod_eq_sub_mod (by omega), Nat.mod_eq_of_lt (by omega)] at hsame
      omega
  · intro hne
    by_cases hle : c % n < position
    · refine ⟨position - c % n, by omega, by omega, ?_⟩
      rw [hround, Nat.mod_eq_of_lt (by omega)]
      omega
    · -- around the end of the round
      refine ⟨position + n - c % n, by omega, by omega, ?_⟩
      rw [hround, Nat.mod_eq_sub_mod (by omega), Nat.mod_eq_of_lt (by omega)]
      omega

/-- **The missed position**: while the counter does not overflow during the walk it is the
remainder of its value, unless the first step hits it. -/
theorem missed_iff (self : Weighted) {counter : UInt64} {position : ℕ}
    (hposition : position < self.backends.length)
    (hcounter : counter.toNat + self.backends.length ≤ 2 ^ 64) :
    self.Missed counter position
      ↔ position = counter.toNat % self.backends.length
        ∧ self.weighted[counter.toNat % self.weighted.length]? ≠ some position := by
  have hvalue : ∀ k, k < self.backends.length →
      (counter + UInt64.ofNat k).toNat = counter.toNat + k := by
    intro k hk
    rw [UInt64.toNat_add, UInt64.toNat_ofNat', Nat.mod_eq_of_lt (a := k) (by omega),
      Nat.mod_eq_of_lt (by omega)]
  have hreached := exists_remainder_iff counter.toNat hposition
  unfold Weighted.Missed
  constructor
  · intro h
    refine ⟨?_, h.1⟩
    by_contra hne
    obtain ⟨k, hpos, hk, hremainder⟩ := hreached.mpr hne
    exact h.2 k hpos hk (by rw [hvalue k hk]; exact hremainder)
  · intro h
    refine ⟨h.2, ?_⟩
    intro k hpos hk hremainder
    rw [hvalue k hk] at hremainder
    exact hreached.mp ⟨k, hpos, hk, hremainder⟩ h.1

/-- With weights of 1 the first step takes the remainder itself, so nothing is missed. -/
theorem unit_weights_miss_nothing {backends : BackendSet} (hweights : ∀ id ∈ backends, id.weight = 1)
    {counter : UInt64} (hcounter : counter.toNat + backends.size ≤ 2 ^ 64) {position : ℕ}
    (hposition : position < backends.size) :
    ¬ (Weighted.build backends).Missed counter position := by
  have hindices : ∀ (ids : List BackendId) (start : ℕ), (∀ id ∈ ids, id.weight = 1) →
      weightedIndices ids start = List.range' start ids.length := by
    intro ids
    induction ids with
    | nil =>
        intro start _
        rfl
    | cons id ids ih =>
        intro start hunit
        obtain ⟨hone, hrest⟩ := List.forall_mem_cons.mp hunit
        unfold weightedIndices
        rw [ih _ hrest, hone]
        rfl
  have hlength : (Weighted.build backends).backends.length = backends.size :=
    ExtTreeMap.length_keys
  have hweighted : (Weighted.build backends).weighted = List.range' 0 backends.size := by
    rw [← hlength]
    exact hindices _ 0 fun id hid => hweights id (ExtTreeMap.mem_keys.mp hid)
  rw [missed_iff _ (by omega) (by omega)]
  intro h
  obtain ⟨hremainder, hfirst⟩ := h
  rw [hlength] at hremainder
  apply hfirst
  rw [hweighted, List.length_range', ← hremainder, List.getElem?_range' hposition]
  simp

/-! ## §5. When a selection covers the set. -/

/-- What a selection accepts: an acceptable backend that, when a bias is given, is inside the
range. -/
def Snapshot.Selectable {Bias : Type} (s : Snapshot Bias) (request : InvoiceRequest)
    (bias : Option Bias) (backend : Backend) : Prop :=
  s.Acceptable request backend ∧ ∀ bias' ∈ bias, s.Inside request bias' backend

/-- A backend of the set that is ready. -/
def LoadBalancer.HasReady (hashBackend : BackendId → UInt64) (lb : LoadBalancer)
    (backend : Backend) : Prop :=
  lb.backends[backend.id]? = some backend.ext ∧ lb.ready hashBackend backend = true

/-- **Only missed backends** have the property, and there are some. -/
def OnlyMissed (backends : BackendSet) (counter : UInt64) (P : Backend → Prop) : Prop :=
  (∃ backend, P backend)
    ∧ ∀ backend, P backend → ¬ (Weighted.build backends).Reaches counter backend.id

theorem not_onlyMissed_iff {backends : BackendSet} {counter : UInt64} {P : Backend → Prop} :
    ¬ OnlyMissed backends counter P
      ↔ ((∃ backend, P backend) →
          ∃ backend, P backend ∧ (Weighted.build backends).Reaches counter backend.id) := by
  unfold OnlyMissed
  push Not
  rfl

section Coverage

variable {Bias : Type}

theorem selectable_iff (config : SelectionConfig Bias) (lb : LoadBalancer) (metrics : MetricsCache)
    (request : InvoiceRequest) (bias : Option Bias) (backend : Backend) :
    (config.snapshot lb metrics).Selectable request bias backend
      ↔ lb.backends[backend.id]? = some backend.ext
        ∧ config.accept metrics request.offer request.amountMsat bias backend
            (lb.ready config.hashBackend backend) = true := by
  unfold Snapshot.Selectable Snapshot.Acceptable
  rw [and_assoc]
  refine and_congr_right fun _ => ?_
  cases bias with
  | none =>
      rw [accept_none_iff]
      simp [SelectionConfig.snapshot]
  | some bias =>
      rw [accept_some_iff]
      simp [SelectionConfig.snapshot, Snapshot.Inside]

/-- **Coverage**: for every non-empty set with positive weights, every value of the counter,
every health and metrics, every request and bias, `select_backend` finds a backend wherever a
selectable one exists, unless the selectable ones are all missed; and `health` is `Ok` wherever
a backend is ready, unless the ready ones are all missed.  While the counter does not overflow,
a missed position is the remainder of its value that the first step does not hit. -/
theorem round_robin_coverage_iff (E : Type) (config : SelectionConfig Bias) (lb : LoadBalancer)
    (metrics : MetricsCache) (request : InvoiceRequest) (bias : Option Bias) (counter : UInt64)
    (hnonempty : ∃ id, id ∈ lb.backends) (hweights : ∀ id ∈ lb.backends, id.weight ≠ 0) :
    let selectable := (config.snapshot lb metrics).Selectable request bias
    let ready := lb.HasReady config.hashBackend
    (((∃ backend, selectable backend) →
        (config.roundRobin counter).selectBackend lb metrics request.offer request.amountMsat
          request.key bias ≠ none)
      ↔ ¬ OnlyMissed lb.backends counter selectable)
    ∧ (((∃ backend, ready backend) → (config.roundRobin counter).checkHealth E lb = .ok ())
      ↔ ¬ OnlyMissed lb.backends counter ready)
    ∧ (counter.toNat + lb.backends.size ≤ 2 ^ 64 → ∀ position < lb.backends.size,
        ((Weighted.build lb.backends).Missed counter position
          ↔ position = counter.toNat % lb.backends.size
            ∧ (Weighted.build lb.backends).weighted[counter.toNat
                % (Weighted.build lb.backends).weighted.length]? ≠ some position)) := by
  intro selectable ready
  have hlength : (Weighted.build lb.backends).backends.length = lb.backends.size :=
    ExtTreeMap.length_keys
  refine ⟨?_, ?_, ?_⟩
  · have hselects : (config.roundRobin counter).selectBackend lb metrics request.offer
          request.amountMsat request.key bias ≠ none
        ↔ ∃ backend, selectable backend
          ∧ (Weighted.build lb.backends).Reaches counter backend.id := by
      refine (selectWith_roundRobin_iff hnonempty hweights counter lb rfl config.hashBackend
        request.key _).trans (exists_congr fun backend => ?_)
      rw [← and_assoc]
      exact and_congr_left' (selectable_iff config lb metrics request bias backend).symm
    rw [not_onlyMissed_iff, hselects]
  · have hhealth : (config.roundRobin counter).checkHealth E lb = .ok ()
        ↔ ∃ backend, ready backend
          ∧ (Weighted.build lb.backends).Reaches counter backend.id := by
      have hselects := selectWith_roundRobin_iff hnonempty hweights counter lb rfl
        config.hashBackend [] (fun _ health => health)
      simp only [← and_assoc] at hselects
      refine Iff.trans ?_ hselects
      unfold SelectionConfig.checkHealth SelectionConfig.roundRobin
      dsimp only
      cases lb.selectWith config.hashBackend (.roundRobin counter) []
          (roundRobinMaxIterations lb.backends.size) (fun _ health => health) with
      | none => simp
      | some backend => simp
    rw [not_onlyMissed_iff, hhealth]
  · intro hcounter position hposition
    rw [missed_iff _ (by omega) (by omega), hlength]

end Coverage

section Sample

/-- Two backends of weights 2 and 1, of which the second alone is ready. -/
def unevenBalancer : LoadBalancer :=
  let ext : PingoraLnBackendExtension := { partitions := {"default"} }
  ((LoadBalancer.new true).doUpdate BackendId.addr
    (BackendSet.insertBackend (BackendSet.insertBackend ∅ { id := ⟨1, 2⟩, ext := some ext })
      { id := ⟨2, 1⟩, ext := some ext }) ∅).runHealthCheck fun hashKey => hashKey == 2

theorem unevenBalancer_weights :
    (∃ id, id ∈ unevenBalancer.backends) ∧ ∀ id ∈ unevenBalancer.backends, id.weight ≠ 0 := by
  have hkeys : unevenBalancer.backends.keys = [⟨1, 2⟩, ⟨2, 1⟩] := by decide
  constructor
  · exact ⟨⟨1, 2⟩, ExtTreeMap.mem_keys.mp (by rw [hkeys]; simp)⟩
  · have hall : ∀ id ∈ unevenBalancer.backends.keys, id.weight ≠ 0 := by
      rw [hkeys]
      decide
    exact fun id hid => hall id (ExtTreeMap.mem_keys.mpr hid)

/-- From 0 the first step hits the first backend, and the second step the other one. -/
theorem round_robin_coverage_iff_even :
    ((sampleBalancer.selection 0).roundRobin 0).checkHealth String unevenBalancer = .ok () := by
  have hcoverage := round_robin_coverage_iff String (sampleBalancer.selection 0) unevenBalancer
    (sampleBalancer.metrics 0) sampleRequest none 0 unevenBalancer_weights.1
    unevenBalancer_weights.2
  let second : Backend := { id := ⟨2, 1⟩, ext := some { partitions := {"default"} } }
  have hready : unevenBalancer.HasReady BackendId.addr second := ⟨by decide, by decide⟩
  refine hcoverage.2.1.mpr ?_ ⟨second, hready⟩
  intro hmissed
  refine hmissed.2 second hready ⟨1, by decide, ?_⟩
  intro hmiss
  exact hmiss.2 1 (by decide) (by decide) (by decide)

/-- **A ready node is missed**: from 1 both steps hit the first backend, so no invoice is asked
from the second one and the health check fails. -/
theorem ready_node_missed :
    let config := (sampleBalancer.selection 0).roundRobin 1
    (∃ id, id ∈ unevenBalancer.backends) ∧ (∀ id ∈ unevenBalancer.backends, id.weight ≠ 0)
      ∧ ¬ ((∃ backend, (config.snapshot unevenBalancer (sampleBalancer.metrics 0)).Selectable
            sampleRequest none backend) →
          config.selectBackend unevenBalancer (sampleBalancer.metrics 0) sampleRequest.offer
            sampleRequest.amountMsat sampleRequest.key none ≠ none)
      ∧ ¬ ((∃ backend, unevenBalancer.HasReady config.hashBackend backend) →
          config.checkHealth String unevenBalancer = .ok ()) := by
  intro config
  let second : Backend := { id := ⟨2, 1⟩, ext := some { partitions := {"default"} } }
  have hready : unevenBalancer.HasReady BackendId.addr second := ⟨by decide, by decide⟩
  refine ⟨unevenBalancer_weights.1, unevenBalancer_weights.2, ?_, ?_⟩
  · intro h
    refine h ⟨second, ⟨hready.1, hready.2, ⟨_, rfl, by decide⟩, rfl⟩, ?_⟩ (by decide)
    intro bias hbias
    cases hbias
  · intro h
    have hfails : config.checkHealth String unevenBalancer
        = .error (PingoraLnError.noAvailableNodes .upstream "health check") := by decide
    rw [hfails] at h
    cases h ⟨second, hready⟩

end Sample

end Switchgear.Pingora
