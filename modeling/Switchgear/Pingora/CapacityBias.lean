/-
  Switchgear.Pingora.CapacityBias — what becomes of the capacity bias in the
  attempts of one `get_invoice`.

  An attempt is a selection together with its fallback, over one snapshot of
  health and metrics.  It prefers the range when it takes a backend outside of
  it only where no acceptable backend is inside.  The loop drops the bias after
  the first selection, also when that selection found a backend; so the retries
  select without it.

  Main results:
    * `preference_kept` — in every run whose retries start from snapshots where
      the acceptable backends are all inside the range or all outside, every
      attempt prefers the range.
    * `Snapshot.uniform_iff` — of another snapshot no selection without bias can
      be trusted to prefer the range.
-/
import Switchgear.Pingora.Invoice

namespace Switchgear.Pingora

open Switchgear.Offer Switchgear.Lib
open Std (ExtTreeMap)

/-! ## §1. The preference. -/

/-- What a selection reads of a world. -/
structure Snapshot (Bias : Type) where
  loadBalancer : LoadBalancer
  metrics : MetricsCache
  hashBackend : BackendId → UInt64
  withinCapacity : (amountMsat : UInt64) → (inboundMsat : UInt64) → Bias → Bool

namespace Snapshot

variable {Bias : Type} (s : Snapshot Bias) (request : InvoiceRequest) (bias : Bias)

/-- In the set, ready, serving the partition and with cached metrics. -/
def Acceptable (backend : Backend) : Prop :=
  s.loadBalancer.backends[backend.id]? = some backend.ext
    ∧ SelectionConfig.Acceptable s.metrics request.offer backend
        (s.loadBalancer.ready s.hashBackend backend)

/-- The amount is in the capacity range of the backend's metrics. -/
def Inside (backend : Backend) : Prop :=
  ∃ metrics ∈ s.metrics backend.id,
    s.withinCapacity request.amountMsat metrics.nodeEffectiveInboundMsat bias = true

/-- Some acceptable backend is inside the range. -/
def SomeInside : Prop :=
  ∃ backend, s.Acceptable request backend ∧ s.Inside request bias backend

/-- **The preference** for the range, of the backend an attempt takes. -/
structure Prefers (chosen : Option Backend) : Prop where
  inside : s.SomeInside request bias → ∃ backend ∈ chosen, s.Inside request bias backend
  outside : ∀ backend ∈ chosen, ¬ s.Inside request bias backend →
    ¬ s.SomeInside request bias

/-- The range does not tell the acceptable backends apart. -/
def Uniform : Prop :=
  (∀ backend, s.Acceptable request backend → s.Inside request bias backend)
    ∨ ¬ s.SomeInside request bias

end Snapshot

/-- The selector returns an accepted backend whenever one exists. -/
def SelectionConfig.Finds {Bias : Type} (config : SelectionConfig Bias) (lb : LoadBalancer) :
    Prop :=
  ∀ key accept,
    (∃ backend : Backend, lb.backends[backend.id]? = some backend.ext
      ∧ accept backend (lb.ready config.hashBackend backend) = true) →
    lb.selectWith config.hashBackend config.selection key
      (config.maxIterations lb.backends.size) accept ≠ none

/-! ## §2. One selection. -/

section Selection

variable {Bias : Type} (config : SelectionConfig Bias) {lb : LoadBalancer}
  {metrics : MetricsCache} {request : InvoiceRequest} {bias : Bias}

/-- What the selection with the configuration reads. -/
def SelectionConfig.snapshot (lb : LoadBalancer) (metrics : MetricsCache) : Snapshot Bias where
  loadBalancer := lb
  metrics
  hashBackend := config.hashBackend
  withinCapacity := config.withinCapacity

/-- Without a bias, what is accepted is what is acceptable. -/
theorem accept_none_iff (offer : Offer) (amountMsat : UInt64) (backend : Backend) (ready : Bool) :
    config.accept metrics offer amountMsat none backend ready = true
      ↔ SelectionConfig.Acceptable metrics offer backend ready := by
  constructor
  · exact config.acceptable_of_accept
  · intro h
    obtain ⟨extension, hext, hserves⟩ := h.serves
    obtain ⟨m, hm⟩ := Option.isSome_iff_exists.mp h.hasMetrics
    simp [SelectionConfig.accept, h.ready, hext, hserves, hm]

/-- With a bias, it is also in the range. -/
theorem accept_some_iff (offer : Offer) (amountMsat : UInt64) (backend : Backend) (ready : Bool) :
    config.accept metrics offer amountMsat (some bias) backend ready = true
      ↔ SelectionConfig.Acceptable metrics offer backend ready
        ∧ ∃ m ∈ metrics backend.id,
            config.withinCapacity amountMsat m.nodeEffectiveInboundMsat bias = true := by
  constructor
  · intro h
    have hacceptable := config.acceptable_of_accept h
    refine ⟨hacceptable, ?_⟩
    obtain ⟨extension, hext, hserves⟩ := hacceptable.serves
    obtain ⟨m, hm⟩ := Option.isSome_iff_exists.mp hacceptable.hasMetrics
    simp only [SelectionConfig.accept, hacceptable.ready, hext, hserves, hm] at h
    exact ⟨m, hm, by simpa using h⟩
  · intro h
    obtain ⟨hacceptable, m, hm, hinside⟩ := h
    obtain ⟨extension, hext, hserves⟩ := hacceptable.serves
    have hm' : metrics backend.id = some m := hm
    simp [SelectionConfig.accept, hacceptable.ready, hext, hserves, hm', hinside]

/-- A biased selection that finds a backend finds one inside the range. -/
theorem selectBackend_biased {chosen : Backend}
    (h : config.selectBackend lb metrics request.offer request.amountMsat request.key (some bias)
      = some chosen) :
    (config.snapshot lb metrics).Acceptable request chosen
      ∧ (config.snapshot lb metrics).Inside request bias chosen := by
  obtain ⟨hmem, haccept⟩ := LoadBalancer.selectWith_some h
  obtain ⟨hacceptable, hinside⟩ := (accept_some_iff config _ _ _ _).mp haccept
  exact ⟨⟨hmem, hacceptable⟩, hinside⟩

/-- One that finds nothing shows that nothing is inside. -/
theorem selectBackend_biased_none (hfinds : config.Finds lb)
    (h : config.selectBackend lb metrics request.offer request.amountMsat request.key (some bias)
      = none) :
    ¬ (config.snapshot lb metrics).SomeInside request bias := by
  intro hsome
  obtain ⟨backend, ⟨hmem, hacceptable⟩, hinside⟩ := hsome
  exact hfinds _ _ ⟨backend, hmem, (accept_some_iff config _ _ _ _).mpr ⟨hacceptable, hinside⟩⟩ h

/-- A selection without bias takes an acceptable backend, -/
theorem selectBackend_unbiased {chosen : Backend}
    (h : config.selectBackend lb metrics request.offer request.amountMsat request.key none
      = some chosen) :
    (config.snapshot lb metrics).Acceptable request chosen := by
  obtain ⟨hmem, haccept⟩ := LoadBalancer.selectWith_some h
  exact ⟨hmem, (accept_none_iff config _ _ _ _).mp haccept⟩

/-- if there is one. -/
theorem selectBackend_unbiased_none (hfinds : config.Finds lb)
    (h : config.selectBackend lb metrics request.offer request.amountMsat request.key none
      = none) (backend : Backend) :
    ¬ (config.snapshot lb metrics).Acceptable request backend := by
  intro hacceptable
  exact hfinds _ _
    ⟨backend, hacceptable.1, (accept_none_iff config _ _ _ _).mpr hacceptable.2⟩ h

/-- What a selection without bias takes from a uniform snapshot. -/
theorem selectBackend_unbiased_prefers (hfinds : config.Finds lb)
    (h : (config.snapshot lb metrics).Uniform request bias) :
    (config.snapshot lb metrics).Prefers request bias
      (config.selectBackend lb metrics request.offer request.amountMsat request.key none) := by
  cases hchosen : config.selectBackend lb metrics request.offer request.amountMsat request.key
      none with
  | none =>
      constructor
      · intro hsome
        obtain ⟨backend, hacceptable, -⟩ := hsome
        exact absurd hacceptable (selectBackend_unbiased_none config hfinds hchosen backend)
      · intro backend hmem
        cases hmem
  | some chosen =>
      have hacceptable := selectBackend_unbiased config hchosen
      rcases h with h | h
      · constructor
        · intro _
          exact ⟨chosen, rfl, h chosen hacceptable⟩
        · intro backend hmem houtside
          cases hmem
          exact absurd (h chosen hacceptable) houtside
      · exact ⟨fun hsome => absurd hsome h, fun _ _ _ => h⟩

end Selection

/-! ## §3. Uniform snapshots are the ones to be trusted. -/

namespace BackendSelection

/-- The selector that visits a backend first and then the set in its order. -/
def startingAt (first : Backend) : BackendSelection where
  visit backends key maxIterations :=
    if backends[first.id]? = some first.ext then
      (first :: inOrder.visit backends key maxIterations).take maxIterations
    else inOrder.visit backends key maxIterations
  visit_mem := by
    intro backends key n b hb
    split at hb
    case isTrue hfirst =>
      rcases List.mem_cons.mp (List.mem_of_mem_take hb) with rfl | hb
      · exact hfirst
      · exact inOrder.visit_mem backends key n b hb
    case isFalse => exact inOrder.visit_mem backends key n b hb
  visit_length := by
    intro backends key n
    split
    · exact List.length_take_le n _
    · exact inOrder.visit_length backends key n

/-- With one step more than there are backends it visits them all. -/
theorem visit_startingAt {backends : BackendSet} (key : Bytes) {first : Backend}
    (h : backends[first.id]? = some first.ext) :
    (startingAt first).visit backends key (backends.size + 1)
      = first :: inOrder.visit backends key (backends.size + 1) := by
  have hlength : (inOrder.visit backends key (backends.size + 1)).length ≤ backends.size := by
    show ((backends.toList.take (backends.size + 1)).map _).length ≤ _
    rw [List.length_map, List.length_take, ExtTreeMap.length_toList]
    exact Nat.min_le_right _ _
  show (if backends[first.id]? = some first.ext then _ else _) = _
  rw [if_pos h, List.take_of_length_le]
  exact Nat.succ_le_succ hlength

theorem mem_visit_inOrder {backends : BackendSet} {key : Bytes} {n : ℕ} (hn : backends.size ≤ n)
    {backend : Backend} (h : backends[backend.id]? = some backend.ext) :
    backend ∈ inOrder.visit backends key n := by
  show backend ∈ (backends.toList.take n).map fun entry => { id := entry.1, ext := entry.2 }
  have hlength : backends.toList.length ≤ n := by
    rw [ExtTreeMap.length_toList]
    exact hn
  rw [List.take_of_length_le hlength, List.mem_map]
  exact ⟨(backend.id, backend.ext), ExtTreeMap.mem_toList_iff_getElem?_eq_some.mpr h, rfl⟩

end BackendSelection

section Uniform

variable {Bias : Type} {config : SelectionConfig Bias} {lb : LoadBalancer}

theorem finds_of_visits (h : ∀ key (backend : Backend),
      lb.backends[backend.id]? = some backend.ext →
      backend ∈ config.selection.visit lb.backends key (config.maxIterations lb.backends.size)) :
    config.Finds lb := by
  intro key accept hsome hnone
  obtain ⟨backend, hmem, haccept⟩ := hsome
  unfold LoadBalancer.selectWith at hnone
  rw [List.find?_eq_none] at hnone
  exact hnone backend (h key backend hmem) haccept

/-- **No other snapshot can be trusted**: a snapshot is uniform exactly when every selector
that finds, with whatever limit, prefers the range also without the bias. -/
theorem Snapshot.uniform_iff (config : SelectionConfig Bias) (lb : LoadBalancer)
    (metrics : MetricsCache) (request : InvoiceRequest) (bias : Bias) :
    (config.snapshot lb metrics).Uniform request bias
      ↔ ∀ selection maxIterations,
          ({ config with selection, maxIterations } : SelectionConfig Bias).Finds lb →
          (config.snapshot lb metrics).Prefers request bias
            (({ config with selection, maxIterations } : SelectionConfig Bias).selectBackend lb
              metrics request.offer request.amountMsat request.key none) := by
  constructor
  · intro h selection maxIterations hfinds
    exact selectBackend_unbiased_prefers { config with selection, maxIterations } hfinds h
  · intro h
    by_contra hmixed
    obtain ⟨hall, hsome⟩ := not_or.mp hmixed
    simp only [not_forall] at hall
    obtain ⟨first, hacceptable, houtside⟩ := hall
    -- a selector that looks at the backend outside of the range first
    let mixed : SelectionConfig Bias :=
      { config with selection := .startingAt first, maxIterations := fun n => n + 1 }
    have hfirst : lb.backends[first.id]? = some first.ext := hacceptable.1
    have hvisit := fun key => BackendSelection.visit_startingAt key hfirst
    have hfinds : mixed.Finds lb := by
      apply finds_of_visits
      intro key backend hmem
      show backend ∈
        (BackendSelection.startingAt first).visit lb.backends key (lb.backends.size + 1)
      rw [hvisit]
      exact List.mem_cons_of_mem _ (BackendSelection.mem_visit_inOrder (Nat.le_succ _) hmem)
    have hchosen : mixed.selectBackend lb metrics request.offer request.amountMsat request.key none
        = some first := by
      show List.find? _ ((BackendSelection.startingAt first).visit lb.backends request.key
        (lb.backends.size + 1)) = _
      rw [hvisit, List.find?_cons_of_pos]
      exact (accept_none_iff mixed _ _ _ _).mpr hacceptable.2
    have hprefers : (config.snapshot lb metrics).Prefers request bias _ := h _ _ hfinds
    exact hprefers.outside first hchosen houtside (not_not.mp hsome)

end Uniform

/-! ## §4. The attempts of a run. -/

namespace PingoraLnBalancer

variable {W B Bias E : Type}

def snapshot (self : PingoraLnBalancer W B Bias E) (world : W) : Snapshot Bias :=
  (self.selection world).snapshot (self.loadBalancer world) (self.metrics world)

/-- A selection reads the snapshot and changes none of it. -/
def SelectionKeeps (self : PingoraLnBalancer W B Bias E) : Prop :=
  ∀ world, self.snapshot (self.selected world) = self.snapshot world

/-- At every moment the selector returns an accepted backend whenever one exists. -/
def AlwaysFinds (self : PingoraLnBalancer W B Bias E) : Prop :=
  ∀ world, (self.selection world).Finds (self.loadBalancer world)

/-- The events of the first `n` iterations of a call. -/
def getInvoiceEvents [HasServiceErrorSource E] (self : PingoraLnBalancer W B Bias E)
    (request : InvoiceRequest) (n : ℕ) (world : W) : List (InvoiceEvent W Bias E) :=
  (self.getInvoiceBody request).events n
    { world
      backoff := self.getBackoff
      currentSelectionCapacityBias := self.selectionCapacityBias }

/-- A call that returns has the events of its iterations. -/
theorem getInvoiceEvents_of_returns [HasServiceErrorSource E]
    {self : PingoraLnBalancer W B Bias E} {request : InvoiceRequest} {n : ℕ} {world : W}
    {trace : List (InvoiceEvent W Bias E)} {result : Except (PingoraLnError E) String}
    (h : self.getInvoice request n world = some (trace, result)) :
    self.getInvoiceEvents request n world = trace :=
  TracedLoop.events_of_iterate h

end PingoraLnBalancer

section Run

variable {W B Bias E : Type} (balancer : PingoraLnBalancer W B Bias E) (request : InvoiceRequest)
  (bias : Bias)

/-- Where the event ends the selection of an attempt, the attempt prefers the range.  A biased
selection that finds nothing ends none: its fallback does. -/
def InvoiceEvent.Prefers : InvoiceEvent W Bias E → Prop
  | .selected _ (some _) none => True
  | .selected world _ chosen => (balancer.snapshot world).Prefers request bias chosen
  | _ => True

/-- **The retries start uniform**: where a selection comes right after a wait, the range does
not tell the acceptable backends apart. -/
def RetriesUniform (trace : List (InvoiceEvent W Bias E)) : Prop :=
  ∀ pre duration world current chosen post,
    trace = pre ++ .backedOff (some duration) :: .selected world current chosen :: post →
    (balancer.snapshot world).Uniform request bias

variable {balancer request bias}

theorem RetriesUniform.of_append {trace rest : List (InvoiceEvent W Bias E)}
    (h : RetriesUniform balancer request bias (trace ++ rest)) :
    RetriesUniform balancer request bias trace := by
  intro pre duration world current chosen post hsplit
  exact h pre duration world current chosen (post ++ rest) (by rw [hsplit]; simp)

/-- What the bias of the loop says about the iteration to come: it is the configured one, or
nothing is inside the range, or a wait has just ended. -/
def BiasState (balancer : PingoraLnBalancer W B Bias E) (request : InvoiceRequest) (bias : Bias)
    (before : List (InvoiceEvent W Bias E)) (s : InvoiceLoop W B Bias) : Prop :=
  s.currentSelectionCapacityBias = some bias
    ∨ s.currentSelectionCapacityBias = none
      ∧ ((∃ duration, before.getLast? = some (.backedOff (some duration)))
        ∨ ¬ (balancer.snapshot s.world).SomeInside request bias)

variable {before : List (InvoiceEvent W Bias E)} {s : InvoiceLoop W B Bias}

/-- An iteration without bias starts uniform, where the retries do. -/
theorem BiasState.uniform (h : BiasState balancer request bias before s)
    (hnone : s.currentSelectionCapacityBias = none)
    {current : Option Bias} {chosen : Option Backend} {rest : List (InvoiceEvent W Bias E)}
    (hretries : RetriesUniform balancer request bias
      (before ++ .selected s.world current chosen :: rest)) :
    (balancer.snapshot s.world).Uniform request bias := by
  rcases h with h | ⟨-, ⟨duration, hlast⟩ | h⟩
  · rw [hnone] at h
    cases h
  · obtain ⟨pre, rfl⟩ := List.getLast?_eq_some_iff.mp hlast
    exact hretries pre duration s.world current chosen rest (by simp)
  · exact .inr h

/-- The end of an iteration selects nothing, and it goes on only after a wait. -/
theorem afterAttempt_events (balancer : PingoraLnBalancer W B Bias E)
    (outcome : Except (PingoraLnError E) String) (world : W) (backoff : B) :
    (∀ event ∈ (balancer.afterAttempt outcome world backoff).1, event.isSelection = false)
      ∧ ∀ s', (balancer.afterAttempt outcome world backoff).2 = .again s' →
        s'.currentSelectionCapacityBias = none
          ∧ ∃ duration, (balancer.afterAttempt outcome world backoff).1
              = [.backedOff (some duration)] := by
  unfold PingoraLnBalancer.afterAttempt
  cases outcome with
  | ok invoice => simp
  | error e =>
      by_cases hesource : e.esource = .downstream
      · simp [hesource]
      · rcases hnext : balancer.nextBackoff backoff with ⟨next, backoff'⟩
        cases next with
        | none => simp [hesource, InvoiceEvent.isSelection]
        | some duration => simp [hesource, InvoiceEvent.isSelection]

/-- What the selection of an iteration is. -/
abbrev selectionOf (balancer : PingoraLnBalancer W B Bias E) (request : InvoiceRequest)
    (s : InvoiceLoop W B Bias) : Option Backend :=
  balancer.selectBackend request s.currentSelectionCapacityBias s.world

/-- The selection of an iteration prefers the range, or leaves it to its fallback. -/
theorem selection_prefers (hfinds : balancer.AlwaysFinds)
    (h : BiasState balancer request bias before s)
    {rest : List (InvoiceEvent W Bias E)}
    (hretries : RetriesUniform balancer request bias
      (before ++ .selected s.world s.currentSelectionCapacityBias (selectionOf balancer request s)
        :: rest)) :
    InvoiceEvent.Prefers balancer request bias
      (.selected s.world s.currentSelectionCapacityBias (selectionOf balancer request s)) := by
  cases hcurrent : s.currentSelectionCapacityBias with
  | none =>
      have huniform := h.uniform hcurrent hretries
      show (balancer.snapshot s.world).Prefers request bias (selectionOf balancer request s)
      unfold selectionOf
      rw [hcurrent]
      exact selectBackend_unbiased_prefers (balancer.selection s.world) (hfinds s.world) huniform
  | some current =>
      -- the only bias the loop ever carries is the configured one
      obtain rfl : current = bias := by
        rcases h with h | ⟨h, -⟩
        · rw [hcurrent] at h
          exact Option.some.inj h
        · rw [hcurrent] at h
          cases h
      cases hchosen : selectionOf balancer request s with
      | none => trivial
      | some chosen =>
          unfold selectionOf at hchosen
          rw [hcurrent] at hchosen
          obtain ⟨-, hinside⟩ := selectBackend_biased (balancer.selection s.world) hchosen
          show (balancer.snapshot s.world).Prefers request current (some chosen)
          constructor
          · intro _
            exact ⟨chosen, rfl, hinside⟩
          · intro backend hmem houtside
            cases hmem
            exact absurd hinside houtside

variable [HasServiceErrorSource E]

/-- **One iteration** selects once, first of all, and drops the bias; it goes on without a wait
only to fall back from it. -/
theorem getInvoiceBody_events (balancer : PingoraLnBalancer W B Bias E) (request : InvoiceRequest)
    (s : InvoiceLoop W B Bias) :
    ∃ rest, (balancer.getInvoiceBody request s).1
        = .selected s.world s.currentSelectionCapacityBias (selectionOf balancer request s) :: rest
      ∧ (∀ event ∈ rest, event.isSelection = false)
      ∧ ∀ s', (balancer.getInvoiceBody request s).2 = .again s' →
        s'.currentSelectionCapacityBias = none
          ∧ ((∃ duration, rest.getLast? = some (.backedOff (some duration)))
            ∨ s.currentSelectionCapacityBias.isSome = true
              ∧ selectionOf balancer request s = none ∧ s'.world = balancer.selected s.world) := by
  unfold PingoraLnBalancer.getInvoiceBody selectionOf
  dsimp only
  by_cases hfallback : (s.currentSelectionCapacityBias.isSome
      && (balancer.selectBackend request s.currentSelectionCapacityBias s.world).isNone) = true
  · rw [if_pos hfallback]
    rw [Bool.and_eq_true, Option.isNone_iff_eq_none] at hfallback
    refine ⟨[], rfl, by simp, ?_⟩
    intro s' h
    cases h
    exact ⟨rfl, .inr ⟨hfallback.1, hfallback.2, rfl⟩⟩
  · rw [if_neg hfallback]
    cases hselected : balancer.selectBackend request s.currentSelectionCapacityBias s.world with
    | none =>
        obtain ⟨hselects, hagain⟩ := afterAttempt_events balancer
          (.error (balancer.noBackend request)) (balancer.selected s.world) s.backoff
        refine ⟨_, rfl, hselects, ?_⟩
        intro s' h
        obtain ⟨hnone, duration, hevents⟩ := hagain s' h
        refine ⟨hnone, .inl ⟨duration, ?_⟩⟩
        rw [hevents]
        rfl
    | some backend =>
        obtain ⟨hselects, hagain⟩ := afterAttempt_events balancer
          (balancer.getInvoiceFromBackend request backend (balancer.selected s.world)).1
          (balancer.getInvoiceFromBackend request backend (balancer.selected s.world)).2 s.backoff
        refine ⟨_, rfl, ?_, ?_⟩
        · intro event hmem
          rcases List.mem_cons.mp hmem with rfl | hmem
          · rfl
          · exact hselects event hmem
        · intro s' h
          obtain ⟨hnone, duration, hevents⟩ := hagain s' h
          refine ⟨hnone, .inl ⟨duration, ?_⟩⟩
          rw [hevents]
          rfl

/-- The state of the bias is kept. -/
theorem biasState_step (hkeeps : balancer.SelectionKeeps) (hfinds : balancer.AlwaysFinds)
    (h : BiasState balancer request bias before s) {s' : InvoiceLoop W B Bias}
    (hagain : (balancer.getInvoiceBody request s).2 = .again s') :
    BiasState balancer request bias (before ++ (balancer.getInvoiceBody request s).1) s' := by
  obtain ⟨rest, hevents, -, hnext⟩ := getInvoiceBody_events balancer request s
  obtain ⟨hnone, hwhy⟩ := hnext s' hagain
  refine .inr ⟨hnone, ?_⟩
  rcases hwhy with ⟨duration, hlast⟩ | ⟨hcurrent, hchosen, hworld⟩
  · left
    refine ⟨duration, ?_⟩
    rw [hevents, List.getLast?_append, List.getLast?_cons, hlast]
    rfl
  · right
    rcases h with h | ⟨h, -⟩
    · unfold selectionOf at hchosen
      rw [h] at hchosen
      rw [hworld, hkeeps]
      exact selectBackend_biased_none (balancer.selection s.world) (hfinds s.world) hchosen
    · rw [h] at hcurrent
      cases hcurrent

/-- **The preference is kept** in every run whose retries start uniform: for every balancer with
a bias, every offer and amount and every number of iterations, each attempt takes a backend
inside the range if an acceptable one is inside, and one outside only if none is. -/
theorem preference_kept (balancer : PingoraLnBalancer W B Bias E) (request : InvoiceRequest)
    (bias : Bias) (hbias : balancer.selectionCapacityBias = some bias)
    (hkeeps : balancer.SelectionKeeps) (hfinds : balancer.AlwaysFinds) (n : ℕ) (world : W)
    (hretries : RetriesUniform balancer request bias (balancer.getInvoiceEvents request n world)) :
    ∀ event ∈ balancer.getInvoiceEvents request n world,
      InvoiceEvent.Prefers balancer request bias event := by
  refine TracedLoop.events_forall (balancer.getInvoiceBody request)
    (BiasState balancer request bias) (RetriesUniform balancer request bias) _ ?_ ?_ n []
    { world
      backoff := balancer.getBackoff
      currentSelectionCapacityBias := balancer.selectionCapacityBias } (.inl hbias) hretries
  · intro trace rest h
    exact h.of_append
  · intro before s hstate hretries
    refine ⟨?_, fun s' hagain => biasState_step hkeeps hfinds hstate hagain⟩
    obtain ⟨rest, hevents, hselects, -⟩ := getInvoiceBody_events balancer request s
    rw [hevents] at hretries ⊢
    intro event hmem
    rcases List.mem_cons.mp hmem with rfl | hmem
    · exact selection_prefers hfinds hstate hretries
    · -- the other events of the iteration select nothing
      have hother := hselects event hmem
      cases event with
      | selected world current chosen => cases hother
      | invoiced backend outcome => trivial
      | backedOff next => trivial

end Run

section Sample

open Switchgear.Pool

/-- Two backends with inbound capacities of their own; the first RPC fails. -/
def biasedBalancer (inboundMsat : BackendId → UInt64) :
    PingoraLnBalancer ℕ (List Duration) Unit LnPoolError :=
  let ext : PingoraLnBackendExtension := { partitions := {"default"} }
  { sampleBalancer with
    loadBalancer := fun _ => (LoadBalancer.new true).doUpdate BackendId.addr
      (BackendSet.insertBackend (BackendSet.insertBackend ∅ { id := ⟨1, 1⟩, ext := some ext })
        { id := ⟨2, 1⟩, ext := some ext }) ∅
    metrics := fun _ id => some { healthy := true, nodeEffectiveInboundMsat := inboundMsat id } }

theorem biasedBalancer_keeps (inboundMsat : BackendId → UInt64) :
    (biasedBalancer inboundMsat).SelectionKeeps := fun _ => rfl

theorem biasedBalancer_finds (inboundMsat : BackendId → UInt64) :
    (biasedBalancer inboundMsat).AlwaysFinds := by
  intro world
  apply finds_of_visits
  intro key backend hmem
  exact BackendSelection.mem_visit_inOrder le_rfl hmem

/-- Both nodes have the capacity for the amount, and the retry takes one of them. -/
theorem preference_kept_uniform :
    (biasedBalancer fun _ => 100).AlwaysFinds
    ∧ ∀ event ∈ (biasedBalancer fun _ => 100).getInvoiceEvents sampleRequest 2 0,
      InvoiceEvent.Prefers (biasedBalancer fun _ => 100) sampleRequest () event := by
  refine ⟨biasedBalancer_finds _, ?_⟩
  refine preference_kept (biasedBalancer fun _ => 100) sampleRequest () rfl
    (biasedBalancer_keeps _) (biasedBalancer_finds _) 2 0 ?_
  intro pre duration world current chosen post hsplit
  left
  intro backend hacceptable
  exact ⟨{ healthy := true, nodeEffectiveInboundMsat := 100 }, rfl, rfl⟩

/-- **The preference is lost**: the second node alone is inside the range; the first attempt
takes it and fails, and the retry takes the first node. -/
theorem preference_lost_on_retry :
    let balancer := biasedBalancer fun id => if id.addr = 2 then 100 else 0
    balancer.selectionCapacityBias = some () ∧ balancer.SelectionKeeps ∧ balancer.AlwaysFinds
      ∧ ¬ ∀ n world, ∀ event ∈ balancer.getInvoiceEvents sampleRequest n world,
          InvoiceEvent.Prefers balancer sampleRequest () event := by
  intro balancer
  refine ⟨rfl, biasedBalancer_keeps _, biasedBalancer_finds _, ?_⟩
  intro h
  let ext : PingoraLnBackendExtension := { partitions := {"default"} }
  have hretry : InvoiceEvent.selected 1 none (some { id := ⟨1, 1⟩, ext := some ext })
      ∈ balancer.getInvoiceEvents sampleRequest 2 0 :=
    List.mem_of_getElem? (i := 3) rfl
  have hprefers : (balancer.snapshot 1).Prefers sampleRequest () (some { id := ⟨1, 1⟩, ext := some ext }) :=
    h 2 0 _ hretry
  refine hprefers.outside _ rfl ?_ ?_
  · intro hinside
    obtain ⟨metrics, hmetrics, hwithin⟩ := hinside
    cases hmetrics
    revert hwithin
    decide
  · refine ⟨{ id := ⟨2, 1⟩, ext := some ext }, ⟨?_, ?_⟩, ?_⟩
    · show ((balancer.loadBalancer 1).backends[(⟨2, 1⟩ : BackendId)]?) = _
      decide
    · exact ⟨by decide, ⟨ext, rfl, by decide⟩, rfl⟩
    · exact ⟨{ healthy := true, nodeEffectiveInboundMsat := 100 }, rfl, rfl⟩

end Sample

end Switchgear.Pingora
