/-
  Switchgear.Pingora.Invoice — `PingoraLnBalancer::get_invoice`.

  One call loops: select a backend, ask it for an invoice, and on a failure
  that is not the caller's take an item from the backoff, update the balancer
  and try again.  While a capacity bias is given, the first selection uses it;
  when that finds nothing, the second selects without it at no cost.

  The loop leaves a trace (`InvoiceEvent`).  `InvoiceLaw` is what holds of the
  trace and the result of a call whose backoff yields given durations and then
  ends.

  Main result:
    * `get_invoice_law` — every such call returns, and its trace obeys the law.
-/
import Switchgear.Lib.TracedLoop
import Switchgear.Pingora.Error
import Switchgear.Pingora.Balance
import Switchgear.Pool.Error

namespace Switchgear.Pingora

open Switchgear.Offer Switchgear.Lib

/-! ## §1. The loop. -/

/-- `std::time::Duration`: nanoseconds. -/
abbrev Duration := ℕ

/-- The balancer over a world `W`: all that it shares with its pool, its background
tasks and the clock.  Its backoffs have type `B`, the errors of its pool type `E`. -/
structure PingoraLnBalancer (W B Bias E : Type) where
  loadBalancer : W → LoadBalancer
  /-- The selector with its state, the iteration limit and the capacity test. -/
  selection : W → SelectionConfig Bias
  /-- What a selection leaves behind. -/
  selected : W → W
  metrics : W → MetricsCache
  /-- `PingoraLnClientPool::get_invoice`. -/
  poolGetInvoice : Offer → Backend → Option UInt64 → Option UInt64 → W → Except E String × W
  /-- `PingoraBackoffProvider::get_backoff`. -/
  getBackoff : B
  nextBackoff : B → Option Duration × B
  sleep : Duration → W → W
  /-- `LoadBalancer::update`; its error is only logged. -/
  update : W → W
  runHealthCheck : Bool → W → W
  parallelHealthCheck : Bool
  selectionCapacityBias : Option Bias
  /-- `Debug` of an `Offer`. -/
  debugOffer : Offer → String

/-- What happens in a call. -/
inductive InvoiceEvent (W Bias E : Type) where
  | selected (world : W) (bias : Option Bias) (backend : Option Backend)
  | invoiced (backend : Backend) (outcome : Except (PingoraLnError E) String)
  | backedOff (next : Option Duration)

/-- The variables of the loop. -/
structure InvoiceLoop (W B Bias : Type) where
  world : W
  backoff : B
  currentSelectionCapacityBias : Option Bias

/-- What a call asks for. -/
structure InvoiceRequest where
  offer : Offer
  amountMsat : UInt64
  expirySecs : UInt64
  key : Bytes

namespace PingoraLnBalancer

variable {W B Bias E : Type} [HasServiceErrorSource E] (self : PingoraLnBalancer W B Bias E)
  (request : InvoiceRequest)

def selectBackend (bias : Option Bias) (world : W) : Option Backend :=
  (self.selection world).selectBackend (self.loadBalancer world) (self.metrics world)
    request.offer request.amountMsat request.key bias

def getInvoiceFromBackend (backend : Backend) (world : W) :
    Except (PingoraLnError E) String × W :=
  let (outcome, world) := self.poolGetInvoice request.offer backend (some request.amountMsat)
    (some request.expirySecs) world
  (outcome.mapError (PingoraLnError.fromServiceError
    ("get invoice for offer " ++ request.offer.partition ++ "/"
      ++ Uuid.hyphenated request.offer.id)), world)

/-- The error of an attempt that finds no backend. -/
def noBackend : PingoraLnError E :=
  PingoraLnError.noAvailableNodes .upstream
    ("load balancing invoice request for offer " ++ self.debugOffer request.offer)

/-- What the wait before a retry does. -/
def waitAndUpdate (duration : Duration) (world : W) : W :=
  self.runHealthCheck self.parallelHealthCheck (self.update (self.sleep duration world))

/-- The end of an iteration: return, or take an item from the backoff and go on. -/
def afterAttempt (outcome : Except (PingoraLnError E) String) (world : W) (backoff : B) :
    List (InvoiceEvent W Bias E)
      × LoopNext (InvoiceLoop W B Bias) (Except (PingoraLnError E) String) :=
  match outcome with
  | .ok invoice => ([], .done (.ok invoice))
  | .error e =>
      if e.esource = .downstream then ([], .done (.error e))
      else
        match self.nextBackoff backoff with
        | (some duration, backoff) =>
            ([.backedOff (some duration)], .again
              { world := self.waitAndUpdate duration world
                backoff
                currentSelectionCapacityBias := none })
        | (none, _) => ([.backedOff none], .done (.error e))

/-- One iteration of the loop of `get_invoice`. -/
def getInvoiceBody :
    TracedLoop (InvoiceLoop W B Bias) (InvoiceEvent W Bias E)
      (Except (PingoraLnError E) String) :=
  fun s =>
    let selection := self.selectBackend request s.currentSelectionCapacityBias s.world
    let event := InvoiceEvent.selected s.world s.currentSelectionCapacityBias selection
    let world := self.selected s.world
    if s.currentSelectionCapacityBias.isSome && selection.isNone then
      ([event], .again { s with world, currentSelectionCapacityBias := none })
    else
      match selection with
      | some backend =>
          let (outcome, world) := self.getInvoiceFromBackend request backend world
          let (events, next) := self.afterAttempt outcome world s.backoff
          (event :: .invoiced backend outcome :: events, next)
      | none =>
          let (events, next) :=
            self.afterAttempt (.error (self.noBackend request)) world s.backoff
          (event :: events, next)

/-- `get_invoice`, given up after `fuel` iterations. -/
def getInvoice (fuel : ℕ) (world : W) :
    Option (List (InvoiceEvent W Bias E) × Except (PingoraLnError E) String) :=
  (self.getInvoiceBody request).iterate fuel
    { world
      backoff := self.getBackoff
      currentSelectionCapacityBias := self.selectionCapacityBias }

/-- The backoff yields the durations and then ends. -/
def Yields : B → List Duration → Prop
  | backoff, [] => (self.nextBackoff backoff).1 = none
  | backoff, duration :: durations =>
      (self.nextBackoff backoff).1 = some duration
        ∧ Yields (self.nextBackoff backoff).2 durations

end PingoraLnBalancer

/-! ## §2. The law of a call. -/

section Law

variable {W B Bias E : Type}

/-- A failed attempt that is retried while the backoff lasts. -/
def retriable : Except (PingoraLnError E) String → Bool
  | .ok _ => false
  | .error e => decide (e.esource ≠ .downstream)

namespace InvoiceEvent

def isSelection : InvoiceEvent W Bias E → Bool
  | .selected _ _ _ => true
  | _ => false

def isRpc : InvoiceEvent W Bias E → Bool
  | .invoiced _ _ => true
  | _ => false

/-- The outcome of an attempt, where the event ends one: an RPC, or a selection
without bias that finds no backend. -/
def outcome? (error : PingoraLnError E) :
    InvoiceEvent W Bias E → Option (Except (PingoraLnError E) String)
  | .selected _ none none => some (.error error)
  | .invoiced _ outcome => some outcome
  | _ => none

/-- What a call of `next_backoff` yields. -/
def backoff? : InvoiceEvent W Bias E → Option (Option Duration)
  | .backedOff next => some next
  | _ => none

end InvoiceEvent

variable {balancer : PingoraLnBalancer W B Bias E} {events rest : List (InvoiceEvent W Bias E)}
  {outcome result : Except (PingoraLnError E) String} {durations : List Duration}

/-! ## §3. The end of an iteration. -/

theorem afterAttempt_final (h : retriable outcome = false) (world : W) (backoff : B) :
    balancer.afterAttempt outcome world backoff = ([], .done outcome) := by
  unfold PingoraLnBalancer.afterAttempt
  cases outcome with
  | ok invoice => rfl
  | error e =>
      have hesource : e.esource = .downstream := by simpa [retriable] using h
      simp [hesource]

theorem afterAttempt_exhausted (h : retriable outcome = true) (world : W) {backoff : B}
    (hyields : balancer.Yields backoff []) :
    balancer.afterAttempt outcome world backoff = ([.backedOff none], .done outcome) := by
  unfold PingoraLnBalancer.afterAttempt
  cases outcome with
  | ok invoice => cases h
  | error e =>
      have hesource : e.esource ≠ .downstream := by simpa [retriable] using h
      rcases hnext : balancer.nextBackoff backoff with ⟨next, backoff'⟩
      obtain rfl : next = none := by
        have hnone : (balancer.nextBackoff backoff).1 = none := hyields
        rwa [hnext] at hnone
      simp [hesource]

theorem afterAttempt_retried (h : retriable outcome = true) (world : W) {backoff : B}
    {duration : Duration} (hyields : balancer.Yields backoff (duration :: durations)) :
    ∃ backoff', balancer.Yields backoff' durations
      ∧ balancer.afterAttempt outcome world backoff
          = ([.backedOff (some duration)], .again
              { world := balancer.waitAndUpdate duration world
                backoff := backoff'
                currentSelectionCapacityBias := none }) := by
  unfold PingoraLnBalancer.afterAttempt
  cases outcome with
  | ok invoice => cases h
  | error e =>
      have hesource : e.esource ≠ .downstream := by simpa [retriable] using h
      obtain ⟨hsome, hrest⟩ := hyields
      rcases hnext : balancer.nextBackoff backoff with ⟨next, backoff'⟩
      rw [hnext] at hsome hrest
      obtain rfl : next = some duration := hsome
      exact ⟨backoff', hrest, by simp [hesource]⟩

/-! ## §4. The positions of the RPCs. -/

/-- An element of a list with a head is the head or comes later. -/
theorem split_cons {event : InvoiceEvent W Bias E} {pre post : List (InvoiceEvent W Bias E)}
    {x : InvoiceEvent W Bias E} (h : event :: rest = pre ++ x :: post) :
    (pre = [] ∧ x = event ∧ post = rest)
      ∨ ∃ pre', pre = event :: pre' ∧ rest = pre' ++ x :: post := by
  cases pre with
  | nil =>
      left
      rw [List.nil_append, List.cons.injEq] at h
      exact ⟨rfl, h.1.symm, h.2.symm⟩
  | cons y pre' =>
      right
      rw [List.cons_append, List.cons.injEq] at h
      exact ⟨pre', by rw [h.1], h.2⟩

/-- The first RPC that succeeds, or fails by the caller's fault, is the last event, and
its outcome is the result. -/
def FinalEnds (trace : List (InvoiceEvent W Bias E))
    (result : Except (PingoraLnError E) String) : Prop :=
  ∀ pre backend outcome post, trace = pre ++ .invoiced backend outcome :: post →
    retriable outcome = false → post = [] ∧ result = outcome

theorem FinalEnds.nil : FinalEnds ([] : List (InvoiceEvent W Bias E)) result := by
  intro pre backend outcome post h
  simp at h

theorem FinalEnds.cons (h : FinalEnds rest result) {event : InvoiceEvent W Bias E}
    (hevent : event.isRpc = false) : FinalEnds (event :: rest) result := by
  intro pre backend outcome post hsplit
  rcases split_cons hsplit with ⟨-, rfl, -⟩ | ⟨pre', -, hrest⟩
  · cases hevent
  · exact h pre' backend outcome post hrest

theorem FinalEnds.rpc {backend : Backend} (h : FinalEnds rest result)
    (hfinal : retriable outcome = false → rest = [] ∧ result = outcome) :
    FinalEnds (.invoiced backend outcome :: rest) result := by
  intro pre backend' outcome' post hsplit
  rcases split_cons hsplit with ⟨-, hx, rfl⟩ | ⟨pre', -, hrest⟩
  · cases hx
    exact hfinal
  · exact h pre' backend' outcome' post hrest

/-- What a selection finds is asked next. -/
def FoundAsked (trace : List (InvoiceEvent W Bias E)) : Prop :=
  ∀ pre world bias backend post, trace = pre ++ .selected world bias (some backend) :: post →
    ∃ outcome rest, post = .invoiced backend outcome :: rest

theorem FoundAsked.nil : FoundAsked ([] : List (InvoiceEvent W Bias E)) := by
  intro pre world bias backend post h
  simp at h

theorem FoundAsked.cons (h : FoundAsked rest) {event : InvoiceEvent W Bias E}
    (hevent : ∀ world bias backend, event ≠ .selected world bias (some backend)) :
    FoundAsked (event :: rest) := by
  intro pre world bias backend post hsplit
  rcases split_cons hsplit with ⟨-, hx, -⟩ | ⟨pre', -, hrest⟩
  · exact absurd hx.symm (hevent world bias backend)
  · exact h pre' world bias backend post hrest

theorem FoundAsked.rpc (h : FoundAsked rest) (world : W) (bias : Option Bias) (backend : Backend)
    (outcome : Except (PingoraLnError E) String) :
    FoundAsked (.selected world bias (some backend) :: .invoiced backend outcome :: rest) := by
  intro pre world' bias' backend' post hsplit
  rcases split_cons hsplit with ⟨-, hx, rfl⟩ | ⟨pre', -, hrest⟩
  · cases hx
    exact ⟨outcome, rest, rfl⟩
  · exact (h.cons (by simp)) pre' world' bias' backend' post hrest

variable [HasServiceErrorSource E]
variable (balancer) (request : InvoiceRequest)

/-- A selection is that of the balancer, in the world and with the bias it tells. -/
def Selects : InvoiceEvent W Bias E → Prop
  | .selected world bias backend => backend = balancer.selectBackend request bias world
  | _ => True

/-- The outcome of an RPC is the pool's: the invoice, or an error that is retriable where the
pool's is not the caller's. -/
structure PoolDecides (backend : Backend) (world : W)
    (outcome : Except (PingoraLnError E) String) : Prop where
  invoice : ∀ invoice, outcome = .ok invoice
    ↔ (balancer.poolGetInvoice request.offer backend (some request.amountMsat)
        (some request.expirySecs) world).1 = .ok invoice
  retriable : retriable outcome = true
    ↔ ∃ e, (balancer.poolGetInvoice request.offer backend (some request.amountMsat)
        (some request.expirySecs) world).1 = .error e
      ∧ HasServiceErrorSource.getServiceErrorSource e ≠ .downstream

theorem poolDecides (backend : Backend) (world : W) :
    PoolDecides balancer request backend world
      (balancer.getInvoiceFromBackend request backend world).1 := by
  have houtcome : (balancer.getInvoiceFromBackend request backend world).1
      = (balancer.poolGetInvoice request.offer backend (some request.amountMsat)
          (some request.expirySecs) world).1.mapError (PingoraLnError.fromServiceError
            ("get invoice for offer " ++ request.offer.partition ++ "/"
              ++ Uuid.hyphenated request.offer.id)) := rfl
  rw [houtcome]
  generalize hpool : (balancer.poolGetInvoice request.offer backend (some request.amountMsat)
    (some request.expirySecs) world).1 = pooled
  constructor
  · intro invoice
    rw [hpool]
    cases pooled with
    | ok paid => simp [Except.mapError]
    | error e => simp [Except.mapError]
  · rw [hpool]
    cases pooled with
    | ok paid => simp [Except.mapError, Pingora.retriable]
    | error e =>
        -- the context is put before the error, its side is kept
        have hsource : Pingora.retriable (.error (PingoraLnError.fromServiceError
            ("get invoice for offer " ++ request.offer.partition ++ "/"
              ++ Uuid.hyphenated request.offer.id) e))
            = decide (HasServiceErrorSource.getServiceErrorSource e ≠ .downstream) := rfl
        unfold Except.mapError
        rw [hsource, decide_eq_true_eq]
        simp

/-- Every RPC comes right after its selection and asks what was selected; that was in the
set of the balancer, ready, serving the partition and with cached metrics. -/
def RpcsFollow (trace : List (InvoiceEvent W Bias E)) : Prop :=
  ∀ pre backend outcome post, trace = pre ++ .invoiced backend outcome :: post →
    ∃ world bias, pre.getLast? = some (.selected world bias (some backend))
      ∧ outcome
          = (balancer.getInvoiceFromBackend request backend (balancer.selected world)).1
      ∧ PoolDecides balancer request backend (balancer.selected world) outcome
      ∧ (balancer.loadBalancer world).backends[backend.id]? = some backend.ext
      ∧ SelectionConfig.Acceptable (balancer.metrics world) request.offer backend
          ((balancer.loadBalancer world).ready (balancer.selection world).hashBackend backend)

/-- **The law of a call** whose backoff yields the durations and then ends, and which
starts with the bias. -/
structure InvoiceLaw (durations : List Duration) (bias : Option Bias)
    (trace : List (InvoiceEvent W Bias E)) (result : Except (PingoraLnError E) String) :
    Prop where
  selections_le : trace.countP InvoiceEvent.isSelection
    ≤ durations.length + 1 + if bias.isSome then 1 else 0
  rpcs_le : trace.countP InvoiceEvent.isRpc ≤ durations.length + 1
  selects : ∀ event ∈ trace, Selects balancer request event
  foundAsked : FoundAsked trace
  rpcsFollow : RpcsFollow balancer request trace
  finalEnds : FinalEnds trace result
  /-- All attempts but the last are retriable, and where the last one is, it comes when the
  backoff is exhausted. -/
  last : ∃ failed,
    trace.filterMap (InvoiceEvent.outcome? (balancer.noBackend request)) = failed ++ [result]
      ∧ (∀ outcome ∈ failed, retriable outcome = true)
      ∧ (retriable result = true → failed.length = durations.length)
  /-- Every retriable attempt asks the backoff once, and nothing else asks it. -/
  backoffs : trace.filterMap InvoiceEvent.backoff?
    = (durations.map some ++ [none]).take
        ((trace.filterMap (InvoiceEvent.outcome? (balancer.noBackend request))).countP retriable)

/-! ## §5. One attempt. -/

/-- The events of an attempt and its outcome. -/
inductive Attempt (s : InvoiceLoop W B Bias) :
    List (InvoiceEvent W Bias E) → Except (PingoraLnError E) String → Prop where
  | noBackend (hbias : s.currentSelectionCapacityBias = none)
      (hselected : balancer.selectBackend request none s.world = none) :
      Attempt s [.selected s.world none none] (.error (balancer.noBackend request))
  | rpc (backend : Backend) (outcome : Except (PingoraLnError E) String)
      (hselected : balancer.selectBackend request s.currentSelectionCapacityBias s.world
        = some backend)
      (houtcome : outcome
        = (balancer.getInvoiceFromBackend request backend (balancer.selected s.world)).1) :
      Attempt s [.selected s.world s.currentSelectionCapacityBias (some backend),
        .invoiced backend outcome] outcome

variable {balancer request}
variable {s : InvoiceLoop W B Bias}

/-- An iteration either falls back from the bias or makes an attempt. -/
theorem getInvoiceBody_cases (balancer : PingoraLnBalancer W B Bias E) (request : InvoiceRequest)
    (s : InvoiceLoop W B Bias) :
    (∃ bias, s.currentSelectionCapacityBias = some bias
      ∧ balancer.selectBackend request (some bias) s.world = none
      ∧ balancer.getInvoiceBody request s
          = ([.selected s.world (some bias) none], .again
              { s with
                world := balancer.selected s.world
                currentSelectionCapacityBias := none }))
    ∨ ∃ events outcome world, Attempt balancer request s events outcome
      ∧ balancer.getInvoiceBody request s
          = (events ++ (balancer.afterAttempt outcome world s.backoff).1,
              (balancer.afterAttempt outcome world s.backoff).2) := by
  cases hselected : balancer.selectBackend request s.currentSelectionCapacityBias s.world with
  | none =>
      cases hbias : s.currentSelectionCapacityBias with
      | some bias =>
          left
          rw [hbias] at hselected
          refine ⟨bias, rfl, hselected, ?_⟩
          simp [PingoraLnBalancer.getInvoiceBody, hselected, hbias]
      | none =>
          right
          rw [hbias] at hselected
          refine ⟨_, _, balancer.selected s.world, .noBackend hbias hselected, ?_⟩
          simp [PingoraLnBalancer.getInvoiceBody, hselected, hbias]
  | some backend =>
      right
      refine ⟨_, _,
        (balancer.getInvoiceFromBackend request backend (balancer.selected s.world)).2,
        .rpc backend _ hselected rfl, ?_⟩
      simp [PingoraLnBalancer.getInvoiceBody, hselected]

namespace Attempt

theorem selections (h : Attempt balancer request s events outcome) :
    events.countP InvoiceEvent.isSelection = 1 := by
  cases h <;> rfl

theorem rpcs_le (h : Attempt balancer request s events outcome) :
    events.countP InvoiceEvent.isRpc ≤ 1 := by
  cases h with
  | noBackend => exact Nat.zero_le 1
  | rpc => exact le_rfl

theorem outcomes (h : Attempt balancer request s events outcome) :
    events.filterMap (InvoiceEvent.outcome? (balancer.noBackend request)) = [outcome] := by
  cases h with
  | noBackend => rfl
  | rpc backend =>
      -- a selection that finds a backend ends no attempt, whatever its bias
      cases s.currentSelectionCapacityBias <;> rfl

theorem backoffs (h : Attempt balancer request s events outcome) :
    events.filterMap InvoiceEvent.backoff? = [] := by
  cases h <;> rfl

end Attempt

theorem RpcsFollow.nil : RpcsFollow balancer request [] := by
  intro pre backend outcome post h
  simp at h

theorem RpcsFollow.cons (h : RpcsFollow balancer request rest) {event : InvoiceEvent W Bias E}
    (hevent : event.isRpc = false) : RpcsFollow balancer request (event :: rest) := by
  intro pre backend outcome post hsplit
  rcases split_cons hsplit with ⟨-, rfl, -⟩ | ⟨pre', rfl, hrest⟩
  · cases hevent
  · obtain ⟨world, bias, hlast, hacceptable⟩ := h pre' backend outcome post hrest
    refine ⟨world, bias, ?_, hacceptable⟩
    rw [List.getLast?_cons, hlast]
    rfl

theorem RpcsFollow.rpc (h : RpcsFollow balancer request rest) {world : W} {bias : Option Bias}
    {backend : Backend} (hselected : balancer.selectBackend request bias world = some backend)
    (houtcome : outcome
      = (balancer.getInvoiceFromBackend request backend (balancer.selected world)).1) :
    RpcsFollow balancer request
      (.selected world bias (some backend) :: .invoiced backend outcome :: rest) := by
  intro pre backend' outcome' post hsplit
  rcases split_cons hsplit with ⟨-, hx, -⟩ | ⟨pre', rfl, hsplit'⟩
  · cases hx
  · rcases split_cons hsplit' with ⟨rfl, hx, -⟩ | ⟨pre'', rfl, hrest⟩
    · cases hx
      have hpool := poolDecides balancer request backend (balancer.selected world)
      rw [← houtcome] at hpool
      exact ⟨world, bias, rfl, houtcome, hpool,
        (balancer.selection world).selectBackend_some hselected⟩
    · obtain ⟨world', bias', hlast, hacceptable⟩ := h pre'' backend' outcome' post hrest
      refine ⟨world', bias', ?_, hacceptable⟩
      rw [List.getLast?_cons, List.getLast?_cons, hlast]
      rfl

theorem Attempt.rpcsFollow (h : Attempt balancer request s events outcome)
    (hrest : RpcsFollow balancer request rest) : RpcsFollow balancer request (events ++ rest) := by
  cases h with
  | noBackend => exact hrest.cons rfl
  | rpc backend _ hselected houtcome => exact hrest.rpc hselected houtcome

theorem Attempt.selects (h : Attempt balancer request s events outcome) :
    ∀ event ∈ events, Selects balancer request event := by
  cases h with
  | noBackend _ hselected => exact List.forall_mem_singleton.mpr hselected.symm
  | rpc backend _ hselected =>
      exact List.forall_mem_cons.mpr ⟨hselected.symm, List.forall_mem_singleton.mpr trivial⟩

theorem Attempt.foundAsked (h : Attempt balancer request s events outcome)
    (hrest : FoundAsked rest) : FoundAsked (events ++ rest) := by
  cases h with
  | noBackend => exact hrest.cons (by simp)
  | rpc backend => exact hrest.rpc _ _ backend outcome

theorem Attempt.finalEnds (h : Attempt balancer request s events outcome)
    (hrest : FinalEnds rest result)
    (hfinal : retriable outcome = false → rest = [] ∧ result = outcome) :
    FinalEnds (events ++ rest) result := by
  cases h with
  | noBackend => exact hrest.cons rfl
  | rpc backend => exact (hrest.rpc hfinal).cons rfl

/-! ## §6. The law, iteration by iteration. -/

namespace InvoiceLaw

/-- Falling back from the bias costs a selection and nothing else. -/
theorem fallback {bias : Bias} {world : W}
    (hselected : balancer.selectBackend request (some bias) world = none)
    (h : InvoiceLaw balancer request durations none rest result) :
    InvoiceLaw balancer request durations (some bias) (.selected world (some bias) none :: rest)
      result where
  selections_le := by
    have hle := h.selections_le
    rw [List.countP_cons_of_pos rfl]
    simp only [Option.isSome_none, Option.isSome_some, if_true, Bool.false_eq_true, if_false]
      at hle ⊢
    omega
  rpcs_le := by
    rw [List.countP_cons_of_neg (by simp [InvoiceEvent.isRpc])]
    exact h.rpcs_le
  selects := List.forall_mem_cons.mpr ⟨hselected.symm, h.selects⟩
  foundAsked := h.foundAsked.cons (by simp)
  rpcsFollow := h.rpcsFollow.cons rfl
  finalEnds := h.finalEnds.cons rfl
  last := h.last
  backoffs := h.backoffs

/-- An attempt that is not retried, whatever the backoff has left. -/
theorem final {bias : Option Bias} (h : Attempt balancer request s events outcome)
    (hfinal : retriable outcome = false) :
    InvoiceLaw balancer request durations bias events outcome where
  selections_le := by
    rw [h.selections]
    omega
  rpcs_le := by
    have hle := h.rpcs_le
    omega
  selects := h.selects
  foundAsked := by
    have hasked := h.foundAsked FoundAsked.nil
    rwa [List.append_nil] at hasked
  rpcsFollow := by
    have hfollow := h.rpcsFollow RpcsFollow.nil
    rwa [List.append_nil] at hfollow
  finalEnds := by
    have hends : FinalEnds (events ++ []) outcome :=
      h.finalEnds FinalEnds.nil fun _ => ⟨rfl, rfl⟩
    rwa [List.append_nil] at hends
  last := by
    refine ⟨[], h.outcomes, by simp, ?_⟩
    intro hretriable
    rw [hfinal] at hretriable
    cases hretriable
  backoffs := by
    rw [h.backoffs, h.outcomes]
    simp [hfinal]

/-- A retriable attempt when the backoff is exhausted. -/
theorem exhausted {bias : Option Bias} (h : Attempt balancer request s events outcome)
    (hretriable : retriable outcome = true) :
    InvoiceLaw balancer request [] bias (events ++ [.backedOff none]) outcome where
  selections_le := by
    rw [List.countP_append, h.selections]
    simp [InvoiceEvent.isSelection]
  rpcs_le := by
    have hle := h.rpcs_le
    rw [List.countP_append]
    simpa [InvoiceEvent.isRpc] using hle
  selects := List.forall_mem_append.mpr ⟨h.selects, List.forall_mem_singleton.mpr trivial⟩
  foundAsked := h.foundAsked (FoundAsked.nil.cons (by simp))
  rpcsFollow := h.rpcsFollow (RpcsFollow.nil.cons rfl)
  finalEnds := h.finalEnds (FinalEnds.nil.cons rfl) (by simp [hretriable])
  last := by
    refine ⟨[], ?_, by simp, fun _ => rfl⟩
    rw [List.filterMap_append, h.outcomes]
    rfl
  backoffs := by
    rw [List.filterMap_append, List.filterMap_append, h.outcomes, h.backoffs]
    simp [InvoiceEvent.backoff?, InvoiceEvent.outcome?, hretriable]

/-- A retriable attempt that is retried costs one item. -/
theorem retried {bias : Option Bias} {duration : Duration}
    (h : Attempt balancer request s events outcome) (hretriable : retriable outcome = true)
    (hrest : InvoiceLaw balancer request durations none rest result) :
    InvoiceLaw balancer request (duration :: durations) bias
      (events ++ .backedOff (some duration) :: rest) result where
  selections_le := by
    have hle := hrest.selections_le
    rw [List.countP_append, h.selections,
      List.countP_cons_of_neg (by simp [InvoiceEvent.isSelection]), List.length_cons]
    simp only [Option.isSome_none, Bool.false_eq_true, if_false] at hle
    omega
  rpcs_le := by
    have hle := h.rpcs_le
    have hle' := hrest.rpcs_le
    rw [List.countP_append, List.countP_cons_of_neg (by simp [InvoiceEvent.isRpc]),
      List.length_cons]
    omega
  selects := List.forall_mem_append.mpr
    ⟨h.selects, List.forall_mem_cons.mpr ⟨trivial, hrest.selects⟩⟩
  foundAsked := h.foundAsked (hrest.foundAsked.cons (by simp))
  rpcsFollow := h.rpcsFollow (hrest.rpcsFollow.cons rfl)
  finalEnds := h.finalEnds (hrest.finalEnds.cons rfl) (by simp [hretriable])
  last := by
    obtain ⟨failed, houtcomes, hfailed, hlast⟩ := hrest.last
    refine ⟨outcome :: failed, ?_, ?_, ?_⟩
    · rw [List.filterMap_append, h.outcomes, List.filterMap_cons_none rfl, houtcomes]
      rfl
    · intro outcome' hmem
      rcases List.mem_cons.mp hmem with rfl | hmem
      · exact hretriable
      · exact hfailed outcome' hmem
    · intro hresult
      rw [List.length_cons, List.length_cons, hlast hresult]
  backoffs := by
    have hasked : (InvoiceEvent.backedOff (some duration) :: rest).filterMap
        InvoiceEvent.backoff? = some duration :: rest.filterMap InvoiceEvent.backoff? := rfl
    have houtcomes : (InvoiceEvent.backedOff (some duration) :: rest).filterMap
        (InvoiceEvent.outcome? (balancer.noBackend request))
          = rest.filterMap (InvoiceEvent.outcome? (balancer.noBackend request)) := rfl
    rw [List.filterMap_append, List.filterMap_append, h.outcomes, h.backoffs, hasked,
      houtcomes, hrest.backoffs]
    simp [hretriable]

end InvoiceLaw

/-! ## §7. A whole call. -/

/-- The iterations that are left: one for each duration, one more while the bias is on. -/
def iterationsLeft (durations : List Duration) (s : InvoiceLoop W B Bias) : ℕ :=
  durations.length + if s.currentSelectionCapacityBias.isSome then 1 else 0

theorem iterationsLeft_le (durations : List Duration) (s : InvoiceLoop W B Bias) :
    iterationsLeft durations s ≤ durations.length + 1 := by
  unfold iterationsLeft
  split <;> omega

/-- An iteration that returns does so by the law. -/
theorem getInvoiceBody_done {durations : List Duration} {result : Except (PingoraLnError E) String}
    (hyields : balancer.Yields s.backoff durations)
    (hbody : balancer.getInvoiceBody request s = (events, .done result)) :
    InvoiceLaw balancer request durations s.currentSelectionCapacityBias events result := by
  rcases getInvoiceBody_cases balancer request s with
    ⟨bias, -, -, hfallback⟩ | ⟨prefix', outcome, world', hattempt, heq⟩
  · -- a selection without the bias is tried next
    rw [hfallback] at hbody
    cases hbody
  · rw [heq] at hbody
    cases hretriable : retriable outcome with
    | false =>
        rw [afterAttempt_final hretriable] at hbody
        cases hbody
        rw [List.append_nil]
        exact .final hattempt hretriable
    | true =>
        cases durations with
        | nil =>
            rw [afterAttempt_exhausted hretriable world' hyields] at hbody
            cases hbody
            exact .exhausted hattempt hretriable
        | cons duration durations =>
            obtain ⟨backoff', -, hagain⟩ := afterAttempt_retried hretriable world' hyields
            rw [hagain] at hbody
            cases hbody

/-- An iteration that goes on uses up the bias or a duration, and a run of what is left
continues it by the law. -/
theorem getInvoiceBody_again {durations : List Duration} {s' : InvoiceLoop W B Bias}
    (hyields : balancer.Yields s.backoff durations)
    (hbody : balancer.getInvoiceBody request s = (events, .again s')) :
    ∃ durations', balancer.Yields s'.backoff durations'
      ∧ iterationsLeft durations' s' < iterationsLeft durations s
      ∧ ∀ rest result,
          InvoiceLaw balancer request durations' s'.currentSelectionCapacityBias rest result →
          InvoiceLaw balancer request durations s.currentSelectionCapacityBias (events ++ rest)
            result := by
  rcases getInvoiceBody_cases balancer request s with
    ⟨bias, hbias, hselected, hfallback⟩ | ⟨prefix', outcome, world', hattempt, heq⟩
  · rw [hfallback] at hbody
    cases hbody
    refine ⟨durations, hyields, ?_, ?_⟩
    · simp [iterationsLeft, hbias]
    · intro rest result hlaw
      rw [hbias]
      exact hlaw.fallback hselected
  · rw [heq] at hbody
    cases hretriable : retriable outcome with
    | false =>
        rw [afterAttempt_final hretriable] at hbody
        cases hbody
    | true =>
        cases durations with
        | nil =>
            rw [afterAttempt_exhausted hretriable world' hyields] at hbody
            cases hbody
        | cons duration durations =>
            obtain ⟨backoff', hyields', hagain⟩ :=
              afterAttempt_retried hretriable world' hyields
            rw [hagain] at hbody
            cases hbody
            refine ⟨durations, hyields', ?_, ?_⟩
            · simp only [iterationsLeft, List.length_cons, Option.isSome_none,
                Bool.false_eq_true, if_false]
              omega
            · intro rest result hlaw
              rw [List.append_assoc]
              exact hlaw.retried hattempt hretriable

/-- **Every call returns**, with at most one selection more than the bias and the backoff
allow, and obeys the law: for every world, selection and pool, and every backoff that
yields the durations and then ends. -/
theorem get_invoice_law (balancer : PingoraLnBalancer W B Bias E)
    (request : InvoiceRequest) (world : W) (durations : List Duration)
    (hyields : balancer.Yields balancer.getBackoff durations) :
    ∃ trace result,
      InvoiceLaw balancer request durations balancer.selectionCapacityBias trace result
        ∧ ∀ fuel, durations.length + 2 ≤ fuel →
            balancer.getInvoice request fuel world = some (trace, result) := by
  -- what is left of the backoff is known, but not a function of its state
  obtain ⟨trace, result, hlaw, hfuel⟩ :=
    TracedLoop.iterate_total (balancer.getInvoiceBody request)
      (fun durations s => balancer.Yields s.backoff durations) iterationsLeft
      (fun durations s => InvoiceLaw balancer request durations s.currentSelectionCapacityBias)
      (fun _ _ _ _ => getInvoiceBody_done) (fun _ _ _ _ => getInvoiceBody_again) durations
      { world
        backoff := balancer.getBackoff
        currentSelectionCapacityBias := balancer.selectionCapacityBias } hyields
  refine ⟨trace, result, hlaw, ?_⟩
  intro fuel hle
  apply hfuel
  have hleft := iterationsLeft_le durations
    { world
      backoff := balancer.getBackoff
      currentSelectionCapacityBias := balancer.selectionCapacityBias : InvoiceLoop W B Bias }
  omega

end Law

section Sample

open Switchgear.Pool

/-- A balancer with one backend whose node is out of reach at the first RPC; the world
counts the RPCs. -/
def sampleBalancer : PingoraLnBalancer ℕ (List Duration) Unit LnPoolError where
  loadBalancer _ := (LoadBalancer.new true).doUpdate BackendId.addr
    (BackendSet.insertBackend ∅ { id := ⟨1, 1⟩, ext := some { partitions := {"default"} } }) ∅
  selection _ :=
    { selection := .inOrder
      maxIterations := id
      hashBackend := BackendId.addr
      withinCapacity := fun amountMsat inboundMsat _ => decide (amountMsat ≤ inboundMsat) }
  selected world := world
  metrics _ _ := some { healthy := true, nodeEffectiveInboundMsat := 0 }
  poolGetInvoice _ _ _ _ world :=
    (if world = 0 then
      .error (LnPoolError.fromTonicError { code := .unavailable, message := "" } "invoice")
    else .ok "lnbc1", world + 1)
  getBackoff := [5]
  nextBackoff backoff := (backoff.head?, backoff.tail)
  sleep _ world := world
  update world := world
  runHealthCheck _ world := world
  parallelHealthCheck := false
  selectionCapacityBias := some ()
  debugOffer := Offer.partition

def sampleRequest : InvoiceRequest where
  offer :=
    { partition := "default", id := 1, maxSendable := 10, minSendable := 1,
      metadataJsonString := "", metadataJsonHash := [], timestamp := 0, expires := none }
  amountMsat := 10
  expirySecs := 60
  key := []

theorem get_invoice_law_retried :
    ∃ trace result, InvoiceLaw sampleBalancer sampleRequest [5] (some ()) trace result
      ∧ ∀ fuel, 3 ≤ fuel → sampleBalancer.getInvoice sampleRequest fuel 0 = some (trace, result) :=
  get_invoice_law sampleBalancer sampleRequest 0 [5] ⟨rfl, rfl⟩

/-- The bias finds nothing, the node fails once, and the second RPC succeeds. -/
example : (sampleBalancer.getInvoice sampleRequest 3 0).map
    (fun r => (r.1.filterMap InvoiceEvent.backoff?, r.1.countP InvoiceEvent.isRpc, r.2.toOption))
      = some ([some 5], 2, some "lnbc1") := by decide

end Sample

end Switchgear.Pingora
