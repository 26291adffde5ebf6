/-
  Switchgear.Pool.Connections — the cached connection of a gRPC client, under
  any number of concurrent calls.

  `TonicClnGrpcClient` and `TonicLndGrpcClient` keep one connection in an
  `Arc<Mutex<Option<Arc<_>>>>`.  `inner_connect` clones the cached one, or
  opens one while it holds the mutex; the call runs its RPC on that clone, and
  if it fails `inner_disconnect` empties the cache.  A call is suspended at
  every `await`, and other calls run meanwhile.

  Main results:
    * `calls_cases` — what one event can do,
    * `connectionsInv_step` — the cached connection is the newest one, whoever
      opens one has the mutex and an empty cache, and nobody else keeps it,
    * `calls_keep_cached` — nothing but a disconnect drops a connection,
    * `connects_alone` — if no connection is established while a call holds an
      older one, every disconnect drops its own,
    * `disconnects_own_iff` — every disconnect of a run drops its own
      connection IFF, each time, that is the newest one or nothing is cached.
-/
import Switchgear.Lib.Machine
import Switchgear.Pool.Grpc

namespace Switchgear.Pool

open Switchgear.Offer Switchgear.Lib

/-! ## §1. The client and its calls. -/

/-- `Arc<T>`: clones share the pointer, and every `Arc::new` gets one of its own. -/
structure Arc (T : Type) where
  ptr : ℕ
  value : T
  deriving DecidableEq

/-- The `await` a call of `get_invoice` or `get_metrics` is suspended at. -/
inductive CallState (Inner : Type) where
  /-- `inner_connect` waits for the mutex. -/
  | lockingToConnect (request : LnRpcRequest)
  /-- `inner_connect` has the mutex and opens a connection. -/
  | connecting (request : LnRpcRequest)
  /-- The RPC runs on the connection. -/
  | requesting (request : LnRpcRequest) (inner : Arc Inner)
  /-- The RPC failed, and `inner_disconnect` waits for the mutex. -/
  | lockingToDisconnect (inner : Arc Inner) (e : LnPoolError)

/-- The connection a call has in its hands. -/
def CallState.inner? {Inner : Type} : CallState Inner → Option (Arc Inner)
  | .lockingToConnect _ => none
  | .connecting _ => none
  | .requesting _ inner => some inner
  | .lockingToDisconnect inner _ => some inner

/-- One client: what is in the mutex, the call that has locked it, the number of
connections ever established, and the calls in flight. -/
structure Connections (ι Inner : Type) where
  inner : Option (Arc Inner)
  owner : Option ι
  established : ℕ
  calls : ι → Option (CallState Inner)

/-- What happens next, and to which call.  Any call that waits for the mutex may get it once it
is free; `drop` is the caller dropping the future. -/
inductive CallEvent (ι Channel Node : Type) where
  | call (k : ι) (request : LnRpcRequest)
  | lock (k : ι)
  | connect (k : ι) (outcome : ChannelOutcome Channel)
  | reply (k : ι) (node : Node)
  | drop (k : ι)

/-- What an event shows: nothing, the result of a call, or a disconnect (the connection that
failed, and what the cache lost) with the error the call returns. -/
inductive CallOutput (Inner : Type) where
  | pending
  | returned (result : Except LnPoolError LnRpcResponse)
  | disconnected (failed : Arc Inner) (discarded : Option (Arc Inner)) (e : LnPoolError)

/-- A disconnect drops the connection that failed, or nothing. -/
def CallOutput.DiscardsOwn {Inner : Type} : CallOutput Inner → Prop
  | .disconnected failed discarded _ => ∀ c, discarded = some c → c.ptr = failed.ptr
  | _ => True

variable {ι Channel Inner Node : Type}

namespace Connections

/-- `Default::default()`: no connection, the mutex free. -/
def start : Connections ι Inner where
  inner := none
  owner := none
  established := 0
  calls := fun _ => none

/-- Call `k` has connection `c` in its hands. -/
def Holds (s : Connections ι Inner) (k : ι) (c : Arc Inner) : Prop :=
  (s.calls k).bind CallState.inner? = some c

variable [DecidableEq ι]

/-- Call `k` goes on to its next `await`, or ends. -/
def resume (s : Connections ι Inner) (k : ι) (call : Option (CallState Inner)) :
    Connections ι Inner :=
  { s with calls := Function.update s.calls k call }

/-- `inner_connect`, from the lock on: a clone of the cached connection, or the mutex is
kept while one is opened. -/
def innerConnect (s : Connections ι Inner) (k : ι) (request : LnRpcRequest) :
    Connections ι Inner :=
  match s.inner with
  | none => { s with owner := some k }.resume k (some (.connecting request))
  | some inner => s.resume k (some (.requesting request inner))

/-- `inner_connect`, once the connection is established: it is cached, and the mutex free. -/
def cache (s : Connections ι Inner) (k : ι) (request : LnRpcRequest) (value : Inner) :
    Connections ι Inner :=
  let inner : Arc Inner := { ptr := s.established, value }
  { s with inner := some inner, owner := none, established := s.established + 1 }.resume k
    (some (.requesting request inner))

/-- `inner_disconnect`, from the lock on. -/
def innerDisconnect (s : Connections ι Inner) (k : ι) : Connections ι Inner :=
  { s with inner := none }.resume k none

end Connections

variable [DecidableEq ι]

/-- `get_invoice` and `get_metrics`, one `await` at a time, for all calls on one client.  An
event that is not enabled does nothing. -/
def InnerGrpcClient.calls (client : InnerGrpcClient Channel Inner Node) :
    Machine (Connections ι Inner) (CallEvent ι Channel Node) (CallOutput Inner) :=
  fun s event =>
    match event with
    | .call k request =>
        match s.calls k with
        | none => (.pending, s.resume k (some (.lockingToConnect request)))
        | some _ => (.pending, s)
    | .lock k =>
        match s.owner, s.calls k with
        | none, some (.lockingToConnect request) => (.pending, s.innerConnect k request)
        -- whatever is cached goes, not what failed
        | none, some (.lockingToDisconnect inner e) =>
            (.disconnected inner s.inner e, s.innerDisconnect k)
        | _, _ => (.pending, s)
    | .connect k outcome =>
        match s.calls k with
        | some (.connecting request) =>
            match client.connect outcome with
            -- the `?` of `inner_connect` and that of the caller
            | .error e => (.returned (.error e), { s with owner := none }.resume k none)
            | .ok value => (.pending, s.cache k request value)
        | _ => (.pending, s)
    | .reply k node =>
        match s.calls k with
        | some (.requesting request inner) =>
            match client.rpc inner.value request node with
            | .ok response => (.returned (.ok response), s.resume k none)
            -- `r` is returned only after the disconnect
            | .error e => (.pending, s.resume k (some (.lockingToDisconnect inner e)))
        | _ => (.pending, s)
    | .drop k =>
        -- the guard, if the call has it, goes with the future
        (.pending,
          { s with owner := if s.owner = some k then none else s.owner }.resume k none)

/-- All calls on one `TonicClnGrpcClient`. -/
def TonicClnGrpcClient.calls (sha256 : Sha256) (self : TonicClnGrpcClient) :
    Machine (Connections ι (InnerTonicClnGrpcClient Channel)) (CallEvent ι Channel ClnNode)
      (CallOutput (InnerTonicClnGrpcClient Channel)) :=
  (self.grpc sha256).calls

/-- All calls on one `TonicLndGrpcClient`. -/
def TonicLndGrpcClient.calls (sha256 : Sha256) (url : String) (self : TonicLndGrpcClient) :
    Machine (Connections ι (InnerTonicLndGrpcClient Channel)) (CallEvent ι Channel LndNode)
      (CallOutput (InnerTonicLndGrpcClient Channel)) :=
  (self.grpc sha256 url).calls

/-! ## §2. What one event does. -/

section Steps

variable {client : InnerGrpcClient Channel Inner Node} {s : Connections ι Inner}

/-- What an event does when it is enabled, or nothing. -/
inductive CallStep (client : InnerGrpcClient Channel Inner Node) (s : Connections ι Inner) :
    CallEvent ι Channel Node → CallOutput Inner × Connections ι Inner → Prop where
  | idle (event : CallEvent ι Channel Node) : CallStep client s event (.pending, s)
  | call (k : ι) (request : LnRpcRequest) (hcall : s.calls k = none) :
      CallStep client s (.call k request)
        (.pending, s.resume k (some (.lockingToConnect request)))
  | connectLock (k : ι) (request : LnRpcRequest) (howner : s.owner = none)
      (hcall : s.calls k = some (.lockingToConnect request)) :
      CallStep client s (.lock k) (.pending, s.innerConnect k request)
  | disconnectLock (k : ι) (inner : Arc Inner) (e : LnPoolError) (howner : s.owner = none)
      (hcall : s.calls k = some (.lockingToDisconnect inner e)) :
      CallStep client s (.lock k) (.disconnected inner s.inner e, s.innerDisconnect k)
  | refused (k : ι) (outcome : ChannelOutcome Channel) (request : LnRpcRequest)
      (e : LnPoolError) (hcall : s.calls k = some (.connecting request)) :
      CallStep client s (.connect k outcome)
        (.returned (.error e), { s with owner := none }.resume k none)
  | cached (k : ι) (outcome : ChannelOutcome Channel) (request : LnRpcRequest) (value : Inner)
      (hcall : s.calls k = some (.connecting request))
      (hvalue : client.connect outcome = .ok value) :
      CallStep client s (.connect k outcome) (.pending, s.cache k request value)
  | answered (k : ι) (node : Node) (request : LnRpcRequest) (inner : Arc Inner)
      (response : LnRpcResponse) (hcall : s.calls k = some (.requesting request inner)) :
      CallStep client s (.reply k node) (.returned (.ok response), s.resume k none)
  | failed (k : ι) (node : Node) (request : LnRpcRequest) (inner : Arc Inner)
      (e : LnPoolError) (hcall : s.calls k = some (.requesting request inner)) :
      CallStep client s (.reply k node)
        (.pending, s.resume k (some (.lockingToDisconnect inner e)))
  | dropped (k : ι) :
      CallStep client s (.drop k) (.pending,
        { s with owner := if s.owner = some k then none else s.owner }.resume k none)

theorem calls_cases (client : InnerGrpcClient Channel Inner Node) (s : Connections ι Inner)
    (event : CallEvent ι Channel Node) : CallStep client s event (client.calls s event) := by
  unfold InnerGrpcClient.calls
  cases event with
  | call k request =>
      dsimp only
      split
      · rename_i hcall
        exact .call k request hcall
      · exact .idle _
  | lock k =>
      dsimp only
      split
      · rename_i request howner hcall
        exact .connectLock k request howner hcall
      · rename_i inner e howner hcall
        exact .disconnectLock k inner e howner hcall
      · exact .idle _
  | connect k outcome =>
      dsimp only
      split
      · rename_i request hcall
        split
        · rename_i e herror
          exact .refused k outcome request e hcall
        · rename_i value hvalue
          exact .cached k outcome request value hcall hvalue
      · exact .idle _
  | reply k node =>
      dsimp only
      split
      · rename_i request inner hcall
        split
        · exact .answered k node request inner _ hcall
        · exact .failed k node request inner _ hcall
      · exact .idle _
  | drop k => exact .dropped k

/-! ## §3. The invariant. -/

/-- The cached connection is the newest one, nobody holds one yet to come, a call that opens
one has the mutex while nothing is cached, and the mutex is never kept for anything else. -/
structure ConnectionsInv (s : Connections ι Inner) : Prop where
  newest : ∀ c, s.inner = some c → c.ptr + 1 = s.established
  older : ∀ k c, s.Holds k c → c.ptr < s.established
  locked : ∀ k request, s.calls k = some (.connecting request) →
    s.owner = some k ∧ s.inner = none
  kept : ∀ k, s.owner = some k → ∃ request, s.calls k = some (.connecting request)

omit [DecidableEq ι] in
theorem connectionsInv_start : ConnectionsInv (Connections.start : Connections ι Inner) where
  newest := by
    intro c hc
    cases hc
  older := by
    intro k c hc
    cases hc
  locked := by
    intro k request hcall
    cases hcall
  kept := by
    intro k howner
    cases howner

omit [DecidableEq ι] in
theorem Connections.holds_iff {s : Connections ι Inner} {k : ι} {call : CallState Inner}
    (hcall : s.calls k = some call) (c : Arc Inner) :
    s.Holds k c ↔ call.inner? = some c := by
  unfold Holds
  rw [hcall]
  rfl

theorem Connections.holds_update {s : Connections ι Inner} {inner : Option (Arc Inner)}
    {owner : Option ι} {established : ℕ} {k : ι} {call : Option (CallState Inner)} {j : ι}
    {c : Arc Inner}
    (h : Holds { inner, owner, established, calls := Function.update s.calls k call } j c) :
    (j = k ∧ call.bind CallState.inner? = some c) ∨ (j ≠ k ∧ s.Holds j c) := by
  unfold Holds at h
  dsimp only at h
  by_cases hj : j = k
  · rw [hj, Function.update_self] at h
    exact .inl ⟨hj, h⟩
  · rw [Function.update_of_ne hj] at h
    exact .inr ⟨hj, h⟩

/-- **The frame rule**: the invariant is kept by a step of one call that does not take the
mutex or fill the cache behind the back of another one. -/
theorem ConnectionsInv.update {s : Connections ι Inner} (h : ConnectionsInv s)
    {inner : Option (Arc Inner)} {owner : Option ι} {established : ℕ} {k : ι}
    {call : Option (CallState Inner)} (hle : s.established ≤ established)
    (hinner : ∀ c, inner = some c → c.ptr + 1 = established)
    (hheld : ∀ c, call.bind CallState.inner? = some c → c.ptr < established)
    (hopens : ∀ request, call = some (.connecting request) → owner = some k ∧ inner = none)
    (hothers : ∀ j, j ≠ k → s.owner = some j → s.inner = none →
      owner = some j ∧ inner = none)
    (howner : ∀ j, owner = some j →
      (j = k ∧ ∃ request, call = some (.connecting request)) ∨ (j ≠ k ∧ s.owner = some j)) :
    ConnectionsInv { inner, owner, established, calls := Function.update s.calls k call } where
  newest := hinner
  older := by
    intro j c hc
    rcases Connections.holds_update hc with ⟨-, hc⟩ | ⟨-, hc⟩
    · exact hheld c hc
    · have hlt := h.older j c hc
      dsimp only
      omega
  locked := by
    intro j request hcall
    dsimp only at hcall ⊢
    by_cases hj : j = k
    · rw [hj, Function.update_self] at hcall
      rw [hj]
      exact hopens request hcall
    · rw [Function.update_of_ne hj] at hcall
      obtain ⟨howns, hnone⟩ := h.locked j request hcall
      exact hothers j hj howns hnone
  kept := by
    intro j howns
    dsimp only at howns ⊢
    rcases howner j howns with ⟨rfl, hopening⟩ | ⟨hj, hbefore⟩
    · rw [Function.update_self]
      exact hopening
    · rw [Function.update_of_ne hj]
      exact h.kept j hbefore

/-- A call that goes on without the mutex, the cache and a new connection. -/
theorem ConnectionsInv.resume (h : ConnectionsInv s) {k : ι} {call : Option (CallState Inner)}
    (hnot : s.owner ≠ some k)
    (hheld : ∀ c, call.bind CallState.inner? = some c → c.ptr < s.established)
    (hopens : ∀ request, call ≠ some (.connecting request)) :
    ConnectionsInv (s.resume k call) := by
  unfold Connections.resume
  refine h.update (Nat.le_refl _) h.newest hheld ?_ ?_ ?_
  · intro request hcall
    exact absurd hcall (hopens request)
  · intro j _ howns hnone
    exact ⟨howns, hnone⟩
  · intro j howns
    right
    refine ⟨?_, howns⟩
    intro hj
    rw [hj] at howns
    exact hnot howns

/-- A call that ends, and lets go of the mutex if it has it. -/
theorem ConnectionsInv.release (h : ConnectionsInv s) {k : ι} {owner : Option ι}
    (howner : ∀ j, owner = some j ↔ j ≠ k ∧ s.owner = some j) :
    ConnectionsInv ({ s with owner }.resume k none) := by
  unfold Connections.resume
  refine h.update (Nat.le_refl _) h.newest ?_ ?_ ?_ ?_
  · intro c hc
    cases hc
  · intro request hcall
    cases hcall
  · intro j hj howns hnone
    exact ⟨(howner j).mpr ⟨hj, howns⟩, hnone⟩
  · intro j howns
    exact .inr ((howner j).mp howns)

omit [DecidableEq ι] in
/-- A call in any other place does not have the mutex. -/
theorem ConnectionsInv.not_owner (h : ConnectionsInv s) {k : ι}
    (hcall : ∀ request, s.calls k ≠ some (.connecting request)) : s.owner ≠ some k := by
  intro howner
  obtain ⟨request, hconnecting⟩ := h.kept k howner
  exact hcall request hconnecting

theorem connectionsInv_innerConnect (h : ConnectionsInv s) (howner : s.owner = none) (k : ι)
    (request : LnRpcRequest) : ConnectionsInv (s.innerConnect k request) := by
  unfold Connections.innerConnect
  split
  · rename_i hnone
    unfold Connections.resume
    refine h.update (Nat.le_refl _) h.newest ?_ ?_ ?_ ?_
    · intro c hc
      cases hc
    · intro _ _
      exact ⟨rfl, hnone⟩
    · -- nobody else has the mutex
      intro j _ howns
      rw [howner] at howns
      cases howns
    · intro j howns
      exact .inl ⟨(Option.some.inj howns).symm, request, rfl⟩
  · rename_i inner hsome
    refine h.resume (by simp [howner]) ?_ ?_
    · intro c hc
      obtain rfl : inner = c := Option.some.inj hc
      have hnewest := h.newest inner hsome
      omega
    · intro _ hcall
      cases hcall

theorem connectionsInv_innerDisconnect (h : ConnectionsInv s) (howner : s.owner = none)
    (k : ι) : ConnectionsInv (s.innerDisconnect k) := by
  unfold Connections.innerDisconnect Connections.resume
  refine h.update (Nat.le_refl _) ?_ ?_ ?_ ?_ ?_
  · intro c hc
    cases hc
  · intro c hc
    cases hc
  · intro request hcall
    cases hcall
  · intro j _ howns
    rw [howner] at howns
    cases howns
  · intro j howns
    rw [howner] at howns
    cases howns

theorem connectionsInv_cache (h : ConnectionsInv s) {k : ι} {request : LnRpcRequest}
    (hcall : s.calls k = some (.connecting request)) (value : Inner) :
    ConnectionsInv (s.cache k request value) := by
  unfold Connections.cache Connections.resume
  refine h.update (Nat.le_succ _) ?_ ?_ ?_ ?_ ?_
  · intro c hc
    obtain rfl := Option.some.inj hc
    rfl
  · intro c hc
    obtain rfl := Option.some.inj hc
    exact Nat.lt_succ_self _
  · intro _ hopens
    cases hopens
  · -- the mutex is the call's own
    intro j hj howns
    rw [(h.locked k request hcall).1] at howns
    exact absurd (Option.some.inj howns).symm hj
  · intro j howns
    cases howns

/-- **One event keeps the invariant.** -/
theorem connectionsInv_step (h : ConnectionsInv s) (event : CallEvent ι Channel Node) :
    ConnectionsInv (client.calls s event).2 := by
  have hstep := calls_cases client s event
  generalize client.calls s event = next at hstep ⊢
  cases hstep with
  | idle => exact h
  | call k request hcall =>
      refine h.resume (h.not_owner (by simp [hcall])) ?_ ?_
      · intro c hc
        cases hc
      · intro _ hopens
        cases hopens
  | connectLock k request howner hcall => exact connectionsInv_innerConnect h howner k request
  | disconnectLock k inner e howner hcall => exact connectionsInv_innerDisconnect h howner k
  | refused k outcome request e hcall =>
      -- the mutex was the call's own, so it is free now
      apply h.release
      intro j
      rw [(h.locked k request hcall).1]
      constructor
      · intro howns
        cases howns
      · intro hj
        exact absurd (Option.some.inj hj.2).symm hj.1
  | cached k outcome request value hcall hvalue => exact connectionsInv_cache h hcall value
  | answered k node request inner response hcall =>
      refine h.resume (h.not_owner (by simp [hcall])) ?_ ?_
      · intro c hc
        cases hc
      · intro _ hopens
        cases hopens
  | failed k node request inner e hcall =>
      refine h.resume (h.not_owner (by simp [hcall])) ?_ ?_
      · intro c hc
        obtain rfl : inner = c := Option.some.inj hc
        exact h.older k inner ((Connections.holds_iff hcall inner).mpr rfl)
      · intro _ hopens
        cases hopens
  | dropped k =>
      apply h.release
      intro j
      by_cases howner : s.owner = some k
      · rw [if_pos howner, howner]
        constructor
        · intro howns
          cases howns
        · intro hj
          exact absurd (Option.some.inj hj.2).symm hj.1
      · rw [if_neg howner]
        constructor
        · intro howns
          refine ⟨?_, howns⟩
          intro hj
          rw [hj] at howns
          exact howner howns
        · intro hj
          exact hj.2

/-! ## §4. Who drops a connection, and which one. -/

/-- **Nothing but a disconnect drops a cached connection.** -/
theorem calls_keep_cached (h : ConnectionsInv s) {c : Arc Inner} (hc : s.inner = some c)
    (event : CallEvent ι Channel Node) :
    (client.calls s event).2.inner = some c
      ∨ ∃ failed e, (client.calls s event).1 = .disconnected failed (some c) e := by
  have hstep := calls_cases client s event
  generalize client.calls s event = next at hstep ⊢
  cases hstep with
  | idle => exact .inl hc
  | call k request hcall => exact .inl hc
  | connectLock k request howner hcall =>
      left
      unfold Connections.innerConnect
      rw [hc]
      exact hc
  | disconnectLock k inner e howner hcall =>
      right
      exact ⟨inner, e, by rw [hc]⟩
  | refused k outcome request e hcall => exact .inl hc
  | cached k outcome request value hcall hvalue =>
      -- whoever opens a connection found the cache empty, and has the mutex since
      rw [(h.locked k request hcall).2] at hc
      cases hc
  | answered k node request inner response hcall => exact .inl hc
  | failed k node request inner e hcall => exact .inl hc
  | dropped k => exact .inl hc

/-- What a disconnect drops is no older than the connection that failed. -/
def CallOutput.DropsNoOlder : CallOutput Inner → Prop
  | .disconnected failed discarded _ => ∀ c, discarded = some c → failed.ptr ≤ c.ptr
  | _ => True

theorem calls_dropsNoOlder (h : ConnectionsInv s) (event : CallEvent ι Channel Node) :
    (client.calls s event).1.DropsNoOlder := by
  have hstep := calls_cases client s event
  generalize client.calls s event = next at hstep ⊢
  cases hstep with
  | disconnectLock k failed e howner hcall =>
      intro c hc
      have hnewest := h.newest c hc
      have hfailed : failed.ptr < s.established :=
        h.older k failed ((Connections.holds_iff hcall failed).mpr rfl)
      omega
  | idle => trivial
  | call => trivial
  | connectLock => trivial
  | refused => trivial
  | cached => trivial
  | answered => trivial
  | failed => trivial
  | dropped => trivial

/-- The condition on an event: the call that gets the mutex to disconnect does not come too
late, that is, no connection has been established since the one that failed, or nothing is
cached any more. -/
def NewestOrEmpty (s : Connections ι Inner) : CallEvent ι Channel Node → Prop
  | .lock k =>
      match s.owner, s.calls k with
      | none, some (.lockingToDisconnect failed _) =>
          failed.ptr + 1 = s.established ∨ s.inner = none
      | _, _ => True
  | _ => True

omit [DecidableEq ι] in
/-- The cache loses the connection that failed IFF that is the newest one. -/
theorem ConnectionsInv.own_iff (h : ConnectionsInv s) (failed : Arc Inner) :
    (∀ c, s.inner = some c → c.ptr = failed.ptr)
      ↔ failed.ptr + 1 = s.established ∨ s.inner = none := by
  cases hinner : s.inner with
  | none => simp
  | some c =>
      -- pointers are numbers, and the cached one is the last
      have hnewest := h.newest c hinner
      constructor
      · intro hown
        left
        have heq := hown c rfl
        omega
      · intro hfailed c' hc'
        obtain rfl : c = c' := Option.some.inj hc'
        rcases hfailed with hfailed | hnone
        · omega
        · cases hnone

/-- **The step that drops another connection**: a call disconnects, another one has been
established meanwhile, and something is cached. -/
theorem discardsOwn_step_iff (h : ConnectionsInv s) (event : CallEvent ι Channel Node) :
    (client.calls s event).1.DiscardsOwn ↔ NewestOrEmpty s event := by
  cases event with
  | lock k =>
      unfold InnerGrpcClient.calls NewestOrEmpty
      dsimp only
      split
      · rename_i request howner hcall
        rw [howner, hcall]
        exact Iff.rfl
      · rename_i failed e howner hcall
        rw [howner, hcall]
        exact h.own_iff failed
      · -- the call does not disconnect, so the condition asks nothing
        rename_i _ _ _ hother
        split
        · rename_i failed e howner hcall
          exact absurd hcall (hother failed e howner)
        · exact Iff.rfl
  | call k request =>
      unfold InnerGrpcClient.calls
      dsimp only
      split <;> exact Iff.rfl
  | connect k outcome =>
      unfold InnerGrpcClient.calls
      dsimp only
      split
      · split <;> exact Iff.rfl
      · exact Iff.rfl
  | reply k node =>
      unfold InnerGrpcClient.calls
      dsimp only
      split
      · split <;> exact Iff.rfl
      · exact Iff.rfl
  | drop k => exact Iff.rfl

/-! ## §5. Runs. -/

/-- What a run leaves alone: a cached connection stays cached while nobody disconnects. -/
theorem run_keeps_cached (h : ConnectionsInv s) {c : Arc Inner} (hc : s.inner = some c)
    (events : List (CallEvent ι Channel Node))
    (hquiet : ∀ out ∈ (client.calls.run s events).1, ∀ failed discarded e,
      out ≠ .disconnected failed discarded e) :
    (client.calls.run s events).2.inner = some c := by
  have hinv := Machine.run_invariant client.calls
    (fun s => ConnectionsInv s ∧ s.inner = some c)
    (fun s event => ∀ failed discarded e,
      (client.calls s event).1 ≠ .disconnected failed discarded e)
    (by
      intro s event hs hquiet
      refine ⟨connectionsInv_step hs.1 event, ?_⟩
      rcases calls_keep_cached hs.1 hs.2 event with hkept | ⟨failed, e, hout⟩
      · exact hkept
      · exact absurd hout (hquiet failed _ e))
    s events ⟨h, hc⟩ (Machine.along_of_answers _ _ s events hquiet)
  exact hinv.2

/-- A disconnect never drops a connection older than the one that failed: one that does not
drop its own drops a later one. -/
theorem run_dropsNoOlder (events : List (CallEvent ι Channel Node)) :
    ∀ out ∈ (client.calls.run Connections.start events).1, out.DropsNoOlder := by
  have hall := Machine.run_answers client.calls ConnectionsInv (fun _ _ => True)
    (fun out _ => out.DropsNoOlder)
    (by intro s event hs _; exact connectionsInv_step hs event)
    (by intro s event hs _; exact calls_dropsNoOlder hs event)
    (by intro s event out _ _ hout; exact hout)
    Connections.start events connectionsInv_start
    (client.calls.along_of_forall _ events fun _ _ _ => trivial)
  exact hall.1

/-- Every disconnect drops its own connection IFF none comes too late. -/
theorem run_discardsOwn_iff (client : InnerGrpcClient Channel Inner Node)
    (events : List (CallEvent ι Channel Node)) :
    (∀ out ∈ (client.calls.run Connections.start events).1, out.DiscardsOwn)
      ↔ client.calls.Along NewestOrEmpty Connections.start events := by
  apply Machine.run_forall_iff client.calls ConnectionsInv (fun _ => True)
  · intro s event hs _
    exact ⟨connectionsInv_step hs event, discardsOwn_step_iff hs event⟩
  · exact connectionsInv_start
  · intro _ _
    trivial

/-- A connection is established while no call has one in its hands. -/
def ConnectsAlone (client : InnerGrpcClient Channel Inner Node) (s : Connections ι Inner) :
    CallEvent ι Channel Node → Prop
  | .connect k outcome => ∀ request value, s.calls k = some (.connecting request) →
      client.connect outcome = .ok value → ∀ j c, ¬ s.Holds j c
  | _ => True

/-- Every connection in the hands of a call is the newest one. -/
def HoldsNewest (s : Connections ι Inner) : Prop :=
  ∀ k c, s.Holds k c → c.ptr + 1 = s.established


theorem HoldsNewest.update (h : HoldsNewest s) {inner : Option (Arc Inner)} {owner : Option ι}
    {k : ι} {call : Option (CallState Inner)}
    (hheld : ∀ c, call.bind CallState.inner? = some c → c.ptr + 1 = s.established) :
    HoldsNewest { s with inner, owner, calls := Function.update s.calls k call } := by
  intro j c hc
  rcases Connections.holds_update hc with ⟨-, hc⟩ | ⟨-, hc⟩
  · exact hheld c hc
  · exact h j c hc

/-- A call that gives up its connection, or has none yet. -/
theorem HoldsNewest.letGo (h : HoldsNewest s) {inner : Option (Arc Inner)} {owner : Option ι}
    {k : ι} {call : Option (CallState Inner)} (hcall : call.bind CallState.inner? = none) :
    HoldsNewest { s with inner, owner, calls := Function.update s.calls k call } := by
  apply h.update
  intro c hc
  rw [hcall] at hc
  cases hc

theorem holdsNewest_step (hinv : ConnectionsInv s) (h : HoldsNewest s)
    (event : CallEvent ι Channel Node) (halone : ConnectsAlone client s event) :
    HoldsNewest (client.calls s event).2 := by
  have hstep := calls_cases client s event
  generalize client.calls s event = next at hstep ⊢
  cases hstep with
  | idle => exact h
  | call k request hcall => exact h.letGo rfl
  | connectLock k request howner hcall =>
      unfold Connections.innerConnect
      split
      · exact h.letGo rfl
      · -- a clone of the cached connection, which is the newest
        rename_i inner hsome
        apply h.update
        intro c hc
        obtain rfl : inner = c := Option.some.inj hc
        exact hinv.newest inner hsome
  | disconnectLock k inner e howner hcall => exact h.letGo rfl
  | refused k outcome request e hcall => exact h.letGo rfl
  | cached k outcome request value hcall hvalue =>
      -- the only one left is the new one
      intro j c hc
      rcases Connections.holds_update hc with ⟨-, hc⟩ | ⟨-, hc⟩
      · obtain rfl := Option.some.inj hc
        rfl
      · exact absurd hc (halone request value hcall hvalue j c)
  | answered k node request inner response hcall => exact h.letGo rfl
  | failed k node request inner e hcall =>
      apply h.update
      intro c hc
      exact h k c ((Connections.holds_iff hcall c).mpr hc)
  | dropped k => exact h.letGo rfl

omit [DecidableEq ι] in
/-- A call that disconnects has the newest connection in its hands. -/
theorem HoldsNewest.newestOrEmpty (h : HoldsNewest s) (event : CallEvent ι Channel Node) :
    NewestOrEmpty s event := by
  cases event with
  | lock k =>
      unfold NewestOrEmpty
      dsimp only
      split
      · rename_i failed e howner hcall
        exact .inl (h k failed ((Connections.holds_iff hcall failed).mpr rfl))
      · trivial
  | call => trivial
  | connect => trivial
  | reply => trivial
  | drop => trivial

/-- **The overlap behind it**: if no connection is established while a call has another one
in its hands, every disconnect drops its own. -/
theorem connects_alone (events : List (CallEvent ι Channel Node))
    (h : client.calls.Along (ConnectsAlone client) Connections.start events) :
    ∀ out ∈ (client.calls.run Connections.start events).1, out.DiscardsOwn := by
  rw [run_discardsOwn_iff]
  apply Machine.Along.of_invariant (fun s => ConnectionsInv s ∧ HoldsNewest s) ?_ ?_ ?_ h
  · intro s event hs halone
    exact ⟨connectionsInv_step hs.1 event, holdsNewest_step hs.1 hs.2 event halone⟩
  · intro s event hs _
    exact hs.2.newestOrEmpty event
  · refine ⟨connectionsInv_start, ?_⟩
    intro k c hc
    cases hc

end Steps

/-! ## §6. The two clients. -/

/-- **Every disconnect of a run drops its own connection IFF none comes too late**, for both
clients and any number of calls. -/
theorem disconnects_own_iff (sha256 : Sha256) (cln : TonicClnGrpcClient)
    (lnd : TonicLndGrpcClient) (lndUrl : String) :
    (∀ events : List (CallEvent ι Channel ClnNode),
      (∀ out ∈ ((cln.calls sha256).run Connections.start events).1, out.DiscardsOwn)
        ↔ (cln.calls sha256).Along NewestOrEmpty Connections.start events)
    ∧ ∀ events : List (CallEvent ι Channel LndNode),
      (∀ out ∈ ((lnd.calls sha256 lndUrl).run Connections.start events).1, out.DiscardsOwn)
        ↔ (lnd.calls sha256 lndUrl).Along NewestOrEmpty Connections.start events := by
  constructor
  · intro events
    exact run_discardsOwn_iff (cln.grpc sha256) events
  · intro events
    exact run_discardsOwn_iff (lnd.grpc sha256 lndUrl) events

/-- Calls 0 and 1 share a connection.  Call 0 fails and disconnects, call 2 connects anew,
and then call 1 fails. -/
def lateDisconnect {Node : Type} (down : Node) : List (CallEvent ℕ Unit Node) :=
  [.call 0 .getMetrics, .lock 0, .connect 0 (.connected ()),
    .call 1 .getMetrics, .lock 1,
    .reply 0 down, .lock 0,
    .call 2 .getMetrics, .lock 2, .connect 2 (.connected ()),
    .reply 1 down, .lock 1]

def unavailable : Status := { code := .unavailable, message := "transport error" }

/-- Call 1 drops the connection of call 2, on either client. -/
theorem late_disconnect_drops_later :
    (¬ ∀ events : List (CallEvent ℕ Unit ClnNode),
      ∀ out ∈ (((TonicClnGrpcClient.create "https://node").calls coffeeHash).run
        Connections.start events).1, out.DiscardsOwn)
    ∧ ¬ ∀ events : List (CallEvent ℕ Unit LndNode),
      ∀ out ∈ (((TonicLndGrpcClient.create false).calls coffeeHash "https://node").run
        Connections.start events).1, out.DiscardsOwn := by
  constructor
  · intro h
    let down : ClnNode :=
      { now := 0, invoice := fun _ => .error unavailable, listPeerChannels := .error unavailable }
    have hlast : ∃ e, (((TonicClnGrpcClient.create "https://node").calls coffeeHash).run
        Connections.start (lateDisconnect down)).1.getLast?
          = some (.disconnected ⟨0, (), "https://node"⟩ (some ⟨1, (), "https://node"⟩) e) :=
      ⟨_, rfl⟩
    obtain ⟨e, hlast⟩ := hlast
    have hown := h (lateDisconnect down) _ (List.mem_of_getLast? hlast) _ rfl
    cases hown
  · intro h
    let down : LndNode :=
      { addInvoice := fun _ => .error unavailable, channelBalance := .error unavailable }
    have hlast : ∃ e, (((TonicLndGrpcClient.create false).calls coffeeHash "https://node").run
        Connections.start (lateDisconnect down)).1.getLast?
          = some (.disconnected ⟨0, (), "https://node", false⟩
              (some ⟨1, (), "https://node", false⟩) e) :=
      ⟨_, rfl⟩
    obtain ⟨e, hlast⟩ := hlast
    have hown := h (lateDisconnect down) _ (List.mem_of_getLast? hlast) _ rfl
    cases hown

end Switchgear.Pool
