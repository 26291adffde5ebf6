/-
  Switchgear.Offer.MemoryLocks — the two mutexes of `MemoryOfferStore`.

  Ten operations lock `offer`, `metadata` or both, before they look at
  anything.  `get_offer`, `post_offer` and `put_offer` lock `metadata` first
  and `offer` second; `delete_metadata` locks them the other way round.

  Main result:
    * `deadlock_free_iff` — a run is free of deadlock IFF no client takes the
      first of its two mutexes while another one has just the second and waits
      for the first.
-/
import Switchgear.Lib.Locks

namespace Switchgear.Offer

open Switchgear.Lib

/-! ## §1. The operations and what they lock. -/

/-- The two `tokio::sync::Mutex`es of the store. -/
inductive OfferMutex where
  | offer
  | metadata
  deriving DecidableEq

inductive OfferOperation where
  | getOffer
  | getOffers
  | postOffer
  | putOffer
  | deleteOffer
  | getMetadata
  | getAllMetadata
  | postMetadata
  | putMetadata
  | deleteMetadata
  deriving DecidableEq

/-- The mutexes the body of an operation locks, in order. -/
def OfferOperation.mutexes : OfferOperation → List OfferMutex
  | .getOffer => [.metadata, .offer]
  | .getOffers => [.offer]
  | .postOffer => [.metadata, .offer]
  | .putOffer => [.metadata, .offer]
  | .deleteOffer => [.offer]
  | .getMetadata => [.metadata]
  | .getAllMetadata => [.metadata]
  | .postMetadata => [.metadata]
  | .putMetadata => [.metadata]
  | .deleteMetadata => [.offer, .metadata]

section Clients

variable {ι : Type}

/-- The clients of the store and its mutexes. -/
abbrev OfferClients (ι : Type) := LockState OfferMutex ι

/-- A client that holds the first of its two mutexes and wants the second. -/
def Halfway (s : OfferClients ι) (c : ι) (first second : OfferMutex) : Prop :=
  s.clients c = { held := [first], todo := [second] }

/-- Taking the next mutex closes a cycle: it is free, it is the first of two, and
another client has the second and wants the first. -/
def ClosesCycle (s : OfferClients ι) (c : ι) : Prop :=
  ∃ first second d, s.clients c = { held := [], todo := [first, second] }
    ∧ s.owner first = none ∧ Halfway s d second first

/-- The condition on an event. -/
def OrderKept (s : OfferClients ι) : LockEvent ι OfferOperation → Prop
  | .acquire c => ¬ ClosesCycle s c
  | _ => True

/-! ## §2. What a deadlock looks like. -/

/-- A client that owns a mutex and wants another one is halfway. -/
theorem mutexes_split {op : OfferOperation} {client : LockClient OfferMutex}
    {owned wanted : OfferMutex} (hplan : client.held.reverse ++ client.todo = op.mutexes)
    (howned : owned ∈ client.held) (hwanted : client.todo.head? = some wanted) :
    client = { held := [owned], todo := [wanted] } ∧ op.mutexes = [owned, wanted] := by
  obtain ⟨held, todo⟩ := client
  cases todo with
  | nil => cases hwanted
  | cons w todo =>
      obtain rfl : w = wanted := Option.some.inj hwanted
      -- no plan is longer than two, so one is held and one is left
      have hlength : held.length + (todo.length + 1) ≤ 2 := by
        have h := congrArg List.length hplan
        simp only [List.length_append, List.length_reverse, List.length_cons] at h
        cases op <;> simp only [OfferOperation.mutexes, List.length_cons, List.length_nil] at h
          <;> omega
      have hpos : 0 < held.length := List.length_pos_of_mem howned
      have htodo : todo = [] := List.length_eq_zero_iff.mp (by omega)
      obtain ⟨o, rfl⟩ := List.length_eq_one_iff.mp (show held.length = 1 by omega)
      obtain rfl : owned = o := List.mem_singleton.mp howned
      subst htodo
      exact ⟨rfl, hplan.symm⟩

/-- Against either order of the mutexes, someone is halfway the other way round. -/
theorem exists_halfway {s : OfferClients ι} (hinv : LockState.LocksInv OfferOperation.mutexes s)
    (h : s.Deadlocked) {first second : OfferMutex} (hne : first ≠ second) :
    ∃ c, Halfway s c first second := by
  -- rank the mutex that is wanted below the one that is owned
  obtain ⟨c, wanted, owned, hnext, howner, hle⟩ :=
    h.exists_outOfOrder (fun mutex => if mutex = first then 1 else 0) 1
      (by intro mutex; split <;> omega)
  have howned := (hinv.held owned c).mp howner
  rcases hinv.plan c with hidle | ⟨op, hop⟩
  · rw [hidle] at howned
    cases howned
  · obtain ⟨hclient, hplan⟩ := mutexes_split hop howned hnext
    refine ⟨c, ?_⟩
    unfold Halfway
    rw [hclient]
    cases op <;> cases first <;> cases second <;>
      simp_all [OfferOperation.mutexes]

/-- A deadlock is two clients halfway through opposite orders. -/
theorem deadlocked_iff {s : OfferClients ι}
    (hinv : LockState.LocksInv OfferOperation.mutexes s) :
    s.Deadlocked ↔ ∃ c d, Halfway s c .offer .metadata ∧ Halfway s d .metadata .offer := by
  constructor
  · intro h
    obtain ⟨c, hc⟩ := exists_halfway hinv h (show OfferMutex.offer ≠ .metadata by decide)
    obtain ⟨d, hd⟩ := exists_halfway hinv h (show OfferMutex.metadata ≠ .offer by decide)
    exact ⟨c, d, hc, hd⟩
  · intro h
    obtain ⟨c, d, hc, hd⟩ := h
    have hcowns : s.owner .offer = some c := (hinv.held _ c).mpr (by rw [hc]; simp)
    have hdowns : s.owner .metadata = some d := (hinv.held _ d).mpr (by rw [hd]; simp)
    exact LockState.deadlocked_of_pair
      (by unfold LockState.next; rw [hc]; rfl) (by unfold LockState.next; rw [hd]; rfl)
      hcowns hdowns

/-! ## §3. Which step deadlocks. -/

variable [DecidableEq ι]

theorem halfway_of_update {owner : OfferMutex → Option ι} {clients : ι → LockClient OfferMutex}
    {c d : ι} {client : LockClient OfferMutex} {first second : OfferMutex}
    (h : Halfway { owner, clients := Function.update clients c client } d first second)
    (hne : d ≠ c) : clients d = { held := [first], todo := [second] } := by
  change Function.update clients c client d = _ at h
  rwa [Function.update_of_ne hne] at h

theorem halfway_of_update_self {owner : OfferMutex → Option ι}
    {clients : ι → LockClient OfferMutex} {c : ι} {client : LockClient OfferMutex}
    {first second : OfferMutex}
    (h : Halfway { owner, clients := Function.update clients c client } c first second) :
    client = { held := [first], todo := [second] } := by
  change Function.update clients c client c = _ at h
  rwa [Function.update_self] at h

/-- A client that has nothing in hand is not halfway. -/
theorem not_halfway_of_update {owner : OfferMutex → Option ι}
    {clients : ι → LockClient OfferMutex} {c d : ι} {todo : List OfferMutex}
    {first second : OfferMutex}
    (h : Halfway { owner, clients := Function.update clients c { held := [], todo } } d
      first second) : d ≠ c := by
  intro hd
  subst hd
  have hclient := halfway_of_update_self h
  rw [LockClient.mk.injEq] at hclient
  cases hclient.1

/-- If the step makes two clients halfway through opposite orders, either they were before,
or one of them just closed the cycle. -/
theorem halfway_pair_step {s : OfferClients ι} {event : LockEvent ι OfferOperation}
    {c d : ι} {first second : OfferMutex} (hne : first ≠ second)
    (hc : Halfway (LockState.locks OfferOperation.mutexes s event).2 c first second)
    (hd : Halfway (LockState.locks OfferOperation.mutexes s event).2 d second first) :
    (Halfway s c first second ∧ Halfway s d second first)
      ∨ ∃ e, event = .acquire e ∧ ClosesCycle s e := by
  rcases LockState.locks_cases OfferOperation.mutexes s event with
    heq | ⟨e, op, -, -, heq⟩ | ⟨e, held, lock, todo, hevent, hclient, howner, heq⟩
      | ⟨e, held, -, -, heq⟩
  · rw [heq] at hc hd
    exact .inl ⟨hc, hd⟩
  · rw [heq] at hc hd
    exact .inl ⟨halfway_of_update hc (not_halfway_of_update hc),
      halfway_of_update hd (not_halfway_of_update hd)⟩
  · rw [heq] at hc hd
    by_cases hce : c = e
    · -- `c` just took its first mutex, so `d` was halfway already
      right
      subst hce
      obtain ⟨⟨rfl, rfl⟩, rfl⟩ : (lock = first ∧ held = []) ∧ todo = [second] := by
        simpa using halfway_of_update_self hc
      have hdc : d ≠ c := by
        intro h
        subst h
        have hlock : lock = second ∧ second = lock := by
          simpa using halfway_of_update_self hd
        exact hne hlock.1
      exact ⟨c, hevent, lock, second, d, hclient, howner, halfway_of_update hd hdc⟩
    · by_cases hde : d = e
      · right
        subst hde
        obtain ⟨⟨rfl, rfl⟩, rfl⟩ : (lock = second ∧ held = []) ∧ todo = [first] := by
          simpa using halfway_of_update_self hd
        exact ⟨d, hevent, lock, first, c, hclient, howner, halfway_of_update hc hce⟩
      · exact .inl ⟨halfway_of_update hc hce, halfway_of_update hd hde⟩
  · rw [heq] at hc hd
    exact .inl ⟨halfway_of_update hc (not_halfway_of_update hc),
      halfway_of_update hd (not_halfway_of_update hd)⟩

/-- Closing the cycle makes the two clients halfway through opposite orders. -/
theorem deadlocked_of_closesCycle {s : OfferClients ι} {c : ι}
    (hinv : LockState.LocksInv OfferOperation.mutexes s) (h : ClosesCycle s c) :
    (LockState.locks OfferOperation.mutexes s (.acquire c)).2.Deadlocked := by
  obtain ⟨first, second, d, hc, hfree, hd⟩ := h
  have hdc : d ≠ c := by
    intro hdc
    subst hdc
    unfold Halfway at hd
    rw [hc] at hd
    cases hd
  have hdowns : s.owner second = some d := (hinv.held _ d).mpr (by rw [hd]; simp)
  have hne : second ≠ first := by
    intro hsame
    rw [hsame, hfree] at hdowns
    cases hdowns
  have hstep : (LockState.locks OfferOperation.mutexes s (.acquire c)).2
      = { owner := Function.update s.owner first (some c)
          clients := Function.update s.clients c { held := [first], todo := [second] } } := by
    unfold LockState.locks
    simp only [hc, hfree]
  rw [hstep]
  have hcwaits : LockState.next
      { owner := Function.update s.owner first (some c)
        clients := Function.update s.clients c { held := [first], todo := [second] } } c
      = some second := by
    unfold LockState.next
    dsimp only
    rw [Function.update_self]
    rfl
  have hdwaits : LockState.next
      { owner := Function.update s.owner first (some c)
        clients := Function.update s.clients c { held := [first], todo := [second] } } d
      = some first := by
    unfold LockState.next
    dsimp only
    rw [Function.update_of_ne hdc, hd]
    rfl
  refine LockState.deadlocked_of_pair hcwaits hdwaits (Function.update_self _ _ _) ?_
  change Function.update s.owner first (some c) second = some d
  rw [Function.update_of_ne hne, hdowns]

/-- **The step that deadlocks**: where nobody is deadlocked, a step keeps it so IFF it does
not close a cycle. -/
theorem orderKept_iff {s : OfferClients ι} (event : LockEvent ι OfferOperation)
    (hinv : LockState.LocksInv OfferOperation.mutexes s) (hfree : ¬ s.Deadlocked) :
    OrderKept s event ↔ ¬ (LockState.locks OfferOperation.mutexes s event).2.Deadlocked := by
  constructor
  · intro hkept hdead
    obtain ⟨c, d, hc, hd⟩ := (deadlocked_iff (LockState.locksInv_step hinv event)).mp hdead
    rcases halfway_pair_step (by decide) hc hd with hpair | ⟨e, rfl, hcycle⟩
    · exact hfree ((deadlocked_iff hinv).mpr ⟨c, d, hpair⟩)
    · exact hkept hcycle
  · intro hnot
    cases event with
    | acquire c =>
        intro hcycle
        exact hnot (deadlocked_of_closesCycle hinv hcycle)
    | start c op => trivial
    | release c => trivial

/-! ## §4. Runs. -/

omit [DecidableEq ι] in
theorem not_deadlocked_start : ¬ (LockState.start : OfferClients ι).Deadlocked := by
  intro h
  obtain ⟨clients, ⟨c, hc⟩, hwait⟩ := h
  obtain ⟨lock, hnext, -⟩ := hwait c hc
  cases hnext

/-- A run stays clear of deadlock at every step IFF no step of it closes a cycle. -/
theorem deadlock_free_iff (events : List (LockEvent ι OfferOperation)) :
    (LockState.locks OfferOperation.mutexes).Along
        (fun s event => ¬ (LockState.locks OfferOperation.mutexes s event).2.Deadlocked)
        (LockState.start : OfferClients ι) events
      ↔ (LockState.locks OfferOperation.mutexes).Along OrderKept LockState.start events := by
  refine (Machine.along_congr _
    (fun s => LockState.LocksInv OfferOperation.mutexes s ∧ ¬ s.Deadlocked) ?_ ?_ _ _
    ⟨LockState.locksInv_start, not_deadlocked_start⟩).symm
  · intro s event hs
    exact orderKept_iff event hs.1 hs.2
  · intro s event hs hkept
    exact ⟨LockState.locksInv_step hs.1 event, (orderKept_iff event hs.1 hs.2).mp hkept⟩

end Clients

/-- A client deletes metadata while another reads an offer, and each takes its first
mutex. -/
def deleteMeetsGet : List (LockEvent Bool OfferOperation) :=
  [.start false .deleteMetadata, .start true .getOffer, .acquire false, .acquire true]

/-- The two clients wait for each other for good. -/
theorem delete_metadata_deadlocks :
    ¬ ∀ events : List (LockEvent Bool OfferOperation),
      ¬ ((LockState.locks OfferOperation.mutexes).run
          (LockState.start : OfferClients Bool) events).2.Deadlocked := by
  intro h
  apply h deleteMeetsGet
  have hdelete : ((LockState.locks OfferOperation.mutexes).run
      (LockState.start : OfferClients Bool) deleteMeetsGet).2.next false
        = some .metadata := by decide
  have hget : ((LockState.locks OfferOperation.mutexes).run
      (LockState.start : OfferClients Bool) deleteMeetsGet).2.next true
        = some .offer := by decide
  exact LockState.deadlocked_of_pair hdelete hget (by decide) (by decide)

end Switchgear.Offer
