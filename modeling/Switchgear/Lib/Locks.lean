/-
  Switchgear.Lib.Locks — clients that acquire locks one by one, and deadlock.

  Each client runs one operation at a time; an operation has a plan, the list
  of locks it acquires in order, and releases them all when it returns.

    * `locks_cases`   — what one event can do,
    * `LocksInv`      — the locks a client owns are those it acquired, and
      what it acquired and still wants is a split of a plan,
    * `Deadlocked`    — a nonempty set of clients each of which waits for a lock
      owned by a member of the set,
    * `Deadlocked.exists_outOfOrder` — under ANY bounded rank of the locks,
      some member of such a set wants a lock of no higher rank than one it owns.
-/
import Switchgear.Lib.Machine

namespace Switchgear.Lib

variable {L ι Op : Type}

/-- The locks a client has acquired (the last one first) and those it wants yet. -/
structure LockClient (L : Type) where
  held : List L
  todo : List L
  deriving DecidableEq

def LockClient.idle : LockClient L := { held := [], todo := [] }

structure LockState (L ι : Type) where
  owner : L → Option ι
  clients : ι → LockClient L

/-- A client starts an operation, takes its next lock, or returns. -/
inductive LockEvent (ι Op : Type) where
  | start (client : ι) (op : Op)
  | acquire (client : ι)
  | release (client : ι)

namespace LockState

/-! ## §1. The machine. -/

/-- All locks free, all clients idle. -/
def start : LockState L ι where
  owner := fun _ => none
  clients := fun _ => .idle

/-- The lock a client acquires next. -/
def next (s : LockState L ι) (c : ι) : Option L := (s.clients c).todo.head?

/-- A nonempty set of clients, each waiting for a lock owned by a member of the set. -/
def Deadlocked (s : LockState L ι) : Prop :=
  ∃ clients : Set ι, clients.Nonempty ∧ ∀ c ∈ clients,
    ∃ lock, s.next c = some lock ∧ ∃ d ∈ clients, s.owner lock = some d

variable [DecidableEq L] [DecidableEq ι]

/-- One event; an event that is not enabled does nothing. -/
def locks (plan : Op → List L) : Machine (LockState L ι) (LockEvent ι Op) Unit :=
  fun s event =>
    match event with
    | .start c op =>
        match s.clients c with
        | { held := [], todo := [] } =>
            ((), { s with
              clients := Function.update s.clients c { held := [], todo := plan op } })
        | _ => ((), s)
    | .acquire c =>
        match s.clients c with
        | { held, todo := lock :: todo } =>
            match s.owner lock with
            | none =>
                ((), { owner := Function.update s.owner lock (some c)
                       clients := Function.update s.clients c { held := lock :: held, todo } })
            | some _ => ((), s)
        | _ => ((), s)
    | .release c =>
        match s.clients c with
        | { held := _, todo := [] } =>
            ((), { owner := fun lock => if s.owner lock = some c then none else s.owner lock
                   clients := Function.update s.clients c .idle })
        | _ => ((), s)

variable {plan : Op → List L} {s : LockState L ι}

/-- An event does nothing, or exactly what its name says. -/
theorem locks_cases (plan : Op → List L) (s : LockState L ι) (event : LockEvent ι Op) :
    (locks plan s event).2 = s
    ∨ (∃ c op, event = .start c op ∧ s.clients c = .idle
        ∧ (locks plan s event).2 = { s with
            clients := Function.update s.clients c { held := [], todo := plan op } })
    ∨ (∃ c held lock todo, event = .acquire c ∧ s.clients c = { held, todo := lock :: todo }
        ∧ s.owner lock = none
        ∧ (locks plan s event).2
            = { owner := Function.update s.owner lock (some c)
                clients := Function.update s.clients c { held := lock :: held, todo } })
    ∨ (∃ c held, event = .release c ∧ s.clients c = { held, todo := [] }
        ∧ (locks plan s event).2
            = { owner := fun lock => if s.owner lock = some c then none else s.owner lock
                clients := Function.update s.clients c .idle }) := by
  cases event with
  | start c op =>
      rcases hclient : s.clients c with ⟨_ | ⟨lock, held⟩, _ | ⟨lock', todo⟩⟩
      · right; left
        exact ⟨c, op, rfl, hclient, by simp only [locks, hclient]⟩
      all_goals
        left
        simp only [locks, hclient]
  | acquire c =>
      rcases hclient : s.clients c with ⟨held, _ | ⟨lock, todo⟩⟩
      · left
        simp only [locks, hclient]
      · cases howner : s.owner lock with
        | none =>
            right; right; left
            exact ⟨c, held, lock, todo, rfl, hclient, howner, by
              simp only [locks, hclient, howner]⟩
        | some d =>
            left
            simp only [locks, hclient, howner]
  | release c =>
      rcases hclient : s.clients c with ⟨held, _ | ⟨lock, todo⟩⟩
      · right; right; right
        exact ⟨c, held, rfl, hclient, by simp only [locks, hclient]⟩
      · left
        simp only [locks, hclient]

/-! ## §2. The invariant. -/

/-- Owners have acquired what they own; a client is idle or in the middle of a plan. -/
structure LocksInv (plan : Op → List L) (s : LockState L ι) : Prop where
  held : ∀ lock c, s.owner lock = some c ↔ lock ∈ (s.clients c).held
  plan : ∀ c, s.clients c = .idle
    ∨ ∃ op, (s.clients c).held.reverse ++ (s.clients c).todo = plan op

omit [DecidableEq L] [DecidableEq ι] in
theorem locksInv_start : LocksInv plan (start : LockState L ι) where
  held := by
    intro lock c
    simp [start, LockClient.idle]
  plan := fun _ => .inl rfl

omit [DecidableEq L] in
/-- **The frame rule**: the invariant is kept by a step of one client that owns what it
holds after it, in a split of a plan, and leaves the locks of the others alone. -/
theorem LocksInv.update (h : LocksInv plan s) {owner : L → Option ι} {c : ι}
    {client : LockClient L} (hheld : ∀ lock, owner lock = some c ↔ lock ∈ client.held)
    (hothers : ∀ lock d, d ≠ c → (owner lock = some d ↔ s.owner lock = some d))
    (hplan : client = .idle ∨ ∃ op, client.held.reverse ++ client.todo = plan op) :
    LocksInv plan { owner, clients := Function.update s.clients c client } where
  held := by
    intro lock d
    dsimp only
    by_cases hd : d = c
    · rw [hd, Function.update_self]
      exact hheld lock
    · rw [Function.update_of_ne hd, ← h.held]
      exact hothers lock d hd
  plan := by
    intro d
    dsimp only
    by_cases hd : d = c
    · rw [hd, Function.update_self]
      exact hplan
    · rw [Function.update_of_ne hd]
      exact h.plan d

theorem locksInv_step (h : LocksInv plan s) (event : LockEvent ι Op) :
    LocksInv plan (locks plan s event).2 := by
  rcases locks_cases plan s event with
    heq | ⟨c, op, -, hclient, heq⟩ | ⟨c, held, lock, todo, -, hclient, howner, heq⟩
      | ⟨c, held, -, hclient, heq⟩
  · rw [heq]
    exact h
  · rw [heq]
    refine h.update ?_ ?_ (.inr ⟨op, rfl⟩)
    · intro lock
      rw [h.held, hclient]
      rfl
    · intro lock d _
      exact Iff.rfl
  · rw [heq]
    refine h.update ?_ ?_ ?_
    · intro lock'
      have hheld := h.held lock' c
      rw [hclient] at hheld
      rw [List.mem_cons, ← hheld]
      by_cases hlock : lock' = lock
      · simp [hlock]
      · simp [hlock]
    · intro lock' d hd
      by_cases hlock : lock' = lock
      · -- the lock was free
        rw [hlock, Function.update_self, howner]
        simp [Ne.symm hd]
      · rw [Function.update_of_ne hlock]
    · -- one lock goes from what is wanted to what is held, and the split is of the same plan
      rcases h.plan c with hidle | ⟨op, hop⟩
      · rw [hidle] at hclient
        cases hclient
      · rw [hclient] at hop
        exact .inr ⟨op, by rw [← hop]; simp⟩
  · rw [heq]
    refine h.update ?_ ?_ (.inl rfl)
    · intro lock
      by_cases howner : s.owner lock = some c
      · simp [howner, LockClient.idle]
      · simp [howner, LockClient.idle]
    · intro lock d hd
      by_cases howner : s.owner lock = some c
      · simp [howner, Ne.symm hd]
      · rw [if_neg howner]

/-! ## §3. Deadlock against an order of the locks. -/

omit [DecidableEq L] [DecidableEq ι] in
/-- **Lock ordering**: a deadlocked set always has a member that goes against the
order, whatever the order. -/
theorem Deadlocked.exists_outOfOrder (h : s.Deadlocked) (rank : L → ℕ) (bound : ℕ)
    (hbound : ∀ lock, rank lock ≤ bound) :
    ∃ c wanted owned, s.next c = some wanted ∧ s.owner owned = some c
      ∧ rank wanted ≤ rank owned := by
  obtain ⟨clients, ⟨c₀, hc₀⟩, hwait⟩ := h
  -- the highest rank anyone in the set waits for is waited for by someone
  obtain ⟨lock₀, hnext₀, -⟩ := hwait c₀ hc₀
  have hmax : ∃ top, (∃ c ∈ clients, ∃ lock, s.next c = some lock ∧ rank lock = top)
      ∧ ∀ c ∈ clients, ∀ lock, s.next c = some lock → rank lock ≤ top := by
    by_contra hnone
    push Not at hnone
    -- otherwise there are waits of every rank
    have hall : ∀ n, ∃ c ∈ clients, ∃ lock, s.next c = some lock ∧ n ≤ rank lock := by
      intro n
      induction n with
      | zero => exact ⟨c₀, hc₀, lock₀, hnext₀, Nat.zero_le _⟩
      | succ n ih =>
          obtain ⟨c, hc, lock, hnext, hle⟩ := ih
          obtain ⟨d, hd, lock', hnext', hlt⟩ :=
            hnone (rank lock) ⟨c, hc, lock, hnext, rfl⟩
          exact ⟨d, hd, lock', hnext', by omega⟩
    obtain ⟨c, hc, lock, hnext, hle⟩ := hall (bound + 1)
    have hlock := hbound lock
    omega
  obtain ⟨top, ⟨c, hc, lock, hnext, rfl⟩, htop⟩ := hmax
  obtain ⟨lock', hnext', d, hd, howner⟩ := hwait c hc
  rw [hnext, Option.some.injEq] at hnext'
  subst hnext'
  obtain ⟨wanted, hwanted, -⟩ := hwait d hd
  exact ⟨d, wanted, lock, hwanted, howner, htop d hd wanted hwanted⟩

omit [DecidableEq L] [DecidableEq ι] in
/-- Two clients that each want what the other owns are deadlocked. -/
theorem deadlocked_of_pair {c d : ι} {lock lock' : L} (hc : s.next c = some lock)
    (hd : s.next d = some lock') (hcowns : s.owner lock' = some c)
    (hdowns : s.owner lock = some d) : s.Deadlocked := by
  refine ⟨{c, d}, ⟨c, by simp⟩, ?_⟩
  rintro x (rfl | rfl)
  · exact ⟨lock, hc, d, by simp, hdowns⟩
  · exact ⟨lock', hd, c, by simp, hcowns⟩

end LockState

end Switchgear.Lib
