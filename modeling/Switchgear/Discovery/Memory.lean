/-
  Switchgear.Discovery.Memory — `MemoryDiscoveryBackendStore`: a hash map of
  timestamped records under one mutex, and an etag counter.

  A `HashMap` has no order of its own, so its content is an extensional map;
  the only place where an order shows is `get_all`, which sorts.  Each method
  holds the mutex for its whole body and is one step of the state.
-/
import Switchgear.Lib.KeyedMap
import Switchgear.ServiceApi.Discovery
import Switchgear.Discovery.Error

namespace Switchgear.Discovery

open Switchgear.Lib
open Std (ExtTreeMap TransOrd LawfulEqOrd)

/-! ## §1. The state. -/

structure DiscoveryBackendTimestamped (K : Type) where
  created : DateTime
  backend : DiscoveryBackend K
  deriving DecidableEq

def DiscoveryBackendTimestamped.publicKey {K : Type} (entry : DiscoveryBackendTimestamped K) : K :=
  entry.backend.publicKey

structure MemoryDiscoveryBackendStore (K : Type) [Ord K] where
  store : ExtTreeMap K (DiscoveryBackendTimestamped K)
  etag : UInt64

namespace MemoryDiscoveryBackendStore

variable {K : Type} [Ord K] [TransOrd K] [LawfulEqOrd K]

def new : MemoryDiscoveryBackendStore K := { store := ∅, etag := 0 }

/-! ## §2. The six methods. -/

def get (publicKey : K) (self : MemoryDiscoveryBackendStore K) :
    Except DiscoveryBackendStoreError (Option (DiscoveryBackend K))
      × MemoryDiscoveryBackendStore K :=
  (.ok (self.store[publicKey]?.map (·.backend)), self)

/-- The comparison `get_all` sorts by: creation time, then public key. -/
def createdThenKey (a b : DiscoveryBackendTimestamped K) : Prop :=
  ((compare a.created b.created).then
    (compare a.backend.publicKey b.backend.publicKey)).isLE = true

instance : DecidableRel (createdThenKey (K := K)) :=
  fun _ _ => inferInstanceAs (Decidable (_ = true))

/-- All records, oldest first. -/
def listing (self : MemoryDiscoveryBackendStore K) : List (DiscoveryBackend K) :=
  ((self.store.toList.map Prod.snd).insertionSort createdThenKey).map (·.backend)

def getAll (requestEtag : Option UInt64) (self : MemoryDiscoveryBackendStore K) :
    Except DiscoveryBackendStoreError (DiscoveryBackends K) × MemoryDiscoveryBackendStore K :=
  let responseEtag := self.etag
  if requestEtag = some responseEtag then
    (.ok { etag := responseEtag, backends := none }, self)
  else
    (.ok { etag := responseEtag, backends := some self.listing }, self)

def post (now : DateTime) (backend : DiscoveryBackend K)
    (self : MemoryDiscoveryBackendStore K) :
    Except DiscoveryBackendStoreError (Option K) × MemoryDiscoveryBackendStore K :=
  if backend.publicKey ∈ self.store then
    (.ok none, self)
  else
    (.ok (some backend.publicKey),
      { store := self.store.insert backend.publicKey { created := now, backend },
        etag := self.etag + 1 })

def put (now : DateTime) (backend : DiscoveryBackend K)
    (self : MemoryDiscoveryBackendStore K) :
    Except DiscoveryBackendStoreError Bool × MemoryDiscoveryBackendStore K :=
  let (created, wasNew) :=
    match self.store[backend.publicKey]? with
    | some existing => (existing.created, false)
    | none => (now, true)
  (.ok wasNew,
    { store := self.store.insert backend.publicKey { created, backend },
      etag := self.etag + 1 })

/-- The four `if let Some(..)` assignments of `patch`. -/
def patchEntry (patch : DiscoveryBackendPatchSparse) (entry : DiscoveryBackendTimestamped K) :
    DiscoveryBackendTimestamped K :=
  let b := entry.backend.backend
  let b := { b with weight := patch.weight.getD b.weight }
  let b := { b with enabled := patch.enabled.getD b.enabled }
  let b := { b with partitions := patch.partitions.getD b.partitions }
  let b := { b with name := patch.name.getD b.name }
  { entry with backend := { entry.backend with backend := b } }

def patch (backend : DiscoveryBackendPatch K) (self : MemoryDiscoveryBackendStore K) :
    Except DiscoveryBackendStoreError Bool × MemoryDiscoveryBackendStore K :=
  match self.store[backend.publicKey]? with
  | none => (.ok false, self)
  | some entry =>
      (.ok true,
        { store := self.store.insert backend.publicKey (patchEntry backend.backend entry),
          etag := self.etag + 1 })

def delete (publicKey : K) (self : MemoryDiscoveryBackendStore K) :
    Except DiscoveryBackendStoreError Bool × MemoryDiscoveryBackendStore K :=
  -- a delete of nothing does not count
  let wasFound := self.store[publicKey]?.isSome
  if wasFound then
    (.ok wasFound, { store := self.store.erase publicKey, etag := self.etag + 1 })
  else
    (.ok wasFound, self)

/-- `impl DiscoveryBackendStore for MemoryDiscoveryBackendStore`. -/
def backendStore :
    DiscoveryBackendStore K (MemoryDiscoveryBackendStore K) DiscoveryBackendStoreError where
  get := get
  getAll := getAll
  post := post
  put := put
  patch := fun _ => patch
  delete := delete

/-! ## §3. What a mutation does to the store. -/

omit [LawfulEqOrd K] in
/-- A mutation changes nothing, writes one record under its own key, or erases
one; a change counts the etag. -/
theorem mutate_cases (now : DateTime) (m : Mutation K) (self : MemoryDiscoveryBackendStore K) :
    (backendStore.mutate now m self).2 = self
    ∨ (∃ entry : DiscoveryBackendTimestamped K,
        (entry.created = now ∨ ∃ old ∈ self.store[m.publicKey]?, entry.created = old.created)
        ∧ (OwnKeys DiscoveryBackendTimestamped.publicKey self.store →
            entry.publicKey = m.publicKey)
        ∧ (backendStore.mutate now m self).2
            = { store := self.store.insert m.publicKey entry, etag := self.etag + 1 })
    ∨ (backendStore.mutate now m self).2
        = { store := self.store.erase m.publicKey, etag := self.etag + 1 } := by
  cases m with
  | post b =>
      by_cases hmem : b.publicKey ∈ self.store
      · left
        simp only [DiscoveryBackendStore.mutate, backendStore, post, if_pos hmem]
      · right; left
        refine ⟨{ created := now, backend := b }, .inl rfl, fun _ => rfl, ?_⟩
        simp only [DiscoveryBackendStore.mutate, backendStore, post, if_neg hmem,
          Mutation.publicKey]
  | put b =>
      right; left
      cases hold : self.store[b.publicKey]? with
      | none =>
          refine ⟨{ created := now, backend := b }, .inl rfl, fun _ => rfl, ?_⟩
          simp only [DiscoveryBackendStore.mutate, backendStore, put, hold, Mutation.publicKey]
      | some old =>
          refine ⟨{ created := old.created, backend := b }, .inr ⟨old, hold, rfl⟩,
            fun _ => rfl, ?_⟩
          simp only [DiscoveryBackendStore.mutate, backendStore, put, hold, Mutation.publicKey]
  | patch p =>
      cases hold : self.store[p.publicKey]? with
      | none =>
          left
          simp only [DiscoveryBackendStore.mutate, backendStore, patch, hold]
      | some old =>
          right; left
          refine ⟨patchEntry p.backend old, .inr ⟨old, hold, rfl⟩, fun hkeys => ?_, ?_⟩
          · exact hkeys p.publicKey old hold
          · simp only [DiscoveryBackendStore.mutate, backendStore, patch, hold,
              Mutation.publicKey]
  | delete k =>
      cases hfound : self.store[k]?.isSome with
      | false =>
          left
          simp only [DiscoveryBackendStore.mutate, backendStore, delete, hfound,
            Bool.false_eq_true, if_false]
      | true =>
          right; right
          simp only [DiscoveryBackendStore.mutate, backendStore, delete, hfound, if_true,
            Mutation.publicKey]

end MemoryDiscoveryBackendStore

end Switchgear.Discovery
