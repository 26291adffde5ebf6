/-
  Switchgear.ServiceApi.Discovery — the records of the discovery API and the
  `DiscoveryBackendStore` trait.

  The key type `K` stands for `secp256k1::PublicKey`: all the code uses of it
  is its order and its text.  A `BTreeSet<String>` is a `Finset String`, a
  `usize` or `u64` is a `UInt64`.

  A store is a record of functions over a state `σ`; `now` is what
  `Utc::now()` reads during the call.  `Call` and `Answer` put the six
  methods into one alphabet, so that a store is a `Machine` and a sequence
  of calls is a run of it.
-/
import Switchgear.Lib.Machine
import Switchgear.ServiceApi.Service

namespace Switchgear.Discovery

open Switchgear.Lib

/-! ## §1. Records. -/

structure DiscoveryBackendSparse where
  name : Option String
  partitions : Finset String
  weight : UInt64
  enabled : Bool
  implementation : Bytes
  deriving DecidableEq

structure DiscoveryBackend (K : Type) where
  publicKey : K
  backend : DiscoveryBackendSparse
  deriving DecidableEq

/-- The derived order: field by field, in the order of the fields. -/
instance : Ord DiscoveryBackendSparse where
  compare a b :=
    (compare a.name b.name).then <|
    (compare a.partitions.sort b.partitions.sort).then <|
    (compare a.weight b.weight).then <|
    (compare a.enabled b.enabled).then <|
    compare a.implementation b.implementation

instance {K : Type} [Ord K] : Ord (DiscoveryBackend K) where
  compare a b := (compare a.publicKey b.publicKey).then (compare a.backend b.backend)

/-- A backend of the examples of later files, by its key and partitions. -/
def sampleBackend {K : Type} (publicKey : K) (partitions : Finset String) :
    DiscoveryBackend K where
  publicKey := publicKey
  backend :=
    { name := some "node"
      partitions := partitions
      weight := 1
      enabled := true
      implementation := [] }

/-- A partial update: `none` leaves a field alone; `name := some none` clears it. -/
structure DiscoveryBackendPatchSparse where
  name : Option (Option String)
  partitions : Option (Finset String)
  weight : Option UInt64
  enabled : Option Bool
  deriving DecidableEq

structure DiscoveryBackendPatch (K : Type) where
  publicKey : K
  backend : DiscoveryBackendPatchSparse
  deriving DecidableEq

/-- What `get_all` answers; `backends := none` says "not modified". -/
structure DiscoveryBackends (K : Type) where
  etag : UInt64
  backends : Option (List (DiscoveryBackend K))
  deriving DecidableEq

/-! ## §2. The store trait. -/

/-- `trait DiscoveryBackendStore` over a store state `σ`. -/
structure DiscoveryBackendStore (K σ ε : Type) where
  get : K → σ → Except ε (Option (DiscoveryBackend K)) × σ
  getAll : Option UInt64 → σ → Except ε (DiscoveryBackends K) × σ
  post : DateTime → DiscoveryBackend K → σ → Except ε (Option K) × σ
  put : DateTime → DiscoveryBackend K → σ → Except ε Bool × σ
  patch : DateTime → DiscoveryBackendPatch K → σ → Except ε Bool × σ
  delete : K → σ → Except ε Bool × σ

/-- The four calls that may change a store. -/
inductive Mutation (K : Type) where
  | post (backend : DiscoveryBackend K)
  | put (backend : DiscoveryBackend K)
  | patch (backend : DiscoveryBackendPatch K)
  | delete (publicKey : K)
  deriving DecidableEq

/-- One call of the trait. -/
inductive Call (K : Type) where
  | get (publicKey : K)
  | getAll (etag : Option UInt64)
  | mutate (mutation : Mutation K)
  deriving DecidableEq

/-- What a mutation answers when it does not fail. -/
inductive MutationAnswer (K : Type) where
  | posted (publicKey : Option K)
  | flag (value : Bool)
  deriving DecidableEq

/-- What a call answers when it does not fail. -/
inductive Answer (K : Type) where
  | backend (backend : Option (DiscoveryBackend K))
  | backends (backends : DiscoveryBackends K)
  | mutated (answer : MutationAnswer K)
  deriving DecidableEq

/-- The key a mutation is about. -/
def Mutation.publicKey {K : Type} : Mutation K → K
  | .post b => b.publicKey
  | .put b => b.publicKey
  | .patch p => p.publicKey
  | .delete k => k

namespace DiscoveryBackendStore

variable {K σ ε : Type}

/-- Run a mutation on a store. -/
def mutate (S : DiscoveryBackendStore K σ ε) (now : DateTime) (m : Mutation K) (s : σ) :
    Except ε (MutationAnswer K) × σ :=
  match m with
  | .post b => let (r, s') := S.post now b s; (r.map .posted, s')
  | .put b => let (r, s') := S.put now b s; (r.map .flag, s')
  | .patch p => let (r, s') := S.patch now p s; (r.map .flag, s')
  | .delete k => let (r, s') := S.delete k s; (r.map .flag, s')

/-- The store as a machine: each input is a clock reading and a call. -/
def machine (S : DiscoveryBackendStore K σ ε) :
    Machine σ (DateTime × Call K) (Except ε (Answer K)) :=
  fun s (now, call) =>
    match call with
    | .get k => let (r, s') := S.get k s; (r.map .backend, s')
    | .getAll etag => let (r, s') := S.getAll etag s; (r.map .backends, s')
    | .mutate m => let (r, s') := S.mutate now m s; (r.map .mutated, s')

section Calls

variable (S : DiscoveryBackendStore K σ ε) (now : DateTime) (s : σ)

theorem machine_get (k : K) :
    S.machine s (now, .get k) = ((S.get k s).1.map .backend, (S.get k s).2) := rfl

theorem machine_getAll (etag : Option UInt64) :
    S.machine s (now, .getAll etag) = ((S.getAll etag s).1.map .backends, (S.getAll etag s).2) :=
  rfl

theorem machine_post (b : DiscoveryBackend K) :
    S.machine s (now, .mutate (.post b))
      = ((S.post now b s).1.map fun answer => .mutated (.posted answer), (S.post now b s).2) := by
  show (((S.post now b s).1.map _).map _, (S.post now b s).2) = _
  cases (S.post now b s).1 <;> rfl

theorem machine_put (b : DiscoveryBackend K) :
    S.machine s (now, .mutate (.put b))
      = ((S.put now b s).1.map fun answer => .mutated (.flag answer), (S.put now b s).2) := by
  show (((S.put now b s).1.map _).map _, (S.put now b s).2) = _
  cases (S.put now b s).1 <;> rfl

theorem machine_delete (k : K) :
    S.machine s (now, .mutate (.delete k))
      = ((S.delete k s).1.map fun answer => .mutated (.flag answer), (S.delete k s).2) := by
  show (((S.delete k s).1.map _).map _, (S.delete k s).2) = _
  cases (S.delete k s).1 <;> rfl

end Calls

end DiscoveryBackendStore

end Switchgear.Discovery
