/-
  Switchgear.Pool.ClientPool — `LnClientPool`: clients and cached metrics
  under a key.

  What a client is, and how one is made from a record (parsing its
  `implementation`, building the transport), is a parameter: `create`.
-/
import Mathlib
import Switchgear.ServiceApi.Discovery

namespace Switchgear.Pool

open Switchgear.Discovery
open Std (ExtTreeMap TransOrd)

structure LnMetrics where
  healthy : Bool
  nodeEffectiveInboundMsat : UInt64
  deriving DecidableEq

/-- `LnClientPool<Key>` over clients of type `Client`. -/
structure LnClientPool (Key Client : Type) [Ord Key] where
  pool : ExtTreeMap Key Client
  metricsCache : ExtTreeMap Key LnMetrics

namespace LnClientPool

variable {K Key Client E : Type} [Ord Key] [TransOrd Key]

def new : LnClientPool Key Client := { pool := ∅, metricsCache := ∅ }

/-- `connect`: the client of the record replaces whatever was under the key. -/
def connect (create : DiscoveryBackend K → Except E Client) (key : Key)
    (backend : DiscoveryBackend K) (self : LnClientPool Key Client) :
    Except E Unit × LnClientPool Key Client :=
  match create backend with
  | .error e => (.error e, self)
  | .ok client => (.ok (), { self with pool := self.pool.insert key client })

def getCachedMetrics (key : Key) (self : LnClientPool Key Client) : Option LnMetrics :=
  self.metricsCache[key]?

end LnClientPool

end Switchgear.Pool
