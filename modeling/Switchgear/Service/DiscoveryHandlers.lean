/-
  Switchgear.Service.DiscoveryHandlers — `DiscoveryHandlers` over a store, and the
  router before them.
-/
import Switchgear.Lib.UrlPath
import Switchgear.Service.Crud
import Switchgear.ServiceApi.DiscoveryJson

namespace Switchgear.Service

open Switchgear.Discovery

namespace DiscoveryHandlers

variable {K σ ε : Type} [HasServiceErrorSource ε]

def patchBackend (keyText : PublicKeyText K) (store : DiscoveryBackendStore K σ ε)
    (now : DateTime) (publicKey : String) (backend : DiscoveryBackendPatchSparse) (state : σ) :
    Except CrudError (JsonCrudResponse Unit) × σ :=
  match keyText.parse publicKey with
  | none => (.error .bad, state)
  | some publicKey =>
      match store.patch now { publicKey, backend } state with
      | (.error e, state) => (.error (.fromServiceError e), state)
      | (.ok patched, state) =>
          if patched then (.ok .noContent, state) else (.error .notFound, state)

/-- `PATCH /discovery/{public-key}`: the extractors, the handler, the response. -/
def servePatchBackend (keyText : PublicKeyText K) (store : DiscoveryBackendStore K σ ε)
    (now : DateTime) (publicKey : String) (request : HttpRequest) (state : σ) :
    HttpResponse × σ :=
  match extractJson DiscoveryBackendPatchSparse.fromJson request.body with
  | .error status => (rejection status, state)
  | .ok backend =>
      let (result, state) := patchBackend keyText store now publicKey backend state
      (intoResponse (fun _ => .null) result, state)

/-! ## §1. The other handlers. -/

def getBackend (keyText : PublicKeyText K) (store : DiscoveryBackendStore K σ ε)
    (publicKey : String) (state : σ) :
    Except CrudError (JsonCrudResponse (DiscoveryBackend K)) × σ :=
  match keyText.parse publicKey with
  | none => (.error .bad, state)
  | some publicKey => respond foundResponse (store.get publicKey state)

/-- The response to a listing, with its etag. -/
def backendsResponse (backends : DiscoveryBackends K) :
    Except CrudError (JsonCrudResponse (List (DiscoveryBackend K))) :=
  match headerValue (etagString backends.etag) with
  | .error error => .error error
  | .ok etag =>
      let headers := noCacheHeaders ++ [("etag", etag)]
      match backends.backends with
      | none => .ok (.notModified headers)
      | some backends => .ok (.ok backends headers)

def getBackends (store : DiscoveryBackendStore K σ ε) (headers : Headers) (state : σ) :
    Except CrudError (JsonCrudResponse (List (DiscoveryBackend K))) × σ :=
  match headers.lookup "if-none-match" with
  | none => respond backendsResponse (store.getAll none state)
  | some etag =>
      -- what is no visible ASCII is no etag either
      match etagFromStr etag with
      | none => (.error .bad, state)
      | some etag => respond backendsResponse (store.getAll (some etag) state)

def postBackend (keyText : PublicKeyText K) (store : DiscoveryBackendStore K σ ε)
    (now : DateTime) (backend : DiscoveryBackend K) (state : σ) :
    Except CrudError (JsonCrudResponse Unit) × σ :=
  let location := keyText.display backend.publicKey
  respond (postedResponse location) (store.post now backend state)

def putBackend (keyText : PublicKeyText K) (store : DiscoveryBackendStore K σ ε)
    (now : DateTime) (publicKey : String) (backend : DiscoveryBackendSparse) (state : σ) :
    Except CrudError (JsonCrudResponse Unit) × σ :=
  match keyText.parse publicKey with
  | none => (.error .bad, state)
  | some publicKey => respond putResponse (store.put now { publicKey, backend } state)

def deleteBackend (keyText : PublicKeyText K) (store : DiscoveryBackendStore K σ ε)
    (publicKey : String) (state : σ) : Except CrudError (JsonCrudResponse Unit) × σ :=
  match keyText.parse publicKey with
  | none => (.error .bad, state)
  | some publicKey => respond deletedResponse (store.delete publicKey state)

end DiscoveryHandlers

/-! ## §2. The router. -/

namespace DiscoveryService

variable {K σ ε : Type} [HasServiceErrorSource ε]

open DiscoveryHandlers

/-- The encoder of a response without a body. -/
def noBody : Unit → Option Lib.Json := fun _ => some .null

/-- `DiscoveryService::router`, for authorised requests: the path decides the route, the
method the handler. -/
def serve (keyText : PublicKeyText K) (json : JsonText) (store : DiscoveryBackendStore K σ ε)
    (now : DateTime) (request : HttpRequest) (state : σ) : HttpResponse × σ :=
  match request.url.target.segments with
  | [route] =>
      if route = "discovery".toList then
        match request.method with
        | .get =>
            let (result, state) := getBackends store request.headers state
            (intoJsonResponse (DiscoveryBackend.listToJson keyText json) result, state)
        | .post =>
            withJson (DiscoveryBackend.fromJson keyText json) request.body state fun backend =>
              let (result, state) := postBackend keyText store now backend state
              (intoJsonResponse noBody result, state)
        | _ => (rejection StatusCode.methodNotAllowed, state)
      else if route = "health".toList then
        match request.method with
        | .get => ({ status := StatusCode.ok, headers := [], body := none }, state)
        | _ => (rejection StatusCode.methodNotAllowed, state)
      else (rejection StatusCode.notFound, state)
  | [route, key] =>
      if route = "discovery".toList ∧ key ≠ [] then
        match request.method with
        | .get =>
            withPath key state fun publicKey =>
              let (result, state) := getBackend keyText store publicKey state
              (intoJsonResponse (DiscoveryBackend.toJson keyText json) result, state)
        | .put =>
            withPath key state fun publicKey =>
              withJson (DiscoveryBackendSparse.fromJson json) request.body state fun backend =>
                let (result, state) := putBackend keyText store now publicKey backend state
                (intoJsonResponse noBody result, state)
        | .patch =>
            withPath key state fun publicKey =>
              servePatchBackend keyText store now publicKey request state
        | .delete =>
            withPath key state fun publicKey =>
              let (result, state) := deleteBackend keyText store publicKey state
              (intoJsonResponse noBody result, state)
        | .post => (rejection StatusCode.methodNotAllowed, state)
      else (rejection StatusCode.notFound, state)
  | _ => (rejection StatusCode.notFound, state)

end DiscoveryService

end Switchgear.Service
