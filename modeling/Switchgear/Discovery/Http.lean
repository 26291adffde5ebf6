/-
  Switchgear.Discovery.Http — `HttpDiscoveryBackendStore`.
-/
import Switchgear.ServiceApi.Http
import Switchgear.ServiceApi.DiscoveryJson
import Switchgear.Discovery.Error

namespace Switchgear.Discovery

open Switchgear.Lib

/-- The client, with what it takes from its environment: the text of a key and of a
status. -/
structure HttpDiscoveryBackendStore (K : Type) where
  baseUrl : String
  keyText : PublicKeyText K
  displayStatus : StatusCode → String

namespace HttpDiscoveryBackendStore

variable {K σ : Type} (self : HttpDiscoveryBackendStore K)

def discoveryUrl : HttpUrl := { base := self.baseUrl, segments := ["discovery"] }

def discoveryPublicKeyUrl (publicKey : K) : HttpUrl :=
  { self.discoveryUrl with
    segments := self.discoveryUrl.segments ++ [self.keyText.display publicKey] }

/-- The error of a status the method does not expect. -/
def generalError (status : StatusCode) (context : String) : DiscoveryBackendStoreError :=
  if status.isSuccess then
    .internalError .upstream context ("unexpected http status " ++ self.displayStatus status)
  else if status.isClientError then
    .invalidInputError context ("invalid input, http status: " ++ self.displayStatus status)
  else .httpStatusError .upstream context status

/-- `client.patch(&url).json(&backend.backend)`. -/
def patchRequest (backend : DiscoveryBackendPatch K) : HttpRequest where
  method := .patch
  url := self.discoveryPublicKeyUrl backend.publicKey
  headers := [("content-type", "application/json")]
  body := some backend.backend.toJson

def patch (send : Transport σ) (backend : DiscoveryBackendPatch K) (state : σ) :
    Except DiscoveryBackendStoreError Bool × σ :=
  let url := self.discoveryPublicKeyUrl backend.publicKey
  match send (self.patchRequest backend) state with
  | (.error e, state) => (.error (.httpError .upstream ("patch backend " ++ url.toText) e), state)
  | (.ok response, state) =>
      if response.status = StatusCode.noContent then (.ok true, state)
      else if response.status = StatusCode.notFound then (.ok false, state)
      else (.error (self.generalError response.status ("patch backend " ++ url.toText)), state)

/-! ## §1. The other methods. -/

variable (json : JsonText)

/-- Send a request whose body is serialized first; a body that does not serialize is a
request that was never sent. -/
def sendJson (send : Transport σ) (method : Method) (url : HttpUrl) (body : Option Json)
    (state : σ) : Except String HttpResponse × σ :=
  match body with
  | none => (.error "builder error", state)
  | some body =>
      send (.json method url body) state

def get (send : Transport σ) (publicKey : K) (state : σ) :
    Except DiscoveryBackendStoreError (Option (DiscoveryBackend K)) × σ :=
  let url := self.discoveryPublicKeyUrl publicKey
  match send (.plain .get url) state with
  | (.error e, state) => (.error (.httpError .upstream ("get backend " ++ url.toText) e), state)
  | (.ok response, state) =>
      if response.status = StatusCode.ok then
        match response.body.bind (DiscoveryBackend.fromJson self.keyText json) with
        | none =>
            (.error (.deserializationError .upstream ("parse backend " ++ url.toText)
              "error decoding response body"), state)
        | some backend => (.ok (some backend), state)
      else if response.status = StatusCode.notFound then (.ok none, state)
      else (.error (self.generalError response.status ("get backend " ++ url.toText)), state)

/-- The headers of a listing request. -/
def ifNoneMatch (requestedEtag : Option UInt64) : Headers :=
  match requestedEtag with
  | none => []
  | some etag => [("if-none-match", etagString etag)]

/-- What a response to a listing says, once its etag is read. -/
def readBackends (url : HttpUrl) (responseEtag : UInt64) (response : HttpResponse) :
    Except DiscoveryBackendStoreError (DiscoveryBackends K) :=
  if response.status = StatusCode.ok then
    match response.body.bind (DiscoveryBackend.listFromJson self.keyText json) with
    | none =>
        .error (.deserializationError .upstream ("parse all backends " ++ url.toText)
          "error decoding response body")
    | some backends => .ok { etag := responseEtag, backends := some backends }
  else if response.status = StatusCode.notModified then
    .ok { etag := responseEtag, backends := none }
  else .error (self.generalError response.status ("get all backends " ++ url.toText))

def getAll (send : Transport σ) (requestedEtag : Option UInt64) (state : σ) :
    Except DiscoveryBackendStoreError (DiscoveryBackends K) × σ :=
  let url := self.discoveryUrl
  match send { HttpRequest.plain .get url with headers := ifNoneMatch requestedEtag } state with
  | (.error e, state) =>
      (.error (.httpError .upstream ("get all backends " ++ url.toText) e), state)
  | (.ok response, state) =>
      match response.headers.lookup "etag" with
      | none =>
          (.error (.internalError .upstream
            ("parsing etag header response from get all backends " ++ url.toText)
            "missing expected etag"), state)
      | some responseEtag =>
          match etagFromStr responseEtag with
          | none =>
              (.error (.internalError .upstream
                ("parsing etag '" ++ responseEtag
                  ++ "' header response from get all backends " ++ url.toText)
                "invalid etag"), state)
          | some responseEtag => (self.readBackends json url responseEtag response, state)

def post (send : Transport σ) (backend : DiscoveryBackend K) (state : σ) :
    Except DiscoveryBackendStoreError (Option K) × σ :=
  let url := self.discoveryUrl
  let context := "post backend: " ++ self.keyText.display backend.publicKey ++ ", url: "
    ++ url.toText
  match sendJson send .post url (backend.toJson self.keyText json) state with
  | (.error e, state) => (.error (.httpError .upstream context e), state)
  | (.ok response, state) =>
      if response.status = StatusCode.created then (.ok (some backend.publicKey), state)
      else if response.status = StatusCode.conflict then (.ok none, state)
      else (.error (self.generalError response.status context), state)

def put (send : Transport σ) (backend : DiscoveryBackend K) (state : σ) :
    Except DiscoveryBackendStoreError Bool × σ :=
  let url := self.discoveryPublicKeyUrl backend.publicKey
  match sendJson send .put url (backend.backend.toJson json) state with
  | (.error e, state) => (.error (.httpError .upstream ("put backend " ++ url.toText) e), state)
  | (.ok response, state) =>
      if response.status = StatusCode.noContent then (.ok false, state)
      else if response.status = StatusCode.created then (.ok true, state)
      else (.error (self.generalError response.status ("put backend " ++ url.toText)), state)

def delete (send : Transport σ) (publicKey : K) (state : σ) :
    Except DiscoveryBackendStoreError Bool × σ :=
  let url := self.discoveryPublicKeyUrl publicKey
  match send (.plain .delete url) state with
  | (.error e, state) =>
      (.error (.httpError .upstream ("delete backend " ++ url.toText) e), state)
  | (.ok response, state) =>
      if response.status = StatusCode.noContent then (.ok true, state)
      else if response.status = StatusCode.notFound then (.ok false, state)
      else (.error (self.generalError response.status ("delete backend: " ++ url.toText)), state)

/-- `impl DiscoveryBackendStore for HttpDiscoveryBackendStore`; the service reads its clock
when a request arrives. -/
def backendStore (send : DateTime → Transport σ) :
    DiscoveryBackendStore K σ DiscoveryBackendStoreError where
  get := self.get json (send 0)
  getAll := self.getAll json (send 0)
  post now := self.post json (send now)
  put now := self.put json (send now)
  patch now := self.patch (send now)
  delete := self.delete (send 0)

/-- The client has no state of its own. -/
theorem get_state (send : Transport σ) (publicKey : K) (state : σ) :
    (self.get json send publicKey state).2
      = (send (.plain .get (self.discoveryPublicKeyUrl publicKey)) state).2 := by
  unfold get
  dsimp only
  rcases send (.plain .get (self.discoveryPublicKeyUrl publicKey)) state with
    ⟨response | response, state'⟩
  · rfl
  · dsimp only
    split_ifs
    · cases response.body.bind (DiscoveryBackend.fromJson self.keyText json) <;> rfl
    · rfl
    · rfl

theorem getAll_state (send : Transport σ) (requestedEtag : Option UInt64) (state : σ) :
    (self.getAll json send requestedEtag state).2
      = (send { HttpRequest.plain .get self.discoveryUrl with
          headers := ifNoneMatch requestedEtag } state).2 := by
  unfold getAll
  dsimp only
  rcases send { HttpRequest.plain .get self.discoveryUrl with
    headers := ifNoneMatch requestedEtag } state with ⟨response | response, state'⟩
  · rfl
  · dsimp only
    cases response.headers.lookup "etag" with
    | none => rfl
    | some etag =>
        dsimp only
        cases etagFromStr etag <;> rfl

/-- An error of a service is an error for the client. -/
theorem patch_status_of_error (source : ServiceErrorSource) :
    source.toHttpStatus ≠ StatusCode.noContent ∧ source.toHttpStatus ≠ StatusCode.notFound := by
  cases source <;> decide

end HttpDiscoveryBackendStore

end Switchgear.Discovery
