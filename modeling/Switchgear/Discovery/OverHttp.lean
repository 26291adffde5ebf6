/-
  Switchgear.Discovery.OverHttp — a store used through the HTTP client and the
  handlers of a service, against the same store used directly.

  Client and service write every outcome as a status, an `ETag` and a body; the
  other side reads it back.  One lemma per method says that the remote call does
  to the store what the direct call does and answers the same where that one
  succeeds (`Delivered`); where the store fails, the client fails.

  Keys are written in hexadecimal digits, so a key arrives as the path segment it
  was written as.  A backend arrives if its implementation is JSON in compact form;
  `memory_answers_compact`: the memory store answers with no other if it is given
  no other.

  Main result:
    * `remote_store_answers_as_store` — over whole runs.
-/
import Switchgear.Discovery.Http
import Switchgear.Discovery.Memory
import Switchgear.Discovery.DbOutcome
import Switchgear.Service.DiscoveryHandlers

namespace Switchgear.Discovery

open Switchgear.Lib
open Switchgear.Service

/-! ## §1. The remote store. -/

section Definitions

variable {K σ ε : Type} [HasServiceErrorSource ε]

/-- The way of a request to the service and of the response back. -/
def deliver (keyText : PublicKeyText K) (json : JsonText) (store : DiscoveryBackendStore K σ ε)
    (now : DateTime) : Transport σ :=
  fun request state =>
    let (response, state) := DiscoveryService.serve keyText json store now request.sent state
    (.ok response, state)

/-- `HttpDiscoveryBackendStore` on a service over the store. -/
def remoteStore (client : HttpDiscoveryBackendStore K) (json : JsonText)
    (store : DiscoveryBackendStore K σ ε) :
    DiscoveryBackendStore K σ DiscoveryBackendStoreError :=
  client.backendStore json (deliver client.keyText json store)

/-- The remote call leaves the store as the direct call does, and answers the same where
that one succeeds with an answer that fits into a response. -/
structure Delivered {ε ε' α : Type} (fits : α → Prop) (direct : Except ε α × σ)
    (remote : Except ε' α × σ) : Prop where
  state : remote.2 = direct.2
  answer : (∀ value, direct.1 = .ok value → fits value) →
    remote.1.toOption = direct.1.toOption

/-- A text of hexadecimal digits. -/
structure HexText (text : String) : Prop where
  nonempty : text.toList ≠ []
  digits : ∀ c ∈ text.toList, Hex.isHexDigit c = true

variable (json : JsonText)

/-- The backend's implementation is JSON in compact form. -/
def CompactBackend (backend : DiscoveryBackend K) : Prop :=
  json.Compact backend.backend.implementation

/-- A call of the five methods, on backends with compact implementations. -/
def CompactCall : Call K → Prop
  | .mutate (.post backend) => CompactBackend json backend
  | .mutate (.put backend) => CompactBackend json backend
  | .mutate (.patch _) => False
  | _ => True

/-- The backends of an answer have compact implementations. -/
def CompactAnswer : Answer K → Prop
  | .backend backend => ∀ b ∈ backend, CompactBackend json b
  | .backends backends => ∀ bs ∈ backends.backends, ∀ b ∈ bs, CompactBackend json b
  | .mutated _ => True

end Definitions

/-! ## §2. What arrives at the service. -/

section Routes

variable {K σ ε : Type} [HasServiceErrorSource ε]

/-- What a path segment and a header value ask of a digit. -/
theorem isHexDigit_plain {c : Char} (h : Hex.isHexDigit c = true) :
    UrlPath.isUnreserved c = true ∧ isHeaderChar c = true := by
  have hdigit := Hex.of_ascii (P := fun c => Hex.isHexDigit c = true →
    UrlPath.isUnreserved c = true ∧ isHeaderChar c = true) (by decide) (Hex.isHexDigit_lt h)
  exact hdigit h

theorem HexText.plainSegment {text : String} (h : HexText text) :
    UrlPath.PlainSegment text.toList where
  nonempty := h.nonempty
  unreserved c hc := (isHexDigit_plain (h.digits c hc)).1
  not_single_dot heq := by
    have hdot := h.digits '.' (by rw [heq]; decide)
    revert hdot
    decide
  not_double_dot heq := by
    have hdot := h.digits '.' (by rw [heq]; decide)
    revert hdot
    decide

theorem HexText.headerValue {text : String} (h : HexText text) :
    Service.headerValue text = .ok text := by
  apply headerValue_ok
  intro c hc
  exact (isHexDigit_plain (h.digits c hc)).2

theorem hexText_etagString (etag : UInt64) : HexText (etagString etag) where
  nonempty := by
    unfold etagString
    rw [String.toList_ofList]
    intro hnil
    have hback := Hex.decode_encode (Hex.toBeBytes etag)
    rw [hnil] at hback
    have hlength := congrArg List.length (Option.some.inj hback)
    unfold Hex.toBeBytes at hlength
    rw [List.length_map, List.length_range] at hlength
    cases hlength
  digits := by
    unfold etagString
    rw [String.toList_ofList]
    exact Hex.isHexDigit_encode _

theorem plainSegment_discovery : UrlPath.PlainSegment "discovery".toList where
  nonempty := by decide
  unreserved := List.all_eq_true.mp (by decide)
  not_single_dot := by decide
  not_double_dot := by decide

/-- The URL of a listing or a post. -/
theorem plain_discoveryUrl (client : HttpDiscoveryBackendStore K) : client.discoveryUrl.Plain where
  segments := List.forall_mem_singleton.mpr plainSegment_discovery
  query _ hquery := by cases hquery

/-- The URL of a call about one key. -/
theorem plain_discoveryPublicKeyUrl (client : HttpDiscoveryBackendStore K) {key : K}
    (hkey : HexText (client.keyText.display key)) :
    (client.discoveryPublicKeyUrl key).Plain where
  segments := List.forall_mem_cons.mpr
    ⟨plainSegment_discovery, List.forall_mem_singleton.mpr hkey.plainSegment⟩
  query _ hquery := by cases hquery

theorem segments_discoveryUrl (client : HttpDiscoveryBackendStore K) :
    client.discoveryUrl.target.segments = ["discovery".toList] :=
  congrArg UrlPath.Target.segments (plain_discoveryUrl client).target

theorem segments_discoveryPublicKeyUrl (client : HttpDiscoveryBackendStore K) {key : K}
    (hkey : HexText (client.keyText.display key)) :
    (client.discoveryPublicKeyUrl key).target.segments
      = ["discovery".toList, (client.keyText.display key).toList] :=
  congrArg UrlPath.Target.segments (plain_discoveryPublicKeyUrl client hkey).target

/-- The etag of a listing's response. -/
theorem lookup_etag (etag : String) :
    (noCacheHeaders ++ [("etag", etag)]).lookup "etag" = some etag := by
  unfold noCacheHeaders
  simp [List.lookup]

/-- A listing is answered with its etag. -/
theorem respond_backends (etag : UInt64) (backends : Option (List (DiscoveryBackend K)))
    (state : σ) :
    (respond DiscoveryHandlers.backendsResponse
        ((.ok { etag, backends } : Except ε (DiscoveryBackends K)), state)).1
      = match backends with
        | none => .ok (.notModified (noCacheHeaders ++ [("etag", etagString etag)]))
        | some backends => .ok (.ok backends (noCacheHeaders ++ [("etag", etagString etag)])) := by
  have hvalue := (hexText_etagString etag).headerValue
  unfold respond DiscoveryHandlers.backendsResponse
  cases backends with
  | none => simp only [hvalue]
  | some backends => simp only [hvalue]

end Routes

/-! ## §3. One lemma per method. -/

section Methods

variable {K σ ε : Type} [HasServiceErrorSource ε] {client : HttpDiscoveryBackendStore K}
  {json : JsonText} {store : DiscoveryBackendStore K σ ε}

open HttpDiscoveryBackendStore DiscoveryHandlers

/-- A call about one key reaches the handler of its method. -/
theorem serve_key {key : K} (hkey : HexText (client.keyText.display key)) {request : HttpRequest}
    (hurl : request.url = client.discoveryPublicKeyUrl key) (now : DateTime) (state : σ) :
    DiscoveryService.serve client.keyText json store now request state
      = match request.method with
        | .get =>
            let (result, state) :=
              getBackend client.keyText store (client.keyText.display key) state
            (intoJsonResponse (DiscoveryBackend.toJson client.keyText json) result, state)
        | .put =>
            withJson (DiscoveryBackendSparse.fromJson json) request.body state fun backend =>
              let (result, state) :=
                putBackend client.keyText store now (client.keyText.display key) backend state
              (intoJsonResponse DiscoveryService.noBody result, state)
        | .patch =>
            servePatchBackend client.keyText store now (client.keyText.display key) request state
        | .delete =>
            let (result, state) :=
              deleteBackend client.keyText store (client.keyText.display key) state
            (intoJsonResponse DiscoveryService.noBody result, state)
        | .post => (rejection StatusCode.methodNotAllowed, state) := by
  have hsegments := segments_discoveryPublicKeyUrl client hkey
  unfold DiscoveryService.serve
  rw [hurl, hsegments]
  dsimp only
  cases request.method <;>
    exact (if_pos ⟨rfl, hkey.nonempty⟩).trans (by simp only [withPath_plain hkey.plainSegment])

/-- A listing or a post reaches its handler. -/
theorem serve_all {request : HttpRequest} (hurl : request.url = client.discoveryUrl)
    (now : DateTime) (state : σ) :
    DiscoveryService.serve client.keyText json store now request state
      = match request.method with
        | .get =>
            let (result, state) := getBackends store request.headers state
            (intoJsonResponse (DiscoveryBackend.listToJson client.keyText json) result, state)
        | .post =>
            withJson (DiscoveryBackend.fromJson client.keyText json) request.body state
              fun backend =>
                let (result, state) := postBackend client.keyText store now backend state
                (intoJsonResponse DiscoveryService.noBody result, state)
        | _ => (rejection StatusCode.methodNotAllowed, state) := by
  have hsegments := segments_discoveryUrl client
  unfold DiscoveryService.serve
  rw [hurl, hsegments]
  cases request.method <;> exact if_pos rfl

/-- What the service does with a request to a plain URL comes back to the client. -/
theorem deliver_eq {request : HttpRequest} {now : DateTime} {state state' : σ}
    {response : HttpResponse}
    (hserve : DiscoveryService.serve client.keyText json store now request state
      = (response, state')) (hplain : request.url.Plain) :
    deliver client.keyText json store now request state = (.ok response, state') := by
  unfold deliver
  rw [HttpRequest.sent_plain hplain, hserve]

variable (json) in
/-- The response to a read of one backend. -/
theorem serve_get {key : K} (hkey : HexText (client.keyText.display key)) (now : DateTime)
    {state state' : σ} {result : Except ε (Option (DiscoveryBackend K))}
    (hget : store.get key state = (result, state')) :
    DiscoveryService.serve client.keyText json store now
        (.plain .get (client.discoveryPublicKeyUrl key)) state
      = (intoJsonResponse (DiscoveryBackend.toJson client.keyText json)
          (respond foundResponse (result, state')).1, state') := by
  rw [serve_key hkey rfl]
  unfold HttpRequest.plain getBackend
  dsimp only
  rw [client.keyText.parse_display]
  dsimp only
  rw [hget]
  cases result <;> rfl

variable (json store) in
theorem get_delivered {key : K} (hkey : HexText (client.keyText.display key)) (state : σ) :
    Delivered (fun backend => ∀ b ∈ backend, CompactBackend json b) (store.get key state)
      ((remoteStore client json store).get key state) := by
  rcases hget : store.get key state with ⟨result, state'⟩
  have hdeliver := deliver_eq (serve_get json hkey 0 hget)
    (plain_discoveryPublicKeyUrl client hkey)
  refine ⟨?_, ?_⟩
  · unfold remoteStore HttpDiscoveryBackendStore.backendStore
    dsimp only
    rw [get_state, hdeliver]
  intro hcompact
  unfold remoteStore HttpDiscoveryBackendStore.backendStore HttpDiscoveryBackendStore.get
  dsimp only
  rw [hdeliver]
  cases result with
  | error e =>
      obtain ⟨hok, -, -, -, hfound, -⟩ :=
        (HasServiceErrorSource.getServiceErrorSource e).toHttpStatus_unexpected
      rw [intoJsonResponse_respond_error]
      dsimp only
      rw [if_neg hok, if_neg hfound]
      rfl
  | ok backend =>
      cases backend with
      | none => rfl
      | some backend =>
          obtain ⟨body, hbody, hread⟩ := DiscoveryBackend.fromJson_toJson client.keyText json
            (hcompact (some backend) rfl backend rfl)
          have hresponse : intoJsonResponse (DiscoveryBackend.toJson client.keyText json)
              (respond foundResponse ((.ok (some backend) : Except ε _), state')).1
                = { status := StatusCode.ok, headers := noCacheHeaders, body := some body } := by
            unfold respond foundResponse intoJsonResponse JsonCrudResponse.ok
            dsimp only
            rw [hbody]
          rw [hresponse]
          dsimp only
          rw [if_pos rfl, Option.bind_some, hread]
          rfl

variable (client json) in
/-- The response to a listing. -/
theorem serve_getAll (requestedEtag : Option UInt64) (now : DateTime) {state state' : σ}
    {result : Except ε (DiscoveryBackends K)}
    (hall : store.getAll requestedEtag state = (result, state')) :
    DiscoveryService.serve client.keyText json store now
        { HttpRequest.plain .get client.discoveryUrl with headers := ifNoneMatch requestedEtag } state
      = (intoJsonResponse (DiscoveryBackend.listToJson client.keyText json)
          (respond backendsResponse (result, state')).1, state') := by
  rw [serve_all rfl]
  unfold HttpRequest.plain getBackends ifNoneMatch
  dsimp only
  cases requestedEtag with
  | none =>
      dsimp only [List.lookup]
      rw [hall]
      cases result <;> rfl
  | some etag =>
      dsimp only [List.lookup]
      rw [show ("if-none-match" == "if-none-match") = true from by decide]
      dsimp only
      rw [etagFromStr_etagString]
      dsimp only
      rw [hall]
      cases result <;> rfl

/-- The response to a post of a backend that arrives. -/
theorem serve_post {backend : DiscoveryBackend K} {body : Json}
    (hread : DiscoveryBackend.fromJson client.keyText json body = some backend) (now : DateTime)
    {state state' : σ} {result : Except ε (Option K)}
    (hpost : store.post now backend state = (result, state')) :
    DiscoveryService.serve client.keyText json store now
        (.json .post client.discoveryUrl body) state
      = (intoJsonResponse DiscoveryService.noBody
          (respond (postedResponse (client.keyText.display backend.publicKey))
            (result, state')).1, state') := by
  rw [serve_all rfl]
  unfold HttpRequest.json
  dsimp only
  rw [withJson_some hread]
  unfold postBackend
  dsimp only
  rw [hpost]
  cases result <;> rfl

/-- The response to a put of a backend that arrives. -/
theorem serve_put {backend : DiscoveryBackend K} {body : Json}
    (hkey : HexText (client.keyText.display backend.publicKey))
    (hread : DiscoveryBackendSparse.fromJson json body = some backend.backend) (now : DateTime)
    {state state' : σ} {result : Except ε Bool}
    (hput : store.put now backend state = (result, state')) :
    DiscoveryService.serve client.keyText json store now
        (.json .put (client.discoveryPublicKeyUrl backend.publicKey) body) state
      = (intoJsonResponse DiscoveryService.noBody (respond putResponse (result, state')).1,
          state') := by
  rw [serve_key hkey rfl]
  unfold HttpRequest.json
  dsimp only
  rw [withJson_some hread]
  unfold putBackend
  rw [client.keyText.parse_display]
  dsimp only
  rw [hput]
  cases result <;> rfl

/-- The response to a delete. -/
theorem serve_delete {key : K} (hkey : HexText (client.keyText.display key)) (now : DateTime)
    {state state' : σ} {result : Except ε Bool}
    (hdelete : store.delete key state = (result, state')) :
    DiscoveryService.serve client.keyText json store now
        (.plain .delete (client.discoveryPublicKeyUrl key)) state
      = (intoJsonResponse DiscoveryService.noBody (respond deletedResponse (result, state')).1,
          state') := by
  rw [serve_key hkey rfl]
  unfold HttpRequest.plain deleteBackend
  dsimp only
  rw [client.keyText.parse_display]
  dsimp only
  rw [hdelete]
  cases result <;> rfl

variable (client json store) in
theorem getAll_delivered (requestedEtag : Option UInt64) (state : σ) :
    Delivered (fun answer => ∀ bs ∈ answer.backends, ∀ b ∈ bs, CompactBackend json b)
      (store.getAll requestedEtag state)
      ((remoteStore client json store).getAll requestedEtag state) := by
  rcases hall : store.getAll requestedEtag state with ⟨result, state'⟩
  have hdeliver := deliver_eq (serve_getAll client json requestedEtag 0 hall)
    (plain_discoveryUrl client)
  refine ⟨?_, ?_⟩
  · unfold remoteStore HttpDiscoveryBackendStore.backendStore
    dsimp only
    rw [getAll_state, hdeliver]
  intro hcompact
  unfold remoteStore HttpDiscoveryBackendStore.backendStore HttpDiscoveryBackendStore.getAll
  dsimp only
  rw [hdeliver]
  cases result with
  | error e =>
      -- an error has no etag
      rw [intoJsonResponse_respond_error]
      rfl
  | ok answer =>
      obtain ⟨etag, backends⟩ := answer
      rw [respond_backends]
      cases backends with
      | none =>
          dsimp only [intoJsonResponse, JsonCrudResponse.notModified]
          rw [lookup_etag]
          dsimp only
          rw [etagFromStr_etagString]
          rfl
      | some backends =>
          obtain ⟨body, hbody, hread⟩ :=
            DiscoveryBackend.listFromJson_listToJson client.keyText json
              (hcompact { etag, backends := some backends } rfl backends rfl)
          dsimp only [intoJsonResponse, JsonCrudResponse.ok]
          rw [hbody]
          dsimp only
          rw [lookup_etag]
          dsimp only
          rw [etagFromStr_etagString]
          unfold readBackends
          dsimp only
          rw [if_pos rfl, Option.bind_some, hread]
          rfl

/-- A post is answered by status; the client takes the key from its own request. -/
theorem post_delivered {backend : DiscoveryBackend K}
    (hkey : HexText (client.keyText.display backend.publicKey))
    (hcompact : CompactBackend json backend) (now : DateTime) (state : σ)
    (hposted : ∀ key, (store.post now backend state).1 = .ok (some key) →
      key = backend.publicKey) :
    Delivered (fun _ => True) (store.post now backend state)
      ((remoteStore client json store).post now backend state) := by
  obtain ⟨body, hbody, hread⟩ := DiscoveryBackend.fromJson_toJson client.keyText json hcompact
  rcases hpost : store.post now backend state with ⟨result, state'⟩
  rw [hpost] at hposted
  unfold remoteStore HttpDiscoveryBackendStore.backendStore HttpDiscoveryBackendStore.post
    sendJson
  dsimp only
  rw [hbody]
  dsimp only
  rw [deliver_eq (serve_post hread now hpost) (plain_discoveryUrl client)]
  cases result with
  | error e =>
      obtain ⟨-, hcreated, -, -, -, hconflict⟩ :=
        (HasServiceErrorSource.getServiceErrorSource e).toHttpStatus_unexpected
      rw [intoJsonResponse_respond_error]
      dsimp only
      rw [if_neg hcreated, if_neg hconflict]
      exact ⟨rfl, fun _ => rfl⟩
  | ok posted =>
      unfold respond postedResponse
      dsimp only
      rw [hkey.headerValue]
      cases posted with
      | none => exact ⟨rfl, fun _ => rfl⟩
      | some key =>
          rw [hposted key rfl]
          exact ⟨rfl, fun _ => rfl⟩

variable (store) in
theorem put_delivered {backend : DiscoveryBackend K}
    (hkey : HexText (client.keyText.display backend.publicKey))
    (hcompact : CompactBackend json backend) (now : DateTime) (state : σ) :
    Delivered (fun _ => True) (store.put now backend state)
      ((remoteStore client json store).put now backend state) := by
  obtain ⟨body, hbody, hread⟩ := DiscoveryBackendSparse.fromJson_toJson json hcompact
  rcases hput : store.put now backend state with ⟨result, state'⟩
  unfold remoteStore HttpDiscoveryBackendStore.backendStore HttpDiscoveryBackendStore.put
    sendJson
  dsimp only
  rw [hbody]
  dsimp only
  rw [deliver_eq (serve_put hkey hread now hput)
    (plain_discoveryPublicKeyUrl client hkey)]
  cases result with
  | error e =>
      obtain ⟨-, hcreated, hcontent, -, -, -⟩ :=
        (HasServiceErrorSource.getServiceErrorSource e).toHttpStatus_unexpected
      rw [intoJsonResponse_respond_error]
      dsimp only
      rw [if_neg hcontent, if_neg hcreated]
      exact ⟨rfl, fun _ => rfl⟩
  | ok created => cases created <;> exact ⟨rfl, fun _ => rfl⟩

variable (json store) in
theorem delete_delivered {key : K} (hkey : HexText (client.keyText.display key)) (state : σ) :
    Delivered (fun _ => True) (store.delete key state)
      ((remoteStore client json store).delete key state) := by
  rcases hdelete : store.delete key state with ⟨result, state'⟩
  unfold remoteStore HttpDiscoveryBackendStore.backendStore HttpDiscoveryBackendStore.delete
  dsimp only
  rw [deliver_eq (serve_delete hkey 0 hdelete) (plain_discoveryPublicKeyUrl client hkey)]
  cases result with
  | error e =>
      obtain ⟨-, -, hcontent, -, hfound, -⟩ :=
        (HasServiceErrorSource.getServiceErrorSource e).toHttpStatus_unexpected
      rw [intoJsonResponse_respond_error]
      dsimp only
      rw [if_neg hcontent, if_neg hfound]
      exact ⟨rfl, fun _ => rfl⟩
  | ok deleted => cases deleted <;> exact ⟨rfl, fun _ => rfl⟩

end Methods

/-! ## §4. Whole runs. -/

section Runs

variable {K σ ε : Type} [HasServiceErrorSource ε] {client : HttpDiscoveryBackendStore K}
  {json : JsonText} {store : DiscoveryBackendStore K σ ε}

open DiscoveryBackendStore

/-- The answers of two calls, read through the same function. -/
theorem Delivered.map {ε ε' α β : Type} {fits : α → Prop} {direct : Except ε α × σ}
    {remote : Except ε' α × σ} (h : Delivered fits direct remote) (f : α → β)
    (fitsMap : β → Prop) (hfits : ∀ value, fitsMap (f value) → fits value) :
    Delivered fitsMap (direct.1.map f, direct.2) (remote.1.map f, remote.2) := by
  refine ⟨h.state, ?_⟩
  obtain ⟨direct, s⟩ := direct
  obtain ⟨remote, s'⟩ := remote
  intro hcompact
  have hanswer : remote.toOption = direct.toOption :=
    h.answer fun value hvalue => hfits value (hcompact (f value) (by
      have hdirect : direct = .ok value := hvalue
      rw [hdirect]
      rfl))
  cases direct with
  | error e =>
      cases remote with
      | error e' => rfl
      | ok value => cases hanswer
  | ok value =>
      cases remote with
      | error e' => cases hanswer
      | ok value' =>
          obtain rfl : value' = value := Option.some.inj hanswer
          rfl

/-- One call. -/
theorem machine_delivered (hkeys : ∀ key, HexText (client.keyText.display key))
    (hposted : ∀ now backend state key,
      (store.post now backend state).1 = .ok (some key) → key = backend.publicKey)
    (state : σ) (input : DateTime × Call K) (hcall : CompactCall json input.2) :
    Delivered (CompactAnswer json) (store.machine state input)
      ((remoteStore client json store).machine state input) := by
  obtain ⟨now, call⟩ := input
  cases call with
  | get key =>
      have h := get_delivered json store (hkeys key) state
      rw [machine_get, machine_get]
      exact h.map Answer.backend _ fun _ hvalue => hvalue
  | getAll etag =>
      have h := getAll_delivered client json store etag state
      rw [machine_getAll, machine_getAll]
      exact h.map Answer.backends _ fun _ hvalue => hvalue
  | mutate mutation =>
      cases mutation with
      | post backend =>
          have h := post_delivered (hkeys backend.publicKey) hcall now state
            (hposted now backend state)
          rw [machine_post, machine_post]
          exact h.map (fun answer => Answer.mutated (.posted answer)) _ fun _ _ => trivial
      | put backend =>
          have h := put_delivered store (hkeys backend.publicKey) hcall now state
          rw [machine_put, machine_put]
          exact h.map (fun answer => Answer.mutated (.flag answer)) _ fun _ _ => trivial
      | patch patch => exact hcall.elim
      | delete key =>
          have h := delete_delivered json store (hkeys key) state
          rw [machine_delete, machine_delete]
          exact h.map (fun answer => Answer.mutated (.flag answer)) _ fun _ _ => trivial

/-- **A store answers over HTTP as it answers directly**: over every run of the five
methods, the client returns what the store returns wherever the store succeeds (with
backends that fit into a response), fails where it fails, and leaves it in the same
state. -/
theorem remote_store_answers_as_store (client : HttpDiscoveryBackendStore K) (json : JsonText)
    (store : DiscoveryBackendStore K σ ε) (hkeys : ∀ key, HexText (client.keyText.display key))
    (hposted : ∀ now backend state key,
      (store.post now backend state).1 = .ok (some key) → key = backend.publicKey)
    (calls : List (DateTime × Call K)) (hcalls : ∀ input ∈ calls, CompactCall json input.2)
    (state : σ) :
    List.Forall₂
        (fun direct remote => (∀ answer, direct = .ok answer → CompactAnswer json answer) →
          remote.toOption = direct.toOption)
        (store.machine.run state calls).1
        ((remoteStore client json store).machine.run state calls).1
      ∧ ((remoteStore client json store).machine.run state calls).2
          = (store.machine.run state calls).2 := by
  have halong : store.machine.Along (fun _ input => CompactCall json input.2) state calls :=
    store.machine.along_of_forall state calls fun input hinput _ => hcalls input hinput
  apply Machine.run_replaced store.machine (remoteStore client json store).machine _ _ _ state
    calls halong
  intro state input hcall
  have h := machine_delivered hkeys hposted state input hcall
  exact ⟨h.answer, h.state⟩

end Runs

/-! ## §5. The memory store. -/

section Memory

variable {K : Type} [Ord K] [Std.TransOrd K] [Std.LawfulEqOrd K] {json : JsonText}

open MemoryDiscoveryBackendStore

/-- The records of the store have compact implementations. -/
def CompactStore (json : JsonText) (self : MemoryDiscoveryBackendStore K) : Prop :=
  EveryValue (fun entry => CompactBackend json entry.backend) self.store

theorem CompactStore.listing {self : MemoryDiscoveryBackendStore K} (h : CompactStore json self) :
    ∀ b ∈ self.listing, CompactBackend json b := by
  intro b hb
  unfold MemoryDiscoveryBackendStore.listing at hb
  obtain ⟨entry, hentry, rfl⟩ := List.mem_map.mp hb
  rw [List.mem_insertionSort] at hentry
  obtain ⟨⟨key, entry'⟩, hpair, rfl⟩ := List.mem_map.mp hentry
  exact h key entry' (Std.ExtTreeMap.mem_toList_iff_getElem?_eq_some.mp hpair)

omit [Std.LawfulEqOrd K] in
theorem CompactStore.step {self : MemoryDiscoveryBackendStore K} (h : CompactStore json self)
    (input : DateTime × Call K) (hcall : CompactCall json input.2) :
    CompactStore json (backendStore.machine self input).2 := by
  obtain ⟨now, call⟩ := input
  cases call with
  | get key => exact h
  | getAll etag =>
      rw [DiscoveryBackendStore.machine_getAll]
      show CompactStore json (MemoryDiscoveryBackendStore.getAll etag self).2
      unfold MemoryDiscoveryBackendStore.getAll
      dsimp only
      split_ifs <;> exact h
  | mutate mutation =>
      cases mutation with
      | post backend =>
          rw [DiscoveryBackendStore.machine_post]
          show CompactStore json (MemoryDiscoveryBackendStore.post now backend self).2
          unfold MemoryDiscoveryBackendStore.post
          split_ifs
          · exact h
          · refine EveryValue.insert h ?_ backend.publicKey
            exact hcall
      | put backend =>
          refine EveryValue.insert h ?_ backend.publicKey
          exact hcall
      | patch patch => exact hcall.elim
      | delete key =>
          rw [DiscoveryBackendStore.machine_delete]
          show CompactStore json (MemoryDiscoveryBackendStore.delete key self).2
          unfold MemoryDiscoveryBackendStore.delete
          dsimp only
          split_ifs
          · exact EveryValue.erase h key
          · exact h

theorem CompactStore.answer {self : MemoryDiscoveryBackendStore K} (h : CompactStore json self)
    (input : DateTime × Call K) (answer : Answer K)
    (hanswer : (backendStore.machine self input).1 = .ok answer) : CompactAnswer json answer := by
  obtain ⟨now, call⟩ := input
  cases call with
  | get key =>
      obtain rfl : Answer.backend (self.store[key]?.map (·.backend)) = answer :=
        Except.ok.inj hanswer
      intro b hb
      obtain ⟨entry, hentry, rfl⟩ := Option.map_eq_some_iff.mp hb
      exact h key entry hentry
  | getAll etag =>
      have hall : (MemoryDiscoveryBackendStore.getAll etag self).1.map Answer.backends
        = .ok answer := hanswer
      unfold MemoryDiscoveryBackendStore.getAll at hall
      dsimp only at hall
      split_ifs at hall
      · rw [← Except.ok.inj hall]
        intro bs hbs
        cases hbs
      · rw [← Except.ok.inj hall]
        intro bs hbs
        rw [← Option.some.inj hbs]
        exact h.listing
  | mutate mutation =>
      have hmutated : (backendStore.mutate now mutation self).1.map Answer.mutated = .ok answer :=
        hanswer
      cases hresult : (backendStore.mutate now mutation self).1 with
      | error e =>
          rw [hresult] at hmutated
          cases hmutated
      | ok result =>
          rw [hresult] at hmutated
          rw [← Except.ok.inj hmutated]
          trivial

/-- Given compact backends only, the memory store answers with no other. -/
theorem memory_answers_compact (self : MemoryDiscoveryBackendStore K) (h : CompactStore json self)
    (calls : List (DateTime × Call K)) (hcalls : ∀ input ∈ calls, CompactCall json input.2) :
    ∀ result ∈ (backendStore.machine.run self calls).1,
      ∀ answer, result = .ok answer → CompactAnswer json answer := by
  have halong : backendStore.machine.Along (fun _ input => CompactCall json input.2) self calls :=
    backendStore.machine.along_of_forall self calls fun input hinput _ => hcalls input hinput
  exact (backendStore.machine.run_answers (CompactStore json)
    (fun _ input => CompactCall json input.2)
    (fun result _ => ∀ answer, result = .ok answer → CompactAnswer json answer)
    (fun _ input hI hcall => hI.step input hcall)
    (fun _ input hI _ answer hanswer => hI.answer input answer hanswer)
    (fun _ _ _ _ _ hold => hold) self calls h halong).1

/-- A client of the examples; a key is one of two texts. -/
def sampleHexClient : HttpDiscoveryBackendStore Bool where
  baseUrl := "https://base.com"
  keyText :=
    { display := fun key => if key then "03" else "02"
      parse := fun text => if text = "03" then some true else if text = "02" then some false else none
      parse_display := by decide }
  displayStatus := toString

/-- The implementation of the examples. -/
def sampleImplementation : Json := .object [("type", .string "node")]

/-- `serde_json` on the text of the examples. -/
def sampleJsonText : JsonText where
  fromSlice bytes :=
    if bytes = utf8 (Json.compact sampleImplementation) then some sampleImplementation else none
  toVec value := utf8 (Json.compact value)

/-- A backend of the examples, with an implementation. -/
def sampleCompactBackend (key : Bool) : DiscoveryBackend Bool where
  publicKey := key
  backend :=
    { name := some "node"
      partitions := {"a"}
      weight := 1
      enabled := true
      implementation := utf8 (Json.compact sampleImplementation) }

/-- Post twice, list twice, replace, create, delete twice, read twice. -/
def sampleCalls : List (DateTime × Call Bool) :=
  [(1, .mutate (.post (sampleCompactBackend true))),
    (2, .mutate (.post (sampleCompactBackend true))), (3, .getAll none), (4, .getAll (some 1)),
    (5, .mutate (.put (sampleCompactBackend true))),
    (6, .mutate (.put (sampleCompactBackend false))), (7, .mutate (.delete true)),
    (8, .mutate (.delete true)), (9, .get true), (10, .get false)]

/-- The memory store of the examples, which is given and answers with compact backends. -/
theorem remote_store_answers_as_store_sample :
    (∀ result ∈ (backendStore.machine.run (new (K := Bool)) sampleCalls).1,
      ∀ answer, result = .ok answer → CompactAnswer sampleJsonText answer)
    ∧ List.Forall₂
        (fun direct remote =>
          (∀ answer, direct = .ok answer → CompactAnswer sampleJsonText answer) →
            remote.toOption = direct.toOption)
        (backendStore.machine.run new sampleCalls).1
        ((remoteStore sampleHexClient sampleJsonText backendStore).machine.run new
          sampleCalls).1
      ∧ ((remoteStore sampleHexClient sampleJsonText backendStore).machine.run new
          sampleCalls).2 = (backendStore.machine.run new sampleCalls).2 := by
  have hcompact : ∀ key, CompactBackend sampleJsonText (sampleCompactBackend key) := by
    intro key
    refine ⟨sampleImplementation, ?_, rfl⟩
    unfold sampleJsonText sampleCompactBackend
    dsimp only
    exact if_pos rfl
  have hcalls : ∀ input ∈ sampleCalls, CompactCall sampleJsonText input.2 := by
    unfold sampleCalls
    simp only [List.forall_mem_cons, List.not_mem_nil, false_implies, implies_true, and_true]
    exact ⟨hcompact true, hcompact true, trivial, trivial, hcompact true, hcompact false,
      trivial, trivial, trivial, trivial⟩
  refine ⟨memory_answers_compact new EveryValue.empty sampleCalls hcalls, ?_⟩
  apply remote_store_answers_as_store sampleHexClient sampleJsonText backendStore ?_ ?_
    sampleCalls hcalls
  · intro key
    cases key with
    | false =>
        have hex : HexText "02" := ⟨by decide, List.all_eq_true.mp (by decide)⟩
        exact hex
    | true =>
        have hex : HexText "03" := ⟨by decide, List.all_eq_true.mp (by decide)⟩
        exact hex
  · intro now backend state key hkey
    have hposted : (MemoryDiscoveryBackendStore.post now backend state).1 = .ok (some key) := hkey
    unfold MemoryDiscoveryBackendStore.post at hposted
    split_ifs at hposted
    · cases hposted
    · exact (Option.some.inj (Except.ok.inj hposted)).symm

end Memory

end Switchgear.Discovery
