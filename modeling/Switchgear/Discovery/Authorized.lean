/-
  Switchgear.Discovery.Authorized — a listing of the backends over HTTP with a
  token.

  Main result:
    * `getAll_authorized` — until the leeway after the expiry of the token it is
      the listing over HTTP; from then on it is one and the same error, because the
      refusal has no etag.
-/
import Switchgear.Discovery.OverHttp
import Switchgear.Service.SignedToken

namespace Switchgear.Discovery

open Switchgear.Lib
open Switchgear.Service

/-! ## §1. The client and its token. -/

section Definitions

variable {K σ ε : Type} [HasServiceErrorSource ε]

/-- `HttpDiscoveryBackendStore::create`, without certificates and timeouts: the client and the
headers it sends with every request.  `parseUrl` gives the error of a text that is no URL. -/
def HttpDiscoveryBackendStore.create (keyText : PublicKeyText K)
    (displayStatus : StatusCode → String) (parseUrl : String → Except String Unit)
    (baseUrl authorization : String) :
    Except DiscoveryBackendStoreError (HttpDiscoveryBackendStore K × Headers) := do
  let authValue ← match headerValue ("Bearer " ++ authorization) with
    | .ok value => .ok value
    | .error _ =>
        .error (.internalError .internal ("creating http client with base url: " ++ baseUrl)
          "failed to parse header value")
  let baseUrl := String.ofList (baseUrl.toList.rdropWhile fun c => c == '/')
  let check (url : String) : Except DiscoveryBackendStoreError Unit :=
    (parseUrl url).mapError fun e => .internalError .upstream ("parsing service url " ++ url) e
  check (baseUrl ++ "/discovery")
  check (baseUrl ++ "/health")
  return ({ baseUrl, keyText, displayStatus }, [("authorization", authValue)])

/-- The way of a request to the service behind its layer. -/
def deliverAuthorized (auth : BearerTokenAuthLayer) (keyText : PublicKeyText K) (json : JsonText)
    (store : DiscoveryBackendStore K σ ε) (defaults : Headers) (checked now : DateTime) :
    Transport σ :=
  fun request state =>
    let (response, state) := DiscoveryService.router auth keyText json store checked now
      (withDefaultHeaders defaults request).sent state
    (.ok response, state)

/-- The client's store, when the clock says `checked` while its token is checked. -/
def authorizedStore (client : HttpDiscoveryBackendStore K) (defaults : Headers)
    (auth : BearerTokenAuthLayer) (json : JsonText) (store : DiscoveryBackendStore K σ ε)
    (checked : DateTime) : DiscoveryBackendStore K σ DiscoveryBackendStoreError :=
  client.backendStore json (deliverAuthorized auth client.keyText json store defaults checked)

/-- The keys of the discovery service. -/
abbrev KeyPair {S V : Type} (jwt : JsonWebToken S V) (bearer : String → Option String)
    (signing : S) (verifying : V) : Prop :=
  SignedKeys DiscoveryAudience.codec DiscoveryAudience.display .discovery jwt bearer signing
    verifying

/-- The error of a listing whose response has no etag. -/
def HttpDiscoveryBackendStore.missingEtag (client : HttpDiscoveryBackendStore K) :
    DiscoveryBackendStoreError :=
  .internalError .upstream
    ("parsing etag header response from get all backends " ++ client.discoveryUrl.toText)
    "missing expected etag"

end Definitions

/-! ## §2. A listing. -/

section Listing

variable {K S V σ ε : Type} [HasServiceErrorSource ε] {jwt : JsonWebToken S V}
  {bearer : String → Option String} {signing : S} {verifying : V} {authorization : String}
  {exp : UInt64}

open HttpDiscoveryBackendStore

/-- The handler reads no header but the etag. -/
theorem getBackends_congr (store : DiscoveryBackendStore K σ ε) {headers headers' : Headers}
    (h : headers.lookup "if-none-match" = headers'.lookup "if-none-match") (state : σ) :
    DiscoveryHandlers.getBackends store headers state
      = DiscoveryHandlers.getBackends store headers' state := by
  unfold DiscoveryHandlers.getBackends
  rw [h]

/-- The request of a listing. -/
def HttpDiscoveryBackendStore.listing (client : HttpDiscoveryBackendStore K)
    (requestedEtag : Option UInt64) : HttpRequest :=
  { HttpRequest.plain .get client.discoveryUrl with headers := ifNoneMatch requestedEtag }

theorem lookup_listing_authorization (client : HttpDiscoveryBackendStore K)
    (requestedEtag : Option UInt64) :
    (client.listing requestedEtag).headers.lookup "authorization" = none := by
  show (ifNoneMatch requestedEtag).lookup "authorization" = none
  rw [List.lookup_eq_none_iff]
  intro header hheader
  cases requestedEtag with
  | none => cases hheader
  | some etag =>
      rw [List.mem_singleton.mp hheader]
      show ("authorization" != "if-none-match") = true
      decide

/-- The token changes nothing in how a listing is served. -/
theorem serve_listing (client : HttpDiscoveryBackendStore K) (json : JsonText)
    (store : DiscoveryBackendStore K σ ε) (value : String) (requestedEtag : Option UInt64)
    (now : DateTime) (state : σ) :
    DiscoveryService.serve client.keyText json store now
        (withDefaultHeaders [("authorization", value)] (client.listing requestedEtag)) state
      = DiscoveryService.serve client.keyText json store now (client.listing requestedEtag)
          state := by
  have hbackends := getBackends_congr store
    (lookup_withDefaultHeaders_of_ne (client.listing requestedEtag) value
      (show "if-none-match" ≠ "authorization" from by decide)) state
  have hmethod : (withDefaultHeaders [("authorization", value)]
      (client.listing requestedEtag)).method = .get := rfl
  have hsent : (withDefaultHeaders [("authorization", value)] (client.listing requestedEtag)).url
      = client.discoveryUrl := rfl
  have hplain : (client.listing requestedEtag).url = client.discoveryUrl := rfl
  rw [serve_all hsent, serve_all hplain, hmethod]
  dsimp only
  rw [hbackends]
  rfl

/-- Behind the layer a listing is answered as without one, or refused. -/
theorem deliverAuthorized_listing (client : HttpDiscoveryBackendStore K) (json : JsonText)
    (store : DiscoveryBackendStore K σ ε) (hkeys : KeyPair jwt bearer signing verifying)
    (htoken : jwt.encode signing ((Claims.codec DiscoveryAudience.codec).encode
      { aud := .discovery, exp }) = some authorization)
    (requestedEtag : Option UInt64) (checked now : DateTime) (state : σ) :
    deliverAuthorized (discoveryAuthLayer jwt bearer verifying) client.keyText json store
        [("authorization", "Bearer " ++ authorization)] checked now (client.listing requestedEtag)
        state
      = if epochSeconds checked ≤ exp.toNat + leeway then
          deliver client.keyText json store now (client.listing requestedEtag) state
        else
          (.ok (CrudError.unauthorized "discovery" .invalidToken).intoResponse, state) := by
  have hcall := hkeys.call_withToken rfl htoken (discoveryAuthLayer jwt bearer verifying) rfl
    (fun _ _ => rfl) (lookup_listing_authorization client requestedEtag)
    (DiscoveryService.serve client.keyText json store now) checked state
  have hplain : (client.listing requestedEtag).url.Plain := plain_discoveryUrl client
  have hsent : (withDefaultHeaders [("authorization", "Bearer " ++ authorization)]
      (client.listing requestedEtag)).url.Plain := hplain
  unfold deliverAuthorized deliver DiscoveryService.router
  rw [HttpRequest.sent_plain hsent, HttpRequest.sent_plain hplain]
  dsimp only
  split
  · rename_i hhealth
    have hsegments : client.discoveryUrl.target.segments
        = ["health".toList] := hhealth
    rw [segments_discoveryUrl client] at hsegments
    exact absurd hsegments (by decide)
  · rw [hcall, serve_listing]
    split_ifs
    · rfl
    · rfl

/-- **A listing over HTTP with a token.** -/
theorem getAll_authorized (client : HttpDiscoveryBackendStore K) (json : JsonText)
    (store : DiscoveryBackendStore K σ ε) (hkeys : KeyPair jwt bearer signing verifying)
    (htoken : jwt.encode signing ((Claims.codec DiscoveryAudience.codec).encode
      { aud := .discovery, exp }) = some authorization)
    (requestedEtag : Option UInt64) (checked : DateTime) (state : σ) :
    (authorizedStore client [("authorization", "Bearer " ++ authorization)]
        (discoveryAuthLayer jwt bearer verifying) json store checked).getAll requestedEtag state
      = if epochSeconds checked ≤ exp.toNat + leeway then
          (remoteStore client json store).getAll requestedEtag state
        else (.error client.missingEtag, state) := by
  have hsend := deliverAuthorized_listing client json store hkeys htoken requestedEtag checked 0
    state
  unfold HttpDiscoveryBackendStore.listing at hsend
  by_cases htime : epochSeconds checked ≤ exp.toNat + leeway
  · rw [if_pos htime] at hsend ⊢
    unfold authorizedStore remoteStore HttpDiscoveryBackendStore.backendStore
      HttpDiscoveryBackendStore.getAll
    dsimp only
    rw [hsend]
  · rw [if_neg htime] at hsend ⊢
    have hrefused : ((CrudError.unauthorized "discovery" .invalidToken).intoResponse).headers.lookup
        "etag" = none := by decide
    unfold authorizedStore HttpDiscoveryBackendStore.backendStore HttpDiscoveryBackendStore.getAll
    dsimp only
    rw [hsend]
    dsimp only
    rw [hrefused]
    rfl

/-- What a client is created with. -/
theorem create_ok {keyText : PublicKeyText K} {displayStatus : StatusCode → String}
    {parseUrl : String → Except String Unit} {baseUrl : String}
    {client : HttpDiscoveryBackendStore K} {defaults : Headers}
    (h : HttpDiscoveryBackendStore.create keyText displayStatus parseUrl baseUrl authorization
      = .ok (client, defaults)) :
    defaults = [("authorization", "Bearer " ++ authorization)] := by
  unfold HttpDiscoveryBackendStore.create headerValue at h
  dsimp only at h
  split_ifs at h
  · simp only [bind, Except.bind, pure, Except.pure] at h
    split at h
    · cases h
    · split at h
      · cases h
      · exact (congrArg Prod.snd (Except.ok.inj h)).symm
  · cases h

end Listing

end Switchgear.Discovery
