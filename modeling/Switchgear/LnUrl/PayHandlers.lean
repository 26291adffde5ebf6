/-
  Switchgear.LnUrl.PayHandlers — `LnUrlPayHandlers::offer` and `bech32`, and what
  they share with the other handlers.

  The URL parser is that of `Lib.Url`; the host parser inside it, the bech32
  encoding of a URL and the formatting of a date are parameters.  The reading
  of the clock for the expiry and the one for the headers are two arguments.
-/
import Switchgear.Lib.Url
import Switchgear.ServiceApi.Offer
import Switchgear.Service.Extract

namespace Switchgear.LnUrl

open Switchgear.Lib Switchgear.Offer Switchgear.Service

/-! ## §1. Records. -/

inductive LnUrlOfferTag where
  | payRequest
  deriving DecidableEq

structure LnUrlOffer where
  callback : Url
  maxSendable : UInt64
  minSendable : UInt64
  tag : LnUrlOfferTag
  metadata : String
  commentAllowed : Option UInt32
  deriving DecidableEq

structure LnUrlPayResponse (α : Type) where
  body : α
  status : StatusCode
  headers : Headers
  deriving DecidableEq

structure LnUrlPayServiceError where
  status : StatusCode
  message : String
  deriving DecidableEq

namespace LnUrlPayServiceError

def notFound (error : String) : LnUrlPayServiceError :=
  { status := StatusCode.notFound, message := error }

def badRequest (error : String) : LnUrlPayServiceError :=
  { status := StatusCode.badRequest, message := error }

def internalError (error : String) : LnUrlPayServiceError :=
  { status := StatusCode.internalServerError, message := error }

def fromServiceError {E : Type} [HasServiceErrorSource E] [ToString E] (error : E) :
    LnUrlPayServiceError :=
  { status := (HasServiceErrorSource.getServiceErrorSource error).toHttpStatus
    message := toString error }

end LnUrlPayServiceError

/-- Why a request is not answered with 200: an extractor or the handler. -/
inductive Refusal where
  | rejected (status : StatusCode)
  | failed (error : LnUrlPayServiceError)
  deriving DecidableEq

/-- The arguments of `LnBalancer::get_invoice`. -/
structure InvoiceCall where
  offer : Offer
  amountMsat : UInt64
  expirySecs : UInt64
  key : Bytes
  deriving DecidableEq

/-- `LnUrlPayState`, without the settings of the QR code. -/
structure LnUrlPayState (E B : Type) where
  partitions : Finset String
  scheme : String
  allowedHosts : Finset String
  /-- `OfferProvider::offer`. -/
  offerProvider : (hostname partition : String) → Uuid → Except E (Option Offer)
  /-- `LnBalancer::get_invoice`. -/
  balancer : InvoiceCall → Except B String
  invoiceExpiry : UInt64
  commentAllowed : Option UInt32

/-- What the handlers take from other crates. -/
structure LnUrlPayEnv where
  /-- `axum_extra::extract::Host`. -/
  extractHost : RequestHeaders → Option String
  hosts : HostParser
  /-- The error of `Url::parse` on a text. -/
  parseError : String → String
  /-- `bech32::encode_upper::<Bech32>` of a URL's text under `LNURL`. -/
  encodeUpper : Url → Except String String
  /-- What a wallet reads: the bech32 text, decoded and parsed as a URL. -/
  decodeLnUrl : String → Option Url
  decode_encode : ∀ text url encoded, Url.parse hosts text = some url →
    encodeUpper url = .ok encoded → (decodeLnUrl encoded).map Url.host = some url.host
  formatHttpDate : DateTime → String

/-! ## §2. The handlers. -/

variable {E B : Type} [HasServiceErrorSource E] [ToString E]

def getOffer (state : LnUrlPayState E B) (now : DateTime) (hostname partition : String)
    (id : Uuid) : Except LnUrlPayServiceError Offer :=
  match state.offerProvider hostname partition id with
  | .error e => .error (.fromServiceError e)
  | .ok none => .error (.notFound ("offer not found: " ++ Uuid.hyphenated id))
  | .ok (some offer) =>
      -- an expired offer is answered in the words of a missing one
      if offer.isExpired now then
        .error (.notFound ("offer not found: " ++ Uuid.hyphenated id))
      else .ok offer

/-- `no_cache_headers`. -/
def noCacheHeaders : Headers :=
  [("cache-control", "no-store, no-cache, must-revalidate"),
   ("expires", "Thu, 01 Jan 1970 00:00:00 GMT"),
   ("pragma", "no-cache")]

/-- `expires_headers`; both values are ASCII, so `HeaderValue::from_str` takes them. -/
def expiresHeaders (env : LnUrlPayEnv) (now : DateTime) (expires : Option DateTime) : Headers :=
  match expires with
  | none => noCacheHeaders
  | some expires =>
      -- `num_seconds` cuts toward zero
      let expiresInSeconds := max ((expires - now).tdiv second) 0
      [("cache-control", "public, max-age=" ++ toString expiresInSeconds),
       ("expires", env.formatHttpDate expires)]

/-- `{scheme}://{hostname}/offers/{partition}/{id}`. -/
def offerUrl (scheme hostname partition : String) (id : Uuid) : String :=
  scheme ++ "://" ++ hostname ++ "/offers/" ++ partition ++ "/" ++ Uuid.hyphenated id

def offer (env : LnUrlPayEnv) (state : LnUrlPayState E B) (now later : DateTime)
    (hostname scheme partition : String) (id : Uuid) :
    Except LnUrlPayServiceError (LnUrlPayResponse LnUrlOffer) :=
  match getOffer state now hostname partition id with
  | .error e => .error e
  | .ok offer =>
      -- the host is the whole header value; only what precedes its first `:` was checked
      let callback := offerUrl scheme hostname partition id ++ "/invoice"
      match Url.parse env.hosts callback.toList with
      | none =>
          .error (.internalError (env.parseError callback ++ " : when parsing " ++ callback))
      | some url =>
          .ok
            { body :=
                { callback := url
                  maxSendable := offer.maxSendable
                  minSendable := offer.minSendable
                  tag := .payRequest
                  metadata := offer.metadataJsonString
                  commentAllowed := state.commentAllowed }
              status := StatusCode.ok
              headers := expiresHeaders env later offer.expires }

def genBech32 (env : LnUrlPayEnv) (callback : String) : Except String String :=
  match Url.parse env.hosts callback.toList with
  | none => .error (env.parseError callback)
  | some url => env.encodeUpper url

def bech32 (env : LnUrlPayEnv) (state : LnUrlPayState E B) (now later : DateTime)
    (hostname scheme partition : String) (id : Uuid) :
    Except LnUrlPayServiceError (Headers × String) :=
  match getOffer state now hostname partition id with
  | .error e => .error e
  | .ok offer =>
      let callback := offerUrl scheme hostname partition id
      match genBech32 env callback with
      | .error e => .error (.internalError (e ++ " : when parsing " ++ callback))
      | .ok encoded =>
          .ok (expiresHeaders env later offer.expires
            ++ [("content-type", "text/plain; charset=utf-8")], encoded)

/-! ## §3. The routes, from the headers and the path. -/

/-- The extractors before a handler. -/
def extract {α : Type} (env : LnUrlPayEnv) (state : LnUrlPayState E B) (headers : RequestHeaders)
    (handler : (hostname scheme : String) → Except LnUrlPayServiceError α) : Except Refusal α :=
  match ValidatedHost.fromRequestParts env.extractHost state.allowedHosts headers with
  | .error status => .error (.rejected status)
  | .ok hostname =>
      (handler hostname (Scheme.fromRequestParts headers state.scheme)).mapError .failed

/-- `GET /offers/{partition}/{id}`. -/
def serveOffer (env : LnUrlPayEnv) (state : LnUrlPayState E B) (now later : DateTime)
    (headers : RequestHeaders) (partition : String) (id : Uuid) :
    Except Refusal (LnUrlPayResponse LnUrlOffer) :=
  extract env state headers fun hostname scheme =>
    offer env state now later hostname scheme partition id

/-- `GET /offers/{partition}/{id}/bech32`. -/
def serveBech32 (env : LnUrlPayEnv) (state : LnUrlPayState E B) (now later : DateTime)
    (headers : RequestHeaders) (partition : String) (id : Uuid) :
    Except Refusal (Headers × String) :=
  extract env state headers fun hostname scheme =>
    bech32 env state now later hostname scheme partition id

/-! ## §4. When the routes answer 200. -/

/-- The host is the request's, it passes, and its offer is there. -/
structure Served (env : LnUrlPayEnv) (state : LnUrlPayState E B) (now : DateTime)
    (headers : RequestHeaders) (partition : String) (id : Uuid) (hostname : String) : Prop where
  extracted : env.extractHost headers = some hostname
  allowed : ValidatedHost.domain hostname ∈ state.allowedHosts
  offered : ∃ offer, getOffer state now hostname partition id = .ok offer

omit [HasServiceErrorSource E] [ToString E] in
theorem extract_ok_iff {α : Type} {env : LnUrlPayEnv} {state : LnUrlPayState E B}
    (hne : state.allowedHosts.Nonempty) {headers : RequestHeaders}
    {handler : (hostname scheme : String) → Except LnUrlPayServiceError α} {a : α} :
    extract env state headers handler = .ok a
      ↔ ∃ hostname, env.extractHost headers = some hostname
          ∧ ValidatedHost.domain hostname ∈ state.allowedHosts
          ∧ handler hostname (Scheme.fromRequestParts headers state.scheme) = .ok a := by
  unfold extract
  cases hhost : ValidatedHost.fromRequestParts env.extractHost state.allowedHosts headers with
  | error status =>
      simp only [reduceCtorEq, false_iff, not_exists, not_and]
      intro hostname hextract hallowed
      have hok := (ValidatedHost.fromRequestParts_ok_iff hne).mpr ⟨hextract, hallowed⟩
      rw [hhost] at hok
      cases hok
  | ok hostname =>
      obtain ⟨hextract, hallowed⟩ := (ValidatedHost.fromRequestParts_ok_iff hne).mp hhost
      have hmap : ∀ result : Except LnUrlPayServiceError α,
          result.mapError Refusal.failed = .ok a ↔ result = .ok a := by
        intro result
        cases result <;> simp [Except.mapError]
      dsimp only
      rw [hmap]
      constructor
      · intro h
        exact ⟨hostname, hextract, hallowed, h⟩
      · rintro ⟨hostname', hextract', -, h⟩
        obtain rfl : hostname = hostname' := by
          rw [hextract] at hextract'
          exact Option.some.inj hextract'
        exact h

/-- The callback of an answer is the parsed text, and every text that parses is answered. -/
theorem serveOffer_callback_iff {env : LnUrlPayEnv} {state : LnUrlPayState E B}
    (hne : state.allowedHosts.Nonempty) (now later : DateTime) (headers : RequestHeaders)
    (partition : String) (id : Uuid) (url : Url) :
    (∃ response, serveOffer env state now later headers partition id = .ok response
        ∧ response.body.callback = url)
      ↔ ∃ hostname, Served env state now headers partition id hostname
          ∧ Url.parse env.hosts (offerUrl (Scheme.fromRequestParts headers state.scheme) hostname
              partition id ++ "/invoice").toList = some url := by
  unfold serveOffer
  simp only [extract_ok_iff hne]
  constructor
  · rintro ⟨response, ⟨hostname, hextract, hallowed, hoffer⟩, hcallback⟩
    unfold offer at hoffer
    cases hget : getOffer state now hostname partition id with
    | error e =>
        rw [hget] at hoffer
        cases hoffer
    | ok found =>
        rw [hget] at hoffer
        dsimp only at hoffer
        split at hoffer
        · cases hoffer
        · rename_i parsed hparse
          cases hoffer
          exact ⟨hostname, ⟨hextract, hallowed, found, hget⟩, by rw [hparse, ← hcallback]⟩
  · rintro ⟨hostname, ⟨hextract, hallowed, found, hget⟩, hparse⟩
    let response : LnUrlPayResponse LnUrlOffer :=
      { body :=
          { callback := url
            maxSendable := found.maxSendable
            minSendable := found.minSendable
            tag := .payRequest
            metadata := found.metadataJsonString
            commentAllowed := state.commentAllowed }
        status := StatusCode.ok
        headers := expiresHeaders env later found.expires }
    have hoffer : offer env state now later hostname
        (Scheme.fromRequestParts headers state.scheme) partition id = .ok response := by
      unfold offer
      rw [hget]
      dsimp only
      rw [hparse]
    exact ⟨response, ⟨hostname, hextract, hallowed, hoffer⟩, rfl⟩

/-- The text of an answer is the encoding of the parsed text. -/
theorem serveBech32_encoded_iff {env : LnUrlPayEnv} {state : LnUrlPayState E B}
    (hne : state.allowedHosts.Nonempty) (now later : DateTime) (headers : RequestHeaders)
    (partition : String) (id : Uuid) (encoded : String) :
    (∃ responseHeaders, serveBech32 env state now later headers partition id
        = .ok (responseHeaders, encoded))
      ↔ ∃ hostname, Served env state now headers partition id hostname
          ∧ ∃ url, Url.parse env.hosts (offerUrl (Scheme.fromRequestParts headers state.scheme)
              hostname partition id).toList = some url ∧ env.encodeUpper url = .ok encoded := by
  have hgen : ∀ callback : String, genBech32 env callback = .ok encoded
      ↔ ∃ url, Url.parse env.hosts callback.toList = some url
          ∧ env.encodeUpper url = .ok encoded := by
    intro callback
    unfold genBech32
    cases Url.parse env.hosts callback.toList <;> simp
  unfold serveBech32
  simp only [extract_ok_iff hne, ← hgen]
  constructor
  · rintro ⟨responseHeaders, hostname, hextract, hallowed, hbech32⟩
    unfold bech32 at hbech32
    cases hget : getOffer state now hostname partition id with
    | error e =>
        rw [hget] at hbech32
        cases hbech32
    | ok found =>
        rw [hget] at hbech32
        dsimp only at hbech32
        split at hbech32
        · cases hbech32
        · rename_i encoded' hencoded
          cases hbech32
          exact ⟨hostname, ⟨hextract, hallowed, found, hget⟩, hencoded⟩
  · rintro ⟨hostname, ⟨hextract, hallowed, found, hget⟩, hencoded⟩
    have hbech32 : bech32 env state now later hostname
        (Scheme.fromRequestParts headers state.scheme) partition id
        = .ok (expiresHeaders env later found.expires
            ++ [("content-type", "text/plain; charset=utf-8")], encoded) := by
      unfold bech32
      rw [hget]
      dsimp only
      rw [hencoded]
    exact ⟨_, hostname, hextract, hallowed, hbech32⟩

end Switchgear.LnUrl
