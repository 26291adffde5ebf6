/-
  Switchgear.LnUrl.Service — the handlers `bech32_qr` and `health_full`, the
  responses, and the router of `LnUrlBalancerService`.

  The four offer routes are behind the partition layer, whatever the method; a
  path without a route has no parameters for the layer to read and is not found.

  Main result:
    * `responses_hide_failures` — two services that differ in the texts of their
      failures alone give the same responses to all requests.
-/
import Switchgear.LnUrl.Json
import Switchgear.Service.UrlRoundTrip

namespace Switchgear.LnUrl

open Switchgear.Lib Switchgear.Offer Switchgear.Service

/-! ## §1. The other handlers. -/

/-- Where the QR code of a text fails. -/
inductive QrError where
  | code (error : String)
  | png (error : String)

/-- What the router takes from other crates besides. -/
structure LnUrlServiceEnv extends LnUrlPayEnv where
  /-- `Url::as_str`. -/
  asStr : Url → String
  /-- `QrCode::new`, rendered and written as a PNG. -/
  qrPng : (text : String) → (scale : UInt32) → (dark light : UInt8) → Except QrError Bytes

/-- `LnUrlPayState`, with the settings of the QR code and the health of the balancer. -/
structure LnUrlServiceState (E B : Type) extends LnUrlPayState E B where
  bech32QrScale : UInt64
  bech32QrLight : UInt8
  bech32QrDark : UInt8
  /-- `LnBalancer::health`. -/
  health : Except B Unit

section Handlers

variable {E B : Type} [HasServiceErrorSource E] [ToString E] [HasServiceErrorSource B]
  [ToString B] (env : LnUrlServiceEnv) (service : LnUrlServiceState E B) (now later : DateTime)

/-- `LnUrlPayHandlers::bech32_qr`. -/
def bech32Qr (hostname scheme partition : String) (id : Uuid) :
    Except LnUrlPayServiceError (Headers × Bytes) :=
  match getOffer service.toLnUrlPayState now hostname partition id with
  | .error e => .error e
  | .ok offer =>
      let callback := offerUrl scheme hostname partition id
      match genBech32 env.toLnUrlPayEnv callback with
      | .error e => .error (.internalError (e ++ " : when parsing " ++ callback))
      | .ok callback =>
          match env.qrPng callback service.bech32QrScale.toUInt32 service.bech32QrDark
              service.bech32QrLight with
          | .error (.code e) =>
              .error (.internalError (e ++ " : while generating qr code for " ++ callback))
          | .error (.png e) => .error (.internalError (e ++ " : while encoding QR code to PNG"))
          | .ok png =>
              .ok (expiresHeaders env.toLnUrlPayEnv later offer.expires
                ++ [("content-type", "image/png")], png)

/-- `LnUrlPayHandlers::health_full`. -/
def healthFull : Except LnUrlPayServiceError (LnUrlPayResponse (List Empty)) :=
  match service.health with
  | .error e => .error (.fromServiceError e)
  | .ok () => .ok { body := [], status := StatusCode.ok, headers := [] }

end Handlers

/-! ## §2. Responses. -/

inductive ResponseBody where
  | json (body : Json)
  | text (body : String)
  | bytes (body : Bytes)

/-- A response; there is no body where it is empty, or the text of a rejected extractor. -/
structure LnUrlResponse where
  status : StatusCode
  headers : Headers
  body : Option ResponseBody

namespace LnUrlResponse

def empty (status : StatusCode) : LnUrlResponse := { status, headers := [], body := none }

/-- `IntoResponse` of `LnUrlPayServiceError`: a server error does not say what it is. -/
def ofError (error : LnUrlPayServiceError) : LnUrlResponse :=
  let reason :=
    if decide (500 ≤ error.status ∧ error.status < 600) then "internal server error"
    else error.message
  { status := error.status
    headers := []
    body := some (.json (LnUrlError.codec.encode { status := .error, reason })) }

def ofRefusal : Refusal → LnUrlResponse
  | .rejected status => .empty status
  | .failed error => ofError error

/-- `IntoResponse` of `LnUrlPayResponse`. -/
def ofJson {α : Type} (encode : α → Json) (response : LnUrlPayResponse α) : LnUrlResponse :=
  { status := response.status, headers := response.headers
    body := some (.json (encode response.body)) }

/-- `IntoResponse` of headers and a body. -/
def ofParts (headers : Headers) (body : ResponseBody) : LnUrlResponse :=
  { status := StatusCode.ok, headers, body := some body }

/-- `IntoResponse` of what a route returns. -/
def ofResult {α : Type} (answer : α → LnUrlResponse) : Except Refusal α → LnUrlResponse
  | .error refusal => ofRefusal refusal
  | .ok value => answer value

end LnUrlResponse

/-- A request: the path and the query are those of the request line. -/
structure LnUrlRequest where
  method : Method
  headers : RequestHeaders
  target : UrlPath.Target

end Switchgear.LnUrl

namespace Switchgear.Service.LnUrlBalancerService

open Switchgear.Lib Switchgear.Offer Switchgear.LnUrl

/-! ## §3. The router. -/

variable {E B : Type} [HasServiceErrorSource E] [ToString E] [HasServiceErrorSource B]
  [ToString B] (env : LnUrlServiceEnv) (parseUuid : String → Option Uuid)
  (service : LnUrlServiceState E B) (now later : DateTime)

/-- A `GET` handler behind the partition layer and the extractors `ValidatedHost`, `Scheme` and
`UuidParam`. -/
def serveBehind {α : Type} (request : LnUrlRequest) (partition id : List Char)
    (handler : (hostname scheme partition : String) → Uuid → Except LnUrlPayServiceError α)
    (answer : α → LnUrlResponse) : LnUrlResponse :=
  let path := pathParams partition id
  match PartitionsService.call parseUuid service.partitions path with
  | .error refusal => .ofRefusal refusal
  | .ok () =>
      match request.method with
      | .get =>
          match UuidParam.fromRequestParts parseUuid path with
          | .error status => .empty status
          | .ok param =>
              .ofResult answer (LnUrl.extract env.toLnUrlPayEnv service.toLnUrlPayState
                request.headers fun hostname scheme =>
                  handler hostname scheme param.partition param.id)
      | _ => .empty StatusCode.methodNotAllowed

/-- What the extractors of the invoice route get. -/
def invoiceRequest (request : LnUrlRequest) (partition id : List Char) : InvoiceRequest where
  headers := request.headers
  path := pathParams partition id
  query := UrlPath.formPairs (request.target.query.getD [])

/-- `/offers/{partition}/{id}/invoice`, with the calls of the balancer. -/
def serveInvoiceRoute (request : LnUrlRequest) (partition id : List Char) :
    LnUrlResponse × List InvoiceCall :=
  match request.method with
  | .get =>
      let (result, calls) := serveInvoice env.toLnUrlPayEnv parseUuid service.toLnUrlPayState now
        (invoiceRequest request partition id)
      (.ofResult (.ofJson LnUrlInvoice.codec.encode) result, calls)
  | _ =>
      match PartitionsService.call parseUuid service.partitions (pathParams partition id) with
      | .error refusal => (.ofRefusal refusal, [])
      | .ok () => (.empty StatusCode.methodNotAllowed, [])

/-- `/health/full`. -/
def serveHealthFull (request : LnUrlRequest) : LnUrlResponse :=
  match request.method with
  | .get =>
      .ofResult (.ofJson fun _ => .array []) ((healthFull service).mapError Refusal.failed)
  | _ => .empty StatusCode.methodNotAllowed

/-- `/health`. -/
def serveHealth (request : LnUrlRequest) : LnUrlResponse :=
  match request.method with
  | .get => .empty StatusCode.ok
  | _ => .empty StatusCode.methodNotAllowed

/-- `LnUrlBalancerService::router`, with the calls of the balancer for an invoice. -/
def serve (request : LnUrlRequest) : LnUrlResponse × List InvoiceCall :=
  match route request.target.segments with
  | none => (.empty StatusCode.notFound, [])
  | some (.offer partition id) =>
      (serveBehind env parseUuid service request partition id
        (LnUrl.offer env.toLnUrlPayEnv service.toLnUrlPayState now later)
        (.ofJson (LnUrlOffer.codec env.hosts env.asStr).encode), [])
  | some (.bech32 partition id) =>
      (serveBehind env parseUuid service request partition id
        (LnUrl.bech32 env.toLnUrlPayEnv service.toLnUrlPayState now later)
        fun response => .ofParts response.1 (.text response.2), [])
  | some (.bech32Qr partition id) =>
      (serveBehind env parseUuid service request partition id (bech32Qr env service now later)
        fun response => .ofParts response.1 (.bytes response.2), [])
  | some (.invoice partition id) =>
      serveInvoiceRoute env parseUuid service now request partition id
  | some .healthFull => (serveHealthFull service request, [])
  | some .health => (serveHealth request, [])

end Switchgear.Service.LnUrlBalancerService

namespace Switchgear.LnUrl

open Switchgear.Lib Switchgear.Offer Switchgear.Service

/-! ## §4. What a response tells of a failure. -/

/-- Two outcomes: the same value, or failures that are related. -/
def AlikeUpTo {α ε ε' : Type} (R : ε → ε' → Prop) : Except ε α → Except ε' α → Prop
  | .ok value, .ok value' => value = value'
  | .error e, .error e' => R e e'
  | _, _ => False

theorem AlikeUpTo.cases {α ε ε' : Type} {R : ε → ε' → Prop} {x : Except ε α} {y : Except ε' α}
    (h : AlikeUpTo R x y) :
    (∃ value, x = .ok value ∧ y = .ok value) ∨ ∃ e e', x = .error e ∧ y = .error e' ∧ R e e' := by
  cases x with
  | error e =>
      cases y with
      | error e' => exact .inr ⟨e, e', rfl, rfl, h⟩
      | ok value' => exact h.elim
  | ok value =>
      cases y with
      | error e' => exact h.elim
      | ok value' =>
          obtain rfl : value = value' := h
          exact .inl ⟨value, rfl, rfl⟩

theorem alikeUpTo_of_eq {α ε : Type} {R : ε → ε → Prop} (hR : ∀ e, R e e) {x y : Except ε α}
    (h : x = y) : AlikeUpTo R x y := by
  subst h
  cases x with
  | error e => exact hR e
  | ok value => exact rfl

/-- Two failures of the same side; one that is the caller's is told in the same words. -/
structure SameFailure {E E' : Type} [HasServiceErrorSource E] [ToString E]
    [HasServiceErrorSource E'] [ToString E'] (e : E) (e' : E') : Prop where
  source : HasServiceErrorSource.getServiceErrorSource e
    = HasServiceErrorSource.getServiceErrorSource e'
  told : HasServiceErrorSource.getServiceErrorSource e = .downstream → toString e = toString e'

theorem SameFailure.refl {E : Type} [HasServiceErrorSource E] [ToString E] (e : E) :
    SameFailure e e := ⟨rfl, fun _ => rfl⟩

/-- Two environments that fail alike; only the texts of their failures differ. -/
structure SameEnv (env env' : LnUrlServiceEnv) : Prop where
  extractHost : env.extractHost = env'.extractHost
  hosts : env.hosts = env'.hosts
  encodeUpper : ∀ url, AlikeUpTo (fun _ _ => True) (env.encodeUpper url) (env'.encodeUpper url)
  formatHttpDate : env.formatHttpDate = env'.formatHttpDate
  asStr : env.asStr = env'.asStr
  qrPng : ∀ text scale dark light,
    AlikeUpTo (fun _ _ => True) (env.qrPng text scale dark light) (env'.qrPng text scale dark light)

theorem SameEnv.refl (env : LnUrlServiceEnv) : SameEnv env env where
  extractHost := rfl
  hosts := rfl
  encodeUpper _ := alikeUpTo_of_eq (fun _ => trivial) rfl
  formatHttpDate := rfl
  asStr := rfl
  qrPng _ _ _ _ := alikeUpTo_of_eq (fun _ => trivial) rfl

/-- Two services with the same settings whose balancer, and whose provider for the partitions
they serve, answer the same and fail alike. -/
structure SameService {E B E' B' : Type} [HasServiceErrorSource E] [ToString E]
    [HasServiceErrorSource B] [ToString B] [HasServiceErrorSource E'] [ToString E']
    [HasServiceErrorSource B'] [ToString B'] (service : LnUrlServiceState E B)
    (service' : LnUrlServiceState E' B') : Prop where
  partitions : service.partitions = service'.partitions
  scheme : service.scheme = service'.scheme
  allowedHosts : service.allowedHosts = service'.allowedHosts
  invoiceExpiry : service.invoiceExpiry = service'.invoiceExpiry
  commentAllowed : service.commentAllowed = service'.commentAllowed
  scale : service.bech32QrScale = service'.bech32QrScale
  light : service.bech32QrLight = service'.bech32QrLight
  dark : service.bech32QrDark = service'.bech32QrDark
  offerProvider : ∀ hostname, ∀ partition ∈ service.partitions, ∀ id, AlikeUpTo SameFailure
    (service.offerProvider hostname partition id) (service'.offerProvider hostname partition id)
  balancer : ∀ call, AlikeUpTo SameFailure (service.balancer call) (service'.balancer call)
  health : AlikeUpTo SameFailure service.health service'.health

/-- Two errors a client cannot tell from each other. -/
def Shown (e e' : LnUrlPayServiceError) : Prop := LnUrlResponse.ofError e = LnUrlResponse.ofError e'

/-- A server error shows its status alone. -/
theorem shown_serverError {status : StatusCode} (h : 500 ≤ status ∧ status < 600) (m m' : String) :
    Shown { status, message := m } { status, message := m' } := by
  unfold Shown LnUrlResponse.ofError
  rw [decide_eq_true h]
  rfl

theorem shown_internalError (m m' : String) : Shown (.internalError m) (.internalError m') :=
  shown_serverError (by decide) m m'

theorem shown_of_sameFailure {E E' : Type} [HasServiceErrorSource E] [ToString E]
    [HasServiceErrorSource E'] [ToString E'] {e : E} {e' : E'} (h : SameFailure e e') :
    Shown (.fromServiceError e) (.fromServiceError e') := by
  have hsource := h.source
  have htold := h.told
  unfold LnUrlPayServiceError.fromServiceError
  rw [← hsource]
  cases hside : HasServiceErrorSource.getServiceErrorSource e with
  | downstream =>
      rw [htold hside]
      rfl
  -- the two sides of a server hide the text
  | upstream => exact shown_serverError (by decide) _ _
  | internal => exact shown_serverError (by decide) _ _

theorem ofResult_alike {α : Type} {x y : Except LnUrlPayServiceError α}
    (answer : α → LnUrlResponse) (h : AlikeUpTo Shown x y) :
    LnUrlResponse.ofResult answer (x.mapError Refusal.failed)
      = LnUrlResponse.ofResult answer (y.mapError Refusal.failed) := by
  rcases h.cases with ⟨value, rfl, rfl⟩ | ⟨e, e', rfl, rfl, he⟩
  · rfl
  · exact he

section Hidden

variable {E B E' B' : Type} [HasServiceErrorSource E] [ToString E] [HasServiceErrorSource B]
  [ToString B] [HasServiceErrorSource E'] [ToString E'] [HasServiceErrorSource B'] [ToString B']
  {env env' : LnUrlServiceEnv} {service : LnUrlServiceState E B}
  {service' : LnUrlServiceState E' B'}

theorem getOffer_alike (h : SameService service service') (now : DateTime) (hostname : String)
    {partition : String} (hserved : partition ∈ service.partitions) (id : Uuid) :
    AlikeUpTo Shown (getOffer service.toLnUrlPayState now hostname partition id)
      (getOffer service'.toLnUrlPayState now hostname partition id) := by
  unfold getOffer
  rcases (h.offerProvider hostname partition hserved id).cases with
    ⟨found, hx, hy⟩ | ⟨e, e', hx, hy, he⟩
  · rw [hx, hy]
    cases found with
    | none => exact rfl
    | some offer =>
        dsimp only
        split
        · exact rfl
        · exact rfl
  · rw [hx, hy]
    exact shown_of_sameFailure he

theorem offer_alike (henv : SameEnv env env') (h : SameService service service')
    (now later : DateTime) (hostname scheme : String) {partition : String}
    (hserved : partition ∈ service.partitions) (id : Uuid) :
    AlikeUpTo Shown
      (LnUrl.offer env.toLnUrlPayEnv service.toLnUrlPayState now later hostname scheme partition id)
      (LnUrl.offer env'.toLnUrlPayEnv service'.toLnUrlPayState now later hostname scheme partition
        id) := by
  unfold LnUrl.offer expiresHeaders
  rw [henv.hosts, h.commentAllowed, henv.formatHttpDate]
  rcases (getOffer_alike h now hostname hserved id).cases with
    ⟨found, hx, hy⟩ | ⟨e, e', hx, hy, he⟩
  · rw [hx, hy]
    dsimp only
    split
    · exact shown_internalError _ _
    · exact rfl
  · rw [hx, hy]
    exact he

theorem genBech32_alike (henv : SameEnv env env') (callback : String) :
    AlikeUpTo (fun _ _ => True) (genBech32 env.toLnUrlPayEnv callback)
      (genBech32 env'.toLnUrlPayEnv callback) := by
  unfold genBech32
  rw [henv.hosts]
  cases Url.parse env'.hosts callback.toList with
  | none => exact trivial
  | some url => exact henv.encodeUpper url

theorem bech32_alike (henv : SameEnv env env') (h : SameService service service')
    (now later : DateTime) (hostname scheme : String) {partition : String}
    (hserved : partition ∈ service.partitions) (id : Uuid) :
    AlikeUpTo Shown
      (LnUrl.bech32 env.toLnUrlPayEnv service.toLnUrlPayState now later hostname scheme partition
        id)
      (LnUrl.bech32 env'.toLnUrlPayEnv service'.toLnUrlPayState now later hostname scheme partition
        id) := by
  unfold LnUrl.bech32 expiresHeaders
  rw [henv.formatHttpDate]
  rcases (getOffer_alike h now hostname hserved id).cases with
    ⟨found, hx, hy⟩ | ⟨e, e', hx, hy, he⟩
  · rw [hx, hy]
    dsimp only
    rcases (genBech32_alike henv (offerUrl scheme hostname partition id)).cases with
      ⟨encoded, hx', hy'⟩ | ⟨e, e', hx', hy', -⟩
    · rw [hx', hy']
      exact rfl
    · rw [hx', hy']
      exact shown_internalError _ _
  · rw [hx, hy]
    exact he

theorem bech32Qr_alike (henv : SameEnv env env') (h : SameService service service')
    (now later : DateTime) (hostname scheme : String) {partition : String}
    (hserved : partition ∈ service.partitions) (id : Uuid) :
    AlikeUpTo Shown (bech32Qr env service now later hostname scheme partition id)
      (bech32Qr env' service' now later hostname scheme partition id) := by
  unfold bech32Qr expiresHeaders
  rw [henv.formatHttpDate, h.scale, h.dark, h.light]
  rcases (getOffer_alike h now hostname hserved id).cases with
    ⟨found, hx, hy⟩ | ⟨e, e', hx, hy, he⟩
  · rw [hx, hy]
    dsimp only
    rcases (genBech32_alike henv (offerUrl scheme hostname partition id)).cases with
      ⟨encoded, hx', hy'⟩ | ⟨e, e', hx', hy', -⟩
    · rw [hx', hy']
      dsimp only
      rcases (henv.qrPng encoded service'.bech32QrScale.toUInt32 service'.bech32QrDark
        service'.bech32QrLight).cases with ⟨png, hx'', hy''⟩ | ⟨e, e', hx'', hy'', -⟩
      · rw [hx'', hy'']
        exact rfl
      · rw [hx'', hy'']
        -- whichever of the two steps fails
        cases e <;> cases e' <;> exact shown_internalError _ _
    · rw [hx', hy']
      exact shown_internalError _ _
  · rw [hx, hy]
    exact he

theorem invoice_alike (h : SameService service service') (now : DateTime) (hostname : String)
    {uuidParam : UuidParam} (hserved : uuidParam.partition ∈ service.partitions)
    (params : InvoiceParameters) :
    AlikeUpTo Shown (invoice service.toLnUrlPayState now hostname uuidParam params).1
        (invoice service'.toLnUrlPayState now hostname uuidParam params).1
      ∧ (invoice service.toLnUrlPayState now hostname uuidParam params).2
        = (invoice service'.toLnUrlPayState now hostname uuidParam params).2 := by
  unfold invoice
  rw [h.commentAllowed, h.invoiceExpiry]
  dsimp only
  cases commentKey (service'.commentAllowed.getD 0) params.comment with
  | error e => exact ⟨rfl, rfl⟩
  | ok key =>
      dsimp only
      rcases (getOffer_alike h now hostname hserved uuidParam.id).cases with
        ⟨found, hx, hy⟩ | ⟨e, e', hx, hy, he⟩
      · rw [hx, hy]
        dsimp only
        split
        · exact ⟨rfl, rfl⟩
        · rcases (h.balancer { offer := found, amountMsat := params.amount
                               expirySecs := service'.invoiceExpiry, key }).cases with
            ⟨pr, hx', hy'⟩ | ⟨e, e', hx', hy', he⟩
          · rw [hx', hy']
            exact ⟨rfl, rfl⟩
          · rw [hx', hy']
            exact ⟨shown_of_sameFailure he, rfl⟩
      · rw [hx, hy]
        exact ⟨he, rfl⟩

theorem healthFull_alike (h : SameService service service') :
    AlikeUpTo Shown (healthFull service) (healthFull service') := by
  unfold healthFull
  rcases h.health.cases with ⟨value, hx, hy⟩ | ⟨e, e', hx, hy, he⟩
  · rw [hx, hy]
    exact rfl
  · rw [hx, hy]
    exact shown_of_sameFailure he

theorem extract_alike {α : Type} (henv : SameEnv env env') (h : SameService service service')
    (headers : RequestHeaders)
    {handler handler' : (hostname scheme : String) → Except LnUrlPayServiceError α}
    (hhandler : ∀ hostname scheme, AlikeUpTo Shown (handler hostname scheme)
      (handler' hostname scheme)) (answer : α → LnUrlResponse) :
    LnUrlResponse.ofResult answer
        (extract env.toLnUrlPayEnv service.toLnUrlPayState headers handler)
      = LnUrlResponse.ofResult answer
        (extract env'.toLnUrlPayEnv service'.toLnUrlPayState headers handler') := by
  unfold extract
  rw [henv.extractHost, h.allowedHosts, h.scheme]
  cases ValidatedHost.fromRequestParts env'.extractHost service'.allowedHosts headers with
  | error status => rfl
  | ok hostname => exact ofResult_alike answer (hhandler hostname _)

end Hidden

end Switchgear.LnUrl

namespace Switchgear.Service.LnUrlBalancerService

open Switchgear.Lib Switchgear.Offer Switchgear.LnUrl

section Hidden

variable {E B E' B' : Type} [HasServiceErrorSource E] [ToString E] [HasServiceErrorSource B]
  [ToString B] [HasServiceErrorSource E'] [ToString E'] [HasServiceErrorSource B'] [ToString B']
  {env env' : LnUrlServiceEnv} {service : LnUrlServiceState E B}
  {service' : LnUrlServiceState E' B'}

/-- What passes the layer is in a partition that is served. -/
theorem mem_of_call {parseUuid : String → Option Uuid} {partitions : Finset String}
    {path : Option (String × String)} {param : UuidParam}
    (hcall : PartitionsService.call parseUuid partitions path = .ok ())
    (hparam : UuidParam.fromRequestParts parseUuid path = .ok param) :
    param.partition ∈ partitions := by
  unfold PartitionsService.call at hcall
  rw [hparam] at hcall
  dsimp only at hcall
  split_ifs at hcall with hserved
  exact hserved

/-- The extractors of the invoice route read the parameters the layer has read. -/
theorem extractInvoice_uuidParam {env : LnUrlPayEnv} {parseUuid : String → Option Uuid}
    {allowedHosts : Finset String} {request : InvoiceRequest} {read : InvoiceArguments}
    (h : extractInvoice env parseUuid allowedHosts request = .ok read) :
    UuidParam.fromRequestParts parseUuid request.path = .ok read.uuidParam := by
  unfold extractInvoice at h
  split at h
  · cases h
  · split at h
    · cases h
    · rename_i param hparam
      split at h
      · cases h
      · rw [hparam, ← Except.ok.inj h]

theorem serveBehind_alike {α : Type} (parseUuid : String → Option Uuid) (henv : SameEnv env env')
    (h : SameService service service') (request : LnUrlRequest) (partition id : List Char)
    {handler handler' : (hostname scheme partition : String) → Uuid →
      Except LnUrlPayServiceError α}
    (hhandler : ∀ hostname scheme, ∀ partition ∈ service.partitions, ∀ id, AlikeUpTo Shown
      (handler hostname scheme partition id) (handler' hostname scheme partition id))
    (answer : α → LnUrlResponse) :
    serveBehind env parseUuid service request partition id handler answer
      = serveBehind env' parseUuid service' request partition id handler' answer := by
  unfold serveBehind
  rw [← h.partitions]
  dsimp only
  cases hcall : PartitionsService.call parseUuid service.partitions (pathParams partition id) with
  | error refusal => rfl
  | ok _ =>
      dsimp only
      cases request.method with
      | get =>
          cases hparam : UuidParam.fromRequestParts parseUuid (pathParams partition id) with
          | error status => rfl
          | ok param =>
              have hserved : param.partition ∈ service.partitions := mem_of_call hcall hparam
              exact extract_alike henv h request.headers
                (fun hostname scheme =>
                  hhandler hostname scheme param.partition hserved param.id) answer
      | post => rfl
      | put => rfl
      | patch => rfl
      | delete => rfl

theorem serveInvoiceRoute_alike (parseUuid : String → Option Uuid) (henv : SameEnv env env')
    (h : SameService service service') (now : DateTime) (request : LnUrlRequest)
    (partition id : List Char) :
    serveInvoiceRoute env parseUuid service now request partition id
      = serveInvoiceRoute env' parseUuid service' now request partition id := by
  unfold serveInvoiceRoute
  cases request.method with
  | get =>
      unfold serveInvoice extractInvoice
      rw [← h.partitions, ← henv.extractHost, ← h.allowedHosts]
      dsimp only
      cases hcall : PartitionsService.call parseUuid service.partitions
          (invoiceRequest request partition id).path with
      | error refusal => rfl
      | ok _ =>
          dsimp only
          split
          · rfl
          · rename_i read hread
            have hserved : read.uuidParam.partition ∈ service.partitions :=
              mem_of_call hcall (extractInvoice_uuidParam hread)
            obtain ⟨halike, hcalls⟩ := invoice_alike h now read.hostname hserved read.params
            exact Prod.ext (ofResult_alike _ halike) hcalls
  | post => rw [h.partitions]
  | put => rw [h.partitions]
  | patch => rw [h.partitions]
  | delete => rw [h.partitions]

/-- Services that fail alike answer every request alike. -/
theorem serve_alike (parseUuid : String → Option Uuid) (henv : SameEnv env env')
    (h : SameService service service') (now later : DateTime) (request : LnUrlRequest) :
    serve env parseUuid service now later request
      = serve env' parseUuid service' now later request := by
  unfold serve
  cases route request.target.segments with
  | none => rfl
  | some target =>
      cases target with
      | offer partition id =>
          dsimp only
          rw [henv.hosts, henv.asStr]
          exact Prod.ext (serveBehind_alike parseUuid henv h request partition id
            (fun hostname scheme _ hserved id =>
              offer_alike henv h now later hostname scheme hserved id) _) rfl
      | bech32 partition id =>
          exact Prod.ext (serveBehind_alike parseUuid henv h request partition id
            (fun hostname scheme _ hserved id =>
              bech32_alike henv h now later hostname scheme hserved id) _) rfl
      | bech32Qr partition id =>
          exact Prod.ext (serveBehind_alike parseUuid henv h request partition id
            (fun hostname scheme _ hserved id =>
              bech32Qr_alike henv h now later hostname scheme hserved id) _) rfl
      | invoice partition id => exact serveInvoiceRoute_alike parseUuid henv h now request _ _
      | healthFull =>
          dsimp only
          unfold serveHealthFull
          cases request.method with
          | get => exact Prod.ext (ofResult_alike _ (healthFull_alike h)) rfl
          | post => rfl
          | put => rfl
          | patch => rfl
          | delete => rfl
      | health => rfl

/-- **Responses hide failures**: services that differ only in what their environments, their
provider and their balancer say of a failure that is not the caller's give the same response to
every request, and ask for the same invoices. -/
theorem responses_hide_failures (parseUuid : String → Option Uuid) (henv : SameEnv env env')
    (h : SameService service service') (now later : DateTime) (request : LnUrlRequest) :
    serve env parseUuid service now later request
      = serve env' parseUuid service' now later request :=
  serve_alike parseUuid henv h now later request

end Hidden

end Switchgear.Service.LnUrlBalancerService

namespace Switchgear.LnUrl

open Switchgear.Lib Switchgear.Offer Switchgear.Service

/-! ## §5. A store that is not reached. -/

/-- The environment of the examples; a URL without userinfo and port is written down. -/
def goodServiceEnv : LnUrlServiceEnv :=
  { goodEnv with
    asStr := fun url =>
      String.ofList (url.scheme ++ "://".toList ++ (url.host.getD "").toList ++ url.tail)
    qrPng := fun _ _ _ _ => .ok [] }

/-- The service of the examples. -/
def coffeeService : LnUrlServiceState OfferStoreError OfferStoreError :=
  { coffeeState with
    bech32QrScale := 8, bech32QrLight := 255, bech32QrDark := 0, health := .ok () }

/-- A service whose store is not reached, for this reason. -/
def unreachableService (reason : String) : LnUrlServiceState OfferStoreError OfferStoreError :=
  { coffeeService with
    offerProvider := fun _ _ _ => .error (.internalError .upstream "getting offer" reason) }

def offerRequest : LnUrlRequest where
  method := .get
  headers := hostHeader "good.com"
  target := UrlPath.Target.ofText "/offers/default/00000000-0000-0000-0000-000000000001".toList

/-- The reason is not in the response. -/
theorem responses_hide_failures_unreachable :
    LnUrlBalancerService.serve goodServiceEnv plainText.parseUuid
        (unreachableService "connection refused") 0 0 offerRequest
      = LnUrlBalancerService.serve goodServiceEnv plainText.parseUuid
        (unreachableService "password expired") 0 0 offerRequest := by
  refine LnUrlBalancerService.responses_hide_failures plainText.parseUuid
    (SameEnv.refl goodServiceEnv) ?_ 0 0 offerRequest
  exact
    { partitions := rfl
      scheme := rfl
      allowedHosts := rfl
      invoiceExpiry := rfl
      commentAllowed := rfl
      scale := rfl
      light := rfl
      dark := rfl
      -- a failure of the other side, whatever it says
      offerProvider := fun _ _ _ _ => ⟨rfl, fun h => by cases h⟩
      balancer := fun _ => rfl
      health := rfl }

end Switchgear.LnUrl
