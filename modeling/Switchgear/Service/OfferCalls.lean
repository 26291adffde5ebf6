/-
  Switchgear.Service.OfferCalls — the call to the stores a request asks for, and
  the management service as a machine over its requests.

  A request that no extractor refuses asks for one of the ten calls.  Whatever the
  stores are, the service leaves them as these calls do, made for the requests the
  layer lets through (`offerServer_translates`).
-/
import Switchgear.Lib.History
import Switchgear.Service.Auth

namespace Switchgear.Service

open Switchgear.Lib Switchgear.Offer

/-! ## §1. The call of a request. -/

namespace OfferService

variable {A : Type} (text : OfferText A) (maxPageSize : UInt64)

/-- What `Query` reads. -/
def queryParams {α : Type} (decode : List (String × String) → Option α)
    (query : Option (List Char)) : Option α := decode (UrlPath.formPairs (query.getD []))

/-- The page a listing asks for, unless it is too large. -/
def pageCall (list : (start count : UInt64) → OfferCall A) (params : PageQueryParameters) :
    Option (OfferCall A) :=
  let count := params.count.getD maxPageSize
  if maxPageSize < count then none else some (list (params.start.getD 0) count)

/-- The call of a request to a route. -/
def routeCall (route : Route) (query : Option (List Char)) (request : HttpRequest) :
    Option (OfferCall A) :=
  match route, request.method with
  | .offer partition id, .get => do
      let params ← queryParams GetOfferQueryParameters.fromPairs query
      let param ← uuidParam text.parseUuid partition id
      return .getOffer param.partition param.id params.sparse
  | .offer partition id, .put => do
      let param ← uuidParam text.parseUuid partition id
      let offer ← request.body.bind text.recordSparseCodec.decode
      return .putOffer
        ({ partition := param.partition, id := param.id, offer } : OfferRecord A).withoutMetadata
  | .offer partition id, .delete => do
      let param ← uuidParam text.parseUuid partition id
      return .deleteOffer param.partition param.id
  | .offers partition, .get => do
      let partition ← UrlPath.percentDecode partition
      let params ← queryParams PageQueryParameters.fromPairs query
      pageCall maxPageSize (.getOffers partition) params
  | .postOffer, .post => do
      let offer ← request.body.bind text.recordCodec.decode
      return .postOffer offer.withoutMetadata
  | .metadata partition id, .get => do
      let param ← uuidParam text.parseUuid partition id
      return .getMetadata param.partition param.id
  | .metadata partition id, .put => do
      let param ← uuidParam text.parseUuid partition id
      let metadata ← request.body.bind text.metadataSparseCodec.decode
      return .putMetadata { id := param.id, partition := param.partition, metadata }
  | .metadata partition id, .delete => do
      let param ← uuidParam text.parseUuid partition id
      return .deleteMetadata param.partition param.id
  | .allMetadata partition, .get => do
      let partition ← UrlPath.percentDecode partition
      let params ← queryParams PageQueryParameters.fromPairs query
      pageCall maxPageSize (.getAllMetadata partition) params
  | .postMetadata, .post => do
      let metadata ← request.body.bind text.metadataCodec.decode
      return .postMetadata metadata
  | _, _ => none

/-- The call of a request. -/
def requestCall (request : HttpRequest) : Option (OfferCall A) :=
  let target := request.url.target
  (route target.segments).bind fun route => routeCall text maxPageSize route target.query request

/-! ## §2. What the extractors leave to the handler. -/

section Extractors

variable {σ α γ : Type} {state : σ} {step : γ → σ}

/-! A handler that leaves the stores as a call does, does so behind an extractor; one that is
not reached leaves them as they are. -/

theorem withUuidParam_state {partition id : List Char} {handler : UuidParam → HttpResponse × σ}
    {call : UuidParam → Option γ}
    (h : ∀ param, (handler param).2 = (call param).elim state step) :
    (withUuidParam text partition id state handler).2
      = ((uuidParam text.parseUuid partition id).bind call).elim state step := by
  unfold withUuidParam uuidParam pathParams UuidParam.fromRequestParts
  cases UrlPath.percentDecode partition with
  | none => rfl
  | some partition =>
      cases UrlPath.percentDecode id with
      | none => rfl
      | some id =>
          simp only [Option.bind_eq_bind, Option.bind_some, Option.pure_def]
          cases text.parseUuid id with
          | none => rfl
          | some id => exact h { partition, id }

theorem withQuery_state {decode : List (String × String) → Option α} {query : Option (List Char)}
    {handler : α → HttpResponse × σ} {call : α → Option γ}
    (h : ∀ params, (handler params).2 = (call params).elim state step) :
    (withQuery decode query state handler).2
      = ((queryParams decode query).bind call).elim state step := by
  unfold withQuery queryParams
  cases decode (UrlPath.formPairs (query.getD [])) with
  | none => rfl
  | some params => exact h params

theorem withPath_state {segment : List Char} {handler : String → HttpResponse × σ}
    {call : String → Option γ}
    (h : ∀ parameter, (handler parameter).2 = (call parameter).elim state step) :
    (withPath segment state handler).2
      = ((UrlPath.percentDecode segment).bind call).elim state step := by
  unfold withPath
  cases UrlPath.percentDecode segment with
  | none => rfl
  | some parameter => exact h parameter

theorem withJson_state {decode : Json → Option α} {body : Option Json}
    {handler : α → HttpResponse × σ} {call : α → Option γ}
    (h : ∀ value, (handler value).2 = (call value).elim state step) :
    (withJson decode body state handler).2
      = ((body.bind decode).bind call).elim state step := by
  unfold withJson extractJson
  cases body with
  | none => rfl
  | some json =>
      dsimp only [Option.bind_some]
      cases decode json with
      | none => rfl
      | some value => exact h value

/-- A page that is too large is refused before the store is called. -/
theorem listPage_state {A ε : Type} [HasServiceErrorSource ε] {maxPageSize : UInt64}
    {list : (start count : UInt64) → OfferCall A} {params : PageQueryParameters}
    {read : (start count : UInt64) → σ → Except ε (List α) × σ} {step : OfferCall A → σ}
    (h : ∀ start count, step (list start count) = (read start count state).2) :
    (OfferHandlers.listPage maxPageSize params read state).2
      = (pageCall maxPageSize list params).elim state step := by
  unfold OfferHandlers.listPage pageCall
  dsimp only
  split_ifs
  · rfl
  · rw [respond_state, Option.elim_some, h]

end Extractors

/-! ## §3. The service does what the calls do. -/

section Serve

variable {σ ε : Type} [HasServiceErrorSource ε] (service : OfferState A σ ε)

/-- A request to a route. -/
def serveRoute (now : DateTime) (route : Route) (query : Option (List Char))
    (request : HttpRequest) (state : σ) : HttpResponse × σ :=
  match route with
  | .offer partition id => serveOffer text service now partition id query request state
  | .offers partition => serveOffers text service partition query request state
  | .postOffer => servePostOffer text service now request state
  | .metadata partition id => serveMetadata text service now partition id request state
  | .allMetadata partition => serveAllMetadata text service partition query request state
  | .postMetadata => servePostMetadata text service now request state
  | .health => serveHealth request state

theorem serve_eq (now : DateTime) (request : HttpRequest) (state : σ) :
    serve text service now request state
      = (route request.url.target.segments).elim
          (rejection StatusCode.notFound, state) fun route =>
            serveRoute text service now route request.url.target.query
              request state := by
  unfold serve serveRoute
  dsimp only
  cases route request.url.target.segments with
  | none => rfl
  | some route => cases route <;> rfl

/-- One route: every method of it leaves the stores as its call does. -/
theorem serveRoute_state (now : DateTime) (route : Route) (query : Option (List Char))
    (request : HttpRequest) (state : σ) :
    (serveRoute text service now route query request state).2
      = (routeCall text service.maxPageSize route query request).elim state fun call =>
          (offerMachine service.offerStore service.metadataStore state (now, call)).2 := by
  obtain ⟨method, url, headers, body⟩ := request
  cases route with
  | offer partition id =>
      cases method with
      | get =>
          apply withQuery_state
          intro params
          apply withUuidParam_state
          intro param
          exact respond_state _ _
      | put =>
          apply withUuidParam_state
          intro param
          apply withJson_state
          intro offer
          exact respond_state _ _
      | delete =>
          apply withUuidParam_state
          intro param
          exact respond_state _ _
      | post => rfl
      | patch => rfl
  | offers partition =>
      cases method with
      | get =>
          apply withPath_state
          intro partition
          apply withQuery_state
          intro params
          exact listPage_state fun start count => rfl
      | post => rfl
      | put => rfl
      | patch => rfl
      | delete => rfl
  | postOffer =>
      cases method with
      | post =>
          apply withJson_state
          intro offer
          exact respond_state _ _
      | get => rfl
      | put => rfl
      | patch => rfl
      | delete => rfl
  | metadata partition id =>
      cases method with
      | get =>
          apply withUuidParam_state
          intro param
          exact respond_state _ _
      | put =>
          apply withUuidParam_state
          intro param
          apply withJson_state
          intro metadata
          exact respond_state _ _
      | delete =>
          apply withUuidParam_state
          intro param
          exact respond_state _ _
      | post => rfl
      | patch => rfl
  | allMetadata partition =>
      cases method with
      | get =>
          apply withPath_state
          intro partition
          apply withQuery_state
          intro params
          exact listPage_state fun start count => rfl
      | post => rfl
      | put => rfl
      | patch => rfl
      | delete => rfl
  | postMetadata =>
      cases method with
      | post =>
          apply withJson_state
          intro metadata
          exact respond_state _ _
      | get => rfl
      | put => rfl
      | patch => rfl
      | delete => rfl
  | health => cases method <;> rfl

theorem serve_state (now : DateTime) (request : HttpRequest) (state : σ) :
    (serve text service now request state).2
      = (requestCall text service.maxPageSize request).elim state fun call =>
          (offerMachine service.offerStore service.metadataStore state (now, call)).2 := by
  rw [serve_eq]
  unfold requestCall
  dsimp only
  cases route request.url.target.segments with
  | none => rfl
  | some route => exact serveRoute_state text service now route _ request state

end Serve

end OfferService

/-! ## §4. The management service over its requests. -/

/-- A request, with what the clock says when its token is checked and when it is handled. -/
structure ServiceInput where
  checked : DateTime
  now : DateTime
  request : HttpRequest

variable {A σ ε : Type} [HasServiceErrorSource ε]

/-- `OfferService` over its stores. -/
def offerServer (auth : BearerTokenAuthLayer) (text : OfferText A) (service : OfferState A σ ε) :
    Machine σ ServiceInput HttpResponse :=
  fun state input =>
    OfferService.router auth text service input.checked input.now input.request state

/-- The call of a request the layer lets through, when it is made. -/
def authorizedCall (auth : BearerTokenAuthLayer) (text : OfferText A) (maxPageSize : UInt64)
    (input : ServiceInput) : Option (DateTime × OfferCall A) :=
  if auth.authorizes input.checked input.request then
    (OfferService.requestCall text maxPageSize input.request).map fun call => (input.now, call)
  else none

/-- **The service leaves its stores as the calls of the authorised requests do.** -/
theorem offerServer_translates (auth : BearerTokenAuthLayer) (text : OfferText A)
    (service : OfferState A σ ε) :
    Machine.Translates (offerServer auth text service)
      (offerMachine service.offerStore service.metadataStore)
      (authorizedCall auth text service.maxPageSize) := by
  intro state input
  have hserve := OfferService.serve_state text service input.now input.request state
  show (OfferService.router auth text service input.checked input.now input.request state).2 = _
  unfold OfferService.router authorizedCall
  split
  · rename_i hroute
    -- the health check is open, and asks for no call
    have hcall : OfferService.requestCall text service.maxPageSize input.request = none := by
      unfold OfferService.requestCall
      dsimp only
      rw [hroute]
      cases hmethod : input.request.method <;> simp [OfferService.routeCall, hmethod]
    rw [hcall, Option.map_none, ite_self]
    unfold OfferService.serveHealth
    cases input.request.method <;> rfl
  · rw [BearerTokenAuthLayer.call_eq]
    split_ifs
    · rw [hserve, Option.elim_map]
      rfl
    · rfl

end Switchgear.Service
