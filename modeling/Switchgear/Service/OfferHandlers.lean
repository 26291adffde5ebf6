/-
  Switchgear.Service.OfferHandlers — `OfferHandlers` over the two stores of its
  state, and the router before them.
-/
import Switchgear.Offer.Memory
import Switchgear.Service.Crud
import Switchgear.Service.Extract
import Switchgear.ServiceApi.OfferJson

namespace Switchgear.Service

open Switchgear.Lib
open Switchgear.Offer

/-! ## §1. Query parameters. -/

/-- `GetAllOffersQueryParameters` and `GetAllMetadataQueryParameters`. -/
structure PageQueryParameters where
  start : Option UInt64
  count : Option UInt64
  deriving DecidableEq

def PageQueryParameters.fromPairs (pairs : List (String × String)) :
    Option PageQueryParameters := do
  let start ← optionField UrlPath.parseUsize "start" pairs
  let count ← optionField UrlPath.parseUsize "count" pairs
  return { start, count }

structure GetOfferQueryParameters where
  sparse : Option Bool
  deriving DecidableEq

def GetOfferQueryParameters.fromPairs (pairs : List (String × String)) :
    Option GetOfferQueryParameters := do
  let sparse ← optionField UrlPath.parseBool "sparse" pairs
  return { sparse }

namespace OfferHandlers

variable {A σ ε α : Type} [HasServiceErrorSource ε]

/-! ## §2. The handlers. -/

/-- A page of a listing: the largest page where no count is given, an error where the count is
larger. -/
def listPage (maxPageSize : UInt64) (params : PageQueryParameters)
    (list : (start count : UInt64) → σ → Except ε (List α) × σ) (state : σ) :
    Except CrudError (JsonCrudResponse (List α)) × σ :=
  let count := params.count.getD maxPageSize
  if maxPageSize < count then (.error .bad, state)
  else
    respond (fun values => .ok (.ok values noCacheHeaders)) (list (params.start.getD 0) count state)

def getOffer (store : OfferStore A σ ε) (params : GetOfferQueryParameters) (param : UuidParam)
    (state : σ) : Except CrudError (JsonCrudResponse (OfferRecord A)) × σ :=
  respond foundResponse (store.getOffer param.partition param.id params.sparse state)

def getOffers (maxPageSize : UInt64) (store : OfferStore A σ ε) (partition : String)
    (params : PageQueryParameters) (state : σ) :
    Except CrudError (JsonCrudResponse (List (OfferRecord A))) × σ :=
  listPage maxPageSize params (store.getOffers partition) state

/-- `format!("{}/{}", partition, id)`. -/
def location (partition : String) (id : Uuid) : String := partition ++ "/" ++ id.hyphenated

/-- Only the partition decides whether a location is a header value. -/
theorem forall_mem_location (partition : String) (id : Uuid) :
    (∀ c ∈ (location partition id).toList, isHeaderChar c = true)
      ↔ ∀ c ∈ partition.toList, isHeaderChar c = true := by
  have hid : ∀ c ∈ id.hyphenated.toList, isHeaderChar c = true := fun c hc =>
    isHeaderChar_of_isUnreserved ((plainSegment_hyphenated id).unreserved c hc)
  unfold location
  rw [String.toList_append, String.toList_append, List.forall_mem_append, List.forall_mem_append]
  constructor
  · intro h
    exact h.1.1
  · intro h
    exact ⟨⟨h, List.forall_mem_singleton.mpr (by decide)⟩, hid⟩

theorem headerValue_location_ok {partition : String}
    (h : ∀ c ∈ partition.toList, isHeaderChar c = true) (id : Uuid) :
    headerValue (location partition id) = .ok (location partition id) :=
  headerValue_ok ((forall_mem_location partition id).mpr h)

def postOffer (store : OfferStore A σ ε) (now : DateTime) (offer : OfferRecord A) (state : σ) :
    Except CrudError (JsonCrudResponse Unit) × σ :=
  let offer := offer.withoutMetadata
  -- the header is made of the location after the store has answered
  let location := location offer.partition offer.id
  respond (postedResponse location) (store.postOffer now offer state)

def putOffer (store : OfferStore A σ ε) (now : DateTime) (param : UuidParam)
    (offer : OfferRecordSparse A) (state : σ) : Except CrudError (JsonCrudResponse Unit) × σ :=
  -- the path names the record; the body has no key
  let offer : OfferRecord A := { partition := param.partition, id := param.id, offer }
  let offer := offer.withoutMetadata
  respond putResponse (store.putOffer now offer state)

def deleteOffer (store : OfferStore A σ ε) (param : UuidParam) (state : σ) :
    Except CrudError (JsonCrudResponse Unit) × σ :=
  respond deletedResponse (store.deleteOffer param.partition param.id state)

def getMetadata (store : OfferMetadataStore A σ ε) (param : UuidParam) (state : σ) :
    Except CrudError (JsonCrudResponse (OfferMetadata A)) × σ :=
  respond foundResponse (store.getMetadata param.partition param.id state)

def getAllMetadata (maxPageSize : UInt64) (store : OfferMetadataStore A σ ε) (partition : String)
    (params : PageQueryParameters) (state : σ) :
    Except CrudError (JsonCrudResponse (List (OfferMetadata A))) × σ :=
  listPage maxPageSize params (store.getAllMetadata partition) state

def postMetadata (store : OfferMetadataStore A σ ε) (now : DateTime) (metadata : OfferMetadata A)
    (state : σ) : Except CrudError (JsonCrudResponse Unit) × σ :=
  let location := location metadata.partition metadata.id
  respond (postedResponse location) (store.postMetadata now metadata state)

def putMetadata (store : OfferMetadataStore A σ ε) (now : DateTime) (param : UuidParam)
    (metadata : OfferMetadataSparse A) (state : σ) :
    Except CrudError (JsonCrudResponse Unit) × σ :=
  let metadata : OfferMetadata A := { id := param.id, partition := param.partition, metadata }
  respond putResponse (store.putMetadata now metadata state)

def deleteMetadata (store : OfferMetadataStore A σ ε) (param : UuidParam) (state : σ) :
    Except CrudError (JsonCrudResponse Unit) × σ :=
  respond deletedResponse (store.deleteMetadata param.partition param.id state)

end OfferHandlers

/-! ## §3. The router. -/

/-- `OfferState`, without the key of the authority. -/
structure OfferState (A σ ε : Type) where
  offerStore : OfferStore A σ ε
  metadataStore : OfferMetadataStore A σ ε
  maxPageSize : UInt64

/-- A service over memory stores. -/
def memoryService (A : Type) [Repr A] (maxPageSize : UInt64) :
    OfferState A (MemoryOfferStore A) OfferStoreError where
  offerStore := MemoryOfferStore.offerStore
  metadataStore := MemoryOfferStore.metadataStore
  maxPageSize

namespace OfferService

variable {A σ ε α : Type} [HasServiceErrorSource ε]

/-- The response of a handler. -/
def answer (encode : α → Json) (outcome : Except CrudError (JsonCrudResponse α) × σ) :
    HttpResponse × σ := (intoResponse encode outcome.1, outcome.2)

/-- The encoder of a response without a body. -/
def noBody : Unit → Json := fun _ => .null

/-- A handler behind `UuidParam`. -/
def withUuidParam (text : OfferText A) (partition id : List Char) (state : σ)
    (handler : UuidParam → HttpResponse × σ) : HttpResponse × σ :=
  match UuidParam.fromRequestParts text.parseUuid (pathParams partition id) with
  | .error status => (rejection status, state)
  | .ok param => handler param

variable (text : OfferText A) (service : OfferState A σ ε) (now : DateTime)

/-- `/offers/{partition}/{id}`. -/
def serveOffer (partition id : List Char) (query : Option (List Char)) (request : HttpRequest)
    (state : σ) : HttpResponse × σ :=
  match request.method with
  | .get =>
      -- the extractors run in the order of the handler's arguments
      withQuery GetOfferQueryParameters.fromPairs query state fun params =>
        withUuidParam text partition id state fun param =>
          answer text.recordCodec.encode
            (OfferHandlers.getOffer service.offerStore params param state)
  | .put =>
      withUuidParam text partition id state fun param =>
        withJson text.recordSparseCodec.decode request.body state fun offer =>
          answer noBody (OfferHandlers.putOffer service.offerStore now param offer state)
  | .delete =>
      withUuidParam text partition id state fun param =>
        answer noBody (OfferHandlers.deleteOffer service.offerStore param state)
  | _ => (rejection StatusCode.methodNotAllowed, state)

/-- `/offers/{partition}`. -/
def serveOffers (partition : List Char) (query : Option (List Char)) (request : HttpRequest)
    (state : σ) : HttpResponse × σ :=
  match request.method with
  | .get =>
      withPath partition state fun partition =>
        withQuery PageQueryParameters.fromPairs query state fun params =>
          answer text.recordCodec.list.encode
            (OfferHandlers.getOffers service.maxPageSize service.offerStore partition params state)
  | _ => (rejection StatusCode.methodNotAllowed, state)

/-- `/offers`. -/
def servePostOffer (request : HttpRequest) (state : σ) : HttpResponse × σ :=
  match request.method with
  | .post =>
      withJson text.recordCodec.decode request.body state fun offer =>
        answer noBody (OfferHandlers.postOffer service.offerStore now offer state)
  | _ => (rejection StatusCode.methodNotAllowed, state)

/-- `/metadata/{partition}/{id}`. -/
def serveMetadata (partition id : List Char) (request : HttpRequest) (state : σ) :
    HttpResponse × σ :=
  match request.method with
  | .get =>
      withUuidParam text partition id state fun param =>
        answer text.metadataCodec.encode
          (OfferHandlers.getMetadata service.metadataStore param state)
  | .put =>
      withUuidParam text partition id state fun param =>
        withJson text.metadataSparseCodec.decode request.body state fun metadata =>
          answer noBody (OfferHandlers.putMetadata service.metadataStore now param metadata state)
  | .delete =>
      withUuidParam text partition id state fun param =>
        answer noBody (OfferHandlers.deleteMetadata service.metadataStore param state)
  | _ => (rejection StatusCode.methodNotAllowed, state)

/-- `/metadata/{partition}`. -/
def serveAllMetadata (partition : List Char) (query : Option (List Char)) (request : HttpRequest)
    (state : σ) : HttpResponse × σ :=
  match request.method with
  | .get =>
      withPath partition state fun partition =>
        withQuery PageQueryParameters.fromPairs query state fun params =>
          answer text.metadataCodec.list.encode
            (OfferHandlers.getAllMetadata service.maxPageSize service.metadataStore partition params
              state)
  | _ => (rejection StatusCode.methodNotAllowed, state)

/-- `/metadata`. -/
def servePostMetadata (request : HttpRequest) (state : σ) : HttpResponse × σ :=
  match request.method with
  | .post =>
      withJson text.metadataCodec.decode request.body state fun metadata =>
        answer noBody (OfferHandlers.postMetadata service.metadataStore now metadata state)
  | _ => (rejection StatusCode.methodNotAllowed, state)

/-- `/health`. -/
def serveHealth (request : HttpRequest) (state : σ) : HttpResponse × σ :=
  match request.method with
  | .get => ({ status := StatusCode.ok, headers := [], body := none }, state)
  | _ => (rejection StatusCode.methodNotAllowed, state)

/-- A route of the service, with its parameters as they stand in the path. -/
inductive Route where
  | offer (partition id : List Char)
  | offers (partition : List Char)
  | postOffer
  | metadata (partition id : List Char)
  | allMetadata (partition : List Char)
  | postMetadata
  | health
  deriving DecidableEq

/-- The route of a path; a parameter at its end is not empty. -/
def route : List (List Char) → Option Route
  | [first] =>
      if first = "offers".toList then some .postOffer
      else if first = "metadata".toList then some .postMetadata
      else if first = "health".toList then some .health
      else none
  | [first, partition] =>
      if partition = [] then none
      else if first = "offers".toList then some (.offers partition)
      else if first = "metadata".toList then some (.allMetadata partition)
      else none
  | [first, partition, id] =>
      if id = [] then none
      else if first = "offers".toList then some (.offer partition id)
      else if first = "metadata".toList then some (.metadata partition id)
      else none
  | _ => none

section Routes

variable {partition id : List Char}

theorem route_offer (hid : id ≠ []) :
    route ["offers".toList, partition, id] = some (.offer partition id) := by
  unfold route
  dsimp only
  rw [if_neg hid, if_pos rfl]

theorem route_metadata (hid : id ≠ []) :
    route ["metadata".toList, partition, id] = some (.metadata partition id) := by
  unfold route
  dsimp only
  rw [if_neg hid, if_neg (by decide), if_pos rfl]

theorem route_offers (hpartition : partition ≠ []) :
    route ["offers".toList, partition] = some (.offers partition) := by
  unfold route
  dsimp only
  rw [if_neg hpartition, if_pos rfl]

theorem route_allMetadata (hpartition : partition ≠ []) :
    route ["metadata".toList, partition] = some (.allMetadata partition) := by
  unfold route
  dsimp only
  rw [if_neg hpartition, if_neg (by decide), if_pos rfl]

theorem route_postOffer : route ["offers".toList] = some .postOffer := by decide

theorem route_postMetadata : route ["metadata".toList] = some .postMetadata := by decide

end Routes

/-- `OfferService::router`, for authorised requests. -/
def serve (request : HttpRequest) (state : σ) : HttpResponse × σ :=
  let target := request.url.target
  match route target.segments with
  | none => (rejection StatusCode.notFound, state)
  | some (.offer partition id) =>
      serveOffer text service now partition id target.query request state
  | some (.offers partition) => serveOffers text service partition target.query request state
  | some .postOffer => servePostOffer text service now request state
  | some (.metadata partition id) => serveMetadata text service now partition id request state
  | some (.allMetadata partition) =>
      serveAllMetadata text service partition target.query request state
  | some .postMetadata => servePostMetadata text service now request state
  | some .health => serveHealth request state

end OfferService

end Switchgear.Service
