/-
  Switchgear.Offer.OverHttp — the offer stores used through the HTTP client and
  the handlers of a service, against the same stores used directly.

  What the ten methods do over HTTP is a machine of its own (`relayed`): a call to
  the stores without embedded metadata, whose errors keep the side that caused
  them as far as a status tells; a listing of more than a page is refused before
  the store is called.

  Ids and plain partitions arrive as the path segments they were written as; so do
  the queries.  There is one lemma for each of the five shapes of the client's
  methods (`Relayed`), and one for each method.

  Main result:
    * `remote_offers_answer_as_relayed` — over whole runs.
-/
import Switchgear.Offer.Http
import Switchgear.Service.OfferHandlers

namespace Switchgear.Offer

open Switchgear.Lib
open Switchgear.Service

/-! ## §1. The remote stores. -/

section Definitions

variable {A σ ε : Type} [HasServiceErrorSource ε]

/-- The way of a request to the service and of the response back. -/
def deliver (text : OfferText A) (service : OfferState A σ ε) (now : DateTime) : Transport σ :=
  fun request state =>
    let (response, state) := OfferService.serve text service now request.sent state
    (.ok response, state)

/-- `HttpOfferStore` on the service, as a machine. -/
def remoteMachine (client : HttpOfferStore A) (service : OfferState A σ ε) :
    Machine σ (DateTime × OfferCall A) (Except OfferStoreError (OfferAnswer A)) :=
  offerMachine (client.offerStore (deliver client.text service))
    (client.metadataStore (deliver client.text service))

/-- What a status tells of the side that caused an error. -/
def remoteSource : ServiceErrorSource → ServiceErrorSource
  | .downstream => .downstream
  | .upstream => .upstream
  | .internal => .upstream

/-- The remote call leaves the stores as the direct call does and answers the same; an error
keeps its side as far as a status tells. -/
structure Relayed {α : Type} (direct : Except ε α × σ) (remote : Except OfferStoreError α × σ) :
    Prop where
  state : remote.2 = direct.2
  answer : remote.1.mapError OfferStoreError.esource
    = direct.1.mapError fun e => remoteSource (HasServiceErrorSource.getServiceErrorSource e)

/-- The remote call is refused and the stores are not called. -/
structure Refused {α : Type} (state : σ) (remote : Except OfferStoreError α × σ) : Prop where
  state : remote.2 = state
  answer : remote.1.mapError OfferStoreError.esource = .error .downstream

/-- A listing that asks for more than a page. -/
def OfferCall.OverPage (maxPageSize : UInt64) : OfferCall A → Prop
  | .getOffers _ _ count => maxPageSize < count
  | .getAllMetadata _ _ count => maxPageSize < count
  | _ => False

instance (maxPageSize : UInt64) (call : OfferCall A) : Decidable (call.OverPage maxPageSize) := by
  cases call <;> unfold OfferCall.OverPage <;> infer_instance

/-- The call with the embedded metadata stripped from the offer it posts or puts. -/
def OfferCall.withoutMetadata : OfferCall A → OfferCall A
  | .postOffer offer => .postOffer offer.withoutMetadata
  | .putOffer offer => .putOffer offer.withoutMetadata
  | call => call

/-- What the ten methods do over HTTP. -/
def relayed (service : OfferState A σ ε) :
    Machine σ (DateTime × OfferCall A) (Except ServiceErrorSource (OfferAnswer A)) :=
  fun s (now, call) =>
    if call.OverPage service.maxPageSize then (.error .downstream, s)
    else
      let (r, s') :=
        offerMachine service.offerStore service.metadataStore s (now, call.withoutMetadata)
      (r.mapError fun e => remoteSource (HasServiceErrorSource.getServiceErrorSource e), s')

/-- What the client and the service rely on of the stores: an absent flag reads sparsely, and a
post answers with the posted id. -/
structure PlainStores (service : OfferState A σ ε) : Prop where
  sparse : ∀ partition id state, service.offerStore.getOffer partition id none state
    = service.offerStore.getOffer partition id (some true) state
  postedOffer : ∀ now offer state id,
    (service.offerStore.postOffer now offer state).1 = .ok (some id) → id = offer.id
  postedMetadata : ∀ now metadata state id,
    (service.metadataStore.postMetadata now metadata state).1 = .ok (some id) → id = metadata.id

/-- The stores `R` and `Q` do what the calls to the service's stores do, on plain
partitions. -/
structure RelayedStores (service : OfferState A σ ε) (R : OfferStore A σ OfferStoreError)
    (Q : OfferMetadataStore A σ OfferStoreError) : Prop where
  getOffer : ∀ partition id sparse state, UrlPath.PlainSegment partition.toList →
    Relayed (service.offerStore.getOffer partition id sparse state)
      (R.getOffer partition id sparse state)
  getOffers : ∀ partition start count state, UrlPath.PlainSegment partition.toList →
    if service.maxPageSize < count then Refused state (R.getOffers partition start count state)
    else Relayed (service.offerStore.getOffers partition start count state)
      (R.getOffers partition start count state)
  postOffer : ∀ now offer state, UrlPath.PlainSegment offer.partition.toList →
    Relayed (service.offerStore.postOffer now offer.withoutMetadata state)
      (R.postOffer now offer state)
  putOffer : ∀ now offer state, UrlPath.PlainSegment offer.partition.toList →
    Relayed (service.offerStore.putOffer now offer.withoutMetadata state)
      (R.putOffer now offer state)
  deleteOffer : ∀ partition id state, UrlPath.PlainSegment partition.toList →
    Relayed (service.offerStore.deleteOffer partition id state) (R.deleteOffer partition id state)
  getMetadata : ∀ partition id state, UrlPath.PlainSegment partition.toList →
    Relayed (service.metadataStore.getMetadata partition id state)
      (Q.getMetadata partition id state)
  getAllMetadata : ∀ partition start count state, UrlPath.PlainSegment partition.toList →
    if service.maxPageSize < count then
      Refused state (Q.getAllMetadata partition start count state)
    else Relayed (service.metadataStore.getAllMetadata partition start count state)
      (Q.getAllMetadata partition start count state)
  postMetadata : ∀ now metadata state, UrlPath.PlainSegment metadata.partition.toList →
    Relayed (service.metadataStore.postMetadata now metadata state)
      (Q.postMetadata now metadata state)
  putMetadata : ∀ now metadata state, UrlPath.PlainSegment metadata.partition.toList →
    Relayed (service.metadataStore.putMetadata now metadata state)
      (Q.putMetadata now metadata state)
  deleteMetadata : ∀ partition id state, UrlPath.PlainSegment partition.toList →
    Relayed (service.metadataStore.deleteMetadata partition id state)
      (Q.deleteMetadata partition id state)

end Definitions

/-! ## §2. What arrives at the service. -/

section Routes

variable {A : Type}

theorem plainSegment_offers : UrlPath.PlainSegment "offers".toList where
  nonempty := by decide
  unreserved := List.all_eq_true.mp (by decide)
  not_single_dot := by decide
  not_double_dot := by decide

theorem plainSegment_metadata : UrlPath.PlainSegment "metadata".toList where
  nonempty := by decide
  unreserved := List.all_eq_true.mp (by decide)
  not_single_dot := by decide
  not_double_dot := by decide

/-- The location of a record with a plain partition is a header value. -/
theorem headerValue_location {partition : String}
    (hpartition : UrlPath.PlainSegment partition.toList) (id : Uuid) :
    headerValue (OfferHandlers.location partition id) = .ok (OfferHandlers.location partition id) :=
  OfferHandlers.headerValue_location_ok
    (fun c hc => isHeaderChar_of_isUnreserved (hpartition.unreserved c hc)) id

/-- A character of a number in a query. -/
theorem isDigit_plain {c : Char} (h : c.isDigit = true) :
    UrlPath.querySet c = false ∧ c ∉ ['&', '=', '%', '+'] := by
  have hunreserved : UrlPath.isUnreserved c = true := by
    unfold UrlPath.isUnreserved Char.isAlphanum
    rw [h, Bool.or_true]
    rfl
  have hc := Hex.of_ascii (P := fun c => c.isDigit = true →
    UrlPath.querySet c = false ∧ c ∉ ['&', '=', '%', '+']) (by decide)
    (UrlPath.isUnreserved_lt hunreserved)
  exact hc h

theorem forall_of_all {p : Char → Bool} {text : List Char}
    (h : text.all (fun c => !p c) = true) : ∀ c ∈ text, p c = false := by
  intro c hc
  have hp := List.all_eq_true.mp h c hc
  rwa [Bool.not_eq_true'] at hp

theorem querySet_sparseQuery (sparse : Bool) :
    ∀ c ∈ (HttpOfferStore.sparseQuery sparse).toList, UrlPath.querySet c = false := by
  apply forall_of_all
  cases sparse <;> decide

/-- The flag of a read comes back from its query. -/
theorem fromPairs_sparseQuery (sparse : Bool) :
    GetOfferQueryParameters.fromPairs
        (UrlPath.formPairs (HttpOfferStore.sparseQuery sparse).toList)
      = some { sparse := some sparse } := by
  cases sparse <;> decide

theorem toList_pageQuery (start count : UInt64) :
    (HttpOfferStore.pageQuery start count).toList
      = ['&'].intercalate ([("start".toList, (toString start).toList),
          ("count".toList, (toString count).toList)].map UrlPath.formPiece) := by
  unfold HttpOfferStore.pageQuery
  simp [UrlPath.formPiece, List.intercalate]

theorem querySet_pageQuery (start count : UInt64) :
    ∀ c ∈ (HttpOfferStore.pageQuery start count).toList, UrlPath.querySet c = false := by
  have hnumber : ∀ n : UInt64, ∀ c ∈ (toString n).toList, UrlPath.querySet c = false :=
    fun n c hc => (isDigit_plain (UrlPath.isDigit_toString n c hc)).1
  intro c hc
  unfold HttpOfferStore.pageQuery at hc
  simp only [String.toList_append, List.mem_append] at hc
  rcases hc with ((hc | hc) | hc) | hc
  · exact forall_of_all (by decide) c hc
  · exact hnumber start c hc
  · exact forall_of_all (by decide) c hc
  · exact hnumber count c hc

/-- The page comes back from its query. -/
theorem fromPairs_pageQuery (start count : UInt64) :
    PageQueryParameters.fromPairs
        (UrlPath.formPairs (HttpOfferStore.pageQuery start count).toList)
      = some { start := some start, count := some count } := by
  have hnumber : ∀ n : UInt64, UrlPath.PlainForm (toString n).toList := by
    intro n c hc
    obtain ⟨-, hplain⟩ := isDigit_plain (UrlPath.isDigit_toString n c hc)
    exact hplain
  rw [toList_pageQuery, UrlPath.formPairs_intercalate (by simp)]
  · simp only [List.map_cons, List.map_nil, String.ofList_toList]
    unfold PageQueryParameters.fromPairs optionField UrlPath.formField
    simp [UrlPath.parseUsize_toString]
  · intro pair hpair
    simp only [List.mem_cons, List.not_mem_nil, or_false] at hpair
    rcases hpair with rfl | rfl
    · have hkey : UrlPath.PlainForm "start".toList := by simp [UrlPath.PlainForm]
      exact ⟨hkey, hnumber start⟩
    · have hkey : UrlPath.PlainForm "count".toList := by simp [UrlPath.PlainForm]
      exact ⟨hkey, hnumber count⟩

end Routes

/-! ## §3. The five shapes. -/

section Shapes

variable {A σ ε α : Type} [HasServiceErrorSource ε] {client : HttpOfferStore A}
  {send : Transport σ} {url : HttpUrl} {state : σ}

/-- An error status is an error of the client, from the side the status tells. -/
theorem generalError_esource (source : ServiceErrorSource) (context : String) :
    (client.generalError source.toHttpStatus context).esource = remoteSource source := by
  cases source <;> rfl

/-- The answers of two calls, read through the same function. -/
theorem Relayed.map {β : Type} {direct : Except ε α × σ} {remote : Except OfferStoreError α × σ}
    (h : Relayed direct remote) (f : α → β) :
    Relayed (direct.1.map f, direct.2) (remote.1.map f, remote.2) := by
  refine ⟨h.state, ?_⟩
  obtain ⟨direct, s⟩ := direct
  obtain ⟨remote, s'⟩ := remote
  have hanswer := h.answer
  cases direct with
  | error e =>
      cases remote with
      | error e' =>
          have hsource := Except.error.inj hanswer
          exact congrArg Except.error hsource
      | ok value => cases hanswer
  | ok value =>
      cases remote with
      | error e' => cases hanswer
      | ok value' =>
          have hvalue := Except.ok.inj hanswer
          exact congrArg (fun value => Except.ok (f value)) hvalue

theorem readOne_relayed {decode : Json → Option α} {encode : α → Json}
    (hdecode : ∀ value, decode (encode value) = some value) {direct : Except ε (Option α) × σ}
    (hsend : send (.plain .get url) state
      = (.ok (intoResponse encode (respond foundResponse direct).1), direct.2))
    (getting parsing : String) :
    Relayed direct (client.readOne send decode url getting parsing state) := by
  obtain ⟨result, state'⟩ := direct
  unfold HttpOfferStore.readOne
  rw [hsend]
  cases result with
  | error e =>
      obtain ⟨hok, -, -, -, hfound, -⟩ :=
        (HasServiceErrorSource.getServiceErrorSource e).toHttpStatus_unexpected
      unfold respond intoResponse CrudError.fromServiceError
      dsimp only
      rw [if_neg hok, if_neg hfound]
      exact ⟨rfl, congrArg Except.error (generalError_esource _ getting)⟩
  | ok found =>
      cases found with
      | none => exact ⟨rfl, rfl⟩
      | some value =>
          unfold respond foundResponse intoResponse JsonCrudResponse.ok
          dsimp only
          rw [if_pos rfl, Option.map_some, Option.bind_some, hdecode]
          exact ⟨rfl, rfl⟩

theorem readPage_relayed {decode : Json → Option (List α)} {encode : List α → Json}
    (hdecode : ∀ values, decode (encode values) = some values) {direct : Except ε (List α) × σ}
    (hsend : send (.plain .get url) state
      = (.ok (intoResponse encode (respond
          (fun values => .ok (JsonCrudResponse.ok values noCacheHeaders)) direct).1), direct.2))
    (getting parsing : String) :
    Relayed direct (client.readPage send decode url getting parsing state) := by
  obtain ⟨result, state'⟩ := direct
  unfold HttpOfferStore.readPage
  rw [hsend]
  cases result with
  | error e =>
      obtain ⟨hok, -⟩ :=
        (HasServiceErrorSource.getServiceErrorSource e).toHttpStatus_unexpected
      unfold respond intoResponse CrudError.fromServiceError
      dsimp only
      rw [if_neg hok]
      exact ⟨rfl, congrArg Except.error (generalError_esource _ getting)⟩
  | ok values =>
      unfold respond intoResponse JsonCrudResponse.ok
      dsimp only
      rw [if_pos rfl, Option.map_some, Option.bind_some, hdecode]
      exact ⟨rfl, rfl⟩

/-- A page that is refused. -/
theorem readPage_refused {decode : Json → Option (List α)}
    (hsend : send (.plain .get url) state = (.ok (rejection StatusCode.badRequest), state))
    (getting parsing : String) :
    Refused state (client.readPage send decode url getting parsing state) := by
  unfold HttpOfferStore.readPage
  rw [hsend]
  exact ⟨rfl, rfl⟩

/-- A post is answered by status; the client takes the id from its own request. -/
theorem postRecord_relayed {body : Json} {id : Uuid} {location : String}
    (hlocation : headerValue location = .ok location) {direct : Except ε (Option Uuid) × σ}
    (hposted : ∀ id', direct.1 = .ok (some id') → id' = id)
    (hsend : send (.json .post url body) state
      = (.ok (intoResponse OfferService.noBody (respond (postedResponse location) direct).1),
          direct.2)) (posting : String) :
    Relayed direct (client.postRecord send url body id posting state) := by
  obtain ⟨result, state'⟩ := direct
  unfold HttpOfferStore.postRecord
  rw [hsend]
  cases result with
  | error e =>
      obtain ⟨-, hcreated, -, -, -, hconflict⟩ :=
        (HasServiceErrorSource.getServiceErrorSource e).toHttpStatus_unexpected
      unfold respond intoResponse CrudError.fromServiceError
      dsimp only
      rw [if_neg hcreated, if_neg hconflict]
      exact ⟨rfl, congrArg Except.error (generalError_esource _ posting)⟩
  | ok posted =>
      unfold respond postedResponse
      rw [hlocation]
      cases posted with
      | none => exact ⟨rfl, rfl⟩
      | some id' =>
          rw [hposted id' rfl]
          exact ⟨rfl, rfl⟩

theorem putRecord_relayed {body : Json} {direct : Except ε Bool × σ}
    (hsend : send (.json .put url body) state
      = (.ok (intoResponse OfferService.noBody (respond putResponse direct).1), direct.2))
    (putting : String) :
    Relayed direct (client.putRecord send url body putting state) := by
  obtain ⟨result, state'⟩ := direct
  unfold HttpOfferStore.putRecord
  rw [hsend]
  cases result with
  | error e =>
      obtain ⟨-, hcreated, hcontent, -, -, -⟩ :=
        (HasServiceErrorSource.getServiceErrorSource e).toHttpStatus_unexpected
      unfold respond intoResponse CrudError.fromServiceError
      dsimp only
      rw [if_neg hcreated, if_neg hcontent]
      exact ⟨rfl, congrArg Except.error (generalError_esource _ putting)⟩
  | ok created => cases created <;> exact ⟨rfl, rfl⟩

theorem deleteRecord_relayed {direct : Except ε Bool × σ}
    (hsend : send (.plain .delete url) state
      = (.ok (intoResponse OfferService.noBody (respond deletedResponse direct).1), direct.2))
    (deleting : String) :
    Relayed direct (client.deleteRecord send url deleting state) := by
  obtain ⟨result, state'⟩ := direct
  unfold HttpOfferStore.deleteRecord
  rw [hsend]
  cases result with
  | error e =>
      obtain ⟨-, -, hcontent, -, hfound, -⟩ :=
        (HasServiceErrorSource.getServiceErrorSource e).toHttpStatus_unexpected
      unfold respond intoResponse CrudError.fromServiceError
      dsimp only
      rw [if_neg hcontent, if_neg hfound]
      exact ⟨rfl, congrArg Except.error (generalError_esource _ deleting)⟩
  | ok deleted => cases deleted <;> exact ⟨rfl, rfl⟩

end Shapes

/-! ## §4. One lemma per method. -/

section Methods

variable {A σ ε : Type} [HasServiceErrorSource ε] {client : HttpOfferStore A}
  {service : OfferState A σ ε} {partition : String}

open OfferService

theorem withUuidParam_plain (text : OfferText A) (hpartition : UrlPath.PlainSegment partition.toList)
    (id : Uuid) (state : σ) (handler : UuidParam → HttpResponse × σ) :
    withUuidParam text partition.toList id.hyphenated.toList state handler
      = handler { partition, id } := by
  have hpath : pathParams partition.toList id.hyphenated.toList
      = some (partition, id.hyphenated) := by
    unfold pathParams
    rw [UrlPath.percentDecode_plain hpartition,
      UrlPath.percentDecode_plain (plainSegment_hyphenated id), String.ofList_toList,
      String.ofList_toList]
    rfl
  unfold withUuidParam UuidParam.fromRequestParts
  rw [hpath]
  dsimp only
  rw [text.parseUuid_hyphenated]

theorem withQuery_some {α : Type} {decode : List (String × String) → Option α} {query : List Char}
    {params : α} (h : decode (UrlPath.formPairs query) = some params) (state : σ)
    (handler : α → HttpResponse × σ) :
    withQuery decode (some query) state handler = handler params := by
  unfold withQuery
  rw [Option.getD_some, h]

/-- The segments of a URL of the client about one id. -/
theorem forall_plain_three {first : String} (hfirst : UrlPath.PlainSegment first.toList)
    (hpartition : UrlPath.PlainSegment partition.toList) (id : Uuid) :
    ∀ segment ∈ [first, partition, id.hyphenated], UrlPath.PlainSegment segment.toList :=
  List.forall_mem_cons.mpr ⟨hfirst, List.forall_mem_cons.mpr
    ⟨hpartition, List.forall_mem_singleton.mpr (plainSegment_hyphenated id)⟩⟩

theorem forall_plain_two {first : String} (hfirst : UrlPath.PlainSegment first.toList)
    (hpartition : UrlPath.PlainSegment partition.toList) :
    ∀ segment ∈ [first, partition], UrlPath.PlainSegment segment.toList :=
  List.forall_mem_cons.mpr ⟨hfirst, List.forall_mem_singleton.mpr hpartition⟩

theorem plain_offersPartitionIdUrl (client : HttpOfferStore A)
    (hpartition : UrlPath.PlainSegment partition.toList) (id : Uuid) :
    (client.offersPartitionIdUrl partition id).Plain where
  segments := forall_plain_three plainSegment_offers hpartition id
  query _ hquery := by cases hquery

theorem plain_metadataPartitionIdUrl (client : HttpOfferStore A)
    (hpartition : UrlPath.PlainSegment partition.toList) (id : Uuid) :
    (client.metadataPartitionIdUrl partition id).Plain where
  segments := forall_plain_three plainSegment_metadata hpartition id
  query _ hquery := by cases hquery

theorem plain_sparseUrl (client : HttpOfferStore A)
    (hpartition : UrlPath.PlainSegment partition.toList) (id : Uuid) (sparse : Bool) :
    ((client.offersPartitionIdUrl partition id).withQuery
      (HttpOfferStore.sparseQuery sparse)).Plain where
  segments := forall_plain_three plainSegment_offers hpartition id
  query query hquery := by
    obtain rfl : HttpOfferStore.sparseQuery sparse = query := Option.some.inj hquery
    exact querySet_sparseQuery sparse

/-- A listing, of offers or of metadata. -/
theorem plain_pageUrl {first : String} (hfirst : UrlPath.PlainSegment first.toList)
    (base : String) (hpartition : UrlPath.PlainSegment partition.toList) (start count : UInt64) :
    (HttpUrl.withQuery { base, segments := [first, partition] }
      (HttpOfferStore.pageQuery start count)).Plain where
  segments := forall_plain_two hfirst hpartition
  query query hquery := by
    obtain rfl : HttpOfferStore.pageQuery start count = query := Option.some.inj hquery
    exact querySet_pageQuery start count

/-- A post, of an offer or of metadata. -/
theorem plain_postUrl {first : String} (hfirst : UrlPath.PlainSegment first.toList)
    (base : String) : HttpUrl.Plain { base, segments := [first] } where
  segments := List.forall_mem_singleton.mpr hfirst
  query _ hquery := by cases hquery

theorem target_offersPartitionIdUrl (client : HttpOfferStore A)
    (hpartition : UrlPath.PlainSegment partition.toList) (id : Uuid) :
    (client.offersPartitionIdUrl partition id).target
      = { segments := ["offers".toList, partition.toList, id.hyphenated.toList]
          query := none } := (plain_offersPartitionIdUrl client hpartition id).target

theorem target_metadataPartitionIdUrl (client : HttpOfferStore A)
    (hpartition : UrlPath.PlainSegment partition.toList) (id : Uuid) :
    (client.metadataPartitionIdUrl partition id).target
      = { segments := ["metadata".toList, partition.toList, id.hyphenated.toList]
          query := none } := (plain_metadataPartitionIdUrl client hpartition id).target

theorem target_sparseUrl (client : HttpOfferStore A)
    (hpartition : UrlPath.PlainSegment partition.toList) (id : Uuid) (sparse : Bool) :
    ((client.offersPartitionIdUrl partition id).withQuery
        (HttpOfferStore.sparseQuery sparse)).target
      = { segments := ["offers".toList, partition.toList, id.hyphenated.toList]
          query := some (HttpOfferStore.sparseQuery sparse).toList } :=
  (plain_sparseUrl client hpartition id sparse).target

theorem target_pageUrl {first : String} (hfirst : UrlPath.PlainSegment first.toList)
    (base : String) (hpartition : UrlPath.PlainSegment partition.toList) (start count : UInt64) :
    (HttpUrl.withQuery { base, segments := [first, partition] }
        (HttpOfferStore.pageQuery start count)).target
      = { segments := [first.toList, partition.toList]
          query := some (HttpOfferStore.pageQuery start count).toList } :=
  (plain_pageUrl hfirst base hpartition start count).target

theorem target_postUrl {first : String} (hfirst : UrlPath.PlainSegment first.toList)
    (base : String) :
    HttpUrl.target { base, segments := [first] }
      = { segments := [first.toList], query := none } := (plain_postUrl hfirst base).target

/-- A request to a plain URL comes to the service as it is. -/
theorem deliver_plain {text : OfferText A} {request : HttpRequest} (h : request.url.Plain)
    (now : DateTime) (state : σ) :
    deliver text service now request state
      = (.ok (serve text service now request state).1,
          (serve text service now request state).2) := by
  unfold deliver
  rw [HttpRequest.sent_plain h]

theorem deliver_getOffer (hpartition : UrlPath.PlainSegment partition.toList) (id : Uuid)
    (sparse : Bool) (now : DateTime) (state : σ) :
    deliver client.text service now
        (.plain .get ((client.offersPartitionIdUrl partition id).withQuery
          (HttpOfferStore.sparseQuery sparse))) state
      = (.ok (intoResponse client.text.recordCodec.encode
          (respond foundResponse
            (service.offerStore.getOffer partition id (some sparse) state)).1),
          (service.offerStore.getOffer partition id (some sparse) state).2) := by
  refine (deliver_plain (plain_sparseUrl client hpartition id sparse) now state).trans ?_
  unfold serve HttpRequest.plain
  dsimp only
  rw [target_sparseUrl client hpartition]
  dsimp only
  rw [route_offer (plainSegment_hyphenated id).nonempty]
  unfold serveOffer
  dsimp only
  rw [withQuery_some (fromPairs_sparseQuery sparse), withUuidParam_plain client.text hpartition]
  unfold answer OfferHandlers.getOffer
  rw [respond_state]

theorem deliver_putOffer {offer : OfferRecord A}
    (hpartition : UrlPath.PlainSegment offer.partition.toList) (now : DateTime) (state : σ) :
    deliver client.text service now
        (.json .put (client.offersPartitionIdUrl offer.partition offer.id)
          (client.text.recordCodec.encode offer)) state
      = (.ok (intoResponse noBody
          (respond putResponse (service.offerStore.putOffer now offer.withoutMetadata state)).1),
          (service.offerStore.putOffer now offer.withoutMetadata state).2) := by
  -- the service reads the fields of an offer among those of the whole record
  have hread : client.text.recordSparseCodec.decode (client.text.recordCodec.encode offer)
      = some offer.offer := client.text.recordSparseFields_recordEntries offer
  refine (deliver_plain (plain_offersPartitionIdUrl client hpartition _) now state).trans ?_
  unfold serve HttpRequest.json
  dsimp only
  rw [target_offersPartitionIdUrl client hpartition]
  dsimp only
  rw [route_offer (plainSegment_hyphenated offer.id).nonempty]
  unfold serveOffer
  dsimp only
  rw [withUuidParam_plain client.text hpartition, withJson_some hread]
  unfold answer OfferHandlers.putOffer
  rw [respond_state]

theorem deliver_deleteOffer (hpartition : UrlPath.PlainSegment partition.toList) (id : Uuid)
    (now : DateTime) (state : σ) :
    deliver client.text service now (.plain .delete (client.offersPartitionIdUrl partition id))
        state
      = (.ok (intoResponse noBody
          (respond deletedResponse (service.offerStore.deleteOffer partition id state)).1),
          (service.offerStore.deleteOffer partition id state).2) := by
  refine (deliver_plain (plain_offersPartitionIdUrl client hpartition _) now state).trans ?_
  unfold serve HttpRequest.plain
  dsimp only
  rw [target_offersPartitionIdUrl client hpartition]
  dsimp only
  rw [route_offer (plainSegment_hyphenated id).nonempty]
  unfold serveOffer
  dsimp only
  rw [withUuidParam_plain client.text hpartition]
  unfold answer OfferHandlers.deleteOffer
  rw [respond_state]

theorem deliver_getMetadata (hpartition : UrlPath.PlainSegment partition.toList) (id : Uuid)
    (now : DateTime) (state : σ) :
    deliver client.text service now (.plain .get (client.metadataPartitionIdUrl partition id))
        state
      = (.ok (intoResponse client.text.metadataCodec.encode
          (respond foundResponse (service.metadataStore.getMetadata partition id state)).1),
          (service.metadataStore.getMetadata partition id state).2) := by
  refine (deliver_plain (plain_metadataPartitionIdUrl client hpartition _) now state).trans ?_
  unfold serve HttpRequest.plain
  dsimp only
  rw [target_metadataPartitionIdUrl client hpartition]
  dsimp only
  rw [route_metadata (plainSegment_hyphenated id).nonempty]
  unfold serveMetadata
  dsimp only
  rw [withUuidParam_plain client.text hpartition]
  unfold answer OfferHandlers.getMetadata
  rw [respond_state]

theorem deliver_putMetadata {metadata : OfferMetadata A}
    (hpartition : UrlPath.PlainSegment metadata.partition.toList) (now : DateTime) (state : σ) :
    deliver client.text service now
        (.json .put (client.metadataPartitionIdUrl metadata.partition metadata.id)
          (client.text.metadataCodec.encode metadata)) state
      = (.ok (intoResponse noBody
          (respond putResponse (service.metadataStore.putMetadata now metadata state)).1),
          (service.metadataStore.putMetadata now metadata state).2) := by
  have hread : client.text.metadataSparseCodec.decode (client.text.metadataCodec.encode metadata)
      = some metadata.metadata := client.text.metadataSparseFields_metadataEntries metadata
  refine (deliver_plain (plain_metadataPartitionIdUrl client hpartition _) now state).trans ?_
  unfold serve HttpRequest.json
  dsimp only
  rw [target_metadataPartitionIdUrl client hpartition]
  dsimp only
  rw [route_metadata (plainSegment_hyphenated metadata.id).nonempty]
  unfold serveMetadata
  dsimp only
  rw [withUuidParam_plain client.text hpartition, withJson_some hread]
  unfold answer OfferHandlers.putMetadata
  rw [respond_state]

theorem deliver_deleteMetadata (hpartition : UrlPath.PlainSegment partition.toList) (id : Uuid)
    (now : DateTime) (state : σ) :
    deliver client.text service now (.plain .delete (client.metadataPartitionIdUrl partition id))
        state
      = (.ok (intoResponse noBody
          (respond deletedResponse (service.metadataStore.deleteMetadata partition id state)).1),
          (service.metadataStore.deleteMetadata partition id state).2) := by
  refine (deliver_plain (plain_metadataPartitionIdUrl client hpartition _) now state).trans ?_
  unfold serve HttpRequest.plain
  dsimp only
  rw [target_metadataPartitionIdUrl client hpartition]
  dsimp only
  rw [route_metadata (plainSegment_hyphenated id).nonempty]
  unfold serveMetadata
  dsimp only
  rw [withUuidParam_plain client.text hpartition]
  unfold answer OfferHandlers.deleteMetadata
  rw [respond_state]

theorem deliver_postOffer (offer : OfferRecord A) (now : DateTime) (state : σ) :
    deliver client.text service now
        (.json .post client.offerUrl (client.text.recordCodec.encode offer)) state
      = (.ok (intoResponse noBody
          (respond (postedResponse (OfferHandlers.location offer.partition offer.id))
            (service.offerStore.postOffer now offer.withoutMetadata state)).1),
          (service.offerStore.postOffer now offer.withoutMetadata state).2) := by
  refine (deliver_plain (plain_postUrl plainSegment_offers _) now state).trans ?_
  unfold serve HttpRequest.json HttpOfferStore.offerUrl
  dsimp only
  rw [target_postUrl plainSegment_offers]
  dsimp only
  rw [route_postOffer]
  unfold servePostOffer
  dsimp only
  rw [withJson_some (client.text.record_roundTrips offer)]
  unfold answer OfferHandlers.postOffer
  rw [respond_state]
  rfl

theorem deliver_postMetadata (metadata : OfferMetadata A) (now : DateTime) (state : σ) :
    deliver client.text service now
        (.json .post client.metadataUrl (client.text.metadataCodec.encode metadata)) state
      = (.ok (intoResponse noBody
          (respond (postedResponse (OfferHandlers.location metadata.partition metadata.id))
            (service.metadataStore.postMetadata now metadata state)).1),
          (service.metadataStore.postMetadata now metadata state).2) := by
  refine (deliver_plain (plain_postUrl plainSegment_metadata _) now state).trans ?_
  unfold serve HttpRequest.json HttpOfferStore.metadataUrl
  dsimp only
  rw [target_postUrl plainSegment_metadata]
  dsimp only
  rw [route_postMetadata]
  unfold servePostMetadata
  dsimp only
  rw [withJson_some (client.text.metadata_roundTrips metadata)]
  unfold answer OfferHandlers.postMetadata
  rw [respond_state]

variable (client service) in
/-- A listing reaches its handler with the page it asks for. -/
theorem deliver_getOffers (hpartition : UrlPath.PlainSegment partition.toList)
    (start count : UInt64) (now : DateTime) (state : σ) :
    deliver client.text service now
        (.plain .get ((client.offersPartitionUrl partition).withQuery
          (HttpOfferStore.pageQuery start count))) state
      = (.ok (answer client.text.recordCodec.list.encode
          (OfferHandlers.getOffers service.maxPageSize service.offerStore partition
            { start := some start, count := some count } state)).1,
          (OfferHandlers.getOffers service.maxPageSize service.offerStore partition
            { start := some start, count := some count } state).2) := by
  refine (deliver_plain (plain_pageUrl plainSegment_offers _ hpartition start count) now state).trans ?_
  unfold serve HttpRequest.plain HttpOfferStore.offersPartitionUrl HttpOfferStore.offerUrl
  dsimp only [List.cons_append, List.nil_append]
  rw [target_pageUrl plainSegment_offers _ hpartition]
  dsimp only
  rw [route_offers hpartition.nonempty]
  unfold serveOffers
  dsimp only
  rw [withPath_plain hpartition, withQuery_some (fromPairs_pageQuery start count)]
  rfl

variable (client service) in
theorem deliver_getAllMetadata (hpartition : UrlPath.PlainSegment partition.toList)
    (start count : UInt64) (now : DateTime) (state : σ) :
    deliver client.text service now
        (.plain .get ((client.metadataPartitionUrl partition).withQuery
          (HttpOfferStore.pageQuery start count))) state
      = (.ok (answer client.text.metadataCodec.list.encode
          (OfferHandlers.getAllMetadata service.maxPageSize service.metadataStore partition
            { start := some start, count := some count } state)).1,
          (OfferHandlers.getAllMetadata service.maxPageSize service.metadataStore partition
            { start := some start, count := some count } state).2) := by
  refine (deliver_plain (plain_pageUrl plainSegment_metadata _ hpartition start count) now state).trans ?_
  unfold serve HttpRequest.plain HttpOfferStore.metadataPartitionUrl
    HttpOfferStore.metadataUrl
  dsimp only [List.cons_append, List.nil_append]
  rw [target_pageUrl plainSegment_metadata _ hpartition]
  dsimp only
  rw [route_allMetadata hpartition.nonempty]
  unfold serveAllMetadata
  dsimp only
  rw [withPath_plain hpartition, withQuery_some (fromPairs_pageQuery start count)]
  rfl

/-- A page within the limit is a page of the store. -/
theorem listPage_within {α : Type} {list : UInt64 → UInt64 → σ → Except ε (List α) × σ}
    {maxPageSize start count : UInt64} (h : ¬ maxPageSize < count) (state : σ) :
    OfferHandlers.listPage maxPageSize { start := some start, count := some count } list state
      = respond (fun values => .ok (JsonCrudResponse.ok values noCacheHeaders))
          (list start count state) := by
  unfold OfferHandlers.listPage
  dsimp only [Option.getD_some]
  rw [if_neg h]

/-- A larger page is refused, and the store is not called. -/
theorem listPage_over {α : Type} {list : UInt64 → UInt64 → σ → Except ε (List α) × σ}
    {maxPageSize start count : UInt64} (h : maxPageSize < count) (state : σ) :
    OfferHandlers.listPage maxPageSize { start := some start, count := some count } list state
      = (.error .bad, state) := by
  unfold OfferHandlers.listPage
  dsimp only [Option.getD_some]
  rw [if_pos h]

theorem getOffer_relayed
    (hsparse : ∀ partition id state, service.offerStore.getOffer partition id none state
      = service.offerStore.getOffer partition id (some true) state)
    (hpartition : UrlPath.PlainSegment partition.toList) (id : Uuid) (sparse : Option Bool)
    (state : σ) :
    Relayed (service.offerStore.getOffer partition id sparse state)
      ((client.offerStore (deliver client.text service)).getOffer partition id sparse state) := by
  have hgiven : service.offerStore.getOffer partition id sparse state
      = service.offerStore.getOffer partition id (some (sparse.getD true)) state := by
    cases sparse with
    | none => exact hsparse partition id state
    | some sparse => rfl
  rw [hgiven]
  unfold HttpOfferStore.offerStore HttpOfferStore.getOffer
  dsimp only
  exact readOne_relayed client.text.record_roundTrips
    (deliver_getOffer hpartition id (sparse.getD true) 0 state) _ _

theorem getOffers_relayed (hpartition : UrlPath.PlainSegment partition.toList)
    (start count : UInt64) (state : σ) :
    if service.maxPageSize < count then
      Refused state ((client.offerStore (deliver client.text service)).getOffers partition start
        count state)
    else Relayed (service.offerStore.getOffers partition start count state)
      ((client.offerStore (deliver client.text service)).getOffers partition start count
        state) := by
  have hsend := deliver_getOffers client service hpartition start count 0 state
  unfold answer OfferHandlers.getOffers at hsend
  unfold HttpOfferStore.offerStore HttpOfferStore.getOffers
  dsimp only
  split_ifs with h
  · rw [listPage_over h] at hsend
    exact readPage_refused hsend _ _
  · rw [listPage_within h, respond_state] at hsend
    exact readPage_relayed
      (fun values => Codec.list_roundTrips fun value _ => client.text.record_roundTrips value)
      hsend _ _

theorem getAllMetadata_relayed (hpartition : UrlPath.PlainSegment partition.toList)
    (start count : UInt64) (state : σ) :
    if service.maxPageSize < count then
      Refused state ((client.metadataStore (deliver client.text service)).getAllMetadata partition
        start count state)
    else Relayed (service.metadataStore.getAllMetadata partition start count state)
      ((client.metadataStore (deliver client.text service)).getAllMetadata partition start count
        state) := by
  have hsend := deliver_getAllMetadata client service hpartition start count 0 state
  unfold answer OfferHandlers.getAllMetadata at hsend
  unfold HttpOfferStore.metadataStore HttpOfferStore.getAllMetadata
  dsimp only
  split_ifs with h
  · rw [listPage_over h] at hsend
    exact readPage_refused hsend _ _
  · rw [listPage_within h, respond_state] at hsend
    exact readPage_relayed
      (fun values => Codec.list_roundTrips fun value _ => client.text.metadata_roundTrips value)
      hsend _ _

/-- The ten methods of the client. -/
theorem relayedStores_http (client : HttpOfferStore A) (hstores : PlainStores service) :
    RelayedStores service (client.offerStore (deliver client.text service))
      (client.metadataStore (deliver client.text service)) where
  getOffer partition id sparse state hpartition :=
    getOffer_relayed hstores.sparse hpartition id sparse state
  getOffers partition start count state hpartition :=
    getOffers_relayed hpartition start count state
  postOffer now offer state hpartition := by
    unfold HttpOfferStore.offerStore HttpOfferStore.postOffer
    dsimp only
    exact postRecord_relayed (headerValue_location hpartition offer.id)
      (hstores.postedOffer now offer.withoutMetadata state) (deliver_postOffer offer now state) _
  putOffer now offer state hpartition := by
    unfold HttpOfferStore.offerStore HttpOfferStore.putOffer
    dsimp only
    exact putRecord_relayed (deliver_putOffer hpartition now state) _
  deleteOffer partition id state hpartition := by
    unfold HttpOfferStore.offerStore HttpOfferStore.deleteOffer
    dsimp only
    exact deleteRecord_relayed (deliver_deleteOffer hpartition id 0 state) _
  getMetadata partition id state hpartition := by
    unfold HttpOfferStore.metadataStore HttpOfferStore.getMetadata
    dsimp only
    exact readOne_relayed client.text.metadata_roundTrips
      (deliver_getMetadata hpartition id 0 state) _ _
  getAllMetadata partition start count state hpartition :=
    getAllMetadata_relayed hpartition start count state
  postMetadata now metadata state hpartition := by
    unfold HttpOfferStore.metadataStore HttpOfferStore.postMetadata
    dsimp only
    exact postRecord_relayed (headerValue_location hpartition metadata.id)
      (hstores.postedMetadata now metadata state) (deliver_postMetadata metadata now state) _
  putMetadata now metadata state hpartition := by
    unfold HttpOfferStore.metadataStore HttpOfferStore.putMetadata
    dsimp only
    exact putRecord_relayed (deliver_putMetadata hpartition now state) _
  deleteMetadata partition id state hpartition := by
    unfold HttpOfferStore.metadataStore HttpOfferStore.deleteMetadata
    dsimp only
    exact deleteRecord_relayed (deliver_deleteMetadata hpartition id 0 state) _

end Methods

/-! ## §5. Whole runs. -/

section Runs

variable {A σ ε : Type} [HasServiceErrorSource ε] {service : OfferState A σ ε}
  {R : OfferStore A σ OfferStoreError} {Q : OfferMetadataStore A σ OfferStoreError}

/-- What a call over HTTP does and answers. -/
structure AsRelayed (service : OfferState A σ ε) (state : σ) (input : DateTime × OfferCall A)
    (remote : Except OfferStoreError (OfferAnswer A) × σ) : Prop where
  answer : remote.1.mapError OfferStoreError.esource = (relayed service state input).1
  state : remote.2 = (relayed service state input).2

/-- A call to the stores that is no listing of more than a page. -/
theorem asRelayed_of_within {now : DateTime} {call : OfferCall A} {state : σ}
    {remote : Except OfferStoreError (OfferAnswer A) × σ}
    (hwithin : ¬ call.OverPage service.maxPageSize)
    (h : Relayed (offerMachine service.offerStore service.metadataStore state
      (now, call.withoutMetadata)) remote) :
    AsRelayed service state (now, call) remote := by
  have hrelayed : relayed service state (now, call)
      = ((offerMachine service.offerStore service.metadataStore state
          (now, call.withoutMetadata)).1.mapError
            fun e => remoteSource (HasServiceErrorSource.getServiceErrorSource e),
        (offerMachine service.offerStore service.metadataStore state
          (now, call.withoutMetadata)).2) := if_neg hwithin
  constructor
  · rw [hrelayed]
    exact h.answer
  · rw [hrelayed]
    exact h.state

/-- A listing of more than a page. -/
theorem asRelayed_of_over {α : Type} {now : DateTime} {call : OfferCall A} {state : σ}
    {remote : Except OfferStoreError α × σ} (hover : call.OverPage service.maxPageSize)
    (h : Refused state remote) (f : α → OfferAnswer A) :
    AsRelayed service state (now, call) (remote.1.map f, remote.2) := by
  have hrelayed : relayed service state (now, call) = (.error .downstream, state) := if_pos hover
  have hanswer := h.answer
  constructor
  · rw [hrelayed]
    cases hresult : remote.1 with
    | error e =>
        rw [hresult] at hanswer
        exact congrArg Except.error (Except.error.inj hanswer)
    | ok value =>
        rw [hresult] at hanswer
        cases hanswer
  · rw [hrelayed]
    exact h.state

/-- One call. -/
theorem offerMachine_relayed (h : RelayedStores service R Q) (state : σ)
    (input : DateTime × OfferCall A)
    (hpartition : UrlPath.PlainSegment input.2.partition.toList) :
    AsRelayed service state input (offerMachine R Q state input) := by
  obtain ⟨now, call⟩ := input
  cases call with
  | getOffer partition id sparse =>
      exact asRelayed_of_within not_false
        ((h.getOffer partition id sparse state hpartition).map OfferAnswer.offer)
  | getOffers partition start count =>
      have hpage := h.getOffers partition start count state hpartition
      by_cases hover : service.maxPageSize < count
      · rw [if_pos hover] at hpage
        have hcall : (OfferCall.getOffers partition start count : OfferCall A).OverPage
            service.maxPageSize := hover
        exact asRelayed_of_over hcall hpage OfferAnswer.offers
      · rw [if_neg hover] at hpage
        exact asRelayed_of_within hover (hpage.map OfferAnswer.offers)
  | postOffer offer =>
      exact asRelayed_of_within not_false
        ((h.postOffer now offer state hpartition).map OfferAnswer.posted)
  | putOffer offer =>
      exact asRelayed_of_within not_false
        ((h.putOffer now offer state hpartition).map (OfferAnswer.flag (A := A)))
  | deleteOffer partition id =>
      exact asRelayed_of_within not_false
        ((h.deleteOffer partition id state hpartition).map (OfferAnswer.flag (A := A)))
  | getMetadata partition id =>
      exact asRelayed_of_within not_false
        ((h.getMetadata partition id state hpartition).map OfferAnswer.metadata)
  | getAllMetadata partition start count =>
      have hpage := h.getAllMetadata partition start count state hpartition
      by_cases hover : service.maxPageSize < count
      · rw [if_pos hover] at hpage
        have hcall : (OfferCall.getAllMetadata partition start count : OfferCall A).OverPage
            service.maxPageSize := hover
        exact asRelayed_of_over hcall hpage OfferAnswer.allMetadata
      · rw [if_neg hover] at hpage
        exact asRelayed_of_within hover (hpage.map OfferAnswer.allMetadata)
  | postMetadata metadata =>
      exact asRelayed_of_within not_false
        ((h.postMetadata now metadata state hpartition).map OfferAnswer.posted)
  | putMetadata metadata =>
      exact asRelayed_of_within not_false
        ((h.putMetadata now metadata state hpartition).map (OfferAnswer.flag (A := A)))
  | deleteMetadata partition id =>
      exact asRelayed_of_within not_false
        ((h.deleteMetadata partition id state hpartition).map (OfferAnswer.flag (A := A)))

/-- **Over HTTP the offer stores answer as the relayed calls do**: over every run of the ten
methods on plain partitions, the client returns what the stores return for the calls without
embedded metadata and leaves them in the same state; a listing of more than a page is refused
before the stores are called; an error of the client's side stays one, every other becomes an
error of the service's side. -/
theorem remote_offers_answer_as_relayed (client : HttpOfferStore A) (service : OfferState A σ ε)
    (hstores : PlainStores service) (calls : List (DateTime × OfferCall A))
    (hpartitions : ∀ input ∈ calls, UrlPath.PlainSegment input.2.partition.toList) (state : σ) :
    List.Forall₂
        (fun expected remote => Except.mapError OfferStoreError.esource remote = expected)
        ((relayed service).run state calls).1 ((remoteMachine client service).run state calls).1
      ∧ ((remoteMachine client service).run state calls).2
          = ((relayed service).run state calls).2 := by
  have halong : (relayed service).Along
      (fun _ input => UrlPath.PlainSegment input.2.partition.toList) state calls :=
    (relayed service).along_of_forall state calls fun input hinput _ => hpartitions input hinput
  apply Machine.run_replaced (relayed service) (remoteMachine client service) _ _ _ state calls
    halong
  intro state input hpartition
  have hstep := offerMachine_relayed (relayedStores_http client hstores) state input hpartition
  exact ⟨hstep.answer, hstep.state⟩

/-- The memory store gives the client what it relies on. -/
theorem plainStores_memory [Repr A] (maxPageSize : UInt64) :
    PlainStores (memoryService A maxPageSize) where
  sparse _ _ _ := rfl
  postedOffer now offer state id h := by
    have hposted : (MemoryOfferStore.postOffer now offer state).1 = .ok (some id) := h
    unfold MemoryOfferStore.postOffer at hposted
    split_ifs at hposted
    · cases hposted
    · exact (Option.some.inj (Except.ok.inj hposted)).symm
  postedMetadata now metadata state id h := by
    have hposted : (MemoryOfferStore.postMetadata now metadata state).1 = .ok (some id) := h
    unfold MemoryOfferStore.postMetadata at hposted
    split_ifs at hposted
    · cases hposted
    · exact (Option.some.inj (Except.ok.inj hposted)).symm

/-- The metadata of the examples. -/
def sampleRemoteMetadata : OfferMetadata String where
  id := 7
  partition := "default"
  metadata := { text := "tea", longText := none, image := none, identifier := none }

/-- An offer of the examples, with its metadata embedded. -/
def sampleRemoteOffer : OfferRecord String where
  partition := "default"
  id := 1
  offer :=
    { maxSendable := 1000000
      minSendable := 1000
      metadataId := 7
      metadata := some sampleRemoteMetadata.metadata
      timestamp := 0
      expires := none }

/-- Post the metadata and the offer, read both, list too much. -/
def sampleRemoteCalls : List (DateTime × OfferCall String) :=
  [(1, .postMetadata sampleRemoteMetadata), (2, .postOffer sampleRemoteOffer),
    (3, .getOffer "default" 1 none), (4, .getOffer "default" 1 (some false)),
    (5, .getOffers "default" 0 100), (6, .getOffers "default" 0 101),
    (7, .deleteMetadata "default" 7)]

/-- A client of the examples. -/
def sampleRemoteClient : HttpOfferStore String where
  baseUrl := "https://base.com"
  text := plainText
  displayStatus := toString

theorem remote_offers_answer_as_relayed_memory :
    List.Forall₂
        (fun expected remote => Except.mapError OfferStoreError.esource remote = expected)
        ((relayed (memoryService String 100)).run MemoryOfferStore.new sampleRemoteCalls).1
        ((remoteMachine sampleRemoteClient (memoryService String 100)).run MemoryOfferStore.new
          sampleRemoteCalls).1
      ∧ ((remoteMachine sampleRemoteClient (memoryService String 100)).run MemoryOfferStore.new
          sampleRemoteCalls).2
          = ((relayed (memoryService String 100)).run MemoryOfferStore.new sampleRemoteCalls).2 := by
  apply remote_offers_answer_as_relayed sampleRemoteClient (memoryService String 100)
    (plainStores_memory 100) sampleRemoteCalls
  have hdefault : UrlPath.PlainSegment "default".toList :=
    { nonempty := by decide
      unreserved := List.all_eq_true.mp (by decide)
      not_single_dot := by decide
      not_double_dot := by decide }
  unfold sampleRemoteCalls
  simp only [List.forall_mem_cons, List.not_mem_nil, false_implies, implies_true, and_true]
  exact ⟨hdefault, hdefault, hdefault, hdefault, hdefault, hdefault, hdefault⟩

end Runs

end Switchgear.Offer
