/-
  Switchgear.Offer.Authorized — the offer stores over HTTP with a token.

  The client sends its token as a default header of every request, and never looks
  at it again.  The service behind its layer does for the client what it does
  without a layer, until the leeway after the expiry of the token; from then on it
  does nothing, and every call of the client is an error of the caller's side.

  Main result:
    * `minted_token_opens_until_expiry` — over whole runs, with the clock readings
      of the validator in any order.
-/
import Switchgear.Offer.OverHttp
import Switchgear.Service.OfferCalls
import Switchgear.Service.SignedToken

namespace Switchgear.Offer

open Switchgear.Lib Switchgear.Service
open OfferService

/-! ## §1. The client and its token. -/

section Definitions

variable {A S V σ ε : Type} [HasServiceErrorSource ε]

/-- `HttpOfferStore::create`, without certificates and timeouts: the client and the headers it
sends with every request.  `parseUrl` gives the error of a text that is no URL. -/
def HttpOfferStore.create (text : OfferText A) (displayStatus : StatusCode → String)
    (parseUrl : String → Except String Unit) (baseUrl authorization : String) :
    Except OfferStoreError (HttpOfferStore A × Headers) := do
  let authValue ← match headerValue ("Bearer " ++ authorization) with
    | .ok value => .ok value
    | .error _ =>
        .error (.internalError .internal ("creating http client with base url: " ++ baseUrl)
          "failed to parse header value")
  let baseUrl := String.ofList (baseUrl.toList.rdropWhile fun c => c == '/')
  let check (url context : String) : Except OfferStoreError Unit :=
    (parseUrl url).mapError fun e => .internalError .upstream ("parsing service url " ++ context) e
  let offerUrl := baseUrl ++ "/offers"
  check offerUrl offerUrl
  -- the offer URL is parsed again in place of the metadata URL
  check offerUrl (baseUrl ++ "/metadata")
  check (baseUrl ++ "/health") (baseUrl ++ "/health")
  return ({ baseUrl, text, displayStatus }, [("authorization", authValue)])

/-- The way of a request to the service behind its layer. -/
def deliverAuthorized (auth : BearerTokenAuthLayer) (text : OfferText A) (service : OfferState A σ ε)
    (defaults : Headers) (checked now : DateTime) : Transport σ :=
  fun request state =>
    let (response, state) := OfferService.router auth text service checked now
      (withDefaultHeaders defaults request).sent state
    (.ok response, state)

/-- The client's stores as a machine: an input is what the clock says when the token is checked,
what it says when the request is handled, and the call. -/
def authorizedMachine (client : HttpOfferStore A) (defaults : Headers) (auth : BearerTokenAuthLayer)
    (service : OfferState A σ ε) :
    Machine σ (DateTime × DateTime × OfferCall A) (Except OfferStoreError (OfferAnswer A)) :=
  fun state (checked, now, call) =>
    let send := deliverAuthorized auth client.text service defaults checked now
    offerMachine (client.offerStore fun _ => send) (client.metadataStore fun _ => send) state
      (now, call)

/-- The calls over HTTP while a token lasts; after it an error of the caller's side. -/
def relayedUntil (exp : ℕ) (service : OfferState A σ ε) :
    Machine σ (DateTime × DateTime × OfferCall A) (Except ServiceErrorSource (OfferAnswer A)) :=
  fun state (checked, now, call) =>
    if epochSeconds checked ≤ exp + leeway then relayed service state (now, call)
    else (.error .downstream, state)

/-- The keys of the offer service. -/
abbrev KeyPair (jwt : JsonWebToken S V) (bearer : String → Option String) (signing : S)
    (verifying : V) : Prop :=
  SignedKeys OfferAudience.codec OfferAudience.display .offer jwt bearer signing verifying

end Definitions

/-! ## §2. What the client sends. -/

section Congruence

variable {A σ : Type} (client : HttpOfferStore A) {partition : String}

/-- A request of the client: without a token of its own, to a route behind the layer. -/
structure Managed (request : HttpRequest) : Prop where
  headers : request.headers.lookup "authorization" = none
  plain : request.url.Plain
  route : route request.url.target.segments ≠ some .health

theorem managed_getOffer (hpartition : UrlPath.PlainSegment partition.toList) (id : Uuid)
    (sparse : Bool) :
    Managed (.plain .get ((client.offersPartitionIdUrl partition id).withQuery
      (HttpOfferStore.sparseQuery sparse))) where
  headers := rfl
  plain := plain_sparseUrl client hpartition id sparse
  route := by
    unfold HttpRequest.plain
    dsimp only
    rw [target_sparseUrl client hpartition]
    dsimp only
    rw [route_offer (plainSegment_hyphenated id).nonempty]
    simp

/-- A request about one offer. -/
theorem managed_offersPartitionId (hpartition : UrlPath.PlainSegment partition.toList) (id : Uuid)
    {request : HttpRequest} (hurl : request.url = client.offersPartitionIdUrl partition id)
    (hheaders : request.headers.lookup "authorization" = none) : Managed request where
  headers := hheaders
  plain := by
    rw [hurl]
    exact plain_offersPartitionIdUrl client hpartition id
  route := by
    rw [hurl, target_offersPartitionIdUrl client hpartition]
    dsimp only
    rw [route_offer (plainSegment_hyphenated id).nonempty]
    simp

/-- A request about one record of metadata. -/
theorem managed_metadataPartitionId (hpartition : UrlPath.PlainSegment partition.toList)
    (id : Uuid) {request : HttpRequest}
    (hurl : request.url = client.metadataPartitionIdUrl partition id)
    (hheaders : request.headers.lookup "authorization" = none) : Managed request where
  headers := hheaders
  plain := by
    rw [hurl]
    exact plain_metadataPartitionIdUrl client hpartition id
  route := by
    rw [hurl, target_metadataPartitionIdUrl client hpartition]
    dsimp only
    rw [route_metadata (plainSegment_hyphenated id).nonempty]
    simp

theorem managed_getOffers (hpartition : UrlPath.PlainSegment partition.toList)
    (start count : UInt64) :
    Managed (.plain .get ((client.offersPartitionUrl partition).withQuery
      (HttpOfferStore.pageQuery start count))) where
  headers := rfl
  plain := plain_pageUrl plainSegment_offers _ hpartition start count
  route := by
    unfold HttpRequest.plain HttpOfferStore.offersPartitionUrl HttpOfferStore.offerUrl
    dsimp only [List.cons_append, List.nil_append]
    rw [target_pageUrl plainSegment_offers _ hpartition]
    dsimp only
    rw [route_offers hpartition.nonempty]
    simp

theorem managed_getAllMetadata (hpartition : UrlPath.PlainSegment partition.toList)
    (start count : UInt64) :
    Managed (.plain .get ((client.metadataPartitionUrl partition).withQuery
      (HttpOfferStore.pageQuery start count))) where
  headers := rfl
  plain := plain_pageUrl plainSegment_metadata _ hpartition start count
  route := by
    unfold HttpRequest.plain HttpOfferStore.metadataPartitionUrl HttpOfferStore.metadataUrl
    dsimp only [List.cons_append, List.nil_append]
    rw [target_pageUrl plainSegment_metadata _ hpartition]
    dsimp only
    rw [route_allMetadata hpartition.nonempty]
    simp

theorem managed_postOffer (body : Json) : Managed (.json .post client.offerUrl body) where
  headers := rfl
  plain := plain_postUrl plainSegment_offers _
  route := by
    unfold HttpRequest.json HttpOfferStore.offerUrl
    dsimp only
    rw [target_postUrl plainSegment_offers]
    dsimp only
    rw [route_postOffer]
    simp

theorem managed_postMetadata (body : Json) : Managed (.json .post client.metadataUrl body) where
  headers := rfl
  plain := plain_postUrl plainSegment_metadata _
  route := by
    unfold HttpRequest.json HttpOfferStore.metadataUrl
    dsimp only
    rw [target_postUrl plainSegment_metadata]
    dsimp only
    rw [route_postMetadata]
    simp

/-- The ten methods ask their transport nothing but such requests: reads and deletes with the
transport of a read, posts and puts with that of the moment. -/
theorem offerMachine_congr (send send' : DateTime → Transport σ) (now : DateTime) (state : σ)
    {call : OfferCall A} (hpartition : UrlPath.PlainSegment call.partition.toList)
    (hread : ∀ request, Managed request → request.method = .get ∨ request.method = .delete →
      send 0 request state = send' 0 request state)
    (hwrite : ∀ request, Managed request → send now request state = send' now request state) :
    offerMachine (client.offerStore send) (client.metadataStore send) state (now, call)
      = offerMachine (client.offerStore send') (client.metadataStore send') state (now, call) := by
  cases call with
  | getOffer partition id sparse =>
      have hplain : UrlPath.PlainSegment partition.toList := hpartition
      have h := hread _ (managed_getOffer client hplain id (sparse.getD true))
        (.inl rfl)
      unfold offerMachine HttpOfferStore.offerStore HttpOfferStore.getOffer HttpOfferStore.readOne
      dsimp only
      rw [h]
  | getOffers partition start count =>
      have hplain : UrlPath.PlainSegment partition.toList := hpartition
      have h := hread _ (managed_getOffers client hplain start count) (.inl rfl)
      unfold offerMachine HttpOfferStore.offerStore HttpOfferStore.getOffers HttpOfferStore.readPage
      dsimp only
      rw [h]
  | postOffer offer =>
      have h := hwrite _ (managed_postOffer client
        (client.text.recordCodec.encode offer))
      unfold offerMachine HttpOfferStore.offerStore HttpOfferStore.postOffer
        HttpOfferStore.postRecord
      dsimp only
      rw [h]
  | putOffer offer =>
      have h := hwrite (.json .put (client.offersPartitionIdUrl offer.partition offer.id)
        (client.text.recordCodec.encode offer))
        (managed_offersPartitionId client hpartition offer.id rfl rfl)
      unfold offerMachine HttpOfferStore.offerStore HttpOfferStore.putOffer
        HttpOfferStore.putRecord
      dsimp only
      rw [h]
  | deleteOffer partition id =>
      have hplain : UrlPath.PlainSegment partition.toList := hpartition
      have h := hread (.plain .delete (client.offersPartitionIdUrl partition id))
        (managed_offersPartitionId client hplain id rfl rfl) (.inr rfl)
      unfold offerMachine HttpOfferStore.offerStore HttpOfferStore.deleteOffer
        HttpOfferStore.deleteRecord
      dsimp only
      rw [h]
  | getMetadata partition id =>
      have hplain : UrlPath.PlainSegment partition.toList := hpartition
      have h := hread (.plain .get (client.metadataPartitionIdUrl partition id))
        (managed_metadataPartitionId client hplain id rfl rfl) (.inl rfl)
      unfold offerMachine HttpOfferStore.metadataStore HttpOfferStore.getMetadata
        HttpOfferStore.readOne
      dsimp only
      rw [h]
  | getAllMetadata partition start count =>
      have hplain : UrlPath.PlainSegment partition.toList := hpartition
      have h := hread _ (managed_getAllMetadata client hplain start count)
        (.inl rfl)
      unfold offerMachine HttpOfferStore.metadataStore HttpOfferStore.getAllMetadata
        HttpOfferStore.readPage
      dsimp only
      rw [h]
  | postMetadata metadata =>
      have h := hwrite _ (managed_postMetadata client
        (client.text.metadataCodec.encode metadata))
      unfold offerMachine HttpOfferStore.metadataStore HttpOfferStore.postMetadata
        HttpOfferStore.postRecord
      dsimp only
      rw [h]
  | putMetadata metadata =>
      have h := hwrite (.json .put (client.metadataPartitionIdUrl metadata.partition metadata.id)
        (client.text.metadataCodec.encode metadata))
        (managed_metadataPartitionId client hpartition metadata.id rfl rfl)
      unfold offerMachine HttpOfferStore.metadataStore HttpOfferStore.putMetadata
        HttpOfferStore.putRecord
      dsimp only
      rw [h]
  | deleteMetadata partition id =>
      have hplain : UrlPath.PlainSegment partition.toList := hpartition
      have h := hread (.plain .delete (client.metadataPartitionIdUrl partition id))
        (managed_metadataPartitionId client hplain id rfl rfl) (.inr rfl)
      unfold offerMachine HttpOfferStore.metadataStore HttpOfferStore.deleteMetadata
        HttpOfferStore.deleteRecord
      dsimp only
      rw [h]

/-- A service that answers nothing but 401 leaves every call an error of the caller's side. -/
theorem offerMachine_unauthorized (response : HttpResponse)
    (hstatus : response.status = StatusCode.unauthorized) (state : σ)
    (input : DateTime × OfferCall A) :
    let send : DateTime → Transport σ := fun _ _ state => (.ok response, state)
    (offerMachine (client.offerStore send) (client.metadataStore send) state input).1.mapError
        OfferStoreError.esource = .error .downstream
      ∧ (offerMachine (client.offerStore send) (client.metadataStore send) state input).2
        = state := by
  obtain ⟨status, headers, body⟩ := response
  obtain rfl : status = StatusCode.unauthorized := hstatus
  obtain ⟨now, call⟩ := input
  cases call <;> exact ⟨rfl, rfl⟩

end Congruence

/-! ## §3. What the layer lets through. -/

section Layer

variable {A S V σ ε : Type} [HasServiceErrorSource ε] {jwt : JsonWebToken S V}
  {bearer : String → Option String} {signing : S} {verifying : V} {text : OfferText A}
  {service : OfferState A σ ε} {authorization : String} {request : HttpRequest}

/-- Reads and deletes do not depend on the clock. -/
theorem deliver_now (now now' : DateTime) (state : σ)
    (hmethod : request.method = .get ∨ request.method = .delete) :
    deliver text service now request state = deliver text service now' request state := by
  have hserve : ∀ request : HttpRequest, request.method = .get ∨ request.method = .delete →
      serve text service now request state = serve text service now' request state := by
    rintro ⟨method, url, headers, body⟩ hmethod
    rw [serve_eq, serve_eq]
    cases route url.target.segments with
    | none => rfl
    | some route =>
        rcases hmethod with rfl | rfl
        · cases route <;> rfl
        · cases route <;> rfl
  unfold deliver
  rw [hserve request.sent hmethod]

/-- Behind the layer the service answers a request of the client as without one, or refuses
it. -/
theorem deliverAuthorized_eq (hkeys : KeyPair jwt bearer signing verifying) {claims : OfferClaims}
    (htoken : jwt.encode signing ((Claims.codec OfferAudience.codec).encode claims)
      = some authorization) (hrequest : Managed request) (checked now : DateTime) (state : σ) :
    deliverAuthorized (offerAuthLayer jwt bearer verifying) text service
        [("authorization", "Bearer " ++ authorization)] checked now request state
      = if epochSeconds checked ≤ claims.exp.toNat + leeway then
          deliver text service now request state
        else
          (.ok (CrudError.unauthorized "offer" .invalidToken).intoResponse, state) := by
  obtain ⟨⟨⟩, exp⟩ := claims
  have hcall := hkeys.call_withToken rfl htoken (offerAuthLayer jwt bearer verifying) rfl
    (fun _ _ => rfl) hrequest.headers (serve text service now) checked state
  have hsent : (withDefaultHeaders [("authorization", "Bearer " ++ authorization)]
      request).url.Plain := hrequest.plain
  unfold deliverAuthorized deliver router
  rw [HttpRequest.sent_plain hsent, HttpRequest.sent_plain hrequest.plain]
  dsimp only
  split
  · rename_i hhealth
    exact absurd hhealth hrequest.route
  · rw [hcall]
    split_ifs <;> rfl

end Layer

/-! ## §4. Whole runs. -/

section Runs

variable {A S V σ ε : Type} [HasServiceErrorSource ε] {jwt : JsonWebToken S V}
  {bearer : String → Option String} {signing : S} {verifying : V} {service : OfferState A σ ε}
  {authorization : String} {client : HttpOfferStore A}

/-- One call. -/
theorem authorizedMachine_step (hkeys : KeyPair jwt bearer signing verifying) {claims : OfferClaims}
    (htoken : jwt.encode signing ((Claims.codec OfferAudience.codec).encode claims)
      = some authorization) (hstores : PlainStores service) (state : σ) (checked now : DateTime)
    (call : OfferCall A) (hpartition : UrlPath.PlainSegment call.partition.toList)
    (remote : Except OfferStoreError (OfferAnswer A) × σ)
    (hremote : authorizedMachine client [("authorization", "Bearer " ++ authorization)]
      (offerAuthLayer jwt bearer verifying) service state (checked, now, call) = remote) :
    remote.1.mapError OfferStoreError.esource
        = (relayedUntil claims.exp.toNat service state (checked, now, call)).1
      ∧ remote.2 = (relayedUntil claims.exp.toNat service state (checked, now, call)).2 := by
  have hsend : ∀ request, Managed request →
      deliverAuthorized (offerAuthLayer jwt bearer verifying) client.text service
          [("authorization", "Bearer " ++ authorization)] checked now request state
        = if epochSeconds checked ≤ claims.exp.toNat + leeway then
            deliver client.text service now request state
          else
            (.ok (CrudError.unauthorized "offer" .invalidToken).intoResponse, state) :=
    fun request hrequest => deliverAuthorized_eq hkeys htoken hrequest checked now state
  unfold authorizedMachine at hremote
  dsimp only at hremote
  generalize deliverAuthorized (offerAuthLayer jwt bearer verifying) client.text service
    [("authorization", "Bearer " ++ authorization)] checked now = send at hsend hremote
  by_cases htime : epochSeconds checked ≤ claims.exp.toNat + leeway
  · have hopen := offerMachine_congr client (fun _ => send) (deliver client.text service) now state
      hpartition
      (fun request hrequest hmethod => by
        rw [hsend request hrequest, if_pos htime]
        exact deliver_now now 0 state hmethod)
      (fun request hrequest => by rw [hsend request hrequest, if_pos htime])
    have hrelayed : relayedUntil claims.exp.toNat service state (checked, now, call)
        = relayed service state (now, call) := if_pos htime
    have hstep := offerMachine_relayed (relayedStores_http client hstores) state (now, call)
      hpartition
    rw [← hremote, hopen, hrelayed]
    exact ⟨hstep.answer, hstep.state⟩
  · have hclosed := offerMachine_congr client (fun _ => send)
      (fun _ _ state => (.ok (CrudError.unauthorized "offer" .invalidToken).intoResponse, state))
      now state hpartition
      (fun request hrequest _ => by rw [hsend request hrequest, if_neg htime])
      (fun request hrequest => by rw [hsend request hrequest, if_neg htime])
    have hrefused : relayedUntil claims.exp.toNat service state (checked, now, call)
        = (.error .downstream, state) := if_neg htime
    rw [← hremote, hclosed, hrefused]
    exact offerMachine_unauthorized client _ rfl state (now, call)

/-- What a client is created with. -/
theorem create_ok {text : OfferText A} {displayStatus : StatusCode → String}
    {parseUrl : String → Except String Unit} {baseUrl : String} {defaults : Headers}
    (h : HttpOfferStore.create text displayStatus parseUrl baseUrl authorization
      = .ok (client, defaults)) :
    client.text = text ∧ client.displayStatus = displayStatus
      ∧ defaults = [("authorization", "Bearer " ++ authorization)] := by
  unfold HttpOfferStore.create headerValue at h
  dsimp only at h
  split_ifs at h
  · simp only [bind, Except.bind, pure, Except.pure] at h
    split at h
    · cases h
    · split at h
      · cases h
      · split at h
        · cases h
        · obtain ⟨rfl, rfl⟩ := Prod.mk.inj (Except.ok.inj h)
          exact ⟨rfl, rfl, rfl⟩
  · cases h

/-- **A minted token opens the service until it expires**: over every run of calls on plain
partitions, a client that was created with a token minted for the offer service does over HTTP
what the relayed calls do, whenever the validator reads a clock up to a minute past the expiry;
whenever it reads a later one, the call is an error of the caller's side and the stores are as
they were. -/
theorem minted_token_opens_until_expiry (hkeys : KeyPair jwt bearer signing verifying)
    {minted : DateTime} {expires : UInt64}
    (hclock : epochSeconds minted + expires.toNat < 2 ^ 64)
    (hmint : mintOfferToken jwt signing minted expires = some authorization) {text : OfferText A}
    {displayStatus : StatusCode → String} {parseUrl : String → Except String Unit}
    {baseUrl : String} {defaults : Headers}
    (hcreate : HttpOfferStore.create text displayStatus parseUrl baseUrl authorization
      = .ok (client, defaults))
    (hstores : PlainStores service) (calls : List (DateTime × DateTime × OfferCall A))
    (hpartitions : ∀ input ∈ calls, UrlPath.PlainSegment input.2.2.partition.toList) (state : σ) :
    let expected := relayedUntil (epochSeconds minted + expires.toNat) service
    let remote := authorizedMachine client defaults (offerAuthLayer jwt bearer verifying) service
    List.Forall₂
        (fun expected remote => Except.mapError OfferStoreError.esource remote = expected)
        (expected.run state calls).1 (remote.run state calls).1
      ∧ (remote.run state calls).2 = (expected.run state calls).2 := by
  have hexp := tokenClaims_exp OfferAudience.offer hclock
  intro expected remote
  have halong : expected.Along (fun _ input => UrlPath.PlainSegment input.2.2.partition.toList)
      state calls := expected.along_of_forall state calls fun input hinput _ =>
    hpartitions input hinput
  apply Machine.run_replaced expected remote _ _ _ state calls halong
  intro state input hpartition
  obtain ⟨checked, now, call⟩ := input
  have hstep := authorizedMachine_step hkeys hmint hstores state checked now call hpartition
    (remote state (checked, now, call)) (by rw [← (create_ok hcreate).2.2])
  rw [hexp] at hstep
  exact hstep

theorem keyPair_plainTokens : KeyPair plainTokens plainBearer () () :=
  signedKeys_plainTokens rfl

/-! The token and the client of the examples. -/

theorem plainSegment_default : UrlPath.PlainSegment "default".toList where
  nonempty := by decide
  unreserved := List.all_eq_true.mp (by decide)
  not_single_dot := by decide
  not_double_dot := by decide

theorem sampleToken_minted :
    mintOfferToken plainTokens () (1000 * second) 60 = some "offer.1060" := by decide +kernel

theorem sampleToken_expiry : epochSeconds (1000 * second) + (60 : UInt64).toNat = 1060 := by
  decide +kernel

theorem sampleRemoteClient_created (displayStatus : StatusCode → String) :
    HttpOfferStore.create plainText displayStatus (fun _ => .ok ()) "https://base.com/" "offer.1060"
      = .ok ({ sampleRemoteClient with displayStatus },
          [("authorization", "Bearer offer.1060")]) := by
  have hheader : headerValue ("Bearer " ++ "offer.1060") = .ok "Bearer offer.1060" := by
    decide +kernel
  have hbase : String.ofList ("https://base.com/".toList.rdropWhile fun c => c == '/')
      = "https://base.com" := by decide +kernel
  unfold HttpOfferStore.create
  rw [hheader, hbase]
  rfl

theorem minted_token_opens_until_expiry_memory :
    let calls := sampleRemoteCalls.flatMap fun (now, call) =>
      [(1000 * second, now, call), (1121 * second, now, call)]
    let expected := relayedUntil 1060 (memoryService String 100)
    let remote := authorizedMachine sampleRemoteClient [("authorization", "Bearer offer.1060")]
      (offerAuthLayer plainTokens plainBearer ()) (memoryService String 100)
    List.Forall₂
        (fun expected remote => Except.mapError OfferStoreError.esource remote = expected)
        (expected.run MemoryOfferStore.new calls).1 (remote.run MemoryOfferStore.new calls).1
      ∧ (remote.run MemoryOfferStore.new calls).2 = (expected.run MemoryOfferStore.new calls).2 := by
  intro calls
  have hcalls : ∀ input ∈ calls, UrlPath.PlainSegment input.2.2.partition.toList := by
    intro input hinput
    obtain ⟨⟨now, call⟩, hcall, hinput⟩ := List.mem_flatMap.mp hinput
    have hpartition : call.partition = "default" := by
      revert hcall
      unfold sampleRemoteCalls
      simp only [List.mem_cons, List.not_mem_nil, or_false, Prod.mk.injEq]
      rintro (⟨-, rfl⟩ | ⟨-, rfl⟩ | ⟨-, rfl⟩ | ⟨-, rfl⟩ | ⟨-, rfl⟩ | ⟨-, rfl⟩ | ⟨-, rfl⟩) <;> rfl
    have hsame : input.2.2 = call := by
      rcases List.mem_cons.mp hinput with rfl | hinput
      · rfl
      · rw [List.mem_singleton.mp hinput]
    rw [hsame, hpartition]
    exact plainSegment_default
  have hrun := minted_token_opens_until_expiry keyPair_plainTokens
    (by rw [sampleToken_expiry]; decide) sampleToken_minted
    (sampleRemoteClient_created toString)
    (plainStores_memory 100) calls hcalls MemoryOfferStore.new
  rw [sampleToken_expiry] at hrun
  exact hrun

end Runs

end Switchgear.Offer
