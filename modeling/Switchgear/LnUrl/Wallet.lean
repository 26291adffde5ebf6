/-
  Switchgear.LnUrl.Wallet — a wallet asks for an offer, reads the answer, and later
  asks its callback for an invoice.

  The LNURL service and the offer stores share one state, and anything may happen
  between the two requests but the three calls that write the offer or its
  metadata.  The wallet knows nothing but what the first response says: the JSON
  of the body and the headers of the cache.

  Main result:
    * `wallet_is_invoiced` — from every reachable state, whatever happens in
      between, an amount and a comment the answer allows are handed to the
      balancer, with the metadata the wallet has seen.
-/
import Switchgear.LnUrl.Service
import Switchgear.LnUrl.DescriptionHash
import Switchgear.Offer.Frame

namespace Switchgear.LnUrl

open Switchgear.Lib Switchgear.Offer Switchgear.Service Switchgear.Pool
open UrlPath
open Std (TransOrd)
open Switchgear.Service.LnUrlBalancerService (serve serveBehind serveInvoiceRoute
  invoiceRequest)

/-! ## §1. The server. -/

section Server

variable {A B σ E : Type}

/-- The service with a provider over a store. -/
def LnUrlServiceState.over (service : LnUrlServiceState E B) (text : OfferText A)
    (sha256 : Sha256) (store : OfferStore A σ E) (s : σ) : LnUrlServiceState E B :=
  { service with
    offerProvider := fun hostname partition id =>
      (StoreOfferProvider.offer text sha256 store hostname partition id s).1 }

/-- A call to the offer stores, or a request to the LNURL service. -/
inductive ServerInput (A : Type) where
  | manage (now : DateTime) (call : OfferCall A)
  | lnUrl (now later : DateTime) (request : LnUrlRequest)

inductive ServerAnswer (A : Type) where
  | managed (answer : Except OfferStoreError (OfferAnswer A))
  | served (response : LnUrlResponse) (calls : List InvoiceCall)

/-- The memory store, with the LNURL service over it. -/
def server [Repr A] [HasServiceErrorSource B] [ToString B] (env : LnUrlServiceEnv)
    (text : OfferText A) (sha256 : Sha256) (service : LnUrlServiceState OfferStoreError B) :
    Machine (MemoryOfferStore A) (ServerInput A) (ServerAnswer A) :=
  fun store input =>
    match input with
    | .manage now call =>
        let (answer, store) := MemoryOfferStore.machine store (now, call)
        (.managed answer, store)
    | .lnUrl now later request =>
        let (response, calls) := serve env text.parseUuid
          (service.over text sha256 MemoryOfferStore.offerStore store) now later request
        (.served response calls, store)

/-- The input does not write the entry or its metadata. -/
def ServerInput.Keeps (entry : OfferRecordTimestamped A) : ServerInput A → Prop
  | .manage _ call => ¬ entry.WrittenBy call
  | .lnUrl _ _ _ => True

end Server

/-! ## §2. What the wallet has seen, and what it asks. -/

section Exchange

variable {A B : Type} [Repr A] [HasServiceErrorSource B] [ToString B] (env : LnUrlServiceEnv)
  (text : OfferText A) (sha256 : Sha256) (service : LnUrlServiceState OfferStoreError B)

/-- The wallet's request for an offer was answered with 200, and it reads the body. -/
structure Seen (origin : Origin env.hosts) (store : MemoryOfferStore A) (now later : DateTime)
    (request : LnUrlRequest) (param : UuidParam) (cache : Headers) (seen : LnUrlOffer) : Prop where
  method : request.method = .get
  path : LnUrlBalancerService.arrival text.parseUuid request.target.segments
    = some (.lnUrlOffer param)
  host : ValidatedHost.fromRequestParts env.extractHost service.allowedHosts request.headers
    = .ok origin.authority
  scheme : Scheme.fromRequestParts request.headers service.scheme = origin.scheme
  answered : ∃ body,
    (serve env text.parseUuid (service.over text sha256 MemoryOfferStore.offerStore store) now later
        request).1
      = { status := StatusCode.ok, headers := cache, body := some (.json body) }
    ∧ (LnUrlOffer.codec env.hosts env.asStr).decode body = some seen

/-- The wallet's request to the callback: the amount and the comment are in the query. -/
structure AsksCallback (seen : LnUrlOffer) (request : LnUrlRequest)
    (params : InvoiceParameters) : Prop where
  method : request.method = .get
  path : request.target.segments = (Target.ofText (target seen.callback.tail).toText).segments
  query : InvoiceParameters.fromQuery (formPairs (request.target.query.getD [])) = some params
  host : ∃ hostname, ValidatedHost.fromRequestParts env.extractHost service.allowedHosts
    request.headers = .ok hostname
  atLeast : seen.minSendable ≤ params.amount
  atMost : params.amount ≤ seen.maxSendable
  comment : ∀ comment ∈ params.comment,
    (utf8 comment).length ≤ (seen.commentAllowed.getD 0).toNat

/-- By its own headers a response of `later` may still be used at `now`; one that is not to be
kept says nothing of an end. -/
def Fresh (cache : Headers) (later now : DateTime) : Prop :=
  ("cache-control", "no-store, no-cache, must-revalidate") ∈ cache
  ∨ ∃ seconds : ℤ, ("cache-control", "public, max-age=" ++ toString seconds) ∈ cache
      ∧ now < later + seconds * second

/-- The balancer is called once, for what was asked and what was seen, and its answer is passed
on. -/
structure Invoiced (param : UuidParam) (seen : LnUrlOffer) (params : InvoiceParameters)
    (outcome : LnUrlResponse × List InvoiceCall) (call : InvoiceCall) : Prop where
  calls : outcome.2 = [call]
  offer : call.offer.partition = param.partition ∧ call.offer.id = param.id
  metadata : call.offer.metadataJsonString = seen.metadata
  hash : HashesMetadata sha256 call.offer
  amount : call.amountMsat = params.amount
  expiry : call.expirySecs = service.invoiceExpiry
  key : call.key = (params.comment.map utf8).getD []
  paid : ∀ pr, service.balancer call = .ok pr →
    outcome.1 = .ofJson LnUrlInvoice.codec.encode
      { body := { pr, routes := [] }, status := StatusCode.ok, headers := noCacheHeaders }
  invoiceRead : ∀ pr, service.balancer call = .ok pr →
    ∃ body, outcome.1.body = some (.json body)
      ∧ LnUrlInvoice.codec.decode body = some { pr, routes := [] }
  unpaid : ∀ e, service.balancer call = .error e →
    outcome.1 = .ofError (.fromServiceError e)
  errorRead : ∀ e, service.balancer call = .error e →
    ∃ body reason, outcome.1.body = some (.json body)
      ∧ LnUrlError.codec.decode body = some { status := .error, reason }

end Exchange

/-! ## §3. The first answer. -/

theorem route_of_arrival {parseUuid : String → Option Uuid} {segments : List (List Char)}
    {param : UuidParam}
    (h : LnUrlBalancerService.arrival parseUuid segments = some (.lnUrlOffer param)) :
    ∃ partition id, LnUrlBalancerService.route segments = some (.offer partition id)
      ∧ UuidParam.fromRequestParts parseUuid (pathParams partition id) = .ok param := by
  obtain ⟨target, hroute, hextract⟩ := Option.bind_eq_some_iff.mp h
  cases target with
  | offer partition id =>
      obtain ⟨read, hread, heq⟩ := Option.map_eq_some_iff.mp hextract
      cases heq
      exact ⟨partition, id, hroute, fromRequestParts_of_uuidParam hread⟩
  | bech32 partition id =>
      obtain ⟨read, -, heq⟩ := Option.map_eq_some_iff.mp hextract
      cases heq
  | bech32Qr partition id =>
      obtain ⟨read, -, heq⟩ := Option.map_eq_some_iff.mp hextract
      cases heq
  | invoice partition id =>
      obtain ⟨read, -, heq⟩ := Option.map_eq_some_iff.mp hextract
      cases heq
  | healthFull => cases hextract
  | health => cases hextract

section Answer

variable {A B : Type} [Repr A] [HasServiceErrorSource B] [ToString B] {env : LnUrlServiceEnv}
  {text : OfferText A} {sha256 : Sha256} {service : LnUrlServiceState OfferStoreError B}
  {store : MemoryOfferStore A}

omit [HasServiceErrorSource B] [ToString B] in
/-- The provider reads the memory store, which never fails. -/
theorem over_readsStore (service : LnUrlServiceState OfferStoreError B) (text : OfferText A)
    (sha256 : Sha256) (store : MemoryOfferStore A) :
    ReadsStore text sha256 MemoryOfferStore.offerStore store
      (service.over text sha256 MemoryOfferStore.offerStore store).toLnUrlPayState :=
  ⟨fun _ _ _ => rfl, fun _ _ => ⟨_, rfl⟩⟩

/-- A 200 on the offer route is the rendering of a stored offer that is open, of a partition
that is served. -/
theorem Seen.answer {origin : Origin env.hosts} {now later : DateTime} {request : LnUrlRequest}
    {param : UuidParam} {cache : Headers} {seen : LnUrlOffer}
    (h : Seen env text sha256 service origin store now later request param cache seen) :
    param.partition ∈ service.partitions
    ∧ ∃ offer callback,
        Stored text sha256 MemoryOfferStore.offerStore store param offer
        ∧ offer.isExpired now = false
        ∧ Url.parse env.hosts (offerUrl origin.scheme origin.authority param.partition param.id
            ++ "/invoice").toList = some callback
        ∧ cache = expiresHeaders env.toLnUrlPayEnv later offer.expires
        ∧ (Url.parse env.hosts (env.asStr callback).toList).map (fun callback =>
            ({ callback, maxSendable := offer.maxSendable, minSendable := offer.minSendable
               tag := .payRequest, metadata := offer.metadataJsonString
               commentAllowed := service.commentAllowed } : LnUrlOffer)) = some seen := by
  obtain ⟨partition, id, hroute, hparam⟩ := route_of_arrival h.path
  obtain ⟨body, hanswer, hdecode⟩ := h.answered
  unfold serve at hanswer
  rw [hroute] at hanswer
  dsimp only at hanswer
  unfold serveBehind at hanswer
  dsimp only at hanswer
  rcases partitions_cases text.parseUuid service.partitions (pathParams partition id) with
    ⟨param', hparam', hserved, hcall⟩ | ⟨-, refusal, hcall, hstatus⟩
  · obtain rfl : param = param' := by
      rw [hparam] at hparam'
      exact Except.ok.inj hparam'
    refine ⟨hserved, ?_⟩
    have hcall' : PartitionsService.call text.parseUuid
        (service.over text sha256 MemoryOfferStore.offerStore store).partitions
        (pathParams partition id) = .ok () := hcall
    rw [hcall', h.method, hparam] at hanswer
    dsimp only at hanswer
    unfold extract at hanswer
    have hhost : ValidatedHost.fromRequestParts env.extractHost
        (service.over text sha256 MemoryOfferStore.offerStore store).allowedHosts request.headers
        = .ok origin.authority := h.host
    have hscheme : Scheme.fromRequestParts request.headers
        (service.over text sha256 MemoryOfferStore.offerStore store).scheme = origin.scheme :=
      h.scheme
    rw [hhost, hscheme] at hanswer
    dsimp only at hanswer
    unfold LnUrl.offer at hanswer
    rcases getOffer_cases (over_readsStore service text sha256 store) now origin.authority param with
      ⟨offer, hstored, hopen, hget⟩ | ⟨-, e, hget, hstatus⟩
    · rw [hget] at hanswer
      dsimp only at hanswer
      cases hparse : Url.parse env.hosts (offerUrl origin.scheme origin.authority param.partition
          param.id ++ "/invoice").toList with
      | none =>
          rw [hparse] at hanswer
          -- the status of an internal error is not 200
          cases congrArg LnUrlResponse.status hanswer
      | some callback =>
          rw [hparse] at hanswer
          cases hanswer
          refine ⟨offer, callback, hstored, hopen, rfl, rfl, ?_⟩
          rw [LnUrlOffer.decode_encode] at hdecode
          exact hdecode
    · rw [hget] at hanswer
      have hok : e.status = StatusCode.ok := congrArg LnUrlResponse.status hanswer
      rw [hstatus] at hok
      cases hok
  · have hcall' : PartitionsService.call text.parseUuid
        (service.over text sha256 MemoryOfferStore.offerStore store).partitions
        (pathParams partition id) = .error refusal := hcall
    rw [hcall'] at hanswer
    have hok := congrArg LnUrlResponse.status hanswer
    cases refusal with
    | rejected status =>
        obtain rfl : status = StatusCode.ok := hok
        cases hstatus
    | failed e =>
        have hok' : e.status = StatusCode.ok := hok
        rw [show e.status = StatusCode.notFound from hstatus] at hok'
        cases hok'

end Answer

/-! ## §4. While the first answer may be used, the offer is open. -/

theorem toString_int_injective {a b : ℤ} (h : (toString a : String) = toString b) : a = b :=
  Int.repr_injective h

/-- What is younger than the age that was told has not ended. -/
theorem le_of_lt_maxAge {now later expires : ℤ} (hnow : later ≤ now)
    (hbefore : now < later + max ((expires - later).tdiv 1000000000) 0 * 1000000000) :
    now ≤ expires := by
  rcases le_total 0 (expires - later) with hleft | hover
  · rw [Int.tdiv_eq_ediv_of_nonneg hleft] at hbefore
    omega
  · -- nothing is left, so the age is zero
    have hneg : (expires - later).tdiv 1000000000 = -((later - expires) / 1000000000) := by
      rw [show expires - later = -(later - expires) by omega, Int.neg_tdiv,
        Int.tdiv_eq_ediv_of_nonneg (by omega)]
    rw [hneg] at hbefore
    omega

/-- The headers of an offer that ends do not outlive it. -/
theorem open_of_fresh {env : LnUrlPayEnv} {offer : Offer} {now later now' : DateTime}
    (hopen : offer.isExpired now = false) (hlater : now ≤ later) (hnow : later ≤ now')
    (hfresh : Fresh (expiresHeaders env later offer.expires) later now') :
    offer.isExpired now' = false := by
  obtain ⟨hstarted, -⟩ := (isExpired_eq_false_iff now offer).mp hopen
  refine (isExpired_eq_false_iff now' offer).mpr
    ⟨hstarted.trans (hlater.trans hnow), ?_⟩
  intro expires hexpires
  rw [Option.mem_def] at hexpires
  rw [hexpires] at hfresh
  unfold expiresHeaders at hfresh
  rcases hfresh with hmem | ⟨seconds, hmem, hbefore⟩
  · -- an offer that ends is not answered with `no-store`
    simp only [List.mem_cons, List.not_mem_nil, Prod.mk.injEq, or_false, true_and,
      show ("cache-control" : String) ≠ "expires" by decide, false_and] at hmem
    have hchars := congrArg (fun text => text.toList.head?) hmem
    rw [String.toList_append] at hchars
    cases hchars
  · simp only [List.mem_cons, List.not_mem_nil, Prod.mk.injEq, or_false, true_and,
      show ("cache-control" : String) ≠ "expires" by decide, false_and] at hmem
    have hseconds : seconds = max ((expires - later).tdiv second) 0 := by
      apply toString_int_injective
      have hlist := congrArg String.toList hmem
      rw [String.toList_append, String.toList_append] at hlist
      exact String.toList_inj.mp (List.append_cancel_left hlist)
    rw [hseconds] at hbefore
    exact le_of_lt_maxAge hnow hbefore

/-! ## §5. The second request. -/

section Callback

variable {hosts : HostParser}

/-- The path of a callback, as a client writes it down, leads to the invoice of the offer. -/
theorem route_of_callback {parseUuid : String → Option Uuid}
    (hparse : ∀ id : Uuid, parseUuid id.hyphenated = some id) (origin : Origin hosts)
    {param : UuidParam} (hsafe : SafeSegment param.partition.toList) {callback : Url}
    (hcallback : Url.parse hosts (offerUrl origin.scheme origin.authority param.partition param.id
      ++ "/invoice").toList = some callback) :
    ∃ partition id, LnUrlBalancerService.route
        (Target.ofText (target callback.tail).toText).segments = some (.invoice partition id)
      ∧ UuidParam.fromRequestParts parseUuid (pathParams partition id) = .ok param := by
  have hbefore : ∀ s ∈ ["offers".toList], PlainSegment s := by
    intro s hs
    rw [List.mem_singleton.mp hs]
    exact Offer.plainSegment_offers
  have hrest : PlainRest [param.id.hyphenated.toList, "invoice".toList] none :=
    BuiltUrl.plainRest param.id .callback
  have htext := BuiltUrl.toList_callback origin param.partition param.id
  have hrequest := origin.requestText_around hbefore hrest param.partition.toList
  rw [← htext] at hrequest
  unfold requestText at hrequest
  rw [hcallback, Option.map_some, Option.some.injEq] at hrequest
  rw [hrequest, arrived_safe hbefore hrest hsafe]
  refine ⟨percentEncode pathSet param.partition.toList, param.id.hyphenated.toList, ?_, ?_⟩
  · exact LnUrlBalancerService.route_invoice _ _
  · exact fromRequestParts_of_uuidParam (uuidParam_safe hparse hsafe param.id)

end Callback

section Invoice

variable {A B E σ : Type} [HasServiceErrorSource E] [ToString E] [HasServiceErrorSource B]
  [ToString B]

/-- A request that the offer accepts is handed to the balancer, and its answer passed on. -/
theorem invoice_accepted {text : OfferText A} {sha256 : Sha256} {store : OfferStore A σ E} {s : σ}
    {state : LnUrlPayState E B} (h : ReadsStore text sha256 store s state) {now : DateTime}
    (hostname : String) {param : UuidParam} {params : InvoiceParameters} {offer : Offer}
    (hstored : Stored text sha256 store s param offer)
    (haccepts : Accepts byteSize state now offer params) :
    invoice state now hostname param params
      = match state.balancer (invoiceCall state offer params) with
        | .error e => (.error (.fromServiceError e), [invoiceCall state offer params])
        | .ok pr =>
            (.ok { body := { pr, routes := [] }, status := StatusCode.ok
                   headers := noCacheHeaders }, [invoiceCall state offer params]) := by
  have hkey : commentKey (state.commentAllowed.getD 0) params.comment
      = .ok ((params.comment.map utf8).getD []) := by
    rcases commentKey_cases (state.commentAllowed.getD 0) params.comment with
      ⟨hkey, -⟩ | ⟨-, hlong⟩
    · exact hkey
    · exact absurd haccepts.comment hlong
  have hget : getOffer state now hostname param.partition param.id = .ok offer := by
    have hopen := (isExpired_eq_false_iff now offer).mpr ⟨haccepts.started, haccepts.notExpired⟩
    rcases getOffer_cases h now hostname param with ⟨found, hfound, -, hget⟩ | ⟨hnone, -⟩
    · rw [hget, hfound.unique hstored]
    · rw [hnone offer hstored] at hopen
      cases hopen
  have hrange : ¬ (params.amount < offer.minSendable ∨ offer.maxSendable < params.amount) := by
    rintro (hlow | hhigh)
    · exact UInt64.not_lt.mpr haccepts.atLeast hlow
    · exact UInt64.not_lt.mpr haccepts.atMost hhigh
  unfold invoice
  dsimp only
  rw [hkey]
  dsimp only
  rw [hget]
  dsimp only
  rw [if_neg hrange]
  rfl

omit [HasServiceErrorSource E] [ToString E] in
/-- The offer that is handed on has the hash of its own metadata. -/
theorem Stored.hashesMetadata {text : OfferText A} {sha256 : Sha256} {store : OfferStore A σ E}
    {s : σ} {param : UuidParam} {offer : Offer} (h : Stored text sha256 store s param offer) :
    HashesMetadata sha256 offer := by
  obtain ⟨record, metadata, -, -, rfl⟩ := h
  exact toOffer_hashesMetadata text sha256 record metadata

end Invoice

/-! ## §6. What happens in between. -/

section Between

variable {A B : Type} [Repr A] [HasServiceErrorSource B] [ToString B] {env : LnUrlServiceEnv}
  {text : OfferText A} {sha256 : Sha256} {service : LnUrlServiceState OfferStoreError B}

/-- The store of the server stays consistent. -/
theorem server_consistent (inputs : List (ServerInput A)) :
    MemoryOfferStore.Consistent
      ((server env text sha256 service).run MemoryOfferStore.new inputs).2 := by
  refine (server env text sha256 service).run_invariant MemoryOfferStore.Consistent
    (fun _ _ => True) ?_ _ inputs MemoryOfferStore.consistent_new
    (Machine.along_of_forall _ _ inputs fun _ _ _ => trivial)
  intro store input h _
  cases input with
  | manage now call => exact h.step now call
  | lnUrl now later request => exact h

/-- An offer stays as it is while no input writes it. -/
theorem server_holds {store : MemoryOfferStore A} {entry : OfferRecordTimestamped A}
    {metadata : OfferMetadataTimestamped A} (h : store.Holds entry metadata)
    (inputs : List (ServerInput A)) (hinputs : ∀ input ∈ inputs, input.Keeps entry) :
    MemoryOfferStore.Holds ((server env text sha256 service).run store inputs).2 entry metadata := by
  refine (server env text sha256 service).run_invariant
    (fun store => MemoryOfferStore.Holds store entry metadata) (fun _ input => input.Keeps entry)
    ?_ store inputs h (Machine.along_of_forall _ store inputs fun input hinput _ =>
      hinputs input hinput)
  intro store input h hkeeps
  cases input with
  | manage now call => exact h.step now hkeeps
  | lnUrl now later request => exact h

/-- What is stored under a path has its partition and its id. -/
theorem stored_key {store : MemoryOfferStore A} (h : store.Consistent) {param : UuidParam}
    {offer : Offer}
    (hstored : Stored text sha256 MemoryOfferStore.offerStore store param offer) :
    offer.partition = param.partition ∧ offer.id = param.id := by
  obtain ⟨record, sparse, hget, -, rfl⟩ := hstored
  obtain ⟨entry, metadata, -, hkey, rfl⟩ := h.holds hget
  exact ⟨congrArg OfferKey.partition hkey, congrArg OfferKey.id hkey⟩

/-- What is stored of an offer is stored later. -/
theorem stored_later {before between : List (ServerInput A)} {param : UuidParam} {offer : Offer}
    (hstored : Stored text sha256 MemoryOfferStore.offerStore
      ((server env text sha256 service).run MemoryOfferStore.new before).2 param offer)
    (hbetween : ∀ entry : OfferRecordTimestamped A,
      entry.key = { partition := param.partition, id := param.id } →
      ((server env text sha256 service).run MemoryOfferStore.new before).2.offer[entry.key]?
        = some entry →
      ∀ input ∈ between, input.Keeps entry) :
    Stored text sha256 MemoryOfferStore.offerStore
      ((server env text sha256 service).run MemoryOfferStore.new (before ++ between)).2 param
      offer := by
  obtain ⟨record, sparse, hget, hsparse, rfl⟩ := hstored
  obtain ⟨entry, metadata, hholds, hkey, hrecord⟩ := (server_consistent before).holds hget
  have hlater : MemoryOfferStore.Holds ((server env text sha256 service).run
      ((server env text sha256 service).run MemoryOfferStore.new before).2 between).2 entry
      metadata := server_holds hholds between (hbetween entry hkey hholds.offer)
  have hparam : entry.offer.partition = param.partition ∧ entry.offer.id = param.id :=
    ⟨congrArg OfferKey.partition hkey, congrArg OfferKey.id hkey⟩
  rw [Machine.run_append]
  refine ⟨record, sparse, ?_, hsparse, rfl⟩
  rw [← hparam.1, ← hparam.2, hrecord]
  exact congrArg Prod.fst hlater.getOffer

end Between

/-! ## §7. The exchange. -/

section Main

variable {A B K : Type} [Repr A] [HasServiceErrorSource B] [ToString B] [Ord K] [TransOrd K]
  [Repr K] {env : LnUrlServiceEnv} {text : OfferText A} {sha256 : Sha256}
  {service : LnUrlServiceState OfferStoreError B}

/-- An accepted request to the invoice route is answered as the balancer does. -/
theorem serve_accepted {store : MemoryOfferStore A} {now : DateTime}
    (later : DateTime) {request : LnUrlRequest} {partition id : List Char} {param : UuidParam} {hostname : String}
    {params : InvoiceParameters} {offer : Offer}
    (hroute : LnUrlBalancerService.route request.target.segments = some (.invoice partition id))
    (hmethod : request.method = .get)
    (hparam : UuidParam.fromRequestParts text.parseUuid (pathParams partition id) = .ok param)
    (hserved : param.partition ∈ service.partitions)
    (hhost : ValidatedHost.fromRequestParts env.extractHost service.allowedHosts request.headers
      = .ok hostname)
    (hquery : InvoiceParameters.fromQuery (formPairs (request.target.query.getD []))
      = some params)
    (hstored : Stored text sha256 MemoryOfferStore.offerStore store param offer)
    (haccepts : Accepts byteSize service.toLnUrlPayState now offer params) :
    let call := invoiceCall service.toLnUrlPayState offer params
    serve env text.parseUuid (service.over text sha256 MemoryOfferStore.offerStore store) now
        later request
      = match service.balancer call with
        | .error e => (.ofError (.fromServiceError e), [call])
        | .ok pr =>
            (.ofJson LnUrlInvoice.codec.encode
              { body := { pr, routes := [] }, status := StatusCode.ok, headers := noCacheHeaders },
              [call]) := by
  let state := service.over text sha256 MemoryOfferStore.offerStore store
  have hparam' : UuidParam.fromRequestParts text.parseUuid
      (invoiceRequest request partition id).path = .ok param := hparam
  -- the layer of the partitions lets the request through
  have hcall : PartitionsService.call text.parseUuid state.partitions
      (invoiceRequest request partition id).path = .ok () := by
    unfold PartitionsService.call
    rw [hparam']
    exact if_pos hserved
  have hextract : extractInvoice env.toLnUrlPayEnv text.parseUuid state.allowedHosts
      (invoiceRequest request partition id)
      = .ok { hostname, uuidParam := param, params } := by
    have hhost' : ValidatedHost.fromRequestParts env.extractHost state.allowedHosts
        (invoiceRequest request partition id).headers = .ok hostname := hhost
    have hquery' : InvoiceParameters.fromQuery (invoiceRequest request partition id).query
        = some params := hquery
    unfold extractInvoice
    rw [hhost', hparam', hquery']
  have haccepts' : Accepts byteSize state.toLnUrlPayState now offer params :=
    { started := haccepts.started, notExpired := haccepts.notExpired
      atLeast := haccepts.atLeast, atMost := haccepts.atMost, comment := haccepts.comment }
  have hinvoice := invoice_accepted (over_readsStore service text sha256 store) hostname hstored
    haccepts'
  unfold serve
  rw [hroute]
  dsimp only
  unfold serveInvoiceRoute serveInvoice
  rw [hmethod]
  dsimp only
  rw [hcall]
  dsimp only
  rw [hextract]
  dsimp only
  rw [hinvoice]
  change _ = match state.balancer (invoiceCall state.toLnUrlPayState offer params) with
    | .error e => _
    | .ok pr => _
  cases state.balancer (invoiceCall state.toLnUrlPayState offer params) with
  | error e => rfl
  | ok pr => rfl

omit [Repr A] in
/-- The callback that was read leads where the one that was written leads: to the invoices of
the offer. -/
theorem route_of_seen (text : OfferText A) {origin : Origin env.hosts} {param : UuidParam}
    {callback url : Url}
    (hsafe : SafeSegment param.partition.toList)
    (hserial : ∀ url, Url.parse env.hosts (offerUrl origin.scheme origin.authority param.partition
        param.id ++ "/invoice").toList = some url →
      requestText env.hosts (env.asStr url).toList = some (target url.tail).toText)
    (hparse : Url.parse env.hosts (offerUrl origin.scheme origin.authority param.partition
      param.id ++ "/invoice").toList = some callback)
    (hurl : Url.parse env.hosts (env.asStr callback).toList = some url) :
    ∃ partition id,
      LnUrlBalancerService.route (Target.ofText (target url.tail).toText).segments
          = some (.invoice partition id)
        ∧ UuidParam.fromRequestParts text.parseUuid (pathParams partition id) = .ok param := by
  have hpath : (target url.tail).toText = (target callback.tail).toText := by
    have hrequest := hserial callback hparse
    unfold requestText at hrequest
    rw [hurl] at hrequest
    exact Option.some.inj hrequest
  rw [hpath]
  exact route_of_callback text.parseUuid_hyphenated origin hsafe hparse

/-- A request to a callback that was seen is answered as the balancer does. -/
theorem serve_callback {origin : Origin env.hosts} {store store' : MemoryOfferStore A}
    {now later now' : DateTime} {request request' : LnUrlRequest} {param : UuidParam}
    {cache : Headers} {seen : LnUrlOffer} {params : InvoiceParameters}
    (hconsistent : MemoryOfferStore.Consistent store)
    (hsafe : SafeSegment param.partition.toList)
    (hseen : Seen env text sha256 service origin store now later request param cache seen)
    (hserial : ∀ url, Url.parse env.hosts (offerUrl origin.scheme origin.authority param.partition
        param.id ++ "/invoice").toList = some url →
      requestText env.hosts (env.asStr url).toList = some (target url.tail).toText)
    (hkept : ∀ offer, Stored text sha256 MemoryOfferStore.offerStore store param offer →
      Stored text sha256 MemoryOfferStore.offerStore store' param offer)
    (hasks : AsksCallback env service seen request' params) (hlater : now ≤ later)
    (hnow : later ≤ now') (hfresh : Fresh cache later now') (later' : DateTime) :
    ∃ call, Invoiced sha256 service param seen params
      (serve env text.parseUuid (service.over text sha256 MemoryOfferStore.offerStore store') now'
        later' request') call := by
  obtain ⟨hserved, offer, callback, hstored, hopen, hparse, rfl, hread⟩ := hseen.answer
  obtain ⟨url, hurl, rfl⟩ := Option.map_eq_some_iff.mp hread
  obtain ⟨partition, id, hroute, hparam⟩ := route_of_seen text hsafe hserial hparse hurl
  have hopen' := open_of_fresh hopen hlater hnow hfresh
  obtain ⟨hstarted, hexpires⟩ := (isExpired_eq_false_iff now' offer).mp hopen'
  have haccepts : Accepts byteSize service.toLnUrlPayState now' offer params :=
    { started := hstarted, notExpired := hexpires, atLeast := hasks.atLeast
      atMost := hasks.atMost, comment := hasks.comment }
  obtain ⟨hostname, hhost⟩ := hasks.host
  rw [← hasks.path] at hroute
  have hserve := serve_accepted later' hroute hasks.method hparam hserved hhost
    hasks.query (hkept offer hstored) haccepts
  refine ⟨invoiceCall service.toLnUrlPayState offer params, ?_⟩
  exact
    { calls := by
        rw [hserve]
        cases service.balancer (invoiceCall service.toLnUrlPayState offer params) <;> rfl
      offer := stored_key hconsistent hstored
      metadata := rfl
      hash := hstored.hashesMetadata
      amount := rfl
      expiry := rfl
      key := rfl
      paid := by
        intro pr hpr
        rw [hserve, hpr]
      invoiceRead := by
        intro pr hpr
        rw [hserve, hpr]
        exact ⟨_, rfl, lnUrlInvoice_roundTrips { pr, routes := [] }⟩
      unpaid := by
        intro e he
        rw [hserve, he]
      errorRead := by
        intro e he
        rw [hserve, he]
        exact ⟨_, _, rfl, lnUrlError_roundTrips _⟩ }

/-- **The wallet is invoiced for what it has seen**: in every run of the server, when a wallet
reads the answer for an offer, and later asks the callback with an amount and a comment the
answer allows, while its headers let it be used and without a write to the offer in between,
the balancer is called once, for this amount and this comment, and whatever client of a pool
is asked, the node is to commit to the hash of the metadata the wallet has read. -/
theorem wallet_is_invoiced {origin : Origin env.hosts} {before between : List (ServerInput A)}
    {now later now' later' : DateTime} {request request' : LnUrlRequest} {param : UuidParam}
    {cache : Headers} {seen : LnUrlOffer} {params : InvoiceParameters}
    (hsafe : SafeSegment param.partition.toList)
    (hseen : Seen env text sha256 service origin
      ((server env text sha256 service).run MemoryOfferStore.new before).2 now later request param
      cache seen)
    (hserial : ∀ url, Url.parse env.hosts (offerUrl origin.scheme origin.authority param.partition
        param.id ++ "/invoice").toList = some url →
      requestText env.hosts (env.asStr url).toList = some (target url.tail).toText)
    (hbetween : ∀ entry : OfferRecordTimestamped A,
      entry.key = { partition := param.partition, id := param.id } →
      ((server env text sha256 service).run MemoryOfferStore.new before).2.offer[entry.key]?
        = some entry →
      ∀ input ∈ between, input.Keeps entry)
    (hasks : AsksCallback env service seen request' params) (hlater : now ≤ later)
    (hnow : later ≤ now') (hfresh : Fresh cache later now') :
    ∃ call, Invoiced sha256 service param seen params
        (serve env text.parseUuid (service.over text sha256 MemoryOfferStore.offerStore
          ((server env text sha256 service).run MemoryOfferStore.new
            (before ++ .lnUrl now later request :: between)).2) now' later' request') call
      ∧ ∀ (pool : LnClientPool K LnRpcClient) (key : K) (client : LnRpcClient)
          (clock : DateTime) (sent : NodeRequest), pool.pool[key]? = some client →
        pool.getInvoice sha256 clock call.offer key (some call.amountMsat) (some call.expirySecs)
          = .ok sent →
        sent.committedHash sha256 = some (sha256.digest (utf8 seen.metadata)) := by
  have hkept : ∀ offer, Stored text sha256 MemoryOfferStore.offerStore
        ((server env text sha256 service).run MemoryOfferStore.new before).2 param offer →
      Stored text sha256 MemoryOfferStore.offerStore
        ((server env text sha256 service).run MemoryOfferStore.new
          (before ++ .lnUrl now later request :: between)).2 param offer := by
    intro offer hstored
    apply stored_later hstored
    intro entry hkey hentry input hinput
    rcases List.mem_cons.mp hinput with rfl | hinput
    · exact trivial
    · exact hbetween entry hkey hentry input hinput
  obtain ⟨call, hinvoiced⟩ := serve_callback (server_consistent before) hsafe hseen hserial hkept
    hasks hlater hnow hfresh later'
  refine ⟨call, hinvoiced, ?_⟩
  intro pool key client clock sent hclient hsent
  rw [← hinvoiced.metadata]
  exact LnClientPool.getInvoice_commits hinvoiced.hash hclient hsent

end Main

/-! ## §8. A wallet that buys coffee. -/

/-- Two posts, of the metadata and of the offer. -/
def coffeePosts : List (ServerInput String) :=
  [.manage 0 (.postMetadata { id := 7, partition := "default", metadata := coffee }),
    .manage 0 (.postOffer coffeeRecord)]

/-- Two calls that are refused. -/
def refusedCalls : List (ServerInput String) :=
  [.manage 1 (.deleteMetadata "default" 7), .manage 2 (.postOffer coffeeRecord)]

/-- What the wallet reads of the answer. -/
def seenOffer : LnUrlOffer where
  callback := { goodUrl with tail := goodUrl.tail ++ "/invoice".toList }
  maxSendable := 1000
  minSendable := 1
  tag := .payRequest
  metadata := "[[\"text/plain\",\"coffee\"]]"
  commentAllowed := some 4

def callbackRequest : LnUrlRequest where
  method := .get
  headers := hostHeader "good.com"
  target := Target.ofText
    ("/offers/default/00000000-0000-0000-0000-000000000001/invoice".toList
      ++ "?amount=1000&comment=java".toList)

theorem offerRequest_seen :
    Seen goodServiceEnv plainText coffeeHash coffeeService goodOrigin
      ((server goodServiceEnv plainText coffeeHash coffeeService).run MemoryOfferStore.new
        coffeePosts).2 0 0 offerRequest { partition := "default", id := 1 } LnUrl.noCacheHeaders
      seenOffer where
  method := rfl
  path := by decide +kernel
  host := by decide +kernel
  scheme := by decide +kernel
  answered := ⟨_, rfl, rfl⟩

theorem callbackRequest_asks :
    AsksCallback goodServiceEnv coffeeService seenOffer callbackRequest
      { amount := 1000, comment := some "java" } where
  method := rfl
  path := by decide +kernel
  query := by decide +kernel
  host := ⟨"good.com", by decide +kernel⟩
  atLeast := by decide
  atMost := by decide
  comment := by
    rintro _ ⟨⟩
    decide +kernel

/-- Its callback is asked a minute later, after two calls that are refused. -/
theorem wallet_is_invoiced_for_coffee :
    ∃ call, Invoiced coffeeHash coffeeService { partition := "default", id := 1 } seenOffer
        { amount := 1000, comment := some "java" }
        (serve goodServiceEnv plainText.parseUuid
          (coffeeService.over plainText coffeeHash MemoryOfferStore.offerStore
            ((server goodServiceEnv plainText coffeeHash coffeeService).run MemoryOfferStore.new
              (coffeePosts ++ .lnUrl 0 0 offerRequest :: refusedCalls)).2)
          (60 * second) (60 * second) callbackRequest) call
      ∧ ∀ clock sent, coffeePool.getInvoice coffeeHash clock call.offer 0 (some call.amountMsat)
          (some call.expirySecs) = .ok sent →
        sent.committedHash coffeeHash
          = some (coffeeHash.digest (utf8 "[[\"text/plain\",\"coffee\"]]")) := by
  have hsafe : SafeSegment "default".toList :=
    { delimiters := Offer.forall_of_all (by decide)
      single_dot := by decide
      double_dot := by decide
      pairs := by decide }
  have hserial : ∀ url, Url.parse goodServiceEnv.hosts (offerUrl goodOrigin.scheme
        goodOrigin.authority "default" 1 ++ "/invoice").toList = some url →
      requestText goodServiceEnv.hosts (goodServiceEnv.asStr url).toList
        = some (target url.tail).toText := by
    intro url hurl
    have hcallback : Url.parse goodServiceEnv.hosts (offerUrl goodOrigin.scheme
        goodOrigin.authority "default" 1 ++ "/invoice").toList = some seenOffer.callback := by
      decide +kernel
    rw [hcallback] at hurl
    obtain rfl := Option.some.inj hurl
    decide +kernel
  have hkeeps : ∀ entry : OfferRecordTimestamped String,
      entry.key = { partition := "default", id := 1 } →
      ((server goodServiceEnv plainText coffeeHash coffeeService).run MemoryOfferStore.new
        coffeePosts).2.offer[entry.key]? = some entry →
      ∀ input ∈ refusedCalls, input.Keeps entry := by
    intro entry _ _ input hinput
    -- neither a refused delete of the metadata nor a post is among the writing calls
    simp only [refusedCalls, List.mem_cons, List.not_mem_nil, or_false] at hinput
    rcases hinput with rfl | rfl
    · exact fun h => h
    · exact fun h => h
  have hnow : (0 : DateTime) ≤ 60 * second := by decide
  refine (wallet_is_invoiced (K := ℕ) hsafe offerRequest_seen hserial hkeeps callbackRequest_asks
    (le_refl 0) hnow (.inl List.mem_cons_self)).imp fun call hcall => ⟨hcall.1, ?_⟩
  intro clock sent hsent
  exact hcall.2 coffeePool 0 _ clock sent rfl hsent

end Switchgear.LnUrl
