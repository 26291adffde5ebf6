/-
  Switchgear.LnUrl.Remote — an LNURL service that reads its offers over HTTP.

  Two processes: the management service with the store, behind its layer, and the
  LNURL service with a client of it and a token.  Anyone may send anything to
  either.  While the token lasts, the two answer every request as one process does
  that reads the store itself.  After that the store's refusal is passed on as an
  error of the wallet's own, and no invoice is asked for.

  Main results:
    * `remote_deployment_serves_as_local` — over whole runs,
    * `expired_token_is_told` — what a wallet reads after the expiry.
-/
import Switchgear.LnUrl.Wallet
import Switchgear.Offer.Authorized
import Switchgear.Offer.Provenance

namespace Switchgear.LnUrl

open Switchgear.Lib Switchgear.Offer Switchgear.Service

/-! ## §1. The two processes. -/

section Definitions

variable {A B : Type}

/-- A request to the management service, or one to the LNURL service; with the latter, what the
clock says when the management service checks the token of the read, and when it handles it. -/
inductive DeployedInput where
  | manage (input : ServiceInput)
  | lnUrl (checked handled now later : DateTime) (request : LnUrlRequest)

inductive DeployedAnswer where
  | managed (response : HttpResponse)
  | served (response : LnUrlResponse) (calls : List InvoiceCall)

variable [Repr A] [HasServiceErrorSource B] [ToString B] (env : LnUrlServiceEnv)
  (text : OfferText A) (sha256 : Sha256) (service : LnUrlServiceState OfferStoreError B)
  (auth : BearerTokenAuthLayer) (maxPageSize : UInt64)

/-- The management service over a memory store, and the LNURL service with a provider. -/
def deployment
    (provider : (checked handled : DateTime) → MemoryOfferStore A →
      (hostname partition : String) → Uuid → Except OfferStoreError (Option Offer)) :
    Machine (MemoryOfferStore A) DeployedInput DeployedAnswer :=
  fun store input =>
    match input with
    | .manage input =>
        let (response, store) := offerServer auth text (memoryService A maxPageSize) store input
        (.managed response, store)
    | .lnUrl checked handled now later request =>
        let (response, calls) := LnUrlBalancerService.serve env text.parseUuid
          { service with offerProvider := provider checked handled store } now later request
        (.served response calls, store)

/-- The provider of a process of its own: it reads the store through the client. -/
def remoteProvider (client : HttpOfferStore A) (defaults : Headers) (checked handled : DateTime)
    (store : MemoryOfferStore A) (hostname partition : String) (id : Uuid) :
    Except OfferStoreError (Option Offer) :=
  let send := deliverAuthorized auth text (memoryService A maxPageSize) defaults checked handled
  (StoreOfferProvider.offer text sha256 (client.offerStore fun _ => send) hostname partition id
    store).1

/-- The error of a read whose token is not accepted any more. -/
def expiredError (client : HttpOfferStore A) (partition : String) (id : Uuid) : OfferStoreError :=
  .invalidInputError
    ("get offer " ++ ((client.offersPartitionIdUrl partition id).withQuery
      (HttpOfferStore.sparseQuery false)).toText)
    ("invalid input, http status: " ++ client.displayStatus StatusCode.unauthorized)

/-- The provider of the same process: it reads the store itself.  Once a token would have expired
it fails. -/
def localProviderUntil (client : HttpOfferStore A) (exp : ℕ) (checked _handled : DateTime)
    (store : MemoryOfferStore A) (hostname partition : String) (id : Uuid) :
    Except OfferStoreError (Option Offer) :=
  if epochSeconds checked ≤ exp + leeway then
    (StoreOfferProvider.offer text sha256 MemoryOfferStore.offerStore hostname partition id store).1
  else .error (expiredError client partition id)

end Definitions

/-! ## §2. One read. -/

section Read

variable {A S V : Type} [Repr A] {jwt : JsonWebToken S V} {bearer : String → Option String}
  {signing : S} {verifying : V} {authorization : String} (client : HttpOfferStore A)
  (maxPageSize : UInt64) {partition : String}

/-- What a call relays of a success. -/
theorem Relayed.eq_ok {σ ε α : Type} [HasServiceErrorSource ε] {direct : Except ε α × σ}
    {remote : Except OfferStoreError α × σ} (h : Relayed direct remote) {value : α}
    (hok : direct.1 = .ok value) : remote = (.ok value, direct.2) := by
  obtain ⟨answer, state⟩ := remote
  have hanswer := h.answer
  rw [hok] at hanswer
  cases answer with
  | error e => cases hanswer
  | ok value' =>
      have hvalue : value' = value := Except.ok.inj hanswer
      have hstate : state = direct.2 := h.state
      rw [hvalue, hstate]

/-- The full read of an offer through the client. -/
theorem getOffer_authorized (hkeys : KeyPair jwt bearer signing verifying) {claims : OfferClaims}
    (htoken : jwt.encode signing ((Claims.codec OfferAudience.codec).encode claims)
      = some authorization) (hpartition : UrlPath.PlainSegment partition.toList) (id : Uuid)
    (checked handled : DateTime) (store : MemoryOfferStore A) :
    client.getOffer (deliverAuthorized (offerAuthLayer jwt bearer verifying) client.text
        (memoryService A maxPageSize) [("authorization", "Bearer " ++ authorization)] checked
        handled) partition id (some false) store
      = if epochSeconds checked ≤ claims.exp.toNat + leeway then
          MemoryOfferStore.getOffer partition id (some false) store
        else (.error (expiredError client partition id), store) := by
  have hsend : deliverAuthorized (offerAuthLayer jwt bearer verifying) client.text
        (memoryService A maxPageSize) [("authorization", "Bearer " ++ authorization)] checked
        handled (.plain .get ((client.offersPartitionIdUrl partition id).withQuery
          (HttpOfferStore.sparseQuery false))) store
      = if epochSeconds checked ≤ claims.exp.toNat + leeway then
          deliver client.text (memoryService A maxPageSize) handled
            (.plain .get ((client.offersPartitionIdUrl partition id).withQuery
              (HttpOfferStore.sparseQuery false))) store
        else (.ok (CrudError.unauthorized "offer" .invalidToken).intoResponse, store) :=
    deliverAuthorized_eq hkeys htoken (managed_getOffer client hpartition id false) checked handled
      store
  unfold HttpOfferStore.getOffer
  dsimp only [Option.getD_some]
  by_cases htime : epochSeconds checked ≤ claims.exp.toNat + leeway
  · rw [if_pos htime, deliver_getOffer hpartition id false handled store] at hsend
    rw [if_pos htime]
    exact Relayed.eq_ok (readOne_relayed client.text.record_roundTrips hsend _ _) rfl
  · rw [if_neg htime] at hsend
    rw [if_neg htime]
    unfold HttpOfferStore.readOne
    rw [hsend]
    rfl

/-- The two providers, of a partition that is served. -/
theorem remoteProvider_eq (sha256 : Sha256) (hkeys : KeyPair jwt bearer signing verifying)
    {claims : OfferClaims}
    (htoken : jwt.encode signing ((Claims.codec OfferAudience.codec).encode claims)
      = some authorization) (hpartition : UrlPath.PlainSegment partition.toList) (id : Uuid)
    (checked handled : DateTime) (store : MemoryOfferStore A) (hostname : String) :
    remoteProvider client.text sha256 (offerAuthLayer jwt bearer verifying) maxPageSize client
        [("authorization", "Bearer " ++ authorization)] checked handled store hostname partition id
      = localProviderUntil client.text sha256 client claims.exp.toNat checked handled store hostname
          partition id := by
  have hread := getOffer_authorized client maxPageSize hkeys htoken hpartition id checked handled store
  unfold remoteProvider localProviderUntil StoreOfferProvider.offer HttpOfferStore.offerStore
    MemoryOfferStore.offerStore
  dsimp only
  rw [hread]
  split_ifs <;> rfl

end Read

/-! ## §3. A provider that fails. -/

section Failing

variable {E B : Type} [HasServiceErrorSource E] [ToString E] [HasServiceErrorSource B] [ToString B]
  (service : LnUrlServiceState E B) {e : E}

omit [HasServiceErrorSource B] [ToString B] in
theorem getOffer_failing {hostname partition : String} {id : Uuid}
    (h : service.offerProvider hostname partition id = .error e) (now : DateTime) :
    getOffer service.toLnUrlPayState now hostname partition id = .error (.fromServiceError e) := by
  unfold getOffer
  rw [h]

/-- Where the provider fails on every offer, no request makes the balancer be called. -/
theorem serve_failing_calls (env : LnUrlServiceEnv) (parseUuid : String → Option Uuid)
    (h : ∀ hostname partition id, ∃ e, service.offerProvider hostname partition id = .error e)
    (now later : DateTime) (request : LnUrlRequest) :
    (LnUrlBalancerService.serve env parseUuid service now later request).2 = [] := by
  have hinvoice : ∀ hostname uuidParam params,
      (invoice service.toLnUrlPayState now hostname uuidParam params).2 = [] := by
    intro hostname uuidParam params
    obtain ⟨e, he⟩ := h hostname uuidParam.partition uuidParam.id
    unfold invoice
    dsimp only
    rw [getOffer_failing service he]
    cases commentKey (service.commentAllowed.getD 0) params.comment <;> rfl
  unfold LnUrlBalancerService.serve
  cases LnUrlBalancerService.route request.target.segments with
  | none => rfl
  | some target =>
      cases target with
      | offer partition id => rfl
      | bech32 partition id => rfl
      | bech32Qr partition id => rfl
      | healthFull => rfl
      | health => rfl
      | invoice partition id =>
          dsimp only
          unfold LnUrlBalancerService.serveInvoiceRoute
          cases request.method with
          | get =>
              unfold serveInvoice
              dsimp only
              split
              · rfl
              · split
                · rfl
                · exact hinvoice _ _ _
          -- no other method gets to the handler
          | post => dsimp only; split <;> rfl
          | put => dsimp only; split <;> rfl
          | patch => dsimp only; split <;> rfl
          | delete => dsimp only; split <;> rfl

/-- The failure of the provider is the answer to a request for an offer. -/
theorem serve_failing_offer (env : LnUrlServiceEnv) (parseUuid : String → Option Uuid)
    {now later : DateTime} {request : LnUrlRequest} {partition id : List Char} {param : UuidParam}
    {hostname : String}
    (hroute : LnUrlBalancerService.route request.target.segments = some (.offer partition id))
    (hmethod : request.method = .get)
    (hparam : UuidParam.fromRequestParts parseUuid (pathParams partition id)
      = .ok param)
    (hserved : param.partition ∈ service.partitions)
    (hhost : ValidatedHost.fromRequestParts env.extractHost service.allowedHosts request.headers
      = .ok hostname)
    (h : service.offerProvider hostname param.partition param.id = .error e) :
    (LnUrlBalancerService.serve env parseUuid service now later request).1
      = LnUrlResponse.ofError (.fromServiceError e) := by
  have hcall : PartitionsService.call parseUuid service.partitions
      (pathParams partition id) = .ok () := by
    unfold PartitionsService.call
    rw [hparam]
    exact if_pos hserved
  unfold LnUrlBalancerService.serve
  rw [hroute]
  dsimp only
  unfold LnUrlBalancerService.serveBehind
  dsimp only
  rw [hcall]
  dsimp only
  rw [hmethod]
  dsimp only
  rw [hparam]
  dsimp only
  unfold extract
  rw [hhost]
  dsimp only
  unfold LnUrl.offer
  rw [getOffer_failing service h]
  rfl

end Failing

/-! ## §4. Whole runs. -/

section Runs

variable {A B S V : Type} [Repr A] [HasServiceErrorSource B] [ToString B] {jwt : JsonWebToken S V}
  {bearer : String → Option String} {signing : S} {verifying : V} {authorization : String}
  {client : HttpOfferStore A}

/-- Only the partitions that are served are asked for. -/
theorem deployment_congr (env : LnUrlServiceEnv) (text : OfferText A)
    (service : LnUrlServiceState OfferStoreError B) (auth : BearerTokenAuthLayer)
    (maxPageSize : UInt64)
    {provider provider' : (checked handled : DateTime) → MemoryOfferStore A →
      (hostname partition : String) → Uuid → Except OfferStoreError (Option Offer)}
    (h : ∀ checked handled store hostname, ∀ partition ∈ service.partitions, ∀ id,
      provider checked handled store hostname partition id
        = provider' checked handled store hostname partition id) :
    deployment env text service auth maxPageSize provider
      = deployment env text service auth maxPageSize provider' := by
  funext store input
  cases input with
  | manage input => rfl
  | lnUrl checked handled now later request =>
      have hsame : SameService
          { service with offerProvider := provider checked handled store }
          { service with offerProvider := provider' checked handled store } :=
        { partitions := rfl
          scheme := rfl
          allowedHosts := rfl
          invoiceExpiry := rfl
          commentAllowed := rfl
          scale := rfl
          light := rfl
          dark := rfl
          offerProvider := fun hostname partition hserved id =>
            alikeUpTo_of_eq SameFailure.refl (h checked handled store hostname partition hserved id)
          balancer := fun call => alikeUpTo_of_eq SameFailure.refl rfl
          health := alikeUpTo_of_eq SameFailure.refl rfl }
      have hserve := LnUrlBalancerService.serve_alike text.parseUuid (SameEnv.refl env) hsame now
        later request
      unfold deployment
      dsimp only
      rw [hserve]

/-- Two processes are a machine as one is. -/
theorem deployment_remote (env : LnUrlServiceEnv) (sha256 : Sha256) (maxPageSize : UInt64)
    (hkeys : KeyPair jwt bearer signing verifying) {claims : OfferClaims}
    (htoken : jwt.encode signing ((Claims.codec OfferAudience.codec).encode claims)
      = some authorization) {text : OfferText A}
    {displayStatus : StatusCode → String} {parseUrl : String → Except String Unit}
    {baseUrl : String} {defaults : Headers}
    (hcreate : HttpOfferStore.create text displayStatus parseUrl baseUrl authorization
      = .ok (client, defaults)) (service : LnUrlServiceState OfferStoreError B)
    (hpartitions : ∀ partition ∈ service.partitions, UrlPath.PlainSegment partition.toList) :
    deployment env text service (offerAuthLayer jwt bearer verifying) maxPageSize
        (remoteProvider text sha256 (offerAuthLayer jwt bearer verifying) maxPageSize client
          defaults)
      = deployment env text service (offerAuthLayer jwt bearer verifying) maxPageSize
        (localProviderUntil text sha256 client claims.exp.toNat) := by
  obtain ⟨rfl, -, rfl⟩ := create_ok hcreate
  apply deployment_congr
  intro checked handled store hostname partition hserved id
  exact remoteProvider_eq client maxPageSize sha256 hkeys htoken (hpartitions partition hserved) id
    checked handled store hostname

/-- **An expired token is told to the wallet**: in whatever state the store is, once the token of
the client is not accepted any more no request to the LNURL service makes the balancer be called,
and a request for an offer of a served partition is a bad request of the wallet's, whose reason
names the URL of the offer store. -/
theorem expired_token_is_told (env : LnUrlServiceEnv) (sha256 : Sha256) (maxPageSize : UInt64)
    (hkeys : KeyPair jwt bearer signing verifying) {minted : DateTime} {expires : UInt64}
    (hclock : epochSeconds minted + expires.toNat < 2 ^ 64)
    (hmint : mintOfferToken jwt signing minted expires = some authorization) {text : OfferText A}
    {displayStatus : StatusCode → String} {parseUrl : String → Except String Unit}
    {baseUrl : String} {defaults : Headers}
    (hcreate : HttpOfferStore.create text displayStatus parseUrl baseUrl authorization
      = .ok (client, defaults)) (service : LnUrlServiceState OfferStoreError B)
    (hpartitions : ∀ partition ∈ service.partitions, UrlPath.PlainSegment partition.toList)
    (store : MemoryOfferStore A) {checked : DateTime}
    (hlate : epochSeconds minted + expires.toNat + leeway < epochSeconds checked)
    (handled now later : DateTime) (request : LnUrlRequest) :
    ∃ response,
      deployment env text service (offerAuthLayer jwt bearer verifying) maxPageSize
          (remoteProvider text sha256 (offerAuthLayer jwt bearer verifying) maxPageSize client
            defaults) store (.lnUrl checked handled now later request)
        = (.served response [], store)
      ∧ ∀ partition id param hostname,
          LnUrlBalancerService.route request.target.segments = some (.offer partition id) →
          request.method = .get →
          UuidParam.fromRequestParts text.parseUuid (pathParams partition id)
            = .ok param →
          param.partition ∈ service.partitions →
          ValidatedHost.fromRequestParts env.extractHost service.allowedHosts request.headers
            = .ok hostname →
          response = LnUrlResponse.ofError
            { status := StatusCode.badRequest
              message := "OfferStoreError: while "
                ++ ("get offer "
                  ++ ((client.offersPartitionIdUrl param.partition param.id).withQuery
                    (HttpOfferStore.sparseQuery false)).toText)
                ++ ": " ++ ("Invalid Input error: "
                  ++ ("invalid input, http status: "
                    ++ displayStatus StatusCode.unauthorized)) } := by
  rw [deployment_remote env sha256 maxPageSize hkeys hmint hcreate service hpartitions,
    tokenClaims_exp OfferAudience.offer hclock]
  obtain ⟨-, hdisplay, -⟩ := create_ok hcreate
  have hfails : ∀ hostname partition id, localProviderUntil text sha256 client
      (epochSeconds minted + expires.toNat) checked handled store hostname partition id
        = .error (expiredError client partition id) := by
    intro hostname partition id
    exact if_neg (by omega)
  generalize localProviderUntil text sha256 client (epochSeconds minted + expires.toNat) = provider
    at hfails
  unfold deployment
  dsimp only
  rw [serve_failing_calls { service with offerProvider := provider checked handled store } env
    text.parseUuid (fun hostname partition id => ⟨_, hfails hostname partition id⟩) now later request]
  refine ⟨_, rfl, ?_⟩
  intro partition id param hostname hroute hmethod hparam hserved hhost
  rw [serve_failing_offer { service with offerProvider := provider checked handled store } env
    text.parseUuid hroute hmethod hparam hserved hhost
    (hfails hostname param.partition param.id)]
  unfold expiredError
  rw [hdisplay]
  rfl

end Runs

/-! ## §5. A token for a minute. -/

section Sample

theorem coffee_partitions_plain :
    ∀ partition ∈ coffeeService.partitions, UrlPath.PlainSegment partition.toList := by
  intro partition hpartition
  rw [Finset.mem_singleton.mp hpartition]
  exact plainSegment_default

/-- `Display` of a status, of the one that matters. -/
def sampleStatusText (status : StatusCode) : String :=
  if status = StatusCode.unauthorized then "401 Unauthorized" else toString status

def sampleToldClient : HttpOfferStore String :=
  { sampleRemoteClient with displayStatus := sampleStatusText }

theorem expired_token_is_told_coffee :
    deployment goodServiceEnv plainText coffeeService (offerAuthLayer plainTokens plainBearer ())
        100 (remoteProvider plainText coffeeHash (offerAuthLayer plainTokens plainBearer ()) 100
          sampleToldClient [("authorization", "Bearer offer.1060")]) MemoryOfferStore.new
            (.lnUrl (1121 * second) (1121 * second) 0 0 offerRequest)
      = (.served (LnUrlResponse.ofError
            { status := StatusCode.badRequest
              message := "OfferStoreError: while get offer https://base.com/offers/default/"
                ++ "00000000-0000-0000-0000-000000000001?sparse=false: "
                ++ "Invalid Input error: invalid input, http status: 401 Unauthorized" })
          [], MemoryOfferStore.new) := by
  have hlate : epochSeconds (1000 * second) + (60 : UInt64).toNat + leeway
      < epochSeconds (1121 * second) := by
    rw [sampleToken_expiry]
    decide +kernel
  have hmessage : "OfferStoreError: while "
      ++ ("get offer "
        ++ ((sampleToldClient.offersPartitionIdUrl "default" 1).withQuery
          (HttpOfferStore.sparseQuery false)).toText)
      ++ ": " ++ ("Invalid Input error: "
        ++ ("invalid input, http status: " ++ sampleStatusText StatusCode.unauthorized))
      = "OfferStoreError: while get offer https://base.com/offers/default/"
        ++ "00000000-0000-0000-0000-000000000001?sparse=false: "
        ++ "Invalid Input error: invalid input, http status: 401 Unauthorized" := by decide +kernel
  obtain ⟨response, hanswer, htold⟩ := expired_token_is_told goodServiceEnv coffeeHash 100
    keyPair_plainTokens (by rw [sampleToken_expiry]; decide) sampleToken_minted
    (sampleRemoteClient_created sampleStatusText) coffeeService coffee_partitions_plain
    MemoryOfferStore.new hlate (1121 * second) 0 0 offerRequest
  have hresponse := htold "default".toList "00000000-0000-0000-0000-000000000001".toList
    { partition := "default", id := 1 } "good.com" (by decide +kernel) rfl (by decide +kernel)
    (Finset.mem_singleton_self "default") (by decide +kernel)
  have htext := hresponse.trans (congrArg (fun message =>
    LnUrlResponse.ofError { status := StatusCode.badRequest, message }) hmessage)
  rw [← htext]
  exact hanswer

end Sample

end Switchgear.LnUrl
