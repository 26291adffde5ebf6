/-
  Switchgear.LnUrl.Invoice — `LnUrlPayHandlers::invoice`, behind the partition
  layer and the extractors, and when it asks the balancer for an invoice.

  The handler compares the length of the comment in BYTES with the number the
  operator allows in characters.  Main result:

    * `invoice_gate_iff` — the balancer is asked exactly for the requests that
      are to be paid, if and only if their comments also fit in bytes.
-/
import Switchgear.LnUrl.CallbackHost
import Switchgear.Offer.Provider

namespace Switchgear.LnUrl

open Switchgear.Lib Switchgear.Offer Switchgear.Service

/-! ## §1. The request. -/

/-- A request to `/offers/{partition}/{id}/invoice`: the parameters of the path and the pairs
of the query are decoded. -/
structure InvoiceRequest where
  headers : RequestHeaders
  path : Option (String × String)
  query : List (String × String)

structure InvoiceParameters where
  amount : UInt64
  comment : Option String
  deriving DecidableEq

/-- `Query<InvoiceParameters>`; other fields are ignored. -/
def InvoiceParameters.fromQuery (query : List (String × String)) : Option InvoiceParameters := do
  let amount ← UrlPath.formField "amount" query
  let comment ← UrlPath.formField "comment" query
  let amount ← amount.bind UrlPath.parseUsize
  return { amount, comment }

/-! ## §2. The handler. -/

structure LnUrlInvoice where
  pr : String
  routes : List Empty
  deriving DecidableEq

/-- `PartitionsService::call`: `ok` hands the request to the inner service. -/
def PartitionsService.call (parseUuid : String → Option Uuid) (partitions : Finset String)
    (path : Option (String × String)) : Except Refusal Unit :=
  match UuidParam.fromRequestParts parseUuid path with
  | .error status => .error (.rejected status)
  | .ok uuidParam =>
      if uuidParam.partition ∈ partitions then .ok ()
      else
        .error (.failed (.notFound ("offer not found: " ++ Uuid.hyphenated uuidParam.id)))

variable {A E B σ : Type} [HasServiceErrorSource E] [ToString E] [HasServiceErrorSource B]
  [ToString B]

/-- The key of the selection: the bytes of the comment. -/
def commentKey (commentAllowed : UInt32) (comment : Option String) :
    Except LnUrlPayServiceError Bytes :=
  match comment with
  | none => .ok []
  | some comment =>
      if (utf8 comment).length > commentAllowed.toNat then .error (.badRequest "invalid comment")
      else .ok (utf8 comment)

/-- `LnUrlPayHandlers::invoice`, with the calls of the balancer it makes.  The lookup of the
offer is that of `get_offer`, written out once more in the source. -/
def invoice (state : LnUrlPayState E B) (now : DateTime) (hostname : String)
    (uuidParam : UuidParam) (params : InvoiceParameters) :
    Except LnUrlPayServiceError (LnUrlPayResponse LnUrlInvoice) × List InvoiceCall :=
  let commentAllowed := state.commentAllowed.getD 0
  match commentKey commentAllowed params.comment with
  | .error e => (.error e, [])
  | .ok key =>
      match getOffer state now hostname uuidParam.partition uuidParam.id with
      | .error e => (.error e, [])
      | .ok offer =>
          if params.amount < offer.minSendable ∨ offer.maxSendable < params.amount then
            (.error (.badRequest ("Amount " ++ toString params.amount
              ++ " is outside valid range [" ++ toString offer.minSendable ++ ", "
              ++ toString offer.maxSendable ++ "]")), [])
          else
            let call : InvoiceCall :=
              { offer, amountMsat := params.amount, expirySecs := state.invoiceExpiry, key }
            match state.balancer call with
            | .error e => (.error (.fromServiceError e), [call])
            | .ok pr =>
                (.ok { body := { pr, routes := [] }, status := StatusCode.ok,
                       headers := noCacheHeaders }, [call])

/-- What the extractors read of a request. -/
structure InvoiceArguments where
  hostname : String
  uuidParam : UuidParam
  params : InvoiceParameters

/-- The extractors `ValidatedHost`, `UuidParam` and `Query`, in this order. -/
def extractInvoice (env : LnUrlPayEnv) (parseUuid : String → Option Uuid)
    (allowedHosts : Finset String) (request : InvoiceRequest) :
    Except StatusCode InvoiceArguments :=
  match ValidatedHost.fromRequestParts env.extractHost allowedHosts request.headers with
  | .error status => .error status
  | .ok hostname =>
      match UuidParam.fromRequestParts parseUuid request.path with
      | .error status => .error status
      | .ok uuidParam =>
          match InvoiceParameters.fromQuery request.query with
          | none => .error StatusCode.badRequest
          | some params => .ok { hostname, uuidParam, params }

/-- `GET /offers/{partition}/{id}/invoice`. -/
def serveInvoice (env : LnUrlPayEnv) (parseUuid : String → Option Uuid)
    (state : LnUrlPayState E B) (now : DateTime) (request : InvoiceRequest) :
    Except Refusal (LnUrlPayResponse LnUrlInvoice) × List InvoiceCall :=
  match PartitionsService.call parseUuid state.partitions request.path with
  | .error refusal => (.error refusal, [])
  | .ok () =>
      match extractInvoice env parseUuid state.allowedHosts request with
      | .error status => (.error (.rejected status), [])
      | .ok read =>
          let (result, calls) := invoice state now read.hostname read.uuidParam read.params
          (result.mapError .failed, calls)

/-- The status of a refusal. -/
def Refusal.status : Refusal → StatusCode
  | .rejected status => status
  | .failed error => error.status

/-! ## §3. The requests that are to be paid. -/

/-- The provider of the state reads a store, and the store does not fail. -/
structure ReadsStore (text : OfferText A) (sha256 : Sha256) (store : OfferStore A σ E) (s : σ)
    (state : LnUrlPayState E B) : Prop where
  provider : ∀ hostname partition id, state.offerProvider hostname partition id
    = (StoreOfferProvider.offer text sha256 store hostname partition id s).1
  succeeds : ∀ partition id, ∃ found, (store.getOffer partition id (some false) s).1 = .ok found

/-- The offer of a stored record and its metadata. -/
def Stored (text : OfferText A) (sha256 : Sha256) (store : OfferStore A σ E) (s : σ)
    (uuidParam : UuidParam) (offer : Offer) : Prop :=
  ∃ record metadata,
    (store.getOffer uuidParam.partition uuidParam.id (some false) s).1 = .ok (some record)
    ∧ record.offer.metadata = some metadata ∧ offer = text.toOffer sha256 record metadata

/-- The offer is open, the amount is in its range, and the comment is allowed; `size` is the
unit the comment is measured in. -/
structure Accepts (size : String → ℕ) (state : LnUrlPayState E B) (now : DateTime)
    (offer : Offer) (params : InvoiceParameters) : Prop where
  started : offer.timestamp ≤ now
  notExpired : ∀ expires ∈ offer.expires, now ≤ expires
  atLeast : offer.minSendable ≤ params.amount
  atMost : params.amount ≤ offer.maxSendable
  comment : ∀ comment ∈ params.comment, size comment ≤ (state.commentAllowed.getD 0).toNat

/-- The call that pays a request. -/
def invoiceCall (state : LnUrlPayState E B) (offer : Offer) (params : InvoiceParameters) :
    InvoiceCall :=
  { offer
    amountMsat := params.amount
    expirySecs := state.invoiceExpiry
    key := (params.comment.map utf8).getD [] }

section Gate

variable (env : LnUrlPayEnv) (text : OfferText A) (sha256 : Sha256) (store : OfferStore A σ E)
  (s : σ) (state : LnUrlPayState E B) (now : DateTime) (request : InvoiceRequest)

/-- The request is to be paid by a call: it is well formed, its partition is served, its offer
and the metadata are there, and the offer accepts it. -/
def Asks (size : String → ℕ) (call : InvoiceCall) : Prop :=
  ∃ read offer, extractInvoice env text.parseUuid state.allowedHosts request = .ok read
    ∧ read.uuidParam.partition ∈ state.partitions
    ∧ Stored text sha256 store s read.uuidParam offer
    ∧ Accepts size state now offer read.params
    ∧ call = invoiceCall state offer read.params

/-- The balancer is called once, with the call a request asks for in characters, and for any
other request not at all: the answer is then 404 or 400. -/
structure InvoiceGate : Prop where
  called : ∀ call, (serveInvoice env text.parseUuid state now request).2 = [call]
    ↔ Asks env text sha256 store s state now request String.length call
  refused : (¬ ∃ call, Asks env text sha256 store s state now request String.length call) →
    (serveInvoice env text.parseUuid state now request).2 = []
    ∧ ∃ refusal, (serveInvoice env text.parseUuid state now request).1 = .error refusal
        ∧ (refusal.status = StatusCode.notFound ∨ refusal.status = StatusCode.badRequest)

end Gate

/-! ## §4. What the handler does. -/

theorem isExpired_eq_false_iff (now : DateTime) (offer : Offer) :
    offer.isExpired now = false
      ↔ offer.timestamp ≤ now ∧ ∀ expires ∈ offer.expires, now ≤ expires := by
  unfold Offer.isExpired
  by_cases hstarted : now < offer.timestamp
  · have hnot : ¬ offer.timestamp ≤ now := not_le.mpr hstarted
    rw [if_pos hstarted]
    simp [hnot]
  · rw [if_neg hstarted]
    have hle : offer.timestamp ≤ now := not_lt.mp hstarted
    cases hexpires : offer.expires with
    | none => simp [hle]
    | some expires => simp [hle]

theorem commentKey_cases (commentAllowed : UInt32) (comment : Option String) :
    (commentKey commentAllowed comment = .ok ((comment.map utf8).getD [])
        ∧ ∀ text ∈ comment, (utf8 text).length ≤ commentAllowed.toNat)
    ∨ (commentKey commentAllowed comment = .error (.badRequest "invalid comment")
        ∧ ¬ ∀ text ∈ comment, (utf8 text).length ≤ commentAllowed.toNat) := by
  cases comment with
  | none => exact .inl ⟨rfl, by simp⟩
  | some text =>
      unfold commentKey
      by_cases hlong : (utf8 text).length > commentAllowed.toNat
      · right
        refine ⟨if_pos hlong, ?_⟩
        intro h
        exact absurd (h text rfl) (by omega)
      · left
        refine ⟨if_neg hlong, ?_⟩
        rintro _ ⟨⟩
        omega

section Handler

variable {text : OfferText A} {sha256 : Sha256} {store : OfferStore A σ E} {s : σ}
  {state : LnUrlPayState E B}

omit [HasServiceErrorSource E] [ToString E] [HasServiceErrorSource B] [ToString B] in
theorem ReadsStore.stored_iff (h : ReadsStore text sha256 store s state) (hostname : String)
    (uuidParam : UuidParam) (offer : Offer) :
    state.offerProvider hostname uuidParam.partition uuidParam.id = .ok (some offer)
      ↔ Stored text sha256 store s uuidParam offer := by
  rw [h.provider]
  unfold Stored StoreOfferProvider.offer
  obtain ⟨found, hfound⟩ := h.succeeds uuidParam.partition uuidParam.id
  rcases hget : store.getOffer uuidParam.partition uuidParam.id (some false) s with ⟨result, s'⟩
  rw [hget] at hfound
  obtain rfl : result = .ok found := hfound
  cases found with
  | none => simp
  | some record =>
      cases hmetadata : record.offer.metadata with
      | none => simp [hmetadata]
      | some metadata => simp [hmetadata, eq_comm]

omit [HasServiceErrorSource E] [ToString E] in
theorem Stored.unique {uuidParam : UuidParam} {offer offer' : Offer}
    (h : Stored text sha256 store s uuidParam offer)
    (h' : Stored text sha256 store s uuidParam offer') : offer = offer' := by
  obtain ⟨record, metadata, hget, hmetadata, rfl⟩ := h
  obtain ⟨record', metadata', hget', hmetadata', rfl⟩ := h'
  obtain rfl : record = record' := by
    rw [hget] at hget'
    exact Option.some.inj (Except.ok.inj hget')
  obtain rfl : metadata = metadata' := by
    rw [hmetadata] at hmetadata'
    exact Option.some.inj hmetadata'
  rfl

omit [HasServiceErrorSource E] [ToString E] [HasServiceErrorSource B] [ToString B] in
theorem ReadsStore.provider_ok (h : ReadsStore text sha256 store s state) (hostname : String)
    (uuidParam : UuidParam) :
    ∃ found, state.offerProvider hostname uuidParam.partition uuidParam.id = .ok found := by
  rw [h.provider]
  unfold StoreOfferProvider.offer
  obtain ⟨found, hfound⟩ := h.succeeds uuidParam.partition uuidParam.id
  rcases hget : store.getOffer uuidParam.partition uuidParam.id (some false) s with ⟨result, s'⟩
  rw [hget] at hfound
  obtain rfl : result = .ok found := hfound
  cases found with
  | none => exact ⟨none, rfl⟩
  | some record => cases hmetadata : record.offer.metadata <;> simp [hmetadata]

omit [HasServiceErrorSource B] [ToString B] in
/-- An offer is found when it is stored and open; nothing else is wrong than that. -/
theorem getOffer_cases (h : ReadsStore text sha256 store s state) (now : DateTime)
    (hostname : String) (uuidParam : UuidParam) :
    (∃ offer, Stored text sha256 store s uuidParam offer ∧ offer.isExpired now = false
        ∧ getOffer state now hostname uuidParam.partition uuidParam.id = .ok offer)
    ∨ ((∀ offer, Stored text sha256 store s uuidParam offer → offer.isExpired now = true)
        ∧ ∃ e, getOffer state now hostname uuidParam.partition uuidParam.id = .error e
            ∧ e.status = StatusCode.notFound) := by
  obtain ⟨found, hfound⟩ := h.provider_ok hostname uuidParam
  have hstored := h.stored_iff hostname uuidParam
  unfold getOffer
  rw [hfound] at hstored ⊢
  cases found with
  | none =>
      right
      refine ⟨?_, _, rfl, rfl⟩
      intro offer hoffer
      cases (hstored offer).mpr hoffer
  | some offer =>
      dsimp only
      cases hexpired : offer.isExpired now with
      | true =>
          right
          refine ⟨?_, _, rfl, rfl⟩
          intro offer' hoffer'
          obtain rfl : offer = offer' := by simpa using (hstored offer').mpr hoffer'
          exact hexpired
      | false => exact .inl ⟨offer, (hstored offer).mp rfl, hexpired, rfl⟩

/-- What the code measures a comment in. -/
def byteSize (comment : String) : ℕ := (utf8 comment).length

/-- The handler calls the balancer once for what it accepts in bytes, and refuses the rest. -/
theorem invoice_cases (h : ReadsStore text sha256 store s state) (now : DateTime)
    (hostname : String) (uuidParam : UuidParam) (params : InvoiceParameters) :
    (∃ offer, Stored text sha256 store s uuidParam offer
        ∧ Accepts byteSize state now offer params
        ∧ (invoice state now hostname uuidParam params).2 = [invoiceCall state offer params])
    ∨ ((∀ offer, Stored text sha256 store s uuidParam offer →
          ¬ Accepts byteSize state now offer params)
        ∧ (invoice state now hostname uuidParam params).2 = []
        ∧ ∃ e, (invoice state now hostname uuidParam params).1 = .error e
            ∧ (e.status = StatusCode.notFound ∨ e.status = StatusCode.badRequest)) := by
  unfold invoice
  dsimp only
  rcases commentKey_cases (state.commentAllowed.getD 0) params.comment with
    ⟨hkey, hcomment⟩ | ⟨hkey, hcomment⟩
  · rw [hkey]
    dsimp only
    rcases getOffer_cases h now hostname uuidParam with
      ⟨offer, hoffer, hopen, hget⟩ | ⟨hnone, e, hget, hstatus⟩
    · rw [hget]
      dsimp only
      obtain ⟨hstarted, hexpires⟩ := (isExpired_eq_false_iff now offer).mp hopen
      by_cases hrange : params.amount < offer.minSendable ∨ offer.maxSendable < params.amount
      · rw [if_pos hrange]
        refine .inr ⟨?_, rfl, _, rfl, .inr rfl⟩
        intro offer' hoffer' haccepts
        obtain rfl := hoffer.unique hoffer'
        rcases hrange with hlow | hhigh
        · exact absurd haccepts.atLeast (UInt64.not_le.mpr hlow)
        · exact absurd haccepts.atMost (UInt64.not_le.mpr hhigh)
      · rw [if_neg hrange]
        obtain ⟨hatLeast, hatMost⟩ := not_or.mp hrange
        refine .inl ⟨offer, hoffer, ⟨hstarted, hexpires, UInt64.not_lt.mp hatLeast,
          UInt64.not_lt.mp hatMost, hcomment⟩, ?_⟩
        -- the balancer's answer does not change that it was called
        cases hbalancer : state.balancer (invoiceCall state offer params) with
        | error e =>
            unfold invoiceCall at hbalancer
            rw [hbalancer]
            rfl
        | ok pr =>
            unfold invoiceCall at hbalancer
            rw [hbalancer]
            rfl
    · rw [hget]
      refine .inr ⟨?_, rfl, e, rfl, .inl hstatus⟩
      intro offer hoffer haccepts
      have hopen := (isExpired_eq_false_iff now offer).mpr ⟨haccepts.started, haccepts.notExpired⟩
      rw [hnone offer hoffer] at hopen
      cases hopen
  · rw [hkey]
    refine .inr ⟨?_, rfl, _, rfl, .inr rfl⟩
    intro offer _ haccepts
    exact hcomment haccepts.comment

end Handler

/-! ## §5. The whole route. -/

section Route

variable {env : LnUrlPayEnv} {text : OfferText A} {sha256 : Sha256} {store : OfferStore A σ E}
  {s : σ} {state : LnUrlPayState E B} {now : DateTime} {request : InvoiceRequest}

/-- An extractor before the query rejects with 404 or 400. -/
theorem extractInvoice_error {parseUuid : String → Option Uuid} {allowedHosts : Finset String}
    {status : StatusCode}
    (h : extractInvoice env parseUuid allowedHosts request = .error status) :
    status = StatusCode.notFound ∨ status = StatusCode.badRequest := by
  have hhost : ∀ status', ValidatedHost.fromRequestParts env.extractHost allowedHosts
      request.headers = .error status' → status' = StatusCode.badRequest := by
    intro status' hstatus
    unfold ValidatedHost.fromRequestParts at hstatus
    cases hextract : env.extractHost request.headers with
    | none =>
        rw [hextract] at hstatus
        cases hstatus
        rfl
    | some hostname =>
        rw [hextract] at hstatus
        dsimp only at hstatus
        split at hstatus
        · cases hstatus
          rfl
        · cases hstatus
  have hpath : ∀ status', UuidParam.fromRequestParts parseUuid request.path = .error status' →
      status' = StatusCode.notFound := by
    intro status' hstatus
    unfold UuidParam.fromRequestParts at hstatus
    split at hstatus
    · cases hstatus
      rfl
    · split at hstatus
      · cases hstatus
        rfl
      · cases hstatus
  unfold extractInvoice at h
  split at h
  · rename_i status' hstatus
    cases h
    exact .inr (hhost _ hstatus)
  · split at h
    · rename_i status' hstatus
      cases h
      exact .inl (hpath _ hstatus)
    · split at h
      · cases h
        exact .inr rfl
      · cases h

theorem extractInvoice_uuidParam {parseUuid : String → Option Uuid}
    {allowedHosts : Finset String} {read : InvoiceArguments}
    (h : extractInvoice env parseUuid allowedHosts request = .ok read) :
    UuidParam.fromRequestParts parseUuid request.path = .ok read.uuidParam := by
  unfold extractInvoice at h
  split at h
  · cases h
  · split at h
    · cases h
    · rename_i uuidParam huuidParam
      split at h
      · cases h
      · cases h
        exact huuidParam

/-- The layer hands a request on when its partition is served, and answers 404 otherwise. -/
theorem partitions_cases (parseUuid : String → Option Uuid) (partitions : Finset String)
    (path : Option (String × String)) :
    (∃ uuidParam, UuidParam.fromRequestParts parseUuid path = .ok uuidParam
        ∧ uuidParam.partition ∈ partitions
        ∧ PartitionsService.call parseUuid partitions path = .ok ())
    ∨ ((∀ uuidParam, UuidParam.fromRequestParts parseUuid path = .ok uuidParam →
          uuidParam.partition ∉ partitions)
        ∧ ∃ refusal, PartitionsService.call parseUuid partitions path = .error refusal
            ∧ refusal.status = StatusCode.notFound) := by
  unfold PartitionsService.call
  cases hparam : UuidParam.fromRequestParts parseUuid path with
  | error status =>
      right
      refine ⟨by simp, _, rfl, ?_⟩
      unfold UuidParam.fromRequestParts at hparam
      split at hparam
      · cases hparam
        rfl
      · split at hparam
        · cases hparam
          rfl
        · cases hparam
  | ok uuidParam =>
      dsimp only
      by_cases hserved : uuidParam.partition ∈ partitions
      · exact .inl ⟨uuidParam, rfl, hserved, if_pos hserved⟩
      · right
        rw [if_neg hserved]
        refine ⟨?_, _, rfl, rfl⟩
        rintro _ ⟨⟩
        exact hserved

variable (env now request) in
/-- The route calls the balancer once for what is to be paid in bytes, and refuses the rest. -/
theorem serveInvoice_cases (h : ReadsStore text sha256 store s state) :
    (∃ call, Asks env text sha256 store s state now request byteSize call
        ∧ (serveInvoice env text.parseUuid state now request).2 = [call])
    ∨ ((∀ call, ¬ Asks env text sha256 store s state now request byteSize call)
        ∧ (serveInvoice env text.parseUuid state now request).2 = []
        ∧ ∃ refusal, (serveInvoice env text.parseUuid state now request).1 = .error refusal
            ∧ (refusal.status = StatusCode.notFound ∨ refusal.status = StatusCode.badRequest)) := by
  unfold serveInvoice
  rcases partitions_cases text.parseUuid state.partitions request.path with
    ⟨uuidParam, hparam, hserved, hcall⟩ | ⟨hunserved, refusal, hcall, hstatus⟩
  · rw [hcall]
    dsimp only
    cases hread : extractInvoice env text.parseUuid state.allowedHosts request with
    | error status =>
        refine .inr ⟨?_, rfl, _, rfl, extractInvoice_error hread⟩
        rintro call ⟨read, offer, hread', -⟩
        rw [hread] at hread'
        cases hread'
    | ok read =>
        obtain rfl : uuidParam = read.uuidParam := by
          rw [extractInvoice_uuidParam hread] at hparam
          exact (Except.ok.inj hparam).symm
        dsimp only
        rcases invoice_cases h now read.hostname read.uuidParam read.params with
          ⟨offer, hoffer, haccepts, hcalls⟩ | ⟨hnone, hcalls, e, herror, hstatus⟩
        · exact .inl ⟨_, ⟨read, offer, hread, hserved, hoffer, haccepts, rfl⟩, hcalls⟩
        · rw [herror]
          refine .inr ⟨?_, hcalls, _, rfl, hstatus⟩
          rintro call ⟨read', offer, hread', -, hoffer, haccepts, -⟩
          obtain rfl : read = read' := by
            rw [hread] at hread'
            exact Except.ok.inj hread'
          exact hnone offer hoffer haccepts
  · rw [hcall]
    refine .inr ⟨?_, rfl, _, rfl, .inl hstatus⟩
    rintro call ⟨read, offer, hread, hserved, -⟩
    exact hunserved _ (extractInvoice_uuidParam hread) hserved

omit [HasServiceErrorSource E] [ToString E] [HasServiceErrorSource B] [ToString B] in
/-- A request asks for at most one call, whatever the unit. -/
theorem Asks.unique {size size' : String → ℕ} {call call' : InvoiceCall}
    (h : Asks env text sha256 store s state now request size call)
    (h' : Asks env text sha256 store s state now request size' call') : call = call' := by
  obtain ⟨read, offer, hread, -, hoffer, -, rfl⟩ := h
  obtain ⟨read', offer', hread', -, hoffer', -, rfl⟩ := h'
  obtain rfl : read = read' := by
    rw [hread] at hread'
    exact Except.ok.inj hread'
  obtain rfl := hoffer.unique hoffer'
  rfl

omit [HasServiceErrorSource E] [ToString E] [HasServiceErrorSource B] [ToString B] in
/-- To be paid in bytes is to be paid in characters, with a comment that fits in bytes. -/
theorem asks_byteSize_iff (call : InvoiceCall) :
    Asks env text sha256 store s state now request byteSize call
      ↔ Asks env text sha256 store s state now request String.length call
        ∧ call.key.length ≤ (state.commentAllowed.getD 0).toNat := by
  constructor
  · rintro ⟨read, offer, hread, hserved, hoffer, haccepts, rfl⟩
    refine ⟨⟨read, offer, hread, hserved, hoffer, { haccepts with comment := ?_ }, rfl⟩, ?_⟩
    · intro comment hcomment
      have hbytes : byteSize comment ≤ _ := haccepts.comment comment hcomment
      have hchars := length_le_length_utf8 comment
      unfold byteSize at hbytes
      omega
    · unfold invoiceCall
      cases hcomment : read.params.comment with
      | none => simp
      | some comment => exact haccepts.comment comment hcomment
  · rintro ⟨⟨read, offer, hread, hserved, hoffer, haccepts, rfl⟩, hkey⟩
    refine ⟨read, offer, hread, hserved, hoffer, { haccepts with comment := ?_ }, rfl⟩
    intro comment hcomment
    unfold invoiceCall at hkey
    rw [Option.mem_def] at hcomment
    rw [hcomment] at hkey
    exact hkey

variable (env now request) in
/-- **The gate to the balancer is exact** if and only if the comment of every request that is
to be paid also fits in bytes. -/
theorem invoice_gate_iff (h : ReadsStore text sha256 store s state) :
    InvoiceGate env text sha256 store s state now request
      ↔ ∀ call, Asks env text sha256 store s state now request String.length call →
          call.key.length ≤ (state.commentAllowed.getD 0).toNat := by
  constructor
  · intro hgate call hasks
    have hcalls := (hgate.called call).mpr hasks
    rcases serveInvoice_cases env now request h with
      ⟨call', hasks', hcalls'⟩ | ⟨-, hcalls', -⟩
    · rw [hcalls'] at hcalls
      obtain rfl : call' = call := List.singleton_inj.mp hcalls
      exact ((asks_byteSize_iff call').mp hasks').2
    · rw [hcalls'] at hcalls
      cases hcalls
  · intro hfits
    have hunits : ∀ call, Asks env text sha256 store s state now request String.length call
        ↔ Asks env text sha256 store s state now request byteSize call := by
      intro call
      rw [asks_byteSize_iff]
      exact ⟨fun hasks => ⟨hasks, hfits call hasks⟩, And.left⟩
    constructor
    · intro call
      rw [hunits]
      rcases serveInvoice_cases env now request h with
        ⟨call', hasks', hcalls'⟩ | ⟨hnone, hcalls', -⟩
      · rw [hcalls', List.singleton_inj]
        constructor
        · intro heq
          exact heq ▸ hasks'
        · intro hasks
          exact hasks'.unique hasks
      · rw [hcalls']
        constructor
        · intro hcalls
          cases hcalls
        · intro hasks
          exact absurd hasks (hnone call)
    · intro hnone
      rcases serveInvoice_cases env now request h with
        ⟨call', hasks', -⟩ | ⟨-, hcalls', hrefused⟩
      · exact absurd ⟨call', (hunits call').mpr hasks'⟩ hnone
      · exact ⟨hcalls', hrefused⟩

end Route

/-! ## §6. Two comments of four characters. -/

/-- An offer for 1 to 1000 msat, open from the epoch on. -/
def coffeeRecord : OfferRecord String where
  partition := "default"
  id := 1
  offer :=
    { maxSendable := 1000, minSendable := 1, metadataId := 7, metadata := none, timestamp := 0,
      expires := none }

/-- A store with this offer. -/
def coffeeStore : MemoryOfferStore String :=
  (MemoryOfferStore.machine.run MemoryOfferStore.new
    [(0, .postMetadata { id := 7, partition := "default", metadata := coffee }),
     (0, .postOffer coffeeRecord)]).2

/-- Serves the store, with comments of four characters. -/
def coffeeState : LnUrlPayState OfferStoreError OfferStoreError :=
  { sampleState with
    offerProvider := fun hostname partition id =>
      (StoreOfferProvider.offer plainText coffeeHash MemoryOfferStore.offerStore hostname
        partition id coffeeStore).1
    commentAllowed := some 4 }

def coffeeRequest (comment : String) : InvoiceRequest where
  headers := hostHeader "good.com"
  path := some ("default", "00000000-0000-0000-0000-000000000001")
  query := [("amount", "1000"), ("comment", comment)]

theorem coffeeState_readsStore :
    ReadsStore plainText coffeeHash MemoryOfferStore.offerStore coffeeStore coffeeState :=
  ⟨fun _ _ _ => rfl, fun _ _ => ⟨_, rfl⟩⟩

/-- What a request is read as. -/
def coffeeArguments (comment : String) : InvoiceArguments where
  hostname := "good.com"
  uuidParam := { partition := "default", id := 1 }
  params := { amount := 1000, comment := some comment }

theorem extract_coffeeRequest (comment : String) :
    extractInvoice goodEnv plainText.parseUuid coffeeState.allowedHosts (coffeeRequest comment)
      = .ok (coffeeArguments comment) := by
  have hhost : ValidatedHost.fromRequestParts goodEnv.extractHost coffeeState.allowedHosts
      (hostHeader "good.com") = .ok "good.com" := by decide
  have hid : UuidParam.fromRequestParts plainText.parseUuid
      (some ("default", "00000000-0000-0000-0000-000000000001"))
      = .ok { partition := "default", id := 1 } := by decide
  unfold extractInvoice coffeeRequest
  dsimp only
  rw [hhost, hid]
  rfl

def coffeeOffer : Offer where
  partition := "default"
  id := 1
  maxSendable := 1000
  minSendable := 1
  metadataJsonString := "[[\"text/plain\",\"coffee\"]]"
  metadataJsonHash := coffeeHash.digest (utf8 "[[\"text/plain\",\"coffee\"]]")
  timestamp := 0
  expires := none

theorem coffeeOffer_stored (comment : String) :
    Stored plainText coffeeHash MemoryOfferStore.offerStore coffeeStore
      (coffeeArguments comment).uuidParam coffeeOffer := by
  refine ⟨coffeeRecord.withMetadata coffee, coffee, ?_, rfl, by decide⟩
  show (MemoryOfferStore.getOffer "default" 1 (some false) coffeeStore).1 = _
  decide

/-- Four ASCII characters fit, and the gate is exact. -/
theorem invoice_gate_iff_ascii :
    InvoiceGate goodEnv plainText coffeeHash MemoryOfferStore.offerStore coffeeStore coffeeState 0
      (coffeeRequest "java") := by
  refine (invoice_gate_iff goodEnv 0 (coffeeRequest "java") coffeeState_readsStore).mpr ?_
  rintro call ⟨read, offer, hread, -, -, -, rfl⟩
  obtain rfl : coffeeArguments "java" = read := by
    rw [extract_coffeeRequest] at hread
    exact Except.ok.inj hread
  show (utf8 "java").length ≤ 4
  decide

example : (serveInvoice goodEnv plainText.parseUuid coffeeState 0 (coffeeRequest "java")).1.isOk := by
  decide

/-- Four characters that take five bytes are refused. -/
theorem accented_comment_is_refused :
    ¬ ∀ (env : LnUrlPayEnv) (text : OfferText String) (sha256 : Sha256)
        (store : OfferStore String (MemoryOfferStore String) OfferStoreError)
        (s : MemoryOfferStore String) (state : LnUrlPayState OfferStoreError OfferStoreError)
        (now : DateTime) (request : InvoiceRequest),
      ReadsStore text sha256 store s state →
      InvoiceGate env text sha256 store s state now request := by
  intro h
  have hgate := h goodEnv plainText coffeeHash MemoryOfferStore.offerStore coffeeStore coffeeState 0
    (coffeeRequest "café") coffeeState_readsStore
  have hasks : Asks goodEnv plainText coffeeHash MemoryOfferStore.offerStore coffeeStore
      coffeeState 0 (coffeeRequest "café") String.length
      (invoiceCall coffeeState coffeeOffer (coffeeArguments "café").params) := by
    refine ⟨coffeeArguments "café", coffeeOffer, extract_coffeeRequest "café", by decide,
      coffeeOffer_stored "café", ⟨by decide, by decide, by decide, by decide, ?_⟩, rfl⟩
    rintro _ ⟨⟩
    decide
  have hcalls := (hgate.called _).mpr hasks
  have hnone : (serveInvoice goodEnv plainText.parseUuid coffeeState 0
      (coffeeRequest "café")).2 = [] := by decide
  rw [hnone] at hcalls
  cases hcalls

end Switchgear.LnUrl
