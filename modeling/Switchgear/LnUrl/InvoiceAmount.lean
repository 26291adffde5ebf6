/-
  Switchgear.LnUrl.InvoiceAmount — the amount of a request on its way from the
  wallet to a node.

  The handler checks the amount against the range of the offer, which nothing
  checks in turn; the balancer and the pool hand it on as `Some`; a client
  writes it into a field of its node's protocol.  `value_msat` of LND is signed,
  and 0 there stands for an invoice of any amount.

  Main result:
    * `invoice_amount_iff` — a request that is sent denotes the amount of the
      wallet if and only if it goes to a CLN node or the amount is above 0 and
      below 2^63.
-/
import Switchgear.LnUrl.Invoice
import Switchgear.Pool.Clients
import Switchgear.Pingora.Invoice

namespace Switchgear.LnUrl

open Switchgear.Lib Switchgear.Offer Switchgear.Service Switchgear.Pool Switchgear.Pingora
open Std (ExtTreeMap TransOrd)

/-! ## §1. What a node reads. -/

/-- The amount a node reads of a request; `none` is any amount. -/
def readAmount : NodeRequest → Option ℤ
  | .cln request =>
      match request.amountMsat with
      | .amount msat => some msat.toNat
      | .any => none
  | .lnd request => if request.valueMsat = 0 then none else some request.valueMsat.toInt

/-- **The request denotes the amount.** -/
def Denotes (sent : NodeRequest) (amountMsat : UInt64) : Prop :=
  readAmount sent = some (amountMsat.toNat : ℤ)

/-- The cast to a signed number keeps the numbers below 2^63. -/
theorem toInt_toInt64 (amount : UInt64) :
    amount.toInt64.toInt
      = if amount.toNat < 2 ^ 63 then (amount.toNat : ℤ) else (amount.toNat : ℤ) - 2 ^ 64 := by
  have hbits : amount.toInt64.toInt = amount.toBitVec.toInt := rfl
  rw [hbits, BitVec.toInt_eq_toNat_cond, UInt64.toNat_toBitVec]
  by_cases hsmall : amount.toNat < 2 ^ 63
  · rw [if_pos hsmall, if_pos (by omega)]
  · rw [if_neg hsmall, if_neg (by omega)]
    norm_num

theorem toInt64_eq_zero_iff (amount : UInt64) : amount.toInt64 = 0 ↔ amount.toNat = 0 := by
  have hvalue := toInt_toInt64 amount
  have hlt := amount.toNat_lt
  rw [← Int64.toInt_inj, hvalue, Int64.toInt_zero]
  split
  · omega
  · omega

theorem cln_denotes {sha256 : Sha256} {now : DateTime} {client : TonicClnGrpcClient}
    {amountMsat : UInt64} {description : Bolt11InvoiceDescription} {expirySecs : Option UInt64}
    {sent : NodeRequest}
    (h : client.getInvoice sha256 now (some amountMsat) description expirySecs = .ok sent) :
    Denotes sent amountMsat := by
  unfold TonicClnGrpcClient.getInvoice at h
  cases description with
  | direct d =>
      dsimp only at h
      split at h
      · cases h
      · cases h
        rfl
  | directIntoHash d =>
      dsimp only at h
      split at h
      · cases h
      · cases h
        rfl
  | hash bytes => cases h

theorem lnd_denotes_iff (sha256 : Sha256) (client : TonicLndGrpcClient) (amountMsat : UInt64)
    (description : Bolt11InvoiceDescription) (expirySecs : Option UInt64) :
    Denotes (client.getInvoice sha256 (some amountMsat) description expirySecs) amountMsat
      ↔ 0 < amountMsat.toNat ∧ amountMsat.toNat < 2 ^ 63 := by
  have hvalue := toInt_toInt64 amountMsat
  have hzero := toInt64_eq_zero_iff amountMsat
  show (if amountMsat.toInt64 = 0 then none else some amountMsat.toInt64.toInt)
    = some (amountMsat.toNat : ℤ) ↔ _
  by_cases hnone : amountMsat.toInt64 = 0
  · rw [if_pos hnone]
    have h := hzero.mp hnone
    constructor
    · intro hsome
      cases hsome
    · omega
  · rw [if_neg hnone, hvalue, Option.some.injEq]
    have hpos : amountMsat.toNat ≠ 0 := mt hzero.mpr hnone
    split
    · omega
    · omega

/-! ## §2. The balancer in front of its pool. -/

/-- A world of a balancer that has the pool and the requests sent so far in it, and whatever
else the balancer depends on. -/
structure PoolWorld (R : Type) where
  pool : LnClientPool BackendId LnRpcClient
  clock : DateTime
  /-- What the nodes answer. -/
  answers : NodeRequest → Except LnPoolError String
  sent : List NodeRequest
  rest : R

instance : Repr BackendId where
  reprPrec id _ := repr (id.addr, id.weight)

/-- `get_invoice` of the pool, with the request on its way. -/
def PoolWorld.getInvoice {R : Type} (sha256 : Sha256) (offer : Offer) (backend : Backend)
    (amountMsat expirySecs : Option UInt64) (world : PoolWorld R) :
    Except LnPoolError String × PoolWorld R :=
  match world.pool.getInvoice sha256 world.clock offer backend.id amountMsat expirySecs with
  | .error e => (.error e, world)
  | .ok request => (world.answers request, { world with sent := world.sent ++ [request] })

/-- The call of the handler, as the balancer takes it. -/
def balancerRequest (call : InvoiceCall) : Pingora.InvoiceRequest where
  offer := call.offer
  amountMsat := call.amountMsat
  expirySecs := call.expirySecs
  key := call.key

section Pool

variable {R B Bias : Type} {sha256 : Sha256}
  {balancer : PingoraLnBalancer (PoolWorld R) B Bias LnPoolError}

/-- The client under a key decides what its request denotes. -/
theorem pool_denotes_iff {pool : LnClientPool BackendId LnRpcClient} {now : DateTime} {offer : Offer}
    {id : BackendId} {amountMsat : UInt64} {expirySecs : Option UInt64} {sent : NodeRequest}
    (h : pool.getInvoice sha256 now offer id (some amountMsat) expirySecs = .ok sent) :
    Denotes sent amountMsat
      ↔ (∃ client, pool.pool[id]? = some (.cln client))
        ∨ 0 < amountMsat.toNat ∧ amountMsat.toNat < 2 ^ 63 := by
  unfold LnClientPool.getInvoice LnClientPool.getClient at h
  cases hclient : pool.pool[id]? with
  | none =>
      rw [hclient] at h
      cases h
  | some client =>
      rw [hclient] at h
      cases client with
      | cln client => exact iff_of_true (cln_denotes h) (.inl ⟨client, rfl⟩)
      | lnd client =>
          cases h
          rw [lnd_denotes_iff]
          constructor
          · exact .inr
          · intro h
            rcases h with ⟨client', hcln⟩ | h
            · cases hcln
            · exact h

/-- An RPC of the balancer sends at most one request, of the pool's making. -/
theorem getInvoiceFromBackend_sent (hpool : balancer.poolGetInvoice = PoolWorld.getInvoice sha256)
    (request : Pingora.InvoiceRequest) (backend : Backend) (world : PoolWorld R) :
    ∃ new, (balancer.getInvoiceFromBackend request backend world).2.sent = world.sent ++ new
      ∧ ∀ sent ∈ new, world.pool.getInvoice sha256 world.clock request.offer backend.id
          (some request.amountMsat) (some request.expirySecs) = .ok sent := by
  unfold PingoraLnBalancer.getInvoiceFromBackend
  rw [hpool]
  unfold PoolWorld.getInvoice
  cases hsent : world.pool.getInvoice sha256 world.clock request.offer backend.id
      (some request.amountMsat) (some request.expirySecs) with
  | error e => exact ⟨[], (List.append_nil _).symm, by simp⟩
  | ok sent =>
      refine ⟨[sent], rfl, ?_⟩
      intro sent' hmem
      rw [List.mem_singleton.mp hmem]

end Pool

/-! ## §3. From the wallet to the node. -/

section Wallet

variable {E B : Type} [HasServiceErrorSource E] [ToString E] [HasServiceErrorSource B] [ToString B]
  {env : LnUrlPayEnv} {parseUuid : String → Option Uuid} {state : LnUrlPayState E B}
  {now : DateTime} {request : InvoiceRequest} {call : InvoiceCall}

/-- Once the request is read: the handler calls the balancer with the amount it was asked for,
and only in the range of the offer. -/
theorem invoice_amount {hostname : String} {uuidParam : UuidParam} {params : InvoiceParameters}
    (hcall : call ∈ (invoice state now hostname uuidParam params).2) :
    call.amountMsat = params.amount
      ∧ call.offer.minSendable ≤ params.amount ∧ params.amount ≤ call.offer.maxSendable := by
  unfold invoice at hcall
  dsimp only at hcall
  cases hkey : commentKey (state.commentAllowed.getD 0) params.comment with
  | error e =>
      rw [hkey] at hcall
      cases hcall
  | ok key =>
      rw [hkey] at hcall
      dsimp only at hcall
      cases hoffer : getOffer state now hostname uuidParam.partition uuidParam.id with
      | error e =>
          rw [hoffer] at hcall
          cases hcall
      | ok offer =>
          rw [hoffer] at hcall
          dsimp only at hcall
          by_cases hrange : params.amount < offer.minSendable ∨ offer.maxSendable < params.amount
          · rw [if_pos hrange] at hcall
            cases hcall
          · rw [if_neg hrange] at hcall
            rw [not_or, UInt64.not_lt, UInt64.not_lt] at hrange
            -- the balancer's answer does not change what it was called with
            have hsame : call =
                { offer, amountMsat := params.amount, expirySecs := state.invoiceExpiry, key } := by
              split at hcall
              · exact List.mem_singleton.mp hcall
              · exact List.mem_singleton.mp hcall
            rw [hsame]
            exact ⟨rfl, hrange.1, hrange.2⟩

theorem serveInvoice_amount (hcall : call ∈ (serveInvoice env parseUuid state now request).2) :
    ∃ read, extractInvoice env parseUuid state.allowedHosts request = .ok read
      ∧ call.amountMsat = read.params.amount
      ∧ call.offer.minSendable ≤ read.params.amount
      ∧ read.params.amount ≤ call.offer.maxSendable := by
  unfold serveInvoice at hcall
  cases hpartition : PartitionsService.call parseUuid state.partitions request.path with
  | error refusal =>
      rw [hpartition] at hcall
      cases hcall
  | ok served =>
      rw [hpartition] at hcall
      dsimp only at hcall
      cases hread : extractInvoice env parseUuid state.allowedHosts request with
      | error status =>
          rw [hread] at hcall
          cases hcall
      | ok read =>
          rw [hread] at hcall
          dsimp only at hcall
          exact ⟨read, rfl, invoice_amount hcall⟩

/-- **The amount on its way**: for every content of the store, every request that the handler
takes to the balancer, every balancer in front of the pool, every backend and every client
under it, the amount was in the range of the offer, and a request that is sent denotes it if
and only if the client is of CLN, or the amount is above 0 and below 2^63. -/
theorem invoice_amount_iff (hcall : call ∈ (serveInvoice env parseUuid state now request).2)
    {R C Bias : Type} {sha256 : Sha256}
    {balancer : PingoraLnBalancer (PoolWorld R) C Bias LnPoolError}
    (hpool : balancer.poolGetInvoice = PoolWorld.getInvoice sha256) (backend : Backend)
    (world : PoolWorld R) :
    ∃ read new, extractInvoice env parseUuid state.allowedHosts request = .ok read
      ∧ call.offer.minSendable ≤ read.params.amount
      ∧ read.params.amount ≤ call.offer.maxSendable
      ∧ (balancer.getInvoiceFromBackend (balancerRequest call) backend world).2.sent
          = world.sent ++ new
      ∧ ∀ sent ∈ new, (Denotes sent read.params.amount
          ↔ (∃ client, world.pool.pool[backend.id]? = some (.cln client))
            ∨ 0 < read.params.amount.toNat ∧ read.params.amount.toNat < 2 ^ 63) := by
  obtain ⟨read, hread, hamount, hmin, hmax⟩ := serveInvoice_amount hcall
  obtain ⟨new, hnew, hsent⟩ := getInvoiceFromBackend_sent hpool (balancerRequest call) backend world
  refine ⟨read, new, hread, hmin, hmax, hnew, ?_⟩
  intro sent hmem
  rw [← hamount]
  exact pool_denotes_iff (hsent sent hmem)

end Wallet

/-! ## §4. An offer without bounds and an LND node. -/

/-- The coffee offer, for any amount. -/
def unboundedRecord : OfferRecord String :=
  { coffeeRecord with
    offer := { coffeeRecord.offer with minSendable := 0, maxSendable := 18446744073709551615 } }

def unboundedStore : MemoryOfferStore String :=
  (MemoryOfferStore.machine.run MemoryOfferStore.new
    [(0, .postMetadata { id := 7, partition := "default", metadata := coffee }),
     (0, .postOffer unboundedRecord)]).2

def unboundedState : LnUrlPayState OfferStoreError OfferStoreError :=
  { coffeeState with
    offerProvider := fun hostname partition id =>
      (StoreOfferProvider.offer plainText coffeeHash MemoryOfferStore.offerStore hostname
        partition id unboundedStore).1 }

def amountRequest (amount : String) : InvoiceRequest :=
  { coffeeRequest "java" with query := [("amount", amount)] }

/-- A balancer in front of its pool. -/
def poolBalancer : PingoraLnBalancer (PoolWorld Unit) (List Duration) Unit LnPoolError where
  loadBalancer _ := LoadBalancer.new true
  selection _ := sampleBalancer.selection 0
  selected world := world
  metrics _ := sampleBalancer.metrics 0
  poolGetInvoice := PoolWorld.getInvoice coffeeHash
  getBackoff := []
  nextBackoff := sampleBalancer.nextBackoff
  sleep _ world := world
  update world := world
  runHealthCheck _ world := world
  parallelHealthCheck := false
  selectionCapacityBias := none
  debugOffer := Offer.partition

def lndBackend : Backend := { id := ⟨1, 1⟩, ext := none }

/-- One LND node, which answers. -/
def lndWorld : PoolWorld Unit where
  pool := { pool := (∅ : ExtTreeMap BackendId LnRpcClient).insert lndBackend.id
              (.lnd (.create false)), metricsCache := ∅ }
  clock := 0
  answers _ := .ok "lnbc1"
  sent := []
  rest := ()

/-- What an RPC for a call sends there. -/
def sentFor (call : InvoiceCall) : List NodeRequest :=
  (poolBalancer.getInvoiceFromBackend (balancerRequest call) lndBackend lndWorld).2.sent

/-- 1000 msat, asked of the LND node. -/
theorem invoice_amount_iff_coffee :
    ∃ sent, sentFor (invoiceCall coffeeState coffeeOffer (coffeeArguments "java").params) = [sent]
      ∧ Denotes sent 1000 := by
  have hcalls : (serveInvoice goodEnv plainText.parseUuid coffeeState 0 (coffeeRequest "java")).2
      = [invoiceCall coffeeState coffeeOffer (coffeeArguments "java").params] := by decide
  have hcall : invoiceCall coffeeState coffeeOffer (coffeeArguments "java").params
      ∈ (serveInvoice goodEnv plainText.parseUuid coffeeState 0 (coffeeRequest "java")).2 := by
    rw [hcalls]
    exact List.mem_singleton_self _
  have hpool : poolBalancer.poolGetInvoice = PoolWorld.getInvoice coffeeHash := rfl
  obtain ⟨read, new, hread, -, -, hnew, hdenotes⟩ :=
    invoice_amount_iff hcall hpool lndBackend lndWorld
  obtain rfl : coffeeArguments "java" = read := by
    rw [extract_coffeeRequest] at hread
    exact Except.ok.inj hread
  obtain ⟨sent, hsent⟩ : ∃ sent,
      sentFor (invoiceCall coffeeState coffeeOffer (coffeeArguments "java").params) = [sent] :=
    ⟨_, rfl⟩
  have hmem : sent ∈ new := by
    have hnew' : [sent] = new := hsent.symm.trans hnew
    rw [← hnew']
    exact List.mem_singleton_self _
  exact ⟨sent, hsent, (hdenotes sent hmem).mpr (.inr ⟨by decide, by decide⟩)⟩

/-- **An amount that is not denoted**: the wallet asks for 0 msat, in the range of the offer, and
the node is asked for an invoice of any amount. -/
theorem zero_asks_for_any_amount :
    ¬ ∀ amount, ∀ call ∈ (serveInvoice goodEnv plainText.parseUuid unboundedState 0
          (amountRequest amount)).2, ∀ sent ∈ sentFor call, Denotes sent call.amountMsat := by
  intro h
  let call : InvoiceCall :=
    { offer := { coffeeOffer with minSendable := 0, maxSendable := 18446744073709551615 }
      amountMsat := 0
      expirySecs := unboundedState.invoiceExpiry
      key := [] }
  have hcalls : (serveInvoice goodEnv plainText.parseUuid unboundedState 0 (amountRequest "0")).2
      = [call] := by decide
  obtain ⟨sent, hsent, hany⟩ : ∃ sent, sentFor call = [sent] ∧ readAmount sent = none :=
    ⟨_, rfl, rfl⟩
  have hdenotes := h "0" call (by rw [hcalls]; exact List.mem_singleton_self _) sent
    (by rw [hsent]; exact List.mem_singleton_self _)
  unfold Denotes at hdenotes
  rw [hany] at hdenotes
  cases hdenotes

/-- From 2^63 on the node reads a negative amount. -/
example : ((serveInvoice goodEnv plainText.parseUuid unboundedState 0
      (amountRequest "9223372036854775808")).2.flatMap sentFor).map readAmount
    = [some (-9223372036854775808)] := by decide

end Switchgear.LnUrl
