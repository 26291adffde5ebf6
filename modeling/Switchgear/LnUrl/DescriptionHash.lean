/-
  Switchgear.LnUrl.DescriptionHash — the metadata a wallet reads and the hash in
  the invoice it gets.

  The two are answered by two requests: the offer endpoint, and the invoice
  endpoint with the pool behind the balancer.

  Main result:
    * `invoice_commits_to_offer_metadata` — on one state of the store the node is
      asked to commit to the hash of the metadata that the offer endpoint returns.
-/
import Switchgear.LnUrl.Invoice
import Switchgear.Pool.Clients

namespace Switchgear.LnUrl

open Switchgear.Lib Switchgear.Offer Switchgear.Service Switchgear.Pool
open Std (TransOrd)

variable {A E B σ : Type} [HasServiceErrorSource E] [ToString E] [HasServiceErrorSource B]
  [ToString B] {env : LnUrlPayEnv} {text : OfferText A} {sha256 : Sha256}
  {store : OfferStore A σ E} {s : σ} {state : LnUrlPayState E B}

omit [HasServiceErrorSource B] [ToString B] in
/-- The offer endpoint returns the metadata string of the stored offer. -/
theorem serveOffer_metadata (h : ReadsStore text sha256 store s state) {now later : DateTime}
    {headers : RequestHeaders} {partition : String} {id : Uuid} {offer : Offer}
    (hstored : Stored text sha256 store s { partition, id } offer)
    {response : LnUrlPayResponse LnUrlOffer}
    (hserved : serveOffer env state now later headers partition id = .ok response) :
    response.body.metadata = offer.metadataJsonString := by
  unfold serveOffer extract at hserved
  cases hhost : ValidatedHost.fromRequestParts env.extractHost state.allowedHosts headers with
  | error status =>
      rw [hhost] at hserved
      cases hserved
  | ok hostname =>
      rw [hhost] at hserved
      dsimp only at hserved
      unfold LnUrl.offer at hserved
      rcases getOffer_cases h now hostname { partition, id } with
        ⟨found, hfound, -, hget⟩ | ⟨-, e, hget, -⟩
      · obtain rfl := hfound.unique hstored
        rw [hget] at hserved
        dsimp only at hserved
        split at hserved
        · cases hserved
        · cases hserved
          rfl
      · rw [hget] at hserved
        cases hserved

/-- The invoice endpoint hands the stored offer to the balancer. -/
theorem serveInvoice_offer (h : ReadsStore text sha256 store s state) {now : DateTime}
    {request : InvoiceRequest} {uuidParam : UuidParam} {offer : Offer}
    (hpath : UuidParam.fromRequestParts text.parseUuid request.path = .ok uuidParam)
    (hstored : Stored text sha256 store s uuidParam offer) {call : InvoiceCall}
    (hcall : call ∈ (serveInvoice env text.parseUuid state now request).2) :
    call.offer = offer := by
  rcases serveInvoice_cases env now request h with ⟨call', hasks, hcalls⟩ | ⟨-, hcalls, -⟩
  · rw [hcalls] at hcall
    obtain rfl : call = call' := List.mem_singleton.mp hcall
    obtain ⟨read, found, hread, -, hfound, -, rfl⟩ := hasks
    have hparam := extractInvoice_uuidParam hread
    rw [hpath] at hparam
    obtain rfl : uuidParam = read.uuidParam := Except.ok.inj hparam
    exact hfound.unique hstored
  · rw [hcalls] at hcall
    cases hcall

variable {Key : Type} [Ord Key] [TransOrd Key] [Repr Key]

/-- **The invoice commits to the offer's metadata**: for a stored offer with metadata, the
balancer is given that offer, and whatever client the pool has under the chosen key, the
request that is sent commits to the hash of the string the offer endpoint returns; a request
is sent by every client that reports what its constructor sets, or no features. -/
theorem invoice_commits_to_offer_metadata (h : ReadsStore text sha256 store s state)
    {partition : String} {id : Uuid} {offer : Offer}
    (hstored : Stored text sha256 store s { partition, id } offer)
    {now later : DateTime} {headers : RequestHeaders} {response : LnUrlPayResponse LnUrlOffer}
    (hserved : serveOffer env state now later headers partition id = .ok response)
    {clock : DateTime} {request : InvoiceRequest} {call : InvoiceCall}
    (hpath : UuidParam.fromRequestParts text.parseUuid request.path = .ok { partition, id })
    (hcall : call ∈ (serveInvoice env text.parseUuid state clock request).2)
    {pool : LnClientPool Key LnRpcClient} {key : Key} {client : LnRpcClient}
    (hclient : pool.pool[key]? = some client) (clock' : DateTime) :
    (∀ sent, pool.getInvoice sha256 clock' call.offer key (some call.amountMsat)
          (some call.expirySecs) = .ok sent →
        sent.committedHash sha256 = some (sha256.digest (utf8 response.body.metadata)))
    ∧ (client.Reports → 0 ≤ clock' →
        ∃ sent, pool.getInvoice sha256 clock' call.offer key (some call.amountMsat)
          (some call.expirySecs) = .ok sent) := by
  have hoffer : call.offer = offer := serveInvoice_offer h hpath hstored hcall
  have hmetadata : response.body.metadata = offer.metadataJsonString :=
    serveOffer_metadata h hstored hserved
  have hhashes : HashesMetadata sha256 offer := by
    obtain ⟨record, metadata, -, -, rfl⟩ := hstored
    exact toOffer_hashesMetadata text sha256 record metadata
  rw [hoffer, hmetadata]
  constructor
  · intro sent hsent
    exact LnClientPool.getInvoice_commits hhashes hclient hsent
  · intro hreports hclock
    exact LnClientPool.getInvoice_sends hclient hreports hclock offer _ _

/-- A pool with a client of each kind. -/
def coffeePool : LnClientPool ℕ LnRpcClient where
  pool :=
    (((∅ : Std.ExtTreeMap ℕ LnRpcClient).insert 0 (.cln (.create "https://cln"))).insert 1
      (.lnd (.create false))).insert 2 (.cln { url := "https://cln", features := none })
  metricsCache := ∅

/-- One request of a wallet, asked of the CLN node. -/
theorem invoice_commits_to_coffee :
    ∃ response sent,
      serveOffer goodEnv coffeeState 0 0 (hostHeader "good.com") "default" 1 = .ok response
      ∧ coffeePool.getInvoice coffeeHash 0 coffeeOffer 0 (some 1000) (some 180) = .ok sent
      ∧ sent.committedHash coffeeHash
          = some (coffeeHash.digest (utf8 response.body.metadata)) := by
  have hpath : UuidParam.fromRequestParts plainText.parseUuid (coffeeRequest "java").path
      = .ok { partition := "default", id := 1 } := by decide
  have hcalls : (serveInvoice goodEnv plainText.parseUuid coffeeState 0 (coffeeRequest "java")).2
      = [invoiceCall coffeeState coffeeOffer (coffeeArguments "java").params] := by decide
  have hclient : coffeePool.pool[(0 : ℕ)]? = some (.cln (.create "https://cln")) := rfl
  cases hserved : serveOffer goodEnv coffeeState 0 0 (hostHeader "good.com") "default" 1 with
  | error refusal =>
      have hok : (serveOffer goodEnv coffeeState 0 0 (hostHeader "good.com") "default" 1).isOk
          = true := by decide
      rw [hserved] at hok
      cases hok
  | ok response =>
      obtain ⟨hcommits, hsends⟩ := invoice_commits_to_offer_metadata coffeeState_readsStore
        (coffeeOffer_stored "java") hserved hpath (by rw [hcalls]; exact List.mem_singleton_self _)
        hclient 0
      obtain ⟨sent, hsent⟩ := hsends (.inr (.inl ⟨_, rfl⟩)) (le_refl 0)
      exact ⟨response, sent, rfl, hsent, hcommits sent hsent⟩

end Switchgear.LnUrl
