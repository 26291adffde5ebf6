/-
  Switchgear.Pool.Clients — the two gRPC clients, up to the request they send to
  their node, and `LnClientPool::get_invoice`.

  What a node does with a request is documented elsewhere: a CLN node hashes the
  description when `deschashonly` is set, an LND node uses `description_hash`
  when it is not empty.  `NodeRequest.committedHash` says so.

  Main result:
    * `getInvoice_commits` — whatever client is under the key, the node is asked
      to commit to the hash of the metadata string of the offer.
-/
import Switchgear.ServiceApi.LnUrl
import Switchgear.Pool.ClientPool
import Switchgear.Pool.Error

namespace Switchgear.Pool

open Switchgear.Offer
open Std (ExtTreeMap TransOrd)

/-! ## §1. Requests to a node. -/

inductive Bolt11InvoiceDescription where
  | direct (description : String)
  | directIntoHash (description : String)
  | hash (hash : Bytes)
  deriving DecidableEq

structure LnFeatures where
  invoiceFromDescHash : Bool
  deriving DecidableEq

/-- `cln::AmountOrAny`. -/
inductive AmountOrAny where
  | amount (msat : UInt64)
  | any
  deriving DecidableEq

/-- `cln::InvoiceRequest`, the fields that are set. -/
structure ClnInvoiceRequest where
  amountMsat : AmountOrAny
  description : String
  label : String
  deschashonly : Option Bool
  expiry : Option UInt64
  deriving DecidableEq

/-- `lnrpc::Invoice`, the fields that are set. -/
structure LndInvoice where
  memo : String
  valueMsat : Int64
  descriptionHash : Bytes
  expiry : Int64
  isAmp : Bool
  deriving DecidableEq

inductive NodeRequest where
  | cln (request : ClnInvoiceRequest)
  | lnd (request : LndInvoice)
  deriving DecidableEq

/-- The description hash in the invoice of a node that gets the request. -/
def NodeRequest.committedHash (sha256 : Sha256) : NodeRequest → Option Bytes
  | .cln request =>
      if request.deschashonly = some true then some (sha256.digest (utf8 request.description))
      else none
  | .lnd request => if request.descriptionHash ≠ [] then some request.descriptionHash else none

/-! ## §2. The clients. -/

/-- `encode_hex`: two lower-case digits for each byte. -/
def encodeHex (bytes : Bytes) : String :=
  String.ofList (bytes.flatMap fun byte =>
    [Nat.digitChar (byte.toNat / 16), Nat.digitChar (byte.toNat % 16)])

structure TonicClnGrpcClient where
  url : String
  features : Option LnFeatures

/-- `TonicClnGrpcClient::create`, once the certificates are read. -/
def TonicClnGrpcClient.create (url : String) : TonicClnGrpcClient :=
  { url, features := some { invoiceFromDescHash := false } }

/-- `InnerTonicClnGrpcClient::get_invoice`, at a reading of the clock. -/
def TonicClnGrpcClient.getInvoice (sha256 : Sha256) (now : DateTime) (self : TonicClnGrpcClient)
    (amountMsat : Option UInt64) (description : Bolt11InvoiceDescription)
    (expirySecs : Option UInt64) : Except LnPoolError NodeRequest :=
  let send (description : String) (deschashonly : Bool) (label : String) :
      Except LnPoolError NodeRequest :=
    if now < 0 then
      .error (.fromInvalidConfiguration "second time provided was later than self" .internal
        ("CLN get invoice from " ++ self.url ++ ", getting current time for label"))
    else
      .ok (.cln
        { amountMsat := amountMsat.elim .any .amount
          description
          label := label ++ ":" ++ toString now
          deschashonly := some deschashonly
          expiry := expirySecs })
  match description with
  | .direct d => send d false d
  | .directIntoHash d => send d true (encodeHex (sha256.digest (utf8 d)))
  | .hash _ =>
      .error (.fromInvalidConfiguration "hash descriptions unsupported" .internal
        ("CLN get invoice from " ++ self.url ++ ", parsing invoice description"))

structure TonicLndGrpcClient where
  ampInvoice : Bool
  features : Option LnFeatures

/-- `TonicLndGrpcClient::create`, once the certificates and the macaroon are read. -/
def TonicLndGrpcClient.create (ampInvoice : Bool) : TonicLndGrpcClient :=
  { ampInvoice, features := some { invoiceFromDescHash := true } }

/-- `InnerTonicLndGrpcClient::get_invoice`. -/
def TonicLndGrpcClient.getInvoice (sha256 : Sha256) (self : TonicLndGrpcClient)
    (amountMsat : Option UInt64) (description : Bolt11InvoiceDescription)
    (expirySecs : Option UInt64) : NodeRequest :=
  let (memo, descriptionHash) :=
    match description with
    | .direct d => (d, [])
    | .directIntoHash d => ("", sha256.digest (utf8 d))
    | .hash h => ("", h)
  .lnd
    { memo
      valueMsat := (amountMsat.getD 0).toInt64
      descriptionHash
      expiry := (expirySecs.getD 3600).toInt64
      isAmp := self.ampInvoice }

/-- `dyn LnRpcClient`, as `connect` makes them. -/
inductive LnRpcClient where
  | cln (client : TonicClnGrpcClient)
  | lnd (client : TonicLndGrpcClient)

namespace LnRpcClient

def getFeatures : LnRpcClient → Option LnFeatures
  | .cln client => client.features
  | .lnd client => client.features

def getInvoice (sha256 : Sha256) (now : DateTime) (self : LnRpcClient)
    (amountMsat : Option UInt64) (description : Bolt11InvoiceDescription)
    (expirySecs : Option UInt64) : Except LnPoolError NodeRequest :=
  match self with
  | .cln client => client.getInvoice sha256 now amountMsat description expirySecs
  | .lnd client => .ok (client.getInvoice sha256 amountMsat description expirySecs)

/-- The client reports what its constructor sets, or no features. -/
def Reports (self : LnRpcClient) : Prop :=
  self.getFeatures = none
  ∨ (∃ url, self = .cln (TonicClnGrpcClient.create url))
  ∨ ∃ ampInvoice, self = .lnd (TonicLndGrpcClient.create ampInvoice)

end LnRpcClient

/-! ## §3. The pool. -/

namespace LnClientPool

variable {Key : Type} [Ord Key] [TransOrd Key] [Repr Key]

def getClient {Client : Type} (key : Key) (self : LnClientPool Key Client) :
    Except LnPoolError Client :=
  match self.pool[key]? with
  | some client => .ok client
  | none =>
      .error (.fromInvalidConfiguration
        ("client for key: " ++ reprStr key ++ " not found in pool") .internal
        ("fetching client from pool for key: " ++ reprStr key))

/-- The variant of the description for a client with these features. -/
def description (features : Option LnFeatures) (offer : Offer) : Bolt11InvoiceDescription :=
  let invoiceFromDescHash := features.elim false fun c => c.invoiceFromDescHash
  if invoiceFromDescHash then .hash offer.metadataJsonHash
  else .directIntoHash offer.metadataJsonString

/-- `get_invoice`, up to the request that is sent. -/
def getInvoice (sha256 : Sha256) (now : DateTime) (offer : Offer) (key : Key)
    (amountMsat expirySecs : Option UInt64) (self : LnClientPool Key LnRpcClient) :
    Except LnPoolError NodeRequest :=
  match self.getClient key with
  | .error e => .error e
  | .ok client =>
      client.getInvoice sha256 now amountMsat (description client.getFeatures offer) expirySecs

end LnClientPool

/-! ## §4. What the node commits to. -/

/-- The hash a description asks a node to commit to. -/
def Bolt11InvoiceDescription.requestedHash (sha256 : Sha256) :
    Bolt11InvoiceDescription → Option Bytes
  | .direct _ => none
  | .directIntoHash d => some (sha256.digest (utf8 d))
  | .hash h => some h

/-- The hash of an offer is that of its metadata string. -/
def HashesMetadata (sha256 : Sha256) (offer : Offer) : Prop :=
  offer.metadataJsonHash = sha256.digest (utf8 offer.metadataJsonString)

theorem toOffer_hashesMetadata {A : Type} (text : OfferText A) (sha256 : Sha256)
    (record : OfferRecord A) (metadata : OfferMetadataSparse A) :
    HashesMetadata sha256 (text.toOffer sha256 record metadata) := rfl

theorem digest_ne_nil (sha256 : Sha256) (bytes : Bytes) : sha256.digest bytes ≠ [] := by
  intro h
  have hlength := sha256.length_digest bytes
  rw [h] at hlength
  cases hlength

/-- A CLN node commits to what the description asks for. -/
theorem cln_committedHash {sha256 : Sha256} {now : DateTime} {client : TonicClnGrpcClient}
    {amountMsat expirySecs : Option UInt64} {description : Bolt11InvoiceDescription}
    {sent : NodeRequest}
    (h : client.getInvoice sha256 now amountMsat description expirySecs = .ok sent) :
    sent.committedHash sha256 = description.requestedHash sha256 := by
  unfold TonicClnGrpcClient.getInvoice at h
  cases description with
  | direct d =>
      dsimp only at h
      split at h
      · cases h
      · cases h
        rfl
  | directIntoHash d =>
      dsimp only at h
      split at h
      · cases h
      · cases h
        rfl
  | hash bytes => cases h

/-- An LND node does, when a hash it is given is not empty. -/
theorem lnd_committedHash (sha256 : Sha256) (client : TonicLndGrpcClient)
    (amountMsat expirySecs : Option UInt64) {description : Bolt11InvoiceDescription}
    (h : description.requestedHash sha256 ≠ some []) :
    (client.getInvoice sha256 amountMsat description expirySecs).committedHash sha256
      = description.requestedHash sha256 := by
  unfold TonicLndGrpcClient.getInvoice
  cases description with
  | direct d => rfl
  | directIntoHash d => exact if_pos (digest_ne_nil sha256 _)
  | hash bytes =>
      refine if_pos ?_
      intro hempty
      exact h (congrArg some hempty)

namespace LnClientPool

/-- Whatever its features, a client is asked for the hash of the metadata string. -/
theorem description_requestedHash {sha256 : Sha256} {offer : Offer}
    (hoffer : HashesMetadata sha256 offer) (features : Option LnFeatures) :
    (description features offer).requestedHash sha256
      = some (sha256.digest (utf8 offer.metadataJsonString)) := by
  unfold description
  dsimp only
  split
  · exact congrArg some hoffer
  · rfl

variable {Key : Type} [Ord Key] [TransOrd Key] [Repr Key] {sha256 : Sha256} {offer : Offer}
  {key : Key} {client : LnRpcClient} {self : LnClientPool Key LnRpcClient}

/-- **The node is asked to commit to the metadata of the offer**, by whatever client is under
the key. -/
theorem getInvoice_commits (hoffer : HashesMetadata sha256 offer)
    (hclient : self.pool[key]? = some client) {now : DateTime}
    {amountMsat expirySecs : Option UInt64} {sent : NodeRequest}
    (h : self.getInvoice sha256 now offer key amountMsat expirySecs = .ok sent) :
    sent.committedHash sha256 = some (sha256.digest (utf8 offer.metadataJsonString)) := by
  have hrequested := description_requestedHash hoffer client.getFeatures
  unfold getInvoice getClient at h
  rw [hclient] at h
  rw [← hrequested]
  cases client with
  | cln client => exact cln_committedHash h
  | lnd client =>
      cases h
      apply lnd_committedHash
      rw [hrequested]
      intro hempty
      exact digest_ne_nil sha256 _ (Option.some.inj hempty)

/-- A client that reports what its constructor sets, or no features, sends a request. -/
theorem getInvoice_sends (hclient : self.pool[key]? = some client) (hreports : client.Reports)
    {now : DateTime} (hnow : 0 ≤ now) (offer : Offer) (amountMsat expirySecs : Option UInt64) :
    ∃ sent, self.getInvoice sha256 now offer key amountMsat expirySecs = .ok sent := by
  unfold getInvoice getClient
  rw [hclient]
  cases client with
  | lnd client => exact ⟨_, rfl⟩
  | cln client =>
      -- a CLN client is never given a hash
      have hfeatures : ∃ d, description client.features offer = .directIntoHash d := by
        rcases hreports with hnone | ⟨url, heq⟩ | ⟨ampInvoice, heq⟩
        · rw [show client.features = none from hnone]
          exact ⟨_, rfl⟩
        · cases heq
          exact ⟨_, rfl⟩
        · cases heq
      obtain ⟨d, hd⟩ := hfeatures
      show ∃ sent, client.getInvoice sha256 now amountMsat
        (description client.features offer) expirySecs = .ok sent
      rw [hd]
      exact ⟨_, if_neg (not_lt.mpr hnow)⟩

end LnClientPool

end Switchgear.Pool
