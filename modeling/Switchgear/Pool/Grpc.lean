/-
  Switchgear.Pool.Grpc — the connections of the two gRPC clients:
  `InnerTonicClnGrpcClient` and `InnerTonicLndGrpcClient`.

  An inner client is one open channel to a node.  Opening a channel and the
  node's replies are not in this repository: what they end in is an input.
  `InnerGrpcClient` is what the two inner clients have in common.
-/
import Switchgear.Pool.Clients

namespace Switchgear.Pool

open Switchgear.Offer

/-! ## §1. Opening a channel. -/

/-- What opening a `tonic` channel ends in. -/
inductive ChannelOutcome (Channel : Type) where
  | invalidUri (e : String)
  | invalidTlsConfig (e : String)
  | transportError (e : String)
  | connected (channel : Channel)

/-- The steps of `connect` that can fail; the two clients differ in the name in the texts. -/
def ChannelOutcome.channel {Channel : Type} (name url : String) :
    ChannelOutcome Channel → Except LnPoolError Channel
  | .invalidUri e =>
      .error (.fromInvalidConfiguration ("Invalid endpoint URI: " ++ e) .internal
        (name ++ " connecting to endpoint address " ++ url))
  | .invalidTlsConfig e =>
      .error (.fromInvalidCredentials e .internal
        ("loading " ++ name ++ " TLS configuration into client for " ++ url))
  | .transportError e =>
      .error (.fromTransportError e .upstream ("connecting " ++ name ++ " client to " ++ url))
  | .connected channel => .ok channel

/-! ## §2. What an inner client does. -/

/-- `connect`, and the two RPCs over one channel. -/
structure InnerGrpcClient (Channel Inner Node : Type) where
  connect : ChannelOutcome Channel → Except LnPoolError Inner
  getInvoice : Inner → Option UInt64 → Bolt11InvoiceDescription → Option UInt64 → Node →
    Except LnPoolError String
  getMetrics : Inner → Node → Except LnPoolError LnMetrics

/-- A call of `get_invoice` or `get_metrics`. -/
inductive LnRpcRequest where
  | getInvoice (amountMsat : Option UInt64) (description : Bolt11InvoiceDescription)
      (expirySecs : Option UInt64)
  | getMetrics
  deriving DecidableEq

inductive LnRpcResponse where
  | invoice (bolt11 : String)
  | metrics (metrics : LnMetrics)
  deriving DecidableEq

/-- The RPC a call runs on the connection it has obtained. -/
def InnerGrpcClient.rpc {Channel Inner Node : Type} (client : InnerGrpcClient Channel Inner Node)
    (inner : Inner) (request : LnRpcRequest) (node : Node) : Except LnPoolError LnRpcResponse :=
  match request with
  | .getInvoice amountMsat description expirySecs =>
      (client.getInvoice inner amountMsat description expirySecs node).map .invoice
  | .getMetrics => (client.getMetrics inner node).map .metrics

/-! ## §3. Core Lightning. -/

structure InnerTonicClnGrpcClient (Channel : Type) where
  client : Channel
  url : String
  deriving DecidableEq

/-- A channel in `cln::ListpeerchannelsResponse`, the fields that are read. -/
structure ClnPeerChannel where
  state : Int32
  receivableMsat : Option UInt64

/-- A Core Lightning node while it serves one RPC, and the clock then. -/
structure ClnNode where
  now : DateTime
  invoice : NodeRequest → Except Status String
  listPeerChannels : Except Status (List ClnPeerChannel)

namespace InnerTonicClnGrpcClient

variable {Channel : Type}

def connect (url : String) (outcome : ChannelOutcome Channel) :
    Except LnPoolError (InnerTonicClnGrpcClient Channel) :=
  (outcome.channel "CLN" url).map fun client => { client, url }

def getInvoice (sha256 : Sha256) (self : InnerTonicClnGrpcClient Channel)
    (amountMsat : Option UInt64) (description : Bolt11InvoiceDescription)
    (expirySecs : Option UInt64) (node : ClnNode) : Except LnPoolError String :=
  -- the request, or the error that leaves the node unasked
  match (TonicClnGrpcClient.create self.url).getInvoice sha256 node.now amountMsat description
      expirySecs with
  | .error e => .error e
  | .ok request =>
      (node.invoice request).mapError fun e =>
        .fromTonicError e ("CLN get invoice from " ++ self.url ++ ", requesting invoice")

/-- The sum wraps, as it does in a release build. -/
def getMetrics (self : InnerTonicClnGrpcClient Channel) (node : ClnNode) :
    Except LnPoolError LnMetrics :=
  let channeldNormal : Int32 := 2
  match node.listPeerChannels with
  | .error e =>
      .error (.fromTonicError e
        ("CLN get metrics for " ++ self.url ++ ", requesting channels"))
  | .ok channels =>
      let nodeEffectiveInboundMsat :=
        channels.foldl (fun total channel =>
          if channel.state = channeldNormal then total + channel.receivableMsat.getD 0
          else total) 0
      .ok { healthy := true, nodeEffectiveInboundMsat }

end InnerTonicClnGrpcClient

/-- What `TonicClnGrpcClient` opens and calls. -/
def TonicClnGrpcClient.grpc {Channel : Type} (sha256 : Sha256) (self : TonicClnGrpcClient) :
    InnerGrpcClient Channel (InnerTonicClnGrpcClient Channel) ClnNode where
  connect := InnerTonicClnGrpcClient.connect self.url
  getInvoice := InnerTonicClnGrpcClient.getInvoice sha256
  getMetrics := InnerTonicClnGrpcClient.getMetrics

/-! ## §4. LND. -/

structure InnerTonicLndGrpcClient (Channel : Type) where
  client : Channel
  url : String
  ampInvoice : Bool
  deriving DecidableEq

/-- An LND node while it serves one RPC; of the balance, `remote_balance` in msat is read. -/
structure LndNode where
  addInvoice : NodeRequest → Except Status String
  channelBalance : Except Status (Option UInt64)

namespace InnerTonicLndGrpcClient

variable {Channel : Type}

def connect (url : String) (ampInvoice : Bool) (outcome : ChannelOutcome Channel) :
    Except LnPoolError (InnerTonicLndGrpcClient Channel) :=
  (outcome.channel "LND" url).map fun client => { client, url, ampInvoice }

def getInvoice (sha256 : Sha256) (self : InnerTonicLndGrpcClient Channel)
    (amountMsat : Option UInt64) (description : Bolt11InvoiceDescription)
    (expirySecs : Option UInt64) (node : LndNode) : Except LnPoolError String :=
  let request := (TonicLndGrpcClient.create self.ampInvoice).getInvoice sha256 amountMsat
    description expirySecs
  (node.addInvoice request).mapError fun e =>
    .fromTonicError e ("LND get invoice from " ++ self.url ++ ", requesting invoice")

def getMetrics (self : InnerTonicLndGrpcClient Channel) (node : LndNode) :
    Except LnPoolError LnMetrics :=
  match node.channelBalance with
  | .error e =>
      .error (.fromTonicError e
        ("LND get metrics for " ++ self.url ++ ", requesting channels"))
  | .ok remoteBalance =>
      .ok { healthy := true, nodeEffectiveInboundMsat := remoteBalance.getD 0 }

end InnerTonicLndGrpcClient

/-- What `TonicLndGrpcClient` opens and calls, for the URL of its configuration. -/
def TonicLndGrpcClient.grpc {Channel : Type} (sha256 : Sha256) (url : String)
    (self : TonicLndGrpcClient) :
    InnerGrpcClient Channel (InnerTonicLndGrpcClient Channel) LndNode where
  connect := InnerTonicLndGrpcClient.connect url self.ampInvoice
  getInvoice := InnerTonicLndGrpcClient.getInvoice sha256
  getMetrics := InnerTonicLndGrpcClient.getMetrics

end Switchgear.Pool
