/-
  Switchgear.LnUrl.Json — the derived JSON encoders and decoders of the LNURL
  answers: the offer, the invoice and the error.

  The text of a URL is a parameter (`Url::as_str`); it is read back by the URL
  parser.  An invoice and an error always come back; an offer comes back with
  the callback its text is read as (`LnUrlOffer.decode_encode`).
-/
import Switchgear.Lib.Json
import Switchgear.LnUrl.Invoice

namespace Switchgear.LnUrl

open Switchgear.Lib Switchgear.Offer

/-! ## §1. The records. -/

inductive LnUrlErrorStatus where
  | error
  deriving DecidableEq

structure LnUrlError where
  status : LnUrlErrorStatus
  reason : String
  deriving DecidableEq

def tagCodec : Codec LnUrlOfferTag := Codec.unitVariant "payRequest" .payRequest

def errorStatusCodec : Codec LnUrlErrorStatus := Codec.unitVariant "ERROR" .error

/-- `Url` with the `serde` feature. -/
def urlCodec (hosts : HostParser) (asStr : Url → String) : Codec Url where
  encode url := .string (asStr url)
  decode
    | .string text => Url.parse hosts text.toList
    | _ => none

/-- `Vec<EmptyJsonValue>`: no element is decoded. -/
def routesCodec : Codec (List Empty) where
  encode _ := .array []
  decode
    | .array [] => some []
    | _ => none

namespace LnUrlOffer

variable (hosts : HostParser) (asStr : Url → String)

def entries (offer : LnUrlOffer) : List (String × Json) :=
  (urlCodec hosts asStr).encodeRequired "callback" offer.callback
    ++ Codec.uint64.encodeRequired "maxSendable" offer.maxSendable
    ++ Codec.uint64.encodeRequired "minSendable" offer.minSendable
    ++ tagCodec.encodeRequired "tag" offer.tag
    ++ Codec.string.encodeRequired "metadata" offer.metadata
    ++ Codec.uint32.encodeField "commentAllowed" offer.commentAllowed

def codec : Codec LnUrlOffer where
  encode offer := .object (offer.entries hosts asStr)
  decode
    | .object entries => do
        let callback ← (urlCodec hosts asStr).decodeRequired "callback" entries
        let maxSendable ← Codec.uint64.decodeRequired "maxSendable" entries
        let minSendable ← Codec.uint64.decodeRequired "minSendable" entries
        let tag ← tagCodec.decodeRequired "tag" entries
        let metadata ← Codec.string.decodeRequired "metadata" entries
        let commentAllowed ← Codec.uint32.decodeField "commentAllowed" entries
        return { callback, maxSendable, minSendable, tag, metadata, commentAllowed }
    | .array [callback, maxSendable, minSendable, tag, metadata, commentAllowed] => do
        let callback ← (urlCodec hosts asStr).decode callback
        let maxSendable ← Codec.uint64.decode maxSendable
        let minSendable ← Codec.uint64.decode minSendable
        let tag ← tagCodec.decode tag
        let metadata ← Codec.string.decode metadata
        let commentAllowed ← Codec.uint32.option.decode commentAllowed
        return { callback, maxSendable, minSendable, tag, metadata, commentAllowed }
    | _ => none

end LnUrlOffer

namespace LnUrlInvoice

def entries (invoice : LnUrlInvoice) : List (String × Json) :=
  Codec.string.encodeRequired "pr" invoice.pr ++ routesCodec.encodeRequired "routes" invoice.routes

def codec : Codec LnUrlInvoice where
  encode invoice := .object invoice.entries
  decode
    | .object entries => do
        let pr ← Codec.string.decodeRequired "pr" entries
        let routes ← routesCodec.decodeRequired "routes" entries
        return { pr, routes }
    | .array [pr, routes] => do
        let pr ← Codec.string.decode pr
        let routes ← routesCodec.decode routes
        return { pr, routes }
    | _ => none

end LnUrlInvoice

namespace LnUrlError

def entries (error : LnUrlError) : List (String × Json) :=
  errorStatusCodec.encodeRequired "status" error.status
    ++ Codec.string.encodeRequired "reason" error.reason

def codec : Codec LnUrlError where
  encode error := .object error.entries
  decode
    | .object entries => do
        let status ← errorStatusCodec.decodeRequired "status" entries
        let reason ← Codec.string.decodeRequired "reason" entries
        return { status, reason }
    | .array [status, reason] => do
        let status ← errorStatusCodec.decode status
        let reason ← Codec.string.decode reason
        return { status, reason }
    | _ => none

end LnUrlError

/-! ## §2. What comes back. -/

theorem tag_roundTrips (tag : LnUrlOfferTag) : tagCodec.RoundTrips tag := by
  cases tag
  rfl

theorem errorStatus_roundTrips (status : LnUrlErrorStatus) :
    errorStatusCodec.RoundTrips status := by
  cases status
  rfl

theorem routes_roundTrips (routes : List Empty) : routesCodec.RoundTrips routes := by
  cases routes with
  | nil => rfl
  | cons route _ => cases route

section Offer

variable {hosts : HostParser} {asStr : Url → String}

/-- Of an encoded offer every field but the callback is read as it was. -/
theorem LnUrlOffer.decode_encode (offer : LnUrlOffer) :
    (LnUrlOffer.codec hosts asStr).decode ((LnUrlOffer.codec hosts asStr).encode offer)
      = (Url.parse hosts (asStr offer.callback).toList).map fun callback =>
          { offer with callback } := by
  have hfilter : ∀ key ∈ ["callback", "maxSendable", "minSendable", "tag", "metadata",
        "commentAllowed"],
      (offer.entries hosts asStr).filter (fun entry => entry.1 == key)
        = if key = "callback" then (urlCodec hosts asStr).encodeRequired "callback" offer.callback
          else if key = "maxSendable" then
            Codec.uint64.encodeRequired "maxSendable" offer.maxSendable
          else if key = "minSendable" then
            Codec.uint64.encodeRequired "minSendable" offer.minSendable
          else if key = "tag" then tagCodec.encodeRequired "tag" offer.tag
          else if key = "metadata" then Codec.string.encodeRequired "metadata" offer.metadata
          else Codec.uint32.encodeField "commentAllowed" offer.commentAllowed := by
    intro key hkey
    simp only [List.mem_cons, List.not_mem_nil, or_false] at hkey
    -- one entry for each key, and none of the others has it
    rcases hkey with rfl | rfl | rfl | rfl | rfl | rfl <;>
      simp [LnUrlOffer.entries, Codec.filter_encodeRequired_self,
        Codec.filter_encodeRequired_of_ne, Codec.filter_encodeField_self,
        Codec.filter_encodeField_of_ne]
  have hcallback : (urlCodec hosts asStr).decodeRequired "callback" (offer.entries hosts asStr)
      = Url.parse hosts (asStr offer.callback).toList := by
    unfold Codec.decodeRequired Json.lookup
    rw [hfilter _ (by simp)]
    rfl
  show (do
    let callback ← (urlCodec hosts asStr).decodeRequired "callback" (offer.entries hosts asStr)
    let maxSendable ← Codec.uint64.decodeRequired "maxSendable" (offer.entries hosts asStr)
    let minSendable ← Codec.uint64.decodeRequired "minSendable" (offer.entries hosts asStr)
    let tag ← tagCodec.decodeRequired "tag" (offer.entries hosts asStr)
    let metadata ← Codec.string.decodeRequired "metadata" (offer.entries hosts asStr)
    let commentAllowed ← Codec.uint32.decodeField "commentAllowed" (offer.entries hosts asStr)
    return ({ callback, maxSendable, minSendable, tag, metadata, commentAllowed } : LnUrlOffer))
      = _
  rw [hcallback,
    Codec.uint64.decodeRequired_encode (hfilter _ (by simp)) (Codec.uint64_roundTrips _),
    Codec.uint64.decodeRequired_encode (hfilter _ (by simp)) (Codec.uint64_roundTrips _),
    tagCodec.decodeRequired_encode (hfilter _ (by simp)) (tag_roundTrips _),
    Codec.string.decodeRequired_encode (hfilter _ (by simp)) (Codec.string_roundTrips _),
    Codec.uint32.decodeField_of_roundTrips (hfilter _ (by simp)) fun _ _ =>
      ⟨rfl, Codec.uint32_roundTrips _⟩]
  cases Url.parse hosts (asStr offer.callback).toList <;> rfl

end Offer

theorem lnUrlInvoice_roundTrips (invoice : LnUrlInvoice) : LnUrlInvoice.codec.RoundTrips invoice := by
  have hpr : invoice.entries.filter (fun entry => entry.1 == "pr")
      = Codec.string.encodeRequired "pr" invoice.pr := by
    simp [LnUrlInvoice.entries, Codec.filter_encodeRequired_self,
      Codec.filter_encodeRequired_of_ne]
  have hroutes : invoice.entries.filter (fun entry => entry.1 == "routes")
      = routesCodec.encodeRequired "routes" invoice.routes := by
    simp [LnUrlInvoice.entries, Codec.filter_encodeRequired_self,
      Codec.filter_encodeRequired_of_ne]
  show (do
    let pr ← Codec.string.decodeRequired "pr" invoice.entries
    let routes ← routesCodec.decodeRequired "routes" invoice.entries
    return ({ pr, routes } : LnUrlInvoice)) = some invoice
  rw [Codec.string.decodeRequired_encode hpr (Codec.string_roundTrips _),
    routesCodec.decodeRequired_encode hroutes (routes_roundTrips _)]
  rfl

theorem lnUrlError_roundTrips (error : LnUrlError) : LnUrlError.codec.RoundTrips error := by
  have hstatus : error.entries.filter (fun entry => entry.1 == "status")
      = errorStatusCodec.encodeRequired "status" error.status := by
    simp [LnUrlError.entries, Codec.filter_encodeRequired_self,
      Codec.filter_encodeRequired_of_ne]
  have hreason : error.entries.filter (fun entry => entry.1 == "reason")
      = Codec.string.encodeRequired "reason" error.reason := by
    simp [LnUrlError.entries, Codec.filter_encodeRequired_self,
      Codec.filter_encodeRequired_of_ne]
  show (do
    let status ← errorStatusCodec.decodeRequired "status" error.entries
    let reason ← Codec.string.decodeRequired "reason" error.entries
    return ({ status, reason } : LnUrlError)) = some error
  rw [errorStatusCodec.decodeRequired_encode hstatus (errorStatus_roundTrips _),
    Codec.string.decodeRequired_encode hreason (Codec.string_roundTrips _)]
  rfl

end Switchgear.LnUrl
