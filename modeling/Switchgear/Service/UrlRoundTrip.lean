/-
  Switchgear.Service.UrlRoundTrip — the URLs the program builds from a partition
  and an id, and what the services read of a request for them.

  The builders put the partition into the text as it is.  The client parses the
  URL, sends its path and query, and the router and the path extractor read them.

  Main result:
    * `url_arrives_iff` — for every URL the program builds, the request is routed
      to the handler it is meant for, with this partition, this id and this query,
      if and only if the partition is a safe segment, and not empty in the URL of a
      listing.
-/
import Switchgear.Lib.UrlSegment
import Switchgear.LnUrl.CallbackHost
import Switchgear.Offer.OverHttp

namespace Switchgear.Service

open Switchgear.Lib
open Switchgear.Offer (Uuid HttpOfferStore OfferText)
open UrlPath

/-! ## §1. What the services read. -/

/-- The handler a request comes to, with its parameters. -/
inductive Arrival where
  | offer (param : UuidParam)
  | offers (partition : String)
  | postOffer
  | metadata (param : UuidParam)
  | allMetadata (partition : String)
  | postMetadata
  | lnUrlOffer (param : UuidParam)
  | lnUrlBech32 (param : UuidParam)
  | lnUrlBech32Qr (param : UuidParam)
  | lnUrlInvoice (param : UuidParam)
  | healthFull
  | health
  deriving DecidableEq

/-- The partition of a request. -/
def Arrival.partition : Arrival → Option String
  | .offer param => some param.partition
  | .offers partition => some partition
  | .metadata param => some param.partition
  | .allMetadata partition => some partition
  | .lnUrlOffer param => some param.partition
  | .lnUrlBech32 param => some param.partition
  | .lnUrlBech32Qr param => some param.partition
  | .lnUrlInvoice param => some param.partition
  | _ => none

/-- A listing, of offers or of metadata: its partition stands at the end of the path. -/
def Arrival.isListing : Arrival → Bool
  | .offers _ => true
  | .allMetadata _ => true
  | _ => false

namespace OfferService

/-- The extractors of a route. -/
def extract (parseUuid : String → Option Uuid) : Route → Option Arrival
  | .offer partition id => (uuidParam parseUuid partition id).map .offer
  | .offers partition => (percentDecode partition).map .offers
  | .postOffer => some .postOffer
  | .metadata partition id => (uuidParam parseUuid partition id).map .metadata
  | .allMetadata partition => (percentDecode partition).map .allMetadata
  | .postMetadata => some .postMetadata
  | .health => some .health

/-- Where a path leads. -/
def arrival (parseUuid : String → Option Uuid) (segments : List (List Char)) : Option Arrival :=
  (route segments).bind (extract parseUuid)

end OfferService

namespace LnUrlBalancerService

inductive Route where
  | offer (partition id : List Char)
  | bech32 (partition id : List Char)
  | bech32Qr (partition id : List Char)
  | invoice (partition id : List Char)
  | healthFull
  | health
  deriving DecidableEq

/-- The route of a path; a parameter at its end is not empty. -/
def route : List (List Char) → Option Route
  | [first] => if first = "health".toList then some .health else none
  | [first, second] =>
      if first = "health".toList ∧ second = "full".toList then some .healthFull else none
  | [first, partition, id] =>
      if id = [] then none
      else if first = "offers".toList then some (.offer partition id)
      else none
  | [first, partition, id, last] =>
      if first ≠ "offers".toList then none
      else if last = "bech32".toList then some (.bech32 partition id)
      else if last = "invoice".toList then some (.invoice partition id)
      else none
  | [first, partition, id, bech32, last] =>
      if first = "offers".toList ∧ bech32 = "bech32".toList ∧ last = "qr".toList then
        some (.bech32Qr partition id)
      else none
  | _ => none

theorem route_invoice (partition id : List Char) :
    route ["offers".toList, partition, id, "invoice".toList] = some (.invoice partition id) := by
  unfold route
  dsimp only
  rw [if_neg (by decide), if_neg (by decide), if_pos rfl]

/-- The extractors of a route. -/
def extract (parseUuid : String → Option Uuid) : Route → Option Arrival
  | .offer partition id => (uuidParam parseUuid partition id).map .lnUrlOffer
  | .bech32 partition id => (uuidParam parseUuid partition id).map .lnUrlBech32
  | .bech32Qr partition id => (uuidParam parseUuid partition id).map .lnUrlBech32Qr
  | .invoice partition id => (uuidParam parseUuid partition id).map .lnUrlInvoice
  | .healthFull => some .healthFull
  | .health => some .health

def arrival (parseUuid : String → Option Uuid) (segments : List (List Char)) : Option Arrival :=
  (route segments).bind (extract parseUuid)

end LnUrlBalancerService

/-! ## §2. The parameters of a route stand in the path. -/

theorem uuidParam_partition {parseUuid : String → Option Uuid} {partition id : List Char}
    {param : UuidParam} (h : uuidParam parseUuid partition id = some param) :
    percentDecode partition = some param.partition := by
  have hparam := fromRequestParts_of_uuidParam h
  unfold pathParams UuidParam.fromRequestParts at hparam
  cases hpartition : percentDecode partition with
  | none => simp [hpartition] at hparam
  | some name =>
      cases hid : percentDecode id with
      | none => simp [hpartition, hid] at hparam
      | some text =>
          rw [hpartition, hid] at hparam
          cases hparse : parseUuid text with
          | none => simp [hparse] at hparam
          | some uuid =>
              have hread : UuidParam.mk name uuid = param := by simpa [hparse] using hparam
              rw [← hread]

theorem uuidParam_safe {parseUuid : String → Option Uuid}
    (hparse : ∀ id : Uuid, parseUuid id.hyphenated = some id) {partition : String}
    (h : SafeSegment partition.toList) (id : Uuid) :
    uuidParam parseUuid (percentEncode pathSet partition.toList) id.hyphenated.toList
      = some { partition, id } := by
  have hpartition : percentDecode (percentEncode pathSet partition.toList) = some partition := by
    rw [percentDecode_percentEncode encodeSet_pathSet, h.decoded, String.ofList_toList]
  have hid : percentDecode id.hyphenated.toList = some id.hyphenated := by
    rw [percentDecode_plain (plainSegment_hyphenated id), String.ofList_toList]
  unfold uuidParam pathParams UuidParam.fromRequestParts
  rw [hpartition, hid]
  simp [hparse, Except.toOption]

/-- What a route has read of a partition: a segment of the path, which is not empty in a
listing. -/
def FromPath (segments : List (List Char)) (listing : Bool) (partition : String) : Prop :=
  ∃ segment ∈ segments, (listing = true → segment ≠ []) ∧ percentDecode segment = some partition

/-- The same of a route with an id. -/
theorem fromPath_of_uuidParam {parseUuid : String → Option Uuid} {segments : List (List Char)}
    {parameter id : List Char} (hmem : parameter ∈ segments)
    {make : UuidParam → Arrival} (hmake : ∀ param, (make param).partition = some param.partition)
    (hlisting : ∀ param, (make param).isListing = false)
    {a : Arrival} (h : (uuidParam parseUuid parameter id).map make = some a) {partition : String}
    (hpartition : a.partition = some partition) : FromPath segments a.isListing partition := by
  obtain ⟨param, hparam, rfl⟩ := Option.map_eq_some_iff.mp h
  rw [hmake, Option.some.injEq] at hpartition
  rw [← hpartition, hlisting]
  exact ⟨parameter, hmem, fun hlist => absurd hlist Bool.false_ne_true, uuidParam_partition hparam⟩

/-- The same of a route without one. -/
theorem fromPath_of_path {segments : List (List Char)} {parameter : List Char}
    (hmem : parameter ∈ segments) (hne : parameter ≠ []) {make : String → Arrival}
    (hmake : ∀ name, (make name).partition = some name) {a : Arrival}
    (h : (percentDecode parameter).map make = some a) {partition : String}
    (hpartition : a.partition = some partition) : FromPath segments a.isListing partition := by
  obtain ⟨name, hname, rfl⟩ := Option.map_eq_some_iff.mp h
  rw [hmake, Option.some.injEq] at hpartition
  rw [← hpartition]
  exact ⟨parameter, hmem, fun _ => hne, hname⟩

theorem OfferService.arrival_fromPath {parseUuid : String → Option Uuid}
    {segments : List (List Char)} {a : Arrival}
    (h : OfferService.arrival parseUuid segments = some a) {partition : String}
    (hpartition : a.partition = some partition) : FromPath segments a.isListing partition := by
  obtain ⟨r, hroute, hextract⟩ := Option.bind_eq_some_iff.mp h
  unfold route at hroute
  split at hroute
  · -- one segment: there is no parameter
    split_ifs at hroute
    all_goals cases hroute
    all_goals cases hextract
    all_goals cases hpartition
  · split_ifs at hroute with hne
    all_goals cases hroute
    · exact fromPath_of_path (by simp) hne (fun _ => rfl) hextract hpartition
    · exact fromPath_of_path (by simp) hne (fun _ => rfl) hextract hpartition
  · split_ifs at hroute
    all_goals cases hroute
    · exact fromPath_of_uuidParam (by simp) (fun _ => rfl) (fun _ => rfl) hextract hpartition
    · exact fromPath_of_uuidParam (by simp) (fun _ => rfl) (fun _ => rfl) hextract hpartition
  · cases hroute

theorem LnUrlBalancerService.arrival_fromPath {parseUuid : String → Option Uuid}
    {segments : List (List Char)} {a : Arrival}
    (h : LnUrlBalancerService.arrival parseUuid segments = some a) {partition : String}
    (hpartition : a.partition = some partition) : FromPath segments a.isListing partition := by
  obtain ⟨r, hroute, hextract⟩ := Option.bind_eq_some_iff.mp h
  unfold route at hroute
  split at hroute
  · split_ifs at hroute
    all_goals cases hroute
    all_goals cases hextract
    all_goals cases hpartition
  · split_ifs at hroute
    all_goals cases hroute
    all_goals cases hextract
    all_goals cases hpartition
  · split_ifs at hroute
    all_goals cases hroute
    exact fromPath_of_uuidParam (by simp) (fun _ => rfl) (fun _ => rfl) hextract hpartition
  · split_ifs at hroute
    all_goals cases hroute
    · exact fromPath_of_uuidParam (by simp) (fun _ => rfl) (fun _ => rfl) hextract hpartition
    · exact fromPath_of_uuidParam (by simp) (fun _ => rfl) (fun _ => rfl) hextract hpartition
  · split_ifs at hroute
    all_goals cases hroute
    exact fromPath_of_uuidParam (by simp) (fun _ => rfl) (fun _ => rfl) hextract hpartition
  · cases hroute

/-! ## §3. The URLs. -/

/-- A URL of the program. -/
inductive BuiltUrl where
  /-- `get_offer` -/
  | getOffer (sparse : Option Bool)
  /-- `put_offer` and `delete_offer` -/
  | offer
  /-- `get_offers` -/
  | getOffers (start count : UInt64)
  /-- `get_metadata`, `put_metadata` and `delete_metadata` -/
  | metadata
  /-- `get_all_metadata` -/
  | getAllMetadata (start count : UInt64)
  /-- the `callback` of an offer -/
  | callback

namespace BuiltUrl

variable {A : Type}

/-- The URL as text; the callback is that of a request with this scheme and host. -/
def text (client : HttpOfferStore A) (scheme hostname partition : String) (id : Uuid) :
    BuiltUrl → String
  | .getOffer sparse =>
      ((client.offersPartitionIdUrl partition id).withQuery
        (HttpOfferStore.sparseQuery (sparse.getD true))).toText
  | .offer => (client.offersPartitionIdUrl partition id).toText
  | .getOffers start count =>
      ((client.offersPartitionUrl partition).withQuery
        (HttpOfferStore.pageQuery start count)).toText
  | .metadata => (client.metadataPartitionIdUrl partition id).toText
  | .getAllMetadata start count =>
      ((client.metadataPartitionUrl partition).withQuery
        (HttpOfferStore.pageQuery start count)).toText
  | .callback => LnUrl.offerUrl scheme hostname partition id ++ "/invoice"

/-- The router of the service the URL is for. -/
def service (parseUuid : String → Option Uuid) :
    BuiltUrl → List (List Char) → Option Arrival
  | .callback => LnUrlBalancerService.arrival parseUuid
  | _ => OfferService.arrival parseUuid

/-- The handler it is meant for. -/
def meant (partition : String) (id : Uuid) : BuiltUrl → Arrival
  | .getOffer _ => .offer { partition, id }
  | .offer => .offer { partition, id }
  | .getOffers _ _ => .offers partition
  | .metadata => .metadata { partition, id }
  | .getAllMetadata _ _ => .allMetadata partition
  | .callback => .lnUrlInvoice { partition, id }

/-- The URL of a listing: the partition stands at the end of its path. -/
def isListing : BuiltUrl → Bool
  | .getOffers _ _ => true
  | .getAllMetadata _ _ => true
  | _ => false

/-- The query it is meant to have. -/
def query : BuiltUrl → Option String
  | .getOffer sparse => some (HttpOfferStore.sparseQuery (sparse.getD true))
  | .getOffers start count => some (HttpOfferStore.pageQuery start count)
  | .getAllMetadata start count => some (HttpOfferStore.pageQuery start count)
  | _ => none

/-- The segments before and after the partition. -/
def first : BuiltUrl → List Char
  | .metadata => "metadata".toList
  | .getAllMetadata _ _ => "metadata".toList
  | _ => "offers".toList

def after (id : Uuid) : BuiltUrl → List (List Char)
  | .getOffers _ _ => []
  | .getAllMetadata _ _ => []
  | .callback => [id.hyphenated.toList, "invoice".toList]
  | _ => [id.hyphenated.toList]

variable (client : HttpOfferStore A) {hosts : HostParser}

/-- The request for the URL is routed to the handler it is meant for, with its query. -/
def Arrives (hosts : HostParser) (scheme hostname partition : String) (id : Uuid)
    (url : BuiltUrl) : Prop :=
  ∃ request, requestText hosts (url.text client scheme hostname partition id).toList = some request
    ∧ url.service client.text.parseUuid (Target.ofText request).segments
        = some (url.meant partition id)
    ∧ (Target.ofText request).query = url.query.map String.toList

/-! ## §4. What each URL is made of. -/

/-- The text of a URL with a partition in it. -/
theorem toList_around (base first partition : String) (rest : List String)
    (query : Option String) :
    ({ base, segments := first :: partition :: rest, query } : HttpUrl).toText.toList
      = base.toList ++ around [first.toList] partition.toList (rest.map String.toList)
          (query.map String.toList) := by
  rw [HttpUrl.toList_toText]
  unfold around pathText
  simp

theorem toList_callback (origin : Origin hosts) (partition : String) (id : Uuid) :
    (LnUrl.offerUrl origin.scheme origin.authority partition id ++ "/invoice").toList
      = origin.text ++ around ["offers".toList] partition.toList
          [id.hyphenated.toList, "invoice".toList] none := by
  have hcolon : "://".toList = [':', '/', '/'] := rfl
  have hoffers : "/offers/".toList = '/' :: ("offers".toList ++ ['/']) := rfl
  have hslash : "/".toList = ['/'] := rfl
  have hinvoice : "/invoice".toList = '/' :: "invoice".toList := rfl
  unfold LnUrl.offerUrl Origin.text around pathText queryText
  simp only [String.toList_append, hcolon, hoffers, hslash, hinvoice, List.flatMap_cons,
    List.flatMap_nil, List.append_assoc, List.cons_append, List.nil_append, List.append_nil]

theorem toList_text (base origin : Origin hosts) (hbase : client.baseUrl.toList = base.text)
    (partition : String) (id : Uuid) (url : BuiltUrl) :
    ∃ o : Origin hosts,
      (url.text client origin.scheme origin.authority partition id).toList
        = o.text ++ around [url.first] partition.toList (url.after id)
            (url.query.map String.toList) := by
  have hrecord : ∀ (first : String) (query : Option String),
      ({ base := client.baseUrl, segments := [first, partition, id.hyphenated], query } :
        HttpUrl).toText.toList
        = base.text ++ around [first.toList] partition.toList [id.hyphenated.toList]
            (query.map String.toList) := by
    intro first query
    rw [toList_around, hbase]
    rfl
  have hpage : ∀ (first : String) (query : Option String),
      ({ base := client.baseUrl, segments := [first, partition], query } : HttpUrl).toText.toList
        = base.text ++ around [first.toList] partition.toList [] (query.map String.toList) := by
    intro first query
    rw [toList_around, hbase]
    rfl
  cases url with
  | getOffer sparse => exact ⟨base, hrecord "offers" _⟩
  | offer => exact ⟨base, hrecord "offers" none⟩
  | getOffers start count => exact ⟨base, hpage "offers" _⟩
  | metadata => exact ⟨base, hrecord "metadata" none⟩
  | getAllMetadata start count => exact ⟨base, hpage "metadata" _⟩
  | callback => exact ⟨origin, toList_callback origin partition id⟩

theorem plainSegment_invoice : PlainSegment "invoice".toList where
  nonempty := by decide
  unreserved := List.all_eq_true.mp (by decide)
  not_single_dot := by decide
  not_double_dot := by decide

theorem plainSegment_first (url : BuiltUrl) : ∀ s ∈ [url.first], PlainSegment s := by
  have hoffers := Offer.plainSegment_offers
  have hmetadata := Offer.plainSegment_metadata
  intro s hs
  rw [List.mem_singleton.mp hs]
  cases url with
  | metadata => exact hmetadata
  | getAllMetadata start count => exact hmetadata
  | getOffer sparse => exact hoffers
  | offer => exact hoffers
  | getOffers start count => exact hoffers
  | callback => exact hoffers

theorem plainRest (id : Uuid) (url : BuiltUrl) :
    PlainRest (url.after id) (url.query.map String.toList) := by
  have hid := plainSegment_hyphenated id
  refine ⟨?_, ?_, ?_⟩
  · cases url with
    | getOffers start count => exact List.cons_ne_nil _ _
    | getAllMetadata start count => exact List.cons_ne_nil _ _
    | getOffer sparse => exact List.cons_ne_nil _ _
    | offer => exact List.cons_ne_nil _ _
    | metadata => exact List.cons_ne_nil _ _
    | callback => exact List.cons_ne_nil _ _
  · intro s hs
    have hcases : s = id.hyphenated.toList ∨ s = "invoice".toList := by
      cases url <;> simp_all [after]
    rcases hcases with rfl | rfl
    · exact hid
    · exact plainSegment_invoice
  · intro query hquery
    obtain ⟨text, htext, rfl⟩ := Option.map_eq_some_iff.mp hquery
    cases url with
    | getOffer sparse => cases htext; exact Offer.querySet_sparseQuery _
    | getOffers start count => cases htext; exact Offer.querySet_pageQuery start count
    | getAllMetadata start count => cases htext; exact Offer.querySet_pageQuery start count
    | offer => cases htext
    | metadata => cases htext
    | callback => cases htext

/-! ## §5. When they arrive. -/

/-- The router leads a safe partition to the handler it is meant for. -/
theorem service_safe {partition : String} (h : SafeSegment partition.toList) (id : Uuid)
    (url : BuiltUrl) (hlisting : url.isListing = true → partition ≠ "") :
    url.service client.text.parseUuid
        ([url.first] ++ percentEncode pathSet partition.toList :: url.after id)
      = some (url.meant partition id) := by
  have hne : partition ≠ "" → percentEncode pathSet partition.toList ≠ [] :=
    fun hpartition => percentEncode_ne_nil (mt String.toList_eq_nil_iff.mp hpartition)
  have hid : id.hyphenated.toList ≠ [] := (plainSegment_hyphenated id).nonempty
  have hparam := uuidParam_safe client.text.parseUuid_hyphenated h id
  have hpath : percentDecode (percentEncode pathSet partition.toList) = some partition := by
    rw [percentDecode_percentEncode encodeSet_pathSet, h.decoded, String.ofList_toList]
  cases url with
  | getOffer sparse =>
      show (OfferService.route ["offers".toList, _, _]).bind _ = _
      rw [OfferService.route_offer hid]
      exact congrArg (Option.map Arrival.offer) hparam
  | offer =>
      show (OfferService.route ["offers".toList, _, _]).bind _ = _
      rw [OfferService.route_offer hid]
      exact congrArg (Option.map Arrival.offer) hparam
  | getOffers start count =>
      show (OfferService.route ["offers".toList, _]).bind _ = _
      rw [OfferService.route_offers (hne (hlisting rfl))]
      exact congrArg (Option.map Arrival.offers) hpath
  | metadata =>
      show (OfferService.route ["metadata".toList, _, _]).bind _ = _
      rw [OfferService.route_metadata hid]
      exact congrArg (Option.map Arrival.metadata) hparam
  | getAllMetadata start count =>
      show (OfferService.route ["metadata".toList, _]).bind _ = _
      rw [OfferService.route_allMetadata (hne (hlisting rfl))]
      exact congrArg (Option.map Arrival.allMetadata) hpath
  | callback =>
      have hroute := LnUrlBalancerService.route_invoice
        (percentEncode pathSet partition.toList) id.hyphenated.toList
      show LnUrlBalancerService.arrival _ ["offers".toList, _, _, "invoice".toList] = _
      unfold LnUrlBalancerService.arrival
      rw [hroute]
      exact congrArg (Option.map Arrival.lnUrlInvoice) hparam

theorem service_fromPath {segments : List (List Char)} {partition : String} {id : Uuid}
    {url : BuiltUrl}
    (h : url.service client.text.parseUuid segments = some (url.meant partition id)) :
    FromPath segments url.isListing partition := by
  cases url with
  | callback => exact LnUrlBalancerService.arrival_fromPath h rfl
  | getOffer sparse => exact OfferService.arrival_fromPath h rfl
  | offer => exact OfferService.arrival_fromPath h rfl
  | getOffers start count => exact OfferService.arrival_fromPath h rfl
  | metadata => exact OfferService.arrival_fromPath h rfl
  | getAllMetadata start count => exact OfferService.arrival_fromPath h rfl

end BuiltUrl

/-- **A URL arrives** where it is meant to, for every id and with its query, if and only if the
partition is a safe segment: without slashes, tabs, newlines, `?` and `#`, no dot segment, and
without a percent sign before two digits; in the URL of a listing, which ends with it, the
partition is not empty either. -/
theorem url_arrives_iff {A : Type} {hosts : HostParser} (client : HttpOfferStore A)
    (base origin : Origin hosts) (hbase : client.baseUrl.toList = base.text)
    (partition : String) (id : Uuid) (url : BuiltUrl) :
    url.Arrives client hosts origin.scheme origin.authority partition id
      ↔ SafeSegment partition.toList ∧ (url.isListing = true → partition ≠ "") := by
  have hfirst := url.plainSegment_first
  have hrest := url.plainRest id
  obtain ⟨o, htext⟩ := url.toList_text client base origin hbase partition id
  have hrequest := o.requestText_around hfirst hrest partition.toList
  unfold BuiltUrl.Arrives
  rw [htext, hrequest]
  constructor
  · rintro ⟨request, hrequest', hservice, -⟩
    cases hrequest'
    obtain ⟨parameter, hmem, hlisting, hdecode⟩ := BuiltUrl.service_fromPath client hservice
    refine ⟨?_, ?_⟩
    · rw [← String.ofList_toList (s := partition)] at hdecode
      exact safe_of_arrived hfirst hrest hmem hdecode
    · rintro hlist rfl
      exact hlisting hlist (eq_nil_of_percentDecode hdecode)
  · rintro ⟨hsafe, hlisting⟩
    refine ⟨_, rfl, ?_⟩
    rw [arrived_safe hfirst hrest hsafe]
    exact ⟨BuiltUrl.service_safe client hsafe id url hlisting, rfl⟩

/-- The offer service of the examples. -/
def baseOrigin : Origin LnUrl.plainHosts where
  scheme := "https"
  authority := "base.com"
  special := by decide
  nonempty := by decide
  plain := Offer.forall_of_all (by decide)
  parses := by decide

/-- The LNURL service of the examples. -/
def goodOrigin : Origin LnUrl.plainHosts where
  scheme := "https"
  authority := "good.com"
  special := by decide
  nonempty := by decide
  plain := Offer.forall_of_all (by decide)
  parses := by decide

theorem url_arrives_iff_default :
    BuiltUrl.callback.Arrives Offer.sampleRemoteClient LnUrl.plainHosts "https" "good.com"
        "default" 1
      ∧ (BuiltUrl.getOffers 0 100).Arrives Offer.sampleRemoteClient LnUrl.plainHosts "https"
        "good.com" "default" 1 := by
  have hsafe : SafeSegment "default".toList :=
    { delimiters := Offer.forall_of_all (by decide)
      single_dot := by decide
      double_dot := by decide
      pairs := by decide }
  exact ⟨(url_arrives_iff Offer.sampleRemoteClient baseOrigin goodOrigin (by decide) "default" 1
      .callback).mpr ⟨hsafe, fun _ => by decide⟩,
    (url_arrives_iff Offer.sampleRemoteClient baseOrigin goodOrigin (by decide) "default" 1
      (.getOffers 0 100)).mpr ⟨hsafe, fun _ => by decide⟩⟩

/-- A wallet that follows the callback of an offer in the partition `a/b` finds no route. -/
theorem slash_finds_no_route :
    ¬ ∀ (partition : String) (id : Uuid) (url : BuiltUrl),
      url.Arrives Offer.sampleRemoteClient LnUrl.plainHosts "https" "good.com" partition id := by
  intro h
  obtain ⟨request, hrequest, hservice, -⟩ := h "a/b" 1 .callback
  have hsent : requestText LnUrl.plainHosts
      (BuiltUrl.callback.text Offer.sampleRemoteClient "https" "good.com" "a/b" 1).toList
      = some "/offers/a/b/00000000-0000-0000-0000-000000000001/invoice".toList := by
    decide +kernel
  rw [hsent] at hrequest
  cases hrequest
  have hroute : LnUrlBalancerService.route (Target.ofText
      "/offers/a/b/00000000-0000-0000-0000-000000000001/invoice".toList).segments = none := by
    decide +kernel
  change LnUrlBalancerService.arrival _ _ = _ at hservice
  unfold LnUrlBalancerService.arrival at hservice
  rw [hroute] at hservice
  cases hservice

end Switchgear.Service
