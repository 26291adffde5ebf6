/-
  Switchgear.LnUrl.CallbackHost — the host of a generated URL against the list
  of allowed hosts.

  The check looks at the host value up to its first `:`.  The URL is put
  together from the scheme and the whole host value, neither of them checked,
  and read by the URL parser:

    * `names_allowed_iff` — for a host value that passes the check, exactly
      when the URL of `scheme://host/…` names an allowed host (`KeepsHost`),
    * `callback_host_allowed_iff` — the same for what the two handlers answer,
    * `keepsHost_of_plain` — a scheme without `:` other than `file` and a host
      value without `@` are enough.
-/
import Switchgear.LnUrl.PayHandlers
import Switchgear.Offer.Error

namespace Switchgear.LnUrl

open Switchgear.Lib Switchgear.Offer Switchgear.Service Url

/-! ## §1. The condition. -/

/-- A text that does not parse, or the URL of an allowed host. -/
def NamesAllowed (allowed : Finset String) (parsed : Option Url) : Prop :=
  ∀ host ∈ parsed.map Url.host, ∃ name ∈ allowed, host = some name

/-- The scheme and the host value of a request that keep the host the check has seen. -/
def KeepsHost (hosts : HostParser) (allowed : Finset String) (scheme host : String) : Prop :=
  let type := schemeType scheme.toList
  let authority := authority type (dropTabs host.toList)
  -- a scheme value with a `:` is a URL of its own
  if ':' ∈ scheme.toList then
    NamesAllowed allowed (parse hosts (scheme ++ "://").toList)
  else if type = .file then
    dropsHost authority = false
  else
    '@' ∈ authority →
      NamesAllowed allowed
        (parse hosts (scheme ++ "://@" ++ String.ofList (afterUserinfo authority) ++ "/").toList)

/-- An ordinary request keeps its host. -/
theorem keepsHost_of_plain {hosts : HostParser} {allowed : Finset String} {scheme host : String}
    (hcolon : ':' ∉ scheme.toList) (hfile : schemeType scheme.toList ≠ .file)
    (hat : '@' ∉ host.toList) : KeepsHost hosts allowed scheme host := by
  unfold KeepsHost
  rw [if_neg hcolon, if_neg hfile]
  intro hmem
  have hdrop : '@' ∈ dropTabs host.toList := (List.takeWhile_sublist _).mem hmem
  exact absurd ((List.filter_sublist).mem hdrop) hat

/-! ## §2. A host value that passes the check. -/

/-- The domain, and the rest from the first `:` on. -/
theorem host_split (host : String) :
    ∃ rest, PortRest rest ∧ host.toList = (ValidatedHost.domain host).toList ++ rest := by
  refine ⟨host.toList.dropWhile fun c => c != ':', ?_, ?_⟩
  · cases hrest : host.toList.dropWhile fun c => c != ':' with
    | nil => exact .nil
    | cons c rest =>
        have hc := List.head?_dropWhile_not (fun c => c != ':') host.toList
        rw [hrest] at hc
        obtain rfl : c = ':' := by simpa using hc
        exact .colon rest
  · unfold ValidatedHost.domain
    rw [String.toList_ofList, List.takeWhile_append_dropWhile]

theorem dropTabs_name {name : List Char} (h : ∀ c ∈ name, isNameChar c = true) :
    dropTabs name = name := by
  unfold dropTabs
  rw [List.filter_eq_self]
  intro c hc
  have htab : c ≠ '\t' := isNameChar_ne (h c hc) (by decide)
  have hnewline : c ≠ '\n' := isNameChar_ne (h c hc) (by decide)
  have hreturn : c ≠ '\r' := isNameChar_ne (h c hc) (by decide)
  simp [isTabOrNewline, htab, hnewline, hreturn]

theorem dropTabs_portRest {rest : List Char} (h : PortRest rest) : PortRest (dropTabs rest) := by
  cases h with
  | nil => exact .nil
  | colon rest =>
      rw [dropTabs_cons_of_neg (by decide)]
      exact .colon _

/-- What the URL parser gets of a host value whose domain is a plain name. -/
theorem dropTabs_host {hosts : HostParser} {host : String}
    (hname : PlainName hosts (ValidatedHost.domain host)) :
    ∃ rest, PortRest rest
      ∧ dropTabs host.toList = (ValidatedHost.domain host).toList ++ rest := by
  obtain ⟨rest, hrest, hsplit⟩ := host_split host
  refine ⟨dropTabs rest, dropTabs_portRest hrest, ?_⟩
  rw [hsplit, dropTabs_append, dropTabs_name hname.chars]

/-! ## §3. The host of `scheme://host/…`. -/

theorem namesAllowed_congr {allowed : Finset String} {parsed parsed' : Option Url}
    (h : parsed.map Url.host = parsed'.map Url.host) :
    NamesAllowed allowed parsed ↔ NamesAllowed allowed parsed' := by
  unfold NamesAllowed
  rw [h]

section Allowed

variable {hosts : HostParser} {allowed : Finset String}
  (hplain : ∀ name ∈ allowed, PlainName hosts name) {scheme host : String}
  (hdomain : ValidatedHost.domain host ∈ allowed)

include hplain hdomain

/-- A `file` URL names the domain unless it forgets its host. -/
theorem file_names_allowed_iff (hrejects : RejectsColon hosts) (hcolon : ':' ∉ scheme.toList)
    (hfile : schemeType scheme.toList = .file) (text : List Char) :
    NamesAllowed allowed
        (parse hosts (scheme.toList ++ ':' :: '/' :: '/' :: (host.toList ++ '/' :: text)))
      ↔ dropsHost (authority .file (dropTabs host.toList)) = false := by
  have hname := hplain _ hdomain
  obtain ⟨rest, hrest, hhost⟩ := dropTabs_host hname
  unfold NamesAllowed
  rw [parse_file hosts hrejects hcolon hfile hname hhost hrest text]
  by_cases hdrops : dropsHost (authority .file (dropTabs host.toList)) = true
  · rw [if_pos hdrops, hdrops]
    simp only [Bool.true_eq_false, iff_false]
    intro h
    -- the empty text is no plain name
    obtain ⟨name, hmem, heq⟩ := h _ rfl
    obtain rfl : "" = name := Option.some.inj heq
    exact (hplain _ hmem).nonempty rfl
  · rw [if_neg hdrops]
    refine iff_of_true ?_ (by simpa using hdrops)
    intro parsed hparsed
    split at hparsed
    · exact ⟨_, hdomain, (Option.some.inj hparsed).symm⟩
    · cases hparsed

/-- Outside of `file`, the domain is named unless there is userinfo that ends elsewhere. -/
theorem authority_names_allowed_iff (hcolon : ':' ∉ scheme.toList)
    (hfile : schemeType scheme.toList ≠ .file) (text : List Char) :
    NamesAllowed allowed
        (parse hosts (scheme.toList ++ ':' :: '/' :: '/' :: (host.toList ++ '/' :: text)))
      ↔ ('@' ∈ authority (schemeType scheme.toList) (dropTabs host.toList) →
          NamesAllowed allowed (parse hosts (scheme ++ "://@"
            ++ String.ofList (afterUserinfo
                (authority (schemeType scheme.toList) (dropTabs host.toList)))
            ++ "/").toList)) := by
  have hname := hplain _ hdomain
  obtain ⟨rest, hrest, hhost⟩ := dropTabs_host hname
  obtain ⟨hslash, -⟩ := hname.head hosts rest
  by_cases hat : '@' ∈ authority (schemeType scheme.toList) (dropTabs host.toList)
  · rw [forall_prop_of_true hat]
    apply namesAllowed_congr
    rw [parse_host_with_userinfo hosts hcolon hfile (by rw [hhost]; exact hslash) hat text []]
    simp only [String.toList_append, String.toList_ofList, List.append_assoc, List.cons_append]
    rfl
  · refine iff_of_true ?_ (fun h => absurd h hat)
    intro parsed hparsed
    obtain ⟨url, hparse, rfl⟩ := Option.mem_map.mp hparsed
    exact ⟨_, hdomain, parse_plain hosts hcolon hfile hname hhost hrest hat hparse⟩

/-- **The URL names an allowed host** if and only if the scheme and the host value keep the
host that was checked. -/
theorem names_allowed_iff (hrejects : RejectsColon hosts) (text : List Char) :
    NamesAllowed allowed
        (parse hosts (scheme.toList ++ ':' :: '/' :: '/' :: (host.toList ++ '/' :: text)))
      ↔ KeepsHost hosts allowed scheme host := by
  unfold KeepsHost
  dsimp only
  by_cases hcolon : ':' ∈ scheme.toList
  · rw [if_pos hcolon, String.toList_append]
    exact namesAllowed_congr (parse_scheme_with_colon hosts hcolon _ [])
  · rw [if_neg hcolon]
    by_cases hfile : schemeType scheme.toList = .file
    · rw [if_pos hfile, hfile]
      exact file_names_allowed_iff hplain hdomain hrejects hcolon hfile text
    · rw [if_neg hfile]
      exact authority_names_allowed_iff hplain hdomain hcolon hfile text

end Allowed

/-! ## §4. What the handlers answer. -/

section Handlers

variable {E B : Type} [HasServiceErrorSource E] [ToString E]

/-- The callback of every answer of `GET /offers/{partition}/{id}` names an allowed host. -/
def CallbackAllowed (env : LnUrlPayEnv) (state : LnUrlPayState E B) (now later : DateTime)
    (headers : RequestHeaders) (partition : String) (id : Uuid) : Prop :=
  ∀ response, serveOffer env state now later headers partition id = .ok response →
    ∃ name ∈ state.allowedHosts, response.body.callback.host = some name

/-- The LNURL of every answer of `GET /offers/{partition}/{id}/bech32` is that of an allowed
host. -/
def LnUrlAllowed (env : LnUrlPayEnv) (state : LnUrlPayState E B) (now later : DateTime)
    (headers : RequestHeaders) (partition : String) (id : Uuid) : Prop :=
  ∀ responseHeaders encoded,
    serveBech32 env state now later headers partition id = .ok (responseHeaders, encoded) →
    ∃ name ∈ state.allowedHosts, (env.decodeLnUrl encoded).map Url.host = some (some name)

/-- The URL of the text, if it is one, is not too long for bech32. -/
def Encodes (env : LnUrlPayEnv) (text : String) : Prop :=
  ∀ url, parse env.hosts text.toList = some url → ∃ encoded, env.encodeUpper url = .ok encoded

theorem offerUrl_toList (scheme hostname partition : String) (id : Uuid) :
    (offerUrl scheme hostname partition id).toList
      = scheme.toList ++ ':' :: '/' :: '/' :: (hostname.toList
          ++ '/' :: ("offers/" ++ partition ++ "/" ++ Uuid.hyphenated id).toList) := by
  unfold offerUrl
  simp only [String.toList_append, List.append_assoc]
  rfl

variable {env : LnUrlPayEnv} {state : LnUrlPayState E B} (hne : state.allowedHosts.Nonempty)
  (now later : DateTime) (headers : RequestHeaders) (partition : String) (id : Uuid)

include hne

theorem callbackAllowed_iff :
    CallbackAllowed env state now later headers partition id
      ↔ ∀ hostname, Served env state now headers partition id hostname →
          NamesAllowed state.allowedHosts (parse env.hosts
            (offerUrl (Scheme.fromRequestParts headers state.scheme) hostname partition id
              ++ "/invoice").toList) := by
  constructor
  · intro h hostname hserved parsed hparsed
    obtain ⟨url, hparse, rfl⟩ := Option.mem_map.mp hparsed
    obtain ⟨response, hok, hcallback⟩ :=
      (serveOffer_callback_iff hne now later headers partition id url).mpr
        ⟨hostname, hserved, hparse⟩
    rw [← hcallback]
    exact h response hok
  · intro h response hok
    obtain ⟨hostname, hserved, hparse⟩ :=
      (serveOffer_callback_iff hne now later headers partition id _).mp ⟨response, hok, rfl⟩
    exact h hostname hserved _ (Option.mem_map.mpr ⟨_, hparse, rfl⟩)

theorem lnUrlAllowed_iff :
    LnUrlAllowed env state now later headers partition id
      ↔ ∀ hostname, Served env state now headers partition id hostname →
          Encodes env (offerUrl (Scheme.fromRequestParts headers state.scheme) hostname
            partition id) →
          NamesAllowed state.allowedHosts (parse env.hosts
            (offerUrl (Scheme.fromRequestParts headers state.scheme) hostname partition
              id).toList) := by
  constructor
  · intro h hostname hserved hencodes parsed hparsed
    obtain ⟨url, hparse, rfl⟩ := Option.mem_map.mp hparsed
    obtain ⟨encoded, hencoded⟩ := hencodes url hparse
    obtain ⟨responseHeaders, hok⟩ :=
      (serveBech32_encoded_iff hne now later headers partition id encoded).mpr
        ⟨hostname, hserved, url, hparse, hencoded⟩
    obtain ⟨name, hmem, hname⟩ := h responseHeaders encoded hok
    rw [env.decode_encode _ url encoded hparse hencoded, Option.some.injEq] at hname
    exact ⟨name, hmem, hname⟩
  · intro h responseHeaders encoded hok
    obtain ⟨hostname, hserved, url, hparse, hencoded⟩ :=
      (serveBech32_encoded_iff hne now later headers partition id encoded).mp
        ⟨responseHeaders, hok⟩
    have hencodes : Encodes env (offerUrl (Scheme.fromRequestParts headers state.scheme)
        hostname partition id) := by
      intro url' hparse'
      obtain rfl : url = url' := by
        rw [hparse] at hparse'
        exact Option.some.inj hparse'
      exact ⟨encoded, hencoded⟩
    obtain ⟨name, hmem, hname⟩ :=
      h hostname hserved hencodes _ (Option.mem_map.mpr ⟨url, hparse, rfl⟩)
    rw [env.decode_encode _ url encoded hparse hencoded, hname]
    exact ⟨name, hmem, rfl⟩

/-- **The handlers answer with an allowed host** if and only if the scheme and the host value
of the request keep the host that was checked.  The allowed hosts are plain names, in the lower
case the parser leaves as it is: `Good.com` is not one. -/
theorem callback_host_allowed_iff (hplain : ∀ name ∈ state.allowedHosts, PlainName env.hosts name)
    (hrejects : RejectsColon env.hosts) :
    (CallbackAllowed env state now later headers partition id
      ↔ ∀ hostname, Served env state now headers partition id hostname →
          KeepsHost env.hosts state.allowedHosts
            (Scheme.fromRequestParts headers state.scheme) hostname)
    ∧ (LnUrlAllowed env state now later headers partition id
      ↔ ∀ hostname, Served env state now headers partition id hostname →
          Encodes env (offerUrl (Scheme.fromRequestParts headers state.scheme) hostname
            partition id) →
          KeepsHost env.hosts state.allowedHosts
            (Scheme.fromRequestParts headers state.scheme) hostname) := by
  constructor
  · rw [callbackAllowed_iff hne]
    refine forall₂_congr fun hostname hserved => ?_
    rw [String.toList_append, offerUrl_toList]
    simp only [List.append_assoc, List.cons_append]
    exact names_allowed_iff hplain hserved.allowed hrejects _
  · rw [lnUrlAllowed_iff hne]
    refine forall₃_congr fun hostname hserved _ => ?_
    rw [offerUrl_toList]
    exact names_allowed_iff hplain hserved.allowed hrejects _

end Handlers

/-! ## §5. Two requests. -/

/-- Leaves plain lower-case names as they are and takes nothing else. -/
def plainHosts : HostParser where
  parse _ text :=
    if text ≠ [] ∧ text.all (fun c => isNameChar c && !c.isUpper) then some (String.ofList text)
    else none

/-- `X-Forwarded-Host`, else `Host`; the `bech32` encoding of one URL. -/
def sampleEnv (url : Url) (lnUrl : String) : LnUrlPayEnv where
  extractHost headers :=
    ((headers.lookup "x-forwarded-host").or (headers.lookup "host")).bind headerToStr
  hosts := plainHosts
  parseError := fun _ => "invalid URL"
  encodeUpper url' := if url' = url then .ok lnUrl else .error "encoding error: too long"
  decodeLnUrl text := if text = lnUrl then some url else none
  decode_encode := by
    intro text url' encoded _ hencoded
    split at hencoded
    · rename_i heq
      cases hencoded
      rw [if_pos rfl, heq]
      rfl
    · cases hencoded
  formatHttpDate := toString

/-- Serves `good.com`, with one offer under every id. -/
def sampleState : LnUrlPayState OfferStoreError OfferStoreError where
  partitions := {"default"}
  scheme := "https"
  allowedHosts := {"good.com"}
  offerProvider _ partition id := .ok <| some
    { partition, id, maxSendable := 2, minSendable := 1, metadataJsonString := "[]",
      metadataJsonHash := [], timestamp := 0, expires := none }
  balancer := fun _ => .ok "lnbc1"
  invoiceExpiry := 180
  commentAllowed := none

/-- A `Host` header. -/
def hostHeader (value : String) : RequestHeaders :=
  [("host", value.toList.map fun c => UInt8.ofNat c.toNat)]

/-- `https://good.com/offers/default/00000000-0000-0000-0000-000000000001`, parsed. -/
def goodUrl : Url where
  scheme := "https".toList
  userinfo := none
  host := some "good.com"
  port := none
  tail := "/offers/default/00000000-0000-0000-0000-000000000001".toList

def goodEnv : LnUrlPayEnv :=
  sampleEnv goodUrl
    ("LNURL1DP68GURN8GHJ7EM0DAJZUCM0D5HK7ENXV4E8XTMYV4NXZATVWSHNQVPSXQCRQVPS95CRQVPS95CRQ"
      ++ "VPS95CRQVPS95CRQVPSXQCRQVPSXQCRZQU7V0K")

theorem plainHosts_goodName : ∀ name ∈ sampleState.allowedHosts, PlainName plainHosts name := by
  intro name hname
  obtain rfl : name = "good.com" := Finset.mem_singleton.mp hname
  exact ⟨by decide, List.all_eq_true.mp (by decide), fun _ => rfl⟩

theorem plainHosts_rejectsColon : RejectsColon plainHosts := by
  intro text hcolon _
  have hall : ¬ text.all (fun c => isNameChar c && !c.isUpper) = true := by
    intro h
    have hmem := List.all_eq_true.mp h ':' hcolon
    exact absurd hmem (by decide)
  exact if_neg fun h => hall h.2

/-- A request with the plain host header and no forwarded scheme keeps its host. -/
theorem keepsHost_hostHeader {value hostname : String} (hat : '@' ∉ value.toList)
    (hextract : goodEnv.extractHost (hostHeader value) = some value)
    (hserved : Served goodEnv sampleState 0 (hostHeader value) "default" 1 hostname) :
    KeepsHost goodEnv.hosts sampleState.allowedHosts
      (Scheme.fromRequestParts (hostHeader value) sampleState.scheme) hostname := by
  have hhost : value = hostname := Option.some.inj (hextract.symm.trans hserved.extracted)
  have hscheme : Scheme.fromRequestParts (hostHeader value) sampleState.scheme = "https" := rfl
  rw [hscheme, ← hhost]
  exact keepsHost_of_plain (by decide) (by decide) hat

/-- Ordinary requests are answered with the allowed host. -/
theorem callback_host_allowed_iff_plain :
    CallbackAllowed goodEnv sampleState 0 0 (hostHeader "good.com:8443") "default" 1
      ∧ LnUrlAllowed goodEnv sampleState 0 0 (hostHeader "good.com") "default" 1 := by
  have hne : sampleState.allowedHosts.Nonempty := ⟨"good.com", Finset.mem_singleton_self _⟩
  constructor
  · refine (callback_host_allowed_iff hne 0 0 (hostHeader "good.com:8443") "default" 1
      plainHosts_goodName plainHosts_rejectsColon).1.mpr ?_
    intro hostname hserved
    exact keepsHost_hostHeader (by decide) (by decide) hserved
  · refine (callback_host_allowed_iff hne 0 0 (hostHeader "good.com") "default" 1
      plainHosts_goodName plainHosts_rejectsColon).2.mpr ?_
    intro hostname hserved _
    exact keepsHost_hostHeader (by decide) (by decide) hserved

example : (serveBech32 goodEnv sampleState 0 0 (hostHeader "good.com") "default" 1).isOk := by
  decide

/-- A `Host` header with userinfo passes the check, and the callback is another host's. -/
theorem userinfo_reaches_another_host :
    ¬ ∀ (env : LnUrlPayEnv) (state : LnUrlPayState OfferStoreError OfferStoreError) (now later : DateTime)
        (headers : RequestHeaders) (partition : String) (id : Uuid),
      state.allowedHosts.Nonempty →
      (∀ name ∈ state.allowedHosts, PlainName env.hosts name) → RejectsColon env.hosts →
      CallbackAllowed env state now later headers partition id
        ∧ LnUrlAllowed env state now later headers partition id := by
  intro h
  obtain ⟨hcallback, -⟩ := h goodEnv sampleState 0 0 (hostHeader "good.com:x@evil.com") "default" 1
    ⟨"good.com", Finset.mem_singleton_self _⟩ plainHosts_goodName plainHosts_rejectsColon
  have hne : sampleState.allowedHosts.Nonempty := ⟨"good.com", Finset.mem_singleton_self _⟩
  have hserved : Served goodEnv sampleState 0 (hostHeader "good.com:x@evil.com") "default" 1
      "good.com:x@evil.com" := ⟨by decide, by decide, ⟨_, rfl⟩⟩
  have hnames := (callbackAllowed_iff hne 0 0 (hostHeader "good.com:x@evil.com") "default" 1).mp
    hcallback _ hserved
  obtain ⟨name, hname, heq⟩ := hnames (some "evil.com") (by decide)
  obtain rfl : name = "good.com" := Finset.mem_singleton.mp hname
  exact absurd heq (by decide)

end Switchgear.LnUrl
