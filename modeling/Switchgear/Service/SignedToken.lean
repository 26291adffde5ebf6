/-
  Switchgear.Service.SignedToken — a client that sends one token with every
  request, before a `BearerTokenAuthLayer` that reads tokens of its audience.

  The token library is a parameter of both sides; `SignedKeys` is what a pair of
  keys is for.

  Main result:
    * `call_withToken` — the layer lets the requests of the client through until
      the leeway after the expiry of its token, and refuses them from then on.
-/
import Switchgear.Service.Auth

namespace Switchgear.Service

open Switchgear.Lib

/-! ## §1. The client's side. -/

/-- `default_headers`: a header that the request does not set itself. -/
def withDefaultHeaders (defaults : Headers) (request : HttpRequest) : HttpRequest :=
  { request with
    headers := request.headers
      ++ defaults.filter fun header => (request.headers.lookup header.1).isNone }

/-- A request without a token of its own gets the default one. -/
theorem lookup_withDefaultHeaders {request : HttpRequest} {value : String}
    (h : request.headers.lookup "authorization" = none) :
    (withDefaultHeaders [("authorization", value)] request).headers.lookup "authorization"
      = some value := by
  unfold withDefaultHeaders
  dsimp only
  rw [List.filter_cons_of_pos (by simp [h]), List.filter_nil, List.lookup_append, h]
  simp

/-- Any other header is the one that the request has set. -/
theorem lookup_withDefaultHeaders_of_ne (request : HttpRequest) (value : String) {name : String}
    (hname : name ≠ "authorization") :
    (withDefaultHeaders [("authorization", value)] request).headers.lookup name
      = request.headers.lookup name := by
  have hdefaults : ∀ headers : Headers, headers ⊆ [("authorization", value)] →
      headers.lookup name = none := by
    intro headers hsubset
    rw [List.lookup_eq_none_iff]
    intro header hheader
    rw [List.mem_singleton.mp (hsubset hheader)]
    exact bne_iff_ne.mpr hname
  have hkept := hdefaults _ (List.filter_subset_self (p := fun header =>
    (request.headers.lookup header.1).isNone) [("authorization", value)])
  unfold withDefaultHeaders
  dsimp only
  rw [List.lookup_append, hkept, Option.or_none]

/-! ## §2. The keys. -/

section Keys

variable {S V α : Type} {jwt : JsonWebToken S V} {codec : Codec α} {display : α → String}
  {audience : α} {bearer : String → Option String} {signing : S} {verifying : V}

/-- The keys of a pair: what one signs for an audience, the other reads until the leeway after
the expiry; and it is read from the header it is sent in. -/
structure SignedKeys (codec : Codec α) (display : α → String) (audience : α)
    (jwt : JsonWebToken S V) (bearer : String → Option String) (signing : S) (verifying : V) :
    Prop where
  decode : ∀ exp token now,
    jwt.encode signing ((Claims.codec codec).encode { aud := audience, exp }) = some token →
    jwt.decode verifying [display audience] now token
      = if now ≤ exp.toNat + leeway then
          some ((Claims.codec codec).encode { aud := audience, exp })
        else none
  bearer : ∀ exp token,
    jwt.encode signing ((Claims.codec codec).encode { aud := audience, exp }) = some token →
    bearer ("Bearer " ++ token) = some token

variable [DecidableEq α] {exp : UInt64} {authorization : String}

/-- A validator accepts a signed token until the leeway after its expiry. -/
theorem SignedKeys.validateToken
    (hkeys : SignedKeys codec display audience jwt bearer signing verifying)
    (haudience : codec.RoundTrips audience)
    (htoken : jwt.encode signing ((Claims.codec codec).encode { aud := audience, exp })
      = some authorization) (checked : DateTime) :
    (validateToken jwt codec display audience verifying checked authorization).isSome
      = decide (epochSeconds checked ≤ exp.toNat + leeway) := by
  have hread : (Claims.codec codec).decode ((Claims.codec codec).encode { aud := audience, exp })
      = some { aud := audience, exp } := Claims.roundTrips _ haudience
  unfold Service.validateToken
  rw [hkeys.decode exp authorization (epochSeconds checked) htoken]
  split_ifs with htime
  · rw [Option.bind_some, hread]
    simp [htime]
  · simp [htime]

/-- **What the layer does with the requests of the client.** -/
theorem SignedKeys.call_withToken
    (hkeys : SignedKeys codec display audience jwt bearer signing verifying)
    (haudience : codec.RoundTrips audience)
    (htoken : jwt.encode signing ((Claims.codec codec).encode { aud := audience, exp })
      = some authorization) (auth : BearerTokenAuthLayer) (hbearer : auth.bearer = bearer)
    (hvalidator : ∀ now token, auth.tokenValidator now token
      = (Service.validateToken jwt codec display audience verifying now token).isSome)
    {request : HttpRequest} (hrequest : request.headers.lookup "authorization" = none) {σ : Type}
    (inner : HttpRequest → σ → HttpResponse × σ) (checked : DateTime) (state : σ) :
    let sent := withDefaultHeaders [("authorization", "Bearer " ++ authorization)] request
    auth.call inner checked sent state
      = if epochSeconds checked ≤ exp.toNat + leeway then inner sent state
        else ((CrudError.unauthorized auth.realm .invalidToken).intoResponse, state) := by
  intro sent
  have hsent : auth.token sent = some authorization := by
    unfold BearerTokenAuthLayer.token
    rw [lookup_withDefaultHeaders hrequest, hbearer]
    exact hkeys.bearer exp authorization htoken
  unfold BearerTokenAuthLayer.call
  rw [hsent]
  dsimp only
  rw [hvalidator, hkeys.validateToken haudience htoken checked]
  split_ifs with hvalid htime htime
  · rfl
  · exact absurd (of_decide_eq_true hvalid) htime
  · exact absurd (decide_eq_true htime) hvalid
  · rfl

end Keys

/-! ## §3. Minted tokens. -/

/-- The expiry of a token, where the sum of the two numbers fits. -/
theorem tokenClaims_exp {α : Type} (audience : α) {minted : DateTime} {expires : UInt64}
    (hclock : epochSeconds minted + expires.toNat < 2 ^ 64) :
    (tokenClaims audience minted expires).exp.toNat = epochSeconds minted + expires.toNat := by
  have hminted : epochSeconds minted < 2 ^ 64 := by omega
  unfold tokenClaims
  dsimp only
  rw [UInt64.toNat_add, UInt64.toNat_ofNat', Nat.mod_eq_of_lt hminted, Nat.mod_eq_of_lt hclock]

/-- The tokens of the examples are read by the key they are signed with. -/
theorem signedKeys_plainTokens {α : Type} {display : α → String} {audience : α} {name : String}
    (hdisplay : display audience = name) :
    SignedKeys (Codec.unitVariant name audience) display audience plainTokens plainBearer
      () () := by
  have hencode : ∀ exp token,
      plainTokens.encode () ((Claims.codec (Codec.unitVariant name audience)).encode
        { aud := audience, exp }) = some token →
      token = name ++ "." ++ toString exp
        ∧ (Claims.codec (Codec.unitVariant name audience)).encode { aud := audience, exp }
          = .object [("aud", .string name), ("exp", .integer exp.toNat)] := by
    intro exp token h
    refine ⟨?_, rfl⟩
    have htoken := Option.some.inj h
    rw [Int.toNat_natCast, UInt64.ofNat_toNat] at htoken
    exact htoken.symm
  constructor
  · intro exp token now h
    obtain ⟨rfl, hclaims⟩ := hencode exp token h
    have htext : (name ++ "." ++ toString exp).toList
        = (name ++ ".").toList ++ (toString exp).toList := String.toList_append
    have hprefix : (name ++ ".").toList.isPrefixOf (name ++ "." ++ toString exp).toList
        = true := by
      rw [htext, List.isPrefixOf_iff_prefix]
      exact List.prefix_append _ _
    have hrest : String.ofList ((name ++ "." ++ toString exp).toList.drop (name.length + 1))
        = toString exp := by
      have hlength : name.length + 1 = (name ++ ".").toList.length := by
        rw [String.toList_append, List.length_append, String.length_toList]
        rfl
      rw [htext, hlength, List.drop_left, String.ofList_toList]
    rw [hclaims, hdisplay]
    unfold plainTokens
    dsimp only
    rw [List.findSome?_cons, if_pos hprefix, hrest, UrlPath.parseUsize_toString]
    dsimp only
    split_ifs <;> rfl
  · intro exp token h
    obtain ⟨rfl, -⟩ := hencode exp token h
    have htext : ("Bearer " ++ (name ++ "." ++ toString exp)).toList
        = "Bearer ".toList ++ (name ++ "." ++ toString exp).toList := String.toList_append
    unfold plainBearer
    rw [htext, if_pos]
    · have hlength : 7 = "Bearer ".toList.length := by decide
      rw [hlength, List.drop_left, String.ofList_toList]
    · rw [List.isPrefixOf_iff_prefix]
      exact List.prefix_append _ _

end Switchgear.Service
