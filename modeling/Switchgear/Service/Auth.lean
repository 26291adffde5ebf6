/-
  Switchgear.Service.Auth — `BearerTokenAuthLayer`, the two validators before the
  management services, and the tokens that are minted for them.

  The reader of an `authorization` header and the library of the tokens are
  parameters.  A validator reads the clock of its own; the handler behind it reads
  it again.
-/
import Switchgear.Service.DiscoveryHandlers
import Switchgear.Service.OfferHandlers

namespace Switchgear

def StatusCode.unauthorized : StatusCode := 401

namespace Service

open Switchgear.Lib

/-! ## §1. The layer. -/

inductive WwwAuthenticateError where
  | missingToken
  | invalidToken
  deriving Repr, DecidableEq

def WwwAuthenticateError.display : WwwAuthenticateError → String
  | .missingToken => "missing_token"
  | .invalidToken => "invalid_token"

def CrudError.unauthorized (realm : String) (error : WwwAuthenticateError) : CrudError :=
  let value := match error with
    | .missingToken => headerValue ("Bearer realm=\"" ++ realm ++ "\"")
    | .invalidToken =>
        headerValue ("Bearer realm=\"" ++ realm ++ "\", error=\"" ++ error.display ++ "\"")
  let value := match value with
    | .ok value => value
    | .error _ => "Bearer"
  { status := StatusCode.unauthorized, headers := [("www-authenticate", value)] }

/-- `IntoResponse` of an error. -/
def CrudError.intoResponse (error : CrudError) : HttpResponse :=
  { status := error.status, headers := error.headers, body := none }

/-- `BearerTokenAuthLayer`; `bearer` is `TypedHeader<Authorization<Bearer>>`, from the value of
the header to its token. -/
structure BearerTokenAuthLayer where
  bearer : String → Option String
  tokenValidator : DateTime → String → Bool
  realm : String

namespace BearerTokenAuthLayer

variable {σ : Type} (self : BearerTokenAuthLayer)

/-- The token of a request. -/
def token (request : HttpRequest) : Option String :=
  (request.headers.lookup "authorization").bind self.bearer

/-- `BearerTokenAuthService::call`. -/
def call (inner : HttpRequest → σ → HttpResponse × σ) (now : DateTime) (request : HttpRequest)
    (state : σ) : HttpResponse × σ :=
  match self.token request with
  | some token =>
      -- the clock is read when the token is checked, before the handler reads its own
      if self.tokenValidator now token then inner request state
      else ((CrudError.unauthorized self.realm .invalidToken).intoResponse, state)
  | none => ((CrudError.unauthorized self.realm .missingToken).intoResponse, state)

/-- The layer lets the request through. -/
def authorizes (now : DateTime) (request : HttpRequest) : Bool :=
  (self.token request).any (self.tokenValidator now)

/-- The answer to a request that is not let through. -/
def refusal (request : HttpRequest) : HttpResponse :=
  (CrudError.unauthorized self.realm
    (if (self.token request).isSome then .invalidToken else .missingToken)).intoResponse

theorem call_eq (inner : HttpRequest → σ → HttpResponse × σ) (now : DateTime)
    (request : HttpRequest) (state : σ) :
    self.call inner now request state
      = if self.authorizes now request then inner request state
        else (self.refusal request, state) := by
  unfold call authorizes refusal
  cases self.token request with
  | none => rfl
  | some token => rfl

end BearerTokenAuthLayer

/-! ## §2. Tokens. -/

/-- What the services use of `jsonwebtoken`, with ES256: claims are signed with a key of type
`S` and read with a key of type `V`, at a clock reading in seconds and for the audiences that
were set. -/
structure JsonWebToken (S V : Type) where
  encode : S → Json → Option String
  decode : V → List String → ℕ → String → Option Json

inductive OfferAudience where
  | offer
  deriving DecidableEq

inductive DiscoveryAudience where
  | discovery
  deriving DecidableEq

def OfferAudience.display : OfferAudience → String
  | .offer => "offer"

def DiscoveryAudience.display : DiscoveryAudience → String
  | .discovery => "discovery"

def OfferAudience.codec : Codec OfferAudience := Codec.unitVariant "offer" .offer

def DiscoveryAudience.codec : Codec DiscoveryAudience :=
  Codec.unitVariant "discovery" .discovery

/-- `OfferClaims` and `DiscoveryClaims`. -/
structure Claims (α : Type) where
  aud : α
  exp : UInt64
  deriving DecidableEq

abbrev OfferClaims := Claims OfferAudience

abbrev DiscoveryClaims := Claims DiscoveryAudience

namespace Claims

variable {α : Type} (audience : Codec α)

def entries (claims : Claims α) : List (String × Json) :=
  audience.encodeRequired "aud" claims.aud ++ Codec.uint64.encodeRequired "exp" claims.exp

def codec : Codec (Claims α) where
  encode claims := .object (claims.entries audience)
  decode
    | .object entries => do
        let aud ← audience.decodeRequired "aud" entries
        let exp ← Codec.uint64.decodeRequired "exp" entries
        return { aud, exp }
    -- serde takes a struct from a sequence too
    | .array [aud, exp] => do
        let aud ← audience.decode aud
        let exp ← Codec.uint64.decode exp
        return { aud, exp }
    | _ => none

variable {audience}

/-- Claims come back as they were signed. -/
theorem roundTrips (claims : Claims α) (haud : audience.RoundTrips claims.aud) :
    (codec audience).RoundTrips claims := by
  have hfilterAud : (claims.entries audience).filter (fun entry => entry.1 == "aud")
      = audience.encodeRequired "aud" claims.aud := by
    simp [entries, Codec.filter_encodeRequired_self, Codec.filter_encodeRequired_of_ne]
  have hfilterExp : (claims.entries audience).filter (fun entry => entry.1 == "exp")
      = Codec.uint64.encodeRequired "exp" claims.exp := by
    simp [entries, Codec.filter_encodeRequired_self, Codec.filter_encodeRequired_of_ne]
  show (do
    let aud ← audience.decodeRequired "aud" (claims.entries audience)
    let exp ← Codec.uint64.decodeRequired "exp" (claims.entries audience)
    return ({ aud, exp } : Claims α)) = some claims
  rw [audience.decodeRequired_encode hfilterAud haud,
    Codec.uint64.decodeRequired_encode hfilterExp (Codec.uint64_roundTrips claims.exp)]
  rfl

end Claims

/-- Seconds since the epoch, of a reading that is not before it. -/
def epochSeconds (now : DateTime) : ℕ := (now / second).toNat

section Tokens

variable {S V α : Type} [DecidableEq α] (jwt : JsonWebToken S V)

/-- The claims of a token for one audience. -/
def validateToken (codec : Codec α) (display : α → String) (audience : α) (key : V)
    (now : DateTime) (token : String) : Option (Claims α) :=
  match (jwt.decode key [display audience] (epochSeconds now) token).bind
    (Claims.codec codec).decode with
  | none => none
  -- the library has checked the audience; the claim's own is compared once more
  | some claims => if claims.aud = audience then some claims else none

/-- `OfferBearerTokenValidator::validate_token`. -/
def OfferBearerTokenValidator.validateToken (key : V) (now : DateTime) (token : String) :
    Option OfferClaims :=
  Service.validateToken jwt OfferAudience.codec OfferAudience.display .offer key now token

/-- `DiscoveryBearerTokenValidator::validate_token`. -/
def DiscoveryBearerTokenValidator.validateToken (key : V) (now : DateTime) (token : String) :
    Option DiscoveryClaims :=
  Service.validateToken jwt DiscoveryAudience.codec DiscoveryAudience.display .discovery key now
    token

/-- The claims of a token that is minted now, for some seconds. -/
def tokenClaims (audience : α) (now : DateTime) (expires : UInt64) : Claims α where
  aud := audience
  exp := UInt64.ofNat (epochSeconds now) + expires

/-- `offer::token::mint`, without the files. -/
def mintOfferToken (key : S) (now : DateTime) (expires : UInt64) : Option String :=
  jwt.encode key ((Claims.codec OfferAudience.codec).encode (tokenClaims .offer now expires))

/-- `discovery::token::mint`, without the files. -/
def mintDiscoveryToken (key : S) (now : DateTime) (expires : UInt64) : Option String :=
  jwt.encode key
    ((Claims.codec DiscoveryAudience.codec).encode (tokenClaims .discovery now expires))

/-- The layer of `OfferService`. -/
def offerAuthLayer (bearer : String → Option String) (authAuthority : V) :
    BearerTokenAuthLayer where
  bearer
  tokenValidator now token :=
    (OfferBearerTokenValidator.validateToken jwt authAuthority now token).isSome
  realm := "offer"

/-- The layer of `DiscoveryService`. -/
def discoveryAuthLayer (bearer : String → Option String) (authAuthority : V) :
    BearerTokenAuthLayer where
  bearer
  tokenValidator now token :=
    (DiscoveryBearerTokenValidator.validateToken jwt authAuthority now token).isSome
  realm := "discovery"

end Tokens

/-- What a decoder accepts of a token: a minute past its expiry it is still in time. -/
def leeway : ℕ := 60

/-- Tokens without signatures, for the examples: the audience, a dot and the expiry. -/
def plainTokens : JsonWebToken Unit Unit where
  encode _ claims :=
    match claims with
    | .object [("aud", .string aud), ("exp", .integer exp)] =>
        some (aud ++ "." ++ toString (UInt64.ofNat exp.toNat))
    | _ => none
  decode _ audiences now token :=
    audiences.findSome? fun aud =>
      if (aud ++ ".").toList.isPrefixOf token.toList then
        match UrlPath.parseUsize (String.ofList (token.toList.drop (aud.length + 1))) with
        | none => none
        | some exp =>
            if now ≤ exp.toNat + leeway then
              some (.object [("aud", .string aud), ("exp", .integer exp.toNat)])
            else none
      else none

/-- The token of a header, for the examples. -/
def plainBearer (value : String) : Option String :=
  if "Bearer ".toList.isPrefixOf value.toList then some (String.ofList (value.toList.drop 7))
  else none

/-! ## §3. The routers. -/

/-- `OfferService::router`: all but the health check is behind the layer, also what no route
takes. -/
def OfferService.router {A σ ε : Type} [HasServiceErrorSource ε] (auth : BearerTokenAuthLayer)
    (text : Offer.OfferText A) (service : OfferState A σ ε) (checked now : DateTime)
    (request : HttpRequest) (state : σ) : HttpResponse × σ :=
  match route request.url.target.segments with
  | some .health => serveHealth request state
  | _ => auth.call (serve text service now) checked request state

/-- `DiscoveryService::router`. -/
def DiscoveryService.router {K σ ε : Type} [HasServiceErrorSource ε] (auth : BearerTokenAuthLayer)
    (keyText : PublicKeyText K) (json : Discovery.JsonText)
    (store : Discovery.DiscoveryBackendStore K σ ε) (checked now : DateTime)
    (request : HttpRequest) (state : σ) : HttpResponse × σ :=
  if request.url.target.segments = ["health".toList] then
    serve keyText json store now request state
  else auth.call (serve keyText json store now) checked request state

end Service

end Switchgear
