/-
  Switchgear.Service.Crud — the responses of the CRUD handlers and the JSON
  extractor before them.
-/
import Switchgear.ServiceApi.Http

namespace Switchgear.Service

open Switchgear.Lib

variable {α ε : Type}

structure CrudError where
  status : StatusCode
  headers : Headers
  deriving Repr, DecidableEq

namespace CrudError

def notFound : CrudError := { status := StatusCode.notFound, headers := [] }

def bad : CrudError := { status := StatusCode.badRequest, headers := [] }

def conflict (location : String) : CrudError :=
  { status := StatusCode.conflict, headers := [("location", location)] }

/-- `From<InvalidHeaderValue>`. -/
def invalidHeaderValue : CrudError := { status := StatusCode.internalServerError, headers := [] }

def fromServiceError [HasServiceErrorSource ε] (error : ε) : CrudError :=
  { status := (HasServiceErrorSource.getServiceErrorSource error).toHttpStatus, headers := [] }

end CrudError

structure JsonCrudResponse (α : Type) where
  body : Option α
  status : StatusCode
  headers : Headers

namespace JsonCrudResponse

def ok (body : α) (headers : Headers) : JsonCrudResponse α :=
  { body := some body, status := StatusCode.ok, headers }

def createdLocation (location : String) : JsonCrudResponse α :=
  { body := none, status := StatusCode.created, headers := [("location", location)] }

def created : JsonCrudResponse α :=
  { body := none, status := StatusCode.created, headers := [] }

def noContent : JsonCrudResponse α :=
  { body := none, status := StatusCode.noContent, headers := [] }

def notModified (headers : Headers) : JsonCrudResponse α :=
  { body := none, status := StatusCode.notModified, headers }

end JsonCrudResponse

/-- `IntoResponse` of what a handler returns. -/
def intoResponse (encode : α → Json) : Except CrudError (JsonCrudResponse α) → HttpResponse
  | .ok response =>
      { status := response.status, headers := response.headers,
        body := response.body.map encode }
  | .error error => { status := error.status, headers := error.headers, body := none }

/-- `IntoResponse` with a body that may fail to serialize, which is an internal error. -/
def intoJsonResponse (encode : α → Option Json) :
    Except CrudError (JsonCrudResponse α) → HttpResponse
  | .ok response =>
      match response.body with
      | none => { status := response.status, headers := response.headers, body := none }
      | some value =>
          match encode value with
          | none => { status := StatusCode.internalServerError, headers := [], body := none }
          | some body =>
              { status := response.status, headers := response.headers, body := some body }
  | .error error => { status := error.status, headers := error.headers, body := none }

/-- `no_cache_headers`. -/
def noCacheHeaders : Headers :=
  [("cache-control", "no-store, no-cache, must-revalidate"),
    ("expires", "Thu, 01 Jan 1970 00:00:00 GMT"), ("pragma", "no-cache")]

/-- A character of a header value. -/
def isHeaderChar (c : Char) : Bool := (32 ≤ c.toNat && c.toNat != 127) || c == '\t'

/-- `HeaderValue::from_str`. -/
def headerValue (text : String) : Except CrudError String :=
  if text.toList.all isHeaderChar then .ok text else .error .invalidHeaderValue

theorem headerValue_ok {text : String} (h : ∀ c ∈ text.toList, isHeaderChar c = true) :
    headerValue text = .ok text := if_pos (List.all_eq_true.mpr h)

/-- A text with another character is none. -/
theorem headerValue_error {text : String} (h : ¬ ∀ c ∈ text.toList, isHeaderChar c = true) :
    headerValue text = .error .invalidHeaderValue := by
  apply if_neg
  rw [List.all_eq_true]
  exact h

theorem isHeaderChar_of_isUnreserved {c : Char} (h : UrlPath.isUnreserved c = true) :
    isHeaderChar c = true := by
  have hc := Hex.of_ascii (P := fun c => UrlPath.isUnreserved c = true → isHeaderChar c = true)
    (by decide) (UrlPath.isUnreserved_lt h)
  exact hc h

/-- The answer of a read: the record, or that there is none. -/
def foundResponse (value : Option α) : Except CrudError (JsonCrudResponse α) :=
  match value with
  | none => .error .notFound
  | some value => .ok (.ok value noCacheHeaders)

/-- The answer of a post: where the record is, new or not. -/
def postedResponse {κ : Type} (location : String) (result : Option κ) :
    Except CrudError (JsonCrudResponse Unit) :=
  match headerValue location with
  | .error error => .error error
  | .ok location =>
      match result with
      | some _ => .ok (.createdLocation location)
      | none => .error (.conflict location)

/-- The answer of a put: created or replaced. -/
def putResponse (wasCreated : Bool) : Except CrudError (JsonCrudResponse Unit) :=
  if wasCreated then .ok .created else .ok .noContent

/-- The answer of a delete: done or not there. -/
def deletedResponse (deleted : Bool) : Except CrudError (JsonCrudResponse Unit) :=
  if deleted then .ok .noContent else .error .notFound

/-- What a handler answers from the outcome of its store. -/
def respond [HasServiceErrorSource ε] {σ β : Type}
    (answer : β → Except CrudError (JsonCrudResponse α)) (outcome : Except ε β × σ) :
    Except CrudError (JsonCrudResponse α) × σ :=
  match outcome with
  | (.error e, state) => (.error (.fromServiceError e), state)
  | (.ok value, state) => (answer value, state)

/-- A handler leaves the store as its call does. -/
theorem respond_state [HasServiceErrorSource ε] {σ β : Type}
    (answer : β → Except CrudError (JsonCrudResponse α)) (outcome : Except ε β × σ) :
    (respond answer outcome).2 = outcome.2 := by
  obtain ⟨result, state⟩ := outcome
  cases result <;> rfl

/-- A store that fails is answered by its status alone. -/
theorem intoJsonResponse_respond_error [HasServiceErrorSource ε] {σ β : Type}
    (encode : α → Option Json) (answer : β → Except CrudError (JsonCrudResponse α)) (e : ε)
    (state : σ) :
    intoJsonResponse encode (respond answer (.error e, state)).1
      = { status := (HasServiceErrorSource.getServiceErrorSource e).toHttpStatus
          headers := []
          body := none } := rfl

/-- `axum::Json` as an extractor: a body that is no JSON is a bad request, one that does not
decode is unprocessable. -/
def extractJson (decode : Json → Option α) (body : Option Json) : Except StatusCode α :=
  match body with
  | none => .error StatusCode.badRequest
  | some json =>
      match decode json with
      | none => .error StatusCode.unprocessableEntity
      | some value => .ok value

/-- The rejection of an extractor. -/
def rejection (status : StatusCode) : HttpResponse := { status, headers := [], body := none }

/-- A handler behind its JSON extractor. -/
def withJson {σ : Type} (decode : Json → Option α) (body : Option Json) (state : σ)
    (handler : α → HttpResponse × σ) : HttpResponse × σ :=
  match extractJson decode body with
  | .error status => (rejection status, state)
  | .ok value => handler value

/-- A handler behind `Path<String>`: a parameter that is no UTF-8 is a bad request. -/
def withPath {σ : Type} (segment : List Char) (state : σ) (handler : String → HttpResponse × σ) :
    HttpResponse × σ :=
  match UrlPath.percentDecode segment with
  | none => (rejection StatusCode.badRequest, state)
  | some parameter => handler parameter

/-- A handler behind `Query`: a query that does not decode is a bad request. -/
def withQuery {σ : Type} (decode : List (String × String) → Option α) (query : Option (List Char))
    (state : σ) (handler : α → HttpResponse × σ) : HttpResponse × σ :=
  match decode (UrlPath.formPairs (query.getD [])) with
  | none => (rejection StatusCode.badRequest, state)
  | some params => handler params

/-- An optional field of a derived query decoder. -/
def optionField {β : Type} (parse : String → Option β) (key : String)
    (pairs : List (String × String)) : Option (Option β) :=
  match UrlPath.formField key pairs with
  | none => none
  | some none => some none
  | some (some text) => (parse text).map some

/-- A handler behind `Path<String>` gets a plain parameter as it was written. -/
theorem withPath_plain {σ : Type} {text : String} (h : UrlPath.PlainSegment text.toList)
    (state : σ) (handler : String → HttpResponse × σ) :
    withPath text.toList state handler = handler text := by
  unfold withPath
  rw [UrlPath.percentDecode_plain h, String.ofList_toList]

/-- A body that decodes reaches the handler. -/
theorem withJson_some {σ : Type} {decode : Json → Option α} {body : Json} {value : α}
    (h : decode body = some value) (state : σ) (handler : α → HttpResponse × σ) :
    withJson decode (some body) state handler = handler value := by
  unfold withJson extractJson
  dsimp only
  rw [h]

end Switchgear.Service
