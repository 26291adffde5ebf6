/-
  Switchgear.ServiceApi.Service — who caused an error, the HTTP status it maps
  to, and the clock.
-/
import Mathlib

namespace Switchgear

/-- `chrono::DateTime<Utc>`: nanoseconds since the epoch. -/
abbrev DateTime := Int

/-- `chrono::Duration::seconds(1)`. -/
def second : DateTime := 1000000000

theorem lt_add_second (t : DateTime) : t < t + second :=
  Int.lt_add_of_pos_right t (by decide)

/-- Who keeps every reading keeps their order. -/
theorem monotone_reading : Monotone (id : DateTime → DateTime) := monotone_id

/-- `Vec<u8>`. -/
abbrev Bytes := List UInt8

/-- `str::as_bytes`: the UTF-8 encoding. -/
def utf8 (text : String) : Bytes := text.toList.flatMap String.utf8EncodeChar

/-- A text has at least as many bytes as characters. -/
theorem length_le_length_utf8 (text : String) : text.length ≤ (utf8 text).length := by
  have hlist : ∀ chars : List Char,
      chars.length ≤ (chars.flatMap String.utf8EncodeChar).length := by
    intro chars
    induction chars with
    | nil => exact Nat.zero_le _
    | cons c chars ih =>
        have hc := c.utf8Size_pos
        rw [List.flatMap_cons, List.length_append, String.length_utf8EncodeChar, List.length_cons]
        omega
  exact hlist text.toList

/-- `axum::http::StatusCode`. -/
abbrev StatusCode := Nat

namespace StatusCode

def ok : StatusCode := 200
def created : StatusCode := 201
def noContent : StatusCode := 204
def notModified : StatusCode := 304
def badRequest : StatusCode := 400
def notFound : StatusCode := 404
def methodNotAllowed : StatusCode := 405
def conflict : StatusCode := 409
def unprocessableEntity : StatusCode := 422
def internalServerError : StatusCode := 500
def badGateway : StatusCode := 502

/-- `StatusCode::is_success`: 2xx. -/
def isSuccess (status : StatusCode) : Bool := decide (200 ≤ status ∧ status < 300)

/-- `StatusCode::is_client_error`: 4xx. -/
def isClientError (status : StatusCode) : Bool := decide (400 ≤ status ∧ status < 500)

end StatusCode

/-- Which side of the service caused an error. -/
inductive ServiceErrorSource where
  | upstream
  | downstream
  | internal
  deriving Repr, DecidableEq

/-- `ServiceErrorSource::to_http_status`. -/
def ServiceErrorSource.toHttpStatus : ServiceErrorSource → StatusCode
  | .downstream => StatusCode.badRequest
  | .upstream => StatusCode.badGateway
  | .internal => StatusCode.internalServerError

class HasServiceErrorSource (E : Type) where
  getServiceErrorSource : E → ServiceErrorSource

/-- No error status is one a client's method expects. -/
theorem ServiceErrorSource.toHttpStatus_unexpected (s : ServiceErrorSource) :
    s.toHttpStatus ≠ StatusCode.ok ∧ s.toHttpStatus ≠ StatusCode.created
      ∧ s.toHttpStatus ≠ StatusCode.noContent ∧ s.toHttpStatus ≠ StatusCode.notModified
      ∧ s.toHttpStatus ≠ StatusCode.notFound ∧ s.toHttpStatus ≠ StatusCode.conflict := by
  cases s <;> decide

end Switchgear
