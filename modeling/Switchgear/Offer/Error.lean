/-
  Switchgear.Offer.Error — `OfferStoreError` and the database errors behind it.

  Of a database error the code reads its kind and its code.  PostgreSQL reports
  a violated constraint of a statement that returns rows as a query error, SQLite
  as an execution error.  Errors of other crates keep their text.
-/
import Switchgear.ServiceApi.Service

namespace Switchgear.Offer

/-! ## §1. Database errors. -/

/-- `sqlx::error::ErrorKind`, as far as the code asks. -/
inductive ErrorKind where
  | uniqueViolation
  | foreignKeyViolation
  | other
  deriving Repr, DecidableEq

/-- `sqlx::error::DatabaseError`. -/
structure DatabaseError where
  kind : ErrorKind
  code : Option String
  message : String
  deriving Repr, DecidableEq

/-- `sea_orm::RuntimeErr`. -/
inductive RuntimeErr where
  /-- `SqlxError(sqlx::Error::Database(db_err))`. -/
  | database (err : DatabaseError)
  | other (message : String)
  deriving Repr, DecidableEq

/-- `sea_orm::DbErr`. -/
inductive DbErr where
  | query (err : RuntimeErr)
  | exec (err : RuntimeErr)
  | recordNotFound (message : String)
  | other (message : String)
  deriving Repr, DecidableEq

namespace DbErr

/-- The database error inside a query or an execution error. -/
def databaseError? : DbErr → Option DatabaseError
  | .query (.database err) => some err
  | .exec (.database err) => some err
  | _ => none

def isUniqueViolation (err : DbErr) : Bool :=
  err.databaseError?.any fun err => err.kind == .uniqueViolation

def isForeignKeyViolation (err : DbErr) : Bool :=
  err.databaseError?.any fun err => err.kind == .foreignKeyViolation

/-- The pattern of `delete_metadata`: an execution error only, and SQLite's code of a
restricted delete. -/
def isRestricted : DbErr → Bool
  | .exec (.database err) => err.kind == .foreignKeyViolation || err.code == some "1811"
  | _ => false

def toText : DbErr → String
  | .query (.database err) => "Query Error: " ++ err.message
  | .query (.other message) => "Query Error: " ++ message
  | .exec (.database err) => "Execution Error: " ++ err.message
  | .exec (.other message) => "Execution Error: " ++ message
  | .recordNotFound message => "RecordNotFound Error: " ++ message
  | .other message => message

end DbErr

/-! ## §2. Store errors. -/

inductive OfferStoreErrorSourceKind where
  | database (err : DbErr)
  | serialization (message : String)
  | deserialization (message : String)
  | http (message : String)
  | httpStatus (status : StatusCode)
  | internal (message : String)
  | invalidInput (message : String)
  deriving Repr, DecidableEq

def OfferStoreErrorSourceKind.toText : OfferStoreErrorSourceKind → String
  | .database err => "database error: " ++ err.toText
  | .serialization message => "serialization failed: " ++ message
  | .deserialization message => "deserialization failed: " ++ message
  | .http message => "HTTP request failed: " ++ message
  | .httpStatus status => "HTTP status error: " ++ toString status
  | .internal message => "Internal error: " ++ message
  | .invalidInput message => "Invalid Input error: " ++ message

structure OfferStoreError where
  context : String
  source : OfferStoreErrorSourceKind
  esource : ServiceErrorSource
  deriving Repr, DecidableEq

namespace OfferStoreError

def fromDb (esource : ServiceErrorSource) (context : String) (dbError : DbErr) :
    OfferStoreError :=
  { context, source := .database dbError, esource }

def serializationError (esource : ServiceErrorSource) (context message : String) :
    OfferStoreError :=
  { context, source := .serialization message, esource }

def deserializationError (esource : ServiceErrorSource) (context message : String) :
    OfferStoreError :=
  { context, source := .deserialization message, esource }

def httpError (esource : ServiceErrorSource) (context message : String) : OfferStoreError :=
  { context, source := .http message, esource }

def httpStatusError (esource : ServiceErrorSource) (context : String) (status : StatusCode) :
    OfferStoreError :=
  { context, source := .httpStatus status, esource }

def internalError (esource : ServiceErrorSource) (context message : String) : OfferStoreError :=
  { context, source := .internal message, esource }

def invalidInputError (context message : String) : OfferStoreError :=
  { context, source := .invalidInput message, esource := .downstream }

/-- The error says the input is invalid. -/
def isInvalidInput (error : OfferStoreError) : Bool :=
  match error.source with
  | .invalidInput _ => true
  | _ => false

instance : ToString OfferStoreError where
  toString error := "OfferStoreError: while " ++ error.context ++ ": " ++ error.source.toText

instance : HasServiceErrorSource OfferStoreError where
  getServiceErrorSource := esource

end OfferStoreError

end Switchgear.Offer
