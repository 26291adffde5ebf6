/-
  Switchgear.Discovery.Error — `DiscoveryBackendStoreError` and the database
  errors behind it.

  Of a database error the code reads one thing: whether it is a unique
  violation, which a driver reports as a query error or as an execution
  error.  Errors of other crates keep their text.
-/
import Switchgear.ServiceApi.Service

namespace Switchgear.Discovery

/-! ## §1. Database errors. -/

/-- `sea_orm::RuntimeErr`. -/
inductive RuntimeErr where
  /-- `SqlxError(sqlx::Error::Database(db_err))`. -/
  | database (isUniqueViolation : Bool) (message : String)
  | other (message : String)
  deriving Repr, DecidableEq

/-- `sea_orm::DbErr`. -/
inductive DbErr where
  | query (err : RuntimeErr)
  | exec (err : RuntimeErr)
  | other (message : String)
  deriving Repr, DecidableEq

/-- The two guarded patterns of `post`: PostgreSQL reports a unique violation as
a query error, SQLite as an execution error. -/
def DbErr.isUniqueViolation : DbErr → Bool
  | .query (.database unique _) => unique
  | .exec (.database unique _) => unique
  | _ => false

/-! ## §2. Store errors. -/

inductive DiscoveryBackendStoreErrorSource where
  | database (err : DbErr)
  | transaction (err : DbErr)
  | deserialization (message : String)
  | http (message : String)
  | httpStatus (status : Nat)
  | internal (message : String)
  | invalidInput (message : String)
  deriving Repr, DecidableEq

structure DiscoveryBackendStoreError where
  context : String
  source : DiscoveryBackendStoreErrorSource
  esource : ServiceErrorSource
  deriving Repr, DecidableEq

namespace DiscoveryBackendStoreError

def fromDb (esource : ServiceErrorSource) (context : String) (dbError : DbErr) :
    DiscoveryBackendStoreError :=
  { context, source := .database dbError, esource }

def fromTx (esource : ServiceErrorSource) (context : String) (dbError : DbErr) :
    DiscoveryBackendStoreError :=
  { context, source := .transaction dbError, esource }

def deserializationError (esource : ServiceErrorSource) (context message : String) :
    DiscoveryBackendStoreError :=
  { context, source := .deserialization message, esource }

def httpError (esource : ServiceErrorSource) (context message : String) :
    DiscoveryBackendStoreError :=
  { context, source := .http message, esource }

def httpStatusError (esource : ServiceErrorSource) (context : String) (status : StatusCode) :
    DiscoveryBackendStoreError :=
  { context, source := .httpStatus status, esource }

def internalError (esource : ServiceErrorSource) (context message : String) :
    DiscoveryBackendStoreError :=
  { context, source := .internal message, esource }

def invalidInputError (context message : String) : DiscoveryBackendStoreError :=
  { context, source := .invalidInput message, esource := .downstream }

instance : HasServiceErrorSource DiscoveryBackendStoreError where
  getServiceErrorSource := esource

end DiscoveryBackendStoreError

end Switchgear.Discovery
