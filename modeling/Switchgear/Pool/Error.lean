/-
  Switchgear.Pool.Error — `LnPoolError`, and which side of the service a gRPC
  status blames.

  Errors of other crates keep their text.
-/
import Switchgear.ServiceApi.Service

namespace Switchgear.Pool

/-- `tonic::Code`. -/
inductive Code where
  | ok
  | cancelled
  | unknown
  | invalidArgument
  | deadlineExceeded
  | notFound
  | alreadyExists
  | permissionDenied
  | resourceExhausted
  | failedPrecondition
  | aborted
  | outOfRange
  | unimplemented
  | internal
  | unavailable
  | dataLoss
  | unauthenticated
  deriving Repr, DecidableEq

/-- `tonic::Status`. -/
structure Status where
  code : Code
  message : String
  deriving Repr, DecidableEq

inductive LnPoolErrorSourceKind where
  | tonicError (status : Status)
  | transportError (message : String)
  | invalidConfiguration (message : String)
  | invalidCredentials (message : String)
  | memoryError (message : String)
  | jsonError (message : String)
  deriving Repr, DecidableEq

structure LnPoolError where
  context : String
  source : LnPoolErrorSourceKind
  esource : ServiceErrorSource
  deriving Repr, DecidableEq

namespace LnPoolError

/-- Only what the caller asked for blames the caller. -/
def fromTonicCode : Code → ServiceErrorSource
  | .invalidArgument | .outOfRange | .alreadyExists => .downstream
  | _ => .upstream

def fromInvalidConfiguration (source : String) (esource : ServiceErrorSource)
    (context : String) : LnPoolError :=
  { context, source := .invalidConfiguration source, esource }

def fromInvalidCredentials (source : String) (esource : ServiceErrorSource)
    (context : String) : LnPoolError :=
  { context, source := .invalidCredentials source, esource }

def fromTonicError (source : Status) (context : String) : LnPoolError :=
  { context, source := .tonicError source, esource := fromTonicCode source.code }

def fromTransportError (source : String) (esource : ServiceErrorSource) (context : String) :
    LnPoolError :=
  { context, source := .transportError source, esource }

instance : HasServiceErrorSource LnPoolError where
  getServiceErrorSource := esource

end LnPoolError

end Switchgear.Pool
