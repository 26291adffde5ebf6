/-
  Switchgear.Pingora.Error — `PingoraLnError`.

  The boxed error of a `ServiceError` keeps its type: `E`, the error of the
  client pool.
-/
import Switchgear.ServiceApi.Service

namespace Switchgear.Pingora

inductive PingoraLnErrorSourceKind (E : Type) where
  | error (message : String)
  | noAvailableNodes
  | serviceError (error : E)
  deriving Repr, DecidableEq

structure PingoraLnError (E : Type) where
  context : String
  source : PingoraLnErrorSourceKind E
  esource : ServiceErrorSource
  deriving Repr, DecidableEq

namespace PingoraLnError

variable {E : Type}

def noAvailableNodes (esource : ServiceErrorSource) (context : String) : PingoraLnError E :=
  { context, source := .noAvailableNodes, esource }

def fromServiceError [HasServiceErrorSource E] (context : String) (source : E) :
    PingoraLnError E :=
  { context
    source := .serviceError source
    esource := HasServiceErrorSource.getServiceErrorSource source }

def generalError (esource : ServiceErrorSource) (context : String) (error : String) :
    PingoraLnError E :=
  { context, source := .error error, esource }

instance : HasServiceErrorSource (PingoraLnError E) where
  getServiceErrorSource := esource

end PingoraLnError

end Switchgear.Pingora
