import Switchboard.Id
import Switchboard.Dispatch.Error

/-!
# Stream errors — why an operation on a session was refused, or a session ended
-/

namespace Switchboard

/-- Why a streaming operation was refused, or a session came to its end. -/
inductive StreamError where
  | sessionNotFound (session : SessionId)
  | inputClosed (session : SessionId)
  | wrongShape (session : SessionId)
  | sessionClosed (session : SessionId)
  | timeout (session : SessionId)
  | responseAlreadySent (session : SessionId)
  | handlerFailed (reason : String)
  | openFailed (cause : DispatchError)
  | shuttingDown
  deriving DecidableEq, Repr

namespace StreamError

/-- The text of an error, as it is delivered and shown. -/
def message : StreamError → String
  | sessionNotFound session => "stream " ++ session.text ++ " not found"
  | inputClosed session => "stream " ++ session.text ++ " input is closed"
  | wrongShape session => "operation not valid for the shape of stream " ++ session.text
  | sessionClosed session => "stream " ++ session.text ++ " is closed"
  | timeout session => "stream " ++ session.text ++ " timed out"
  | responseAlreadySent session => "stream " ++ session.text ++ " already sent its response"
  | handlerFailed reason => "stream handler failed: " ++ reason
  | openFailed cause => "failed to open stream: " ++ cause.message
  | shuttingDown => "server is shutting down"

/-- The error underneath, of a stream that could not be opened. -/
def source? : StreamError → Option DispatchError
  | openFailed cause => some cause
  | _ => none

end StreamError
end Switchboard
