/-!
# Dispatch errors — why a call got no answer from its handler
-/

namespace Switchboard

/-- Why a dispatcher refused a call, or a handler failed it. -/
inductive DispatchError where
  | methodNotFound (method : String)
  | wrongShape (method : String)
  | failed (reason : String)
  | panicked (message : String)
  | unavailable
  deriving DecidableEq, Repr

/-- The text of an error, as the front end is shown it. -/
def DispatchError.message : DispatchError → String
  | methodNotFound method => "method '" ++ method ++ "' not found"
  | wrongShape method => "method '" ++ method ++ "' does not support this call shape"
  | failed reason => "handler failed: " ++ reason
  | panicked message => "handler panicked: " ++ message
  | unavailable => "server not started"

end Switchboard
