import Switchboard.Id
import Switchboard.Text.Quoted

/-!
# Reverse-call errors — why a call into the front end got no answer
-/

namespace Switchboard

/-- Why a call into the front end was refused or got no answer, or why an answer to
one was refused. -/
inductive ReverseError where
  | noCallback
  | timeout (request : RequestId)
  | unknownRequest (request : RequestId)
  | alreadyCompleted (request : RequestId)
  | cancelled (request : RequestId)
  | invalidMethod (method : String)
  | allocationFailed (length : Nat)
  deriving DecidableEq, Repr

/-- The text of an error, as the caller is shown it. -/
def ReverseError.message : ReverseError → String
  | noCallback => "front-end callback not registered"
  | timeout request =>
    "timed out waiting for front-end response to request " ++ request.text
  | unknownRequest request => "request " ++ request.text ++ " was never issued"
  | alreadyCompleted request => "request " ++ request.text ++ " already completed"
  | cancelled request => "request " ++ request.text ++ " was cancelled"
  | invalidMethod method => "method " ++ Quoted.quote method ++ " cannot cross the boundary"
  | allocationFailed length =>
    "could not allocate " ++ toString length ++ " bytes for the front end"

end Switchboard
