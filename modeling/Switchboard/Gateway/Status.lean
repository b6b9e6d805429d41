import Switchboard.Cache.Error
import Switchboard.Config
import Switchboard.Reverse.Error
import Switchboard.Stream.Error

/-!
# Status — the numbers that the C interface answers with

Zero is success and every failure has a negative number. Each kind of error of the
library has its status; an error that holds another has the status of the other.
-/

namespace Switchboard

/-- What the C interface answers with. -/
inductive Status where
  | ok
  | invalidArgument
  | notFound
  | allocationFailed
  | protocolViolation
  | timeout
  | alreadyTerminal
  | alreadyStarted
  | notStarted
  | configError
  | noDispatcher
  | cacheDisabled
  | dispatchFailed
  | shuttingDown
  | unavailable
  | cancelled
  | internalError
  | panicked
  deriving DecidableEq, Repr

/-- A dispatcher or a callback was to be registered while a server runs. -/
inductive RegistrationError where
  | alreadyStarted
  deriving DecidableEq, Repr

/-- The text of an error. -/
def RegistrationError.message : RegistrationError → String
  | alreadyStarted => "server already started"

namespace Status

/-- The number that crosses the boundary. -/
def code : Status → Int
  | ok => 0
  | invalidArgument => -1
  | notFound => -2
  | allocationFailed => -3
  | protocolViolation => -4
  | timeout => -5
  | alreadyTerminal => -6
  | alreadyStarted => -7
  | notStarted => -8
  | configError => -9
  | noDispatcher => -10
  | cacheDisabled => -11
  | dispatchFailed => -12
  | shuttingDown => -13
  | unavailable => -14
  | cancelled => -15
  | internalError => -20
  | panicked => -128

/-- The status of a call that could not be dispatched. -/
def ofDispatch : DispatchError → Status
  | .methodNotFound _ => notFound
  | .wrongShape _ => protocolViolation
  | .failed _ => dispatchFailed
  | .panicked _ => panicked
  | .unavailable => notStarted

/-- The status of a stream operation that failed. A stream that could not be opened has the
status of the call that could not be dispatched. -/
def ofStream : StreamError → Status
  | .sessionNotFound _ => notFound
  | .inputClosed _ | .wrongShape _ | .responseAlreadySent _ => protocolViolation
  | .sessionClosed _ => alreadyTerminal
  | .timeout _ => timeout
  | .handlerFailed _ => dispatchFailed
  | .openFailed cause => ofDispatch cause
  | .shuttingDown => shuttingDown

/-- The status of a call into the front end that failed. -/
def ofReverse : ReverseError → Status
  | .noCallback => unavailable
  | .timeout _ => timeout
  | .unknownRequest _ => notFound
  | .alreadyCompleted _ => alreadyTerminal
  | .cancelled _ => cancelled
  | .invalidMethod _ => invalidArgument
  | .allocationFailed _ => allocationFailed

/-- The status of a cache operation that failed. -/
def ofCache : CacheError → Status
  | .disabled => cacheDisabled
  | .invalidKey => invalidArgument
  | .backend _ => internalError

/-- The status of a configuration that is refused, for whatever reason. -/
def ofConfig (_ : ConfigError) : Status := configError

/-- The status of a registration that came too late. -/
def ofRegistration : RegistrationError → Status
  | .alreadyStarted => alreadyStarted

/-- The status of a result that carries nothing. -/
def ofResult {ε : Type} (status : ε → Status) : Except ε Unit → Status
  | .ok () => ok
  | .error e => status e

/-- Success is the one status whose number is not negative. -/
theorem code_neg_iff (s : Status) : s.code < 0 ↔ s ≠ ok := by
  cases s <;> decide

end Status
end Switchboard
