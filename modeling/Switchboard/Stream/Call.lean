import Switchboard.Panic
import Switchboard.Stream.Error
import Switchboard.Stream.Frame

/-!
# Call — what a handler asks of its session

A handler talks to its session by calls, one at a time, and gets one answer to each. To
receive is the only call that can be kept waiting. The last call says how the handler
ended.
-/

namespace Switchboard

/-- How a handler ended. -/
inductive Ending where
  | returned (outcome : Except StreamError Unit)
  | panicked (panic : Panic)
  deriving Repr

namespace Ending

/-- The outcome that an ending counts as. A handler that broke off has failed with the
description of the break. A break that nobody could contain takes the runner of the
handler with it, and then the session never hears of the ending. -/
def verdict : Ending → Option (Except StreamError Unit)
  | returned outcome => some outcome
  | panicked panic =>
    match panic.rebound? with
    | none => some (.error (.handlerFailed ("handler panicked: " ++ panic.describe)))
    | some _ => none

end Ending

/-- What a handler asks of its session. -/
inductive Call where
  | receive
  | send (payload : Bytes)
  | closeSend
  | setHeader (key value : String)
  | setTrailer (key value : String)
  | finish (ending : Ending)
  deriving Repr

/-- What a handler is told: an error, a chunk, or nothing more than that the call was
done. A `receive` that is told nothing has reached the end of the input. -/
abbrev Answer := Except StreamError (Option Bytes)

end Switchboard
