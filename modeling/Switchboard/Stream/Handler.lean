import Switchboard.Stream.Error
import Switchboard.Stream.Frame
import Switchboard.Panic

/-!
# Handler — what runs at the back of a session

A handler is a list of instructions, done in order. A *scripted* handler has them all
from the start and returns when they are done. An *attended* handler is given more as it
goes and rests in between. What is given to a scripted handler at work reaches it, but it
never looks at it.
-/

namespace Switchboard

/-- One thing that a handler does. -/
inductive Act where
  | receive
  | send (payload : Bytes)
  | sendRequest
  | closeSend
  | header (key value : String)
  | trailer (key value : String)
  | describe
  -- Receive and send back, chunk by chunk, to the end of the input.
  | echo
  -- Receive to the end of the input, then send all chunks as one.
  | collect
  | return
  -- Return the last error that was passed over, or normally if there was none.
  | returnLast
  | fail (reason : String)
  | throw (error : StreamError)
  | panic (panic : Panic)
  deriving Repr

/-- An act, and whether its failure ends the handler with that error. A failure that
does not is passed over. -/
structure Instruction where
  act : Act
  strict : Bool := false
  deriving Repr

/-- A handler before it is set to work. -/
structure Handler where
  script : List Instruction := []
  -- It takes more instructions as it goes.
  attended : Bool := false
  request : Bytes := []
  deriving Repr

end Switchboard
