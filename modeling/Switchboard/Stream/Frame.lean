import Switchboard.Text.Utf8
import Switchboard.Id

/-!
# Frame — the shapes of a stream, and what is delivered on one
-/

namespace Switchboard

/-- The directions in which a stream carries more than one message. -/
inductive Shape where
  -- One request, any number of responses.
  | serverStream
  -- Any number of requests, one response.
  | clientStream
  | bidi
  deriving DecidableEq, Repr

namespace Shape

/-- Whether the front end may send on such a stream. -/
def acceptsInput : Shape → Bool
  | serverStream => false
  | clientStream | bidi => true

/-- The name of a shape. -/
def text : Shape → String
  | serverStream => "server-stream"
  | clientStream => "client-stream"
  | bidi => "bidi"

end Shape

/-- The kinds of message that a stream delivers to the front end. -/
inductive FrameKind where
  | data
  | finish
  | error
  -- Pairs, right before the end and before the first response.
  | trailer
  | header
  deriving DecidableEq, Repr

namespace FrameKind

/-- The number of a kind. One is kept for a start that is never announced. -/
def code : FrameKind → Nat
  | data => 2
  | finish => 3
  | error => 4
  | trailer => 5
  | header => 6

/-- Whether a frame of this kind is the last one of its stream. -/
def isTerminal : FrameKind → Bool
  | finish | error => true
  | data | trailer | header => false

end FrameKind

/-- One message to the front end. -/
structure Frame where
  kind : FrameKind
  payload : Bytes
  deriving DecidableEq, Repr

/-- A message together with the session that it belongs to. -/
structure Delivery where
  session : SessionId
  frame : Frame
  deriving DecidableEq, Repr

end Switchboard
