import Switchboard.Dispatch.Router
import Switchboard.Reverse.Channel

/-!
# Behaviour — handlers and front ends that do one thing
-/

namespace Switchboard.Sample

/-- A unary handler that does one thing. -/
inductive Unary where
  | echo
  | reply (bytes : Bytes)
  | metadata
  | lookup
  | fail (error : DispatchError)
  | panic (panic : Panic)
  deriving Repr

/-- The answer of a sample method. -/
def Unary.answer (u : Unary) (payload : Bytes) (m : Metadata) : Attempt Bytes :=
  match u with
  | echo => .returned (.ok payload)
  | reply bytes => .returned (.ok bytes)
  | metadata => .returned (.ok m.encode)
  | lookup => .returned (.ok (((m.get (Utf8.decode payload)).map Utf8.encode).getD []))
  | fail error => .returned (.error error)
  | panic p => .panicked p

/-- A handler for streams, registered under the shape that it is to serve. -/
def streamRoute (shape : Shape) (h : Handler) : Route :=
  match shape with
  | .serverStream => .serverStream fun request => { h with request }
  | .clientStream => .clientStream h
  | .bidi => .bidi h

/-- Takes every call and answers none. -/
def takeCalls : Reverse.Sink := fun _ => {}

/-- Answers every call on the spot with its payload reversed. -/
def echoCalls : Reverse.Sink := fun r => { answers := [(r.id, r.payload.reverse)] }

/-- Answers every call on the spot, and then once more with nothing. -/
def echoTwice : Reverse.Sink := fun r => { answers := [(r.id, r.payload.reverse), (r.id, [])] }

/-- Hears every call and takes none. -/
def refuseCalls (e : ReverseError) : Reverse.Sink := fun _ => { refusal := some e }

end Switchboard.Sample
