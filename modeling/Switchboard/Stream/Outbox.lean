import Switchboard.Metadata
import Switchboard.Stream.Frame

/-!
# Outbox — output that waits for the front end

Frames are staged in order and stay pending until the front end is ready; from then on
whatever is staged goes out at once. Headers are written once, right before the first
data or the end, whichever comes first; from that moment more headers are ignored.
Trailers are written right before the end.
-/

namespace Switchboard

/-- Output not yet delivered, and the pairs still to be written. -/
structure Outbox where
  ready : Bool := false
  pending : List Frame := []
  headers : Pairs := []
  headersSent : Bool := false
  trailers : Pairs := []
  deriving DecidableEq, Repr, Inhabited

namespace Outbox

/-- The frame that holds a list of pairs, none if there are no pairs. -/
def pairsFrame (kind : FrameKind) (pairs : Pairs) : List Frame :=
  if pairs.isEmpty then [] else [⟨kind, Metadata.encodePairs pairs⟩]

/-- Before data and before the end the headers are due, unless they were written. -/
def stageHeaders (kind : FrameKind) (o : Outbox) : Outbox :=
  if (kind = .data ∨ kind = .finish) ∧ o.headersSent = false then
    { o with headersSent := true, pending := o.pending ++ pairsFrame .header o.headers }
  else o

/-- Before the end the trailers are due. -/
def stageTrailers (kind : FrameKind) (o : Outbox) : Outbox :=
  if kind = .finish then
    { o with trailers := [], pending := o.pending ++ pairsFrame .trailer o.trailers }
  else o

/-- Adds a frame, after whatever must come before it. -/
def stage (f : Frame) (o : Outbox) : Outbox :=
  let o := (o.stageHeaders f.kind).stageTrailers f.kind
  { o with pending := o.pending ++ [f] }

/-- The frames that go out now, and the outbox without them. -/
def flush (o : Outbox) : List Frame × Outbox :=
  if o.ready then (o.pending, { o with pending := [] }) else ([], o)

/-- Adds a header, unless headers were written. -/
def setHeader (key value : String) (o : Outbox) : Outbox :=
  if o.headersSent then o else { o with headers := o.headers ++ [(key, value)] }

/-- Adds a trailer, to be said at the end of the output. -/
def setTrailer (key value : String) (o : Outbox) : Outbox :=
  { o with trailers := o.trailers ++ [(key, value)] }

/-- Flushing loses nothing: what goes out and what stays is what was pending. -/
theorem flush_append (o : Outbox) : o.flush.1 ++ o.flush.2.pending = o.pending := by
  unfold flush
  split <;> simp

end Outbox
end Switchboard
