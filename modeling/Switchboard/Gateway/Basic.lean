import Switchboard.Gateway.Envelope
import Switchboard.Gateway.Settings
import Switchboard.Server

/-!
# Gateway — the one server behind the C interface

The C interface names no server: behind it there is at most one, started with the
dispatcher that is registered then. Dispatcher and callbacks have a slot each. While a
server runs, the dispatcher's slot is closed and a callback that is registered stays.

Identities go on counting from server to server. Handlers of a server that was stopped
may still be at work; `former` keeps them. A callback of the front end is its own code: a
stream callback is known by its name, and of a reverse callback it is known what it
answers on the spot.
-/

namespace Switchboard

/-- Hears what the streams deliver. -/
structure StreamCallback where
  name : String
  deriving DecidableEq, Repr

/-- Hears calls into the front end. -/
structure ReverseCallback where
  -- The answer it gives on the spot, if it gives one.
  answer : Bytes → Option Bytes

/-- All that is behind the C interface. -/
structure Gateway where
  dispatcher : Option Dispatcher := none
  server : Option Server := none
  -- Servers that were stopped, the last one first.
  former : List Server := []
  streamCallback : Option StreamCallback := none
  reverseCallback : Option ReverseCallback := none
  ledger : Gateway.Ledger := {}
  -- The text of the last break that only the interface itself contained.
  lastPanic : String := ""
  sessions : Counter := {}
  requests : Counter := {}
  -- Callers into the front end that wait for their answer, in the order of their calls.
  callers : List RequestId := []
  -- The deliveries from inside which the front end closes their session.
  hangUps : List (SessionId × Nat) := []

namespace Gateway

/-- A delivery as a stream callback gets it. -/
structure Handed where
  callback : StreamCallback
  session : SessionId
  kind : FrameKind
  envelope : Envelope

/-- A call as a reverse callback gets it. -/
structure Called where
  id : RequestId
  method : String
  envelope : Envelope

/-- What happened behind the interface, in order. -/
structure Report where
  handed : List Handed := []
  called : List Called := []
  answered : List (RequestId × Reverse.Result) := []
  woken : List (SessionId × SendResult) := []
  events : List (SessionId × Event) := []

/-- The answer to an operation, the gateway after it, and what happened. -/
structure Crossing (α : Type) where
  answer : α
  gateway : Gateway
  report : Report := {}

/-- Whether a server is in the slot. -/
def running (g : Gateway) : Bool := g.server.isSome

/-- The running server, which most operations need. -/
def current (g : Gateway) : Except Status Server :=
  match g.server with
  | some s => .ok s
  | none => .error .notStarted

/-! ## Handing over -/

/-- Hands deliveries to the stream callback, each in an envelope of its own. With no
callback they are dropped. -/
def handOver (g : Gateway) : List Delivery → List Handed × Gateway
  | [] => ([], g)
  | d :: ds =>
    match g.streamCallback with
    | none => ([], g)
    | some callback =>
      let (envelope, ledger) := g.ledger.success d.frame.payload
      let handed : Handed :=
        { callback, session := d.session, kind := d.frame.kind, envelope }
      let (rest, g) := handOver { g with ledger } ds
      (handed :: rest, g)

/-- Takes over what an operation made of the running server. -/
def after {α : Type} (g : Gateway) (o : Outcome Server α) : Crossing α :=
  let (handed, g) := handOver { g with server := some o.state } o.activity.deliveries
  { answer := o.answer, gateway := g,
    report := { handed, woken := o.activity.woken, events := o.activity.events } }

/-- The front end gives a block back. -/
def free (p : Pointer) (g : Gateway) : Gateway := { g with ledger := g.ledger.release p }

/-! ## Slots -/

/-- Puts a dispatcher in its slot, unless a server runs already. -/
def register (d : Dispatcher) (g : Gateway) : Except RegistrationError Unit × Gateway :=
  if g.running then (.error .alreadyStarted, g)
  else (.ok (), { g with dispatcher := some d })

/-- Empties the dispatcher's slot; the answer is whether there was one. -/
def takeDispatcher (g : Gateway) : Except RegistrationError Bool × Gateway :=
  if g.running then (.error .alreadyStarted, g)
  else (.ok g.dispatcher.isSome, { g with dispatcher := none })

/-- Registers a stream callback, or none. It hears a running server from now on. -/
def registerStreamCallback (callback : Option StreamCallback) (g : Gateway) :
    Status × Gateway :=
  if g.streamCallback.isSome && g.running then (.alreadyStarted, g)
  else
    let server := g.server.map (Server.setHeard callback.isSome)
    (.ok, { g with streamCallback := callback, server })

/-- How calls reach a reverse callback. A method's name with a NUL in it cannot be handed
over. -/
def sinkOf : Option ReverseCallback → Reverse.Sink
  | none => Reverse.Sink.absent
  | some callback => fun request =>
    if '\x00' ∈ request.method.toList then
      { heard := false, refusal := some (.invalidMethod request.method) }
    else { answers := (callback.answer request.payload).toList.map fun b => (request.id, b) }

/-- Registers a reverse callback, or none. A running server calls it from now on. -/
def registerReverseCallback (callback : Option ReverseCallback) (g : Gateway) :
    Status × Gateway :=
  if g.reverseCallback.isSome && g.running then (.alreadyStarted, g)
  else
    let server := g.server.map fun s =>
      { s with channel := { s.channel with sink := sinkOf callback } }
    (.ok, { g with reverseCallback := callback, server })

/-! ## Starting and stopping -/

/-- What the gateway starts a server with: the callbacks that stand in their slots, and the
identities not given out yet. -/
def surroundings (g : Gateway) : Surroundings :=
  { heard := g.streamCallback.isSome
    hangUps := g.hangUps
    reverseSink := sinkOf g.reverseCallback
    sessions := g.sessions
    requests := g.requests }

/-- Starts a server; null settings are no settings. -/
def start (settings : Option Settings) (g : Gateway) : Status × Gateway :=
  match settings with
  | none => (.invalidArgument, g)
  | some settings =>
    match settings.config with
    | .error status => (status, g)
    | .ok config =>
      if g.running then (.alreadyStarted, g)
      else match g.dispatcher with
        | none => (.noDispatcher, g)
        | some dispatcher =>
          match Server.start config dispatcher g.surroundings with
          | .error e => (Status.ofConfig e, g)
          | .ok server => (.ok, { g with server := some server })

/-- What the callers get who wait on a channel, when nothing more will happen. -/
def dismiss : List RequestId → Reverse.Channel → List (RequestId × Reverse.Result) × Reverse.Channel
  | [], c => ([], c)
  | id :: ids, c =>
    let (result, c) := c.wait id
    let (rest, c) := dismiss ids c
    ((result.toList.map fun r => (id, r)) ++ rest, c)

/-- Stops the server, if one runs. The server is out of its slot before it ends what it
had going. -/
def stop (now : Instant) (g : Gateway) : Crossing Status :=
  match g.server with
  | none => { answer := .ok, gateway := g }
  | some server =>
    let o := server.shutdown now
    let (answered, channel) := dismiss g.callers o.state.channel
    let server := { o.state with channel }
    let g := { g with
      server := none
      former := server :: g.former
      sessions := server.host.manager.counter
      requests := channel.counter
      callers := [] }
    let (handed, g) := g.handOver o.activity.deliveries
    { answer := .ok, gateway := g
      report :=
        { handed, answered, woken := o.activity.woken, events := o.activity.events } }

end Gateway
end Switchboard
