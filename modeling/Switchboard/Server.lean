import Switchboard.Cache.Store
import Switchboard.Config
import Switchboard.Dispatch.Dispatcher
import Switchboard.Dispatch.Reply
import Switchboard.Reverse.Channel
import Switchboard.Stream.Host

/-!
# Server — everything between one front end and one dispatcher

A server answers unary calls through its dispatcher, hosts the streams, forwards calls
into the front end and keeps the cache. Its dispatcher is code from outside: when that
code breaks off, the break becomes an error of the one call, unless it is of the kind
that cannot be contained.

A server is stopped once, by `shutdown`. From then on it answers no call and opens no
stream; what it had going is ended.
-/

namespace Switchboard

/-- What a server works with besides its configuration and its dispatcher. -/
structure Surroundings where
  heard : Bool := true
  -- The deliveries from inside which the front end closes their session.
  hangUps : List (SessionId × Nat) := []
  reverseSink : Reverse.Sink := Reverse.Sink.absent
  -- What the cache is kept in, if it is not to be kept in memory.
  store : Option CacheStore := none
  sessions : Counter := {}
  requests : Counter := {}

/-- Everything between one front end and one dispatcher. -/
structure Server where
  config : Config
  dispatcher : Dispatcher
  host : Host
  channel : Reverse.Channel
  cache : Option CacheStore
  stopped : Bool := false

/-- What stopping a server ended. -/
structure ShutdownReport where
  sessionsClosed : Nat := 0
  pendingCallsCancelled : Nat := 0
  reaperJoined : Bool := false
  deriving DecidableEq, Repr

namespace Server

/-- Starts a server, if its configuration is valid. -/
def start (config : Config) (dispatcher : Dispatcher) (around : Surroundings) :
    Except ConfigError Server := do
  config.validate
  let manager : Manager :=
    { capacity := config.inputQueueCapacity, counter := around.sessions,
      heard := around.heard, hangUps := around.hangUps }
  let channel : Reverse.Channel :=
    { sink := around.reverseSink, timeout := config.reverseCallTimeout,
      counter := around.requests }
  let cache := if config.cacheActive then some (around.store.getD (.memory {})) else none
  return { config, dispatcher, host := { manager }, channel, cache }

/-! ## Unary calls -/

/-- Contains a break of the dispatcher as an error. -/
def contain {α β : Type} (ok : Except DispatchError α → β) (broken : DispatchError → β) :
    Attempt α → Contained β
  | .returned result => .done (ok result)
  | .panicked panic =>
    match panic.rebound? with
    | none => .done (broken (.panicked panic.describe))
    | some text => .escaped text

/-- Answers a unary call through the dispatcher, unless the server was stopped. -/
def invoke (method : String) (payload : Bytes) (metadata : Metadata) (s : Server) :
    Contained Reply :=
  if s.stopped then .done (.failed .unavailable)
  else contain Reply.ofResult Reply.failed (s.dispatcher.invoke method payload metadata)

/-! ## Streams -/

/-- Whether somebody hears what the streams deliver. -/
def heard (s : Server) : Bool := s.host.manager.heard

/-- From now on somebody hears what the streams deliver, or nobody does. -/
def setHeard (heard : Bool) (s : Server) : Server :=
  { s with host := { s.host with manager := s.host.manager.setHeard heard } }

/-- Takes over what became of the streams. What nobody hears is not delivered. -/
def stream {α : Type} (s : Server) (o : Outcome Host α) : Outcome Server α :=
  { answer := o.answer
    state := { s with host := o.state }
    activity := if s.heard then o.activity else o.activity.unheard }

/-- The handler for a stream, or why there is none. -/
def handlerFor (shape : Shape) (method : String) (request : Bytes) (s : Server) :
    Contained (Except DispatchError Handler) :=
  contain id .error (s.dispatcher.openStream shape method request)

/-- Opens a stream. The request goes to the dispatcher as it is given; that only a server stream
has one is up to the caller. A stopped server asks nobody for a handler. -/
def openStream (now : Instant) (shape : Shape) (method : String) (request : Bytes)
    (s : Server) : Contained (Outcome Server (Except StreamError SessionId)) :=
  if s.stopped then .done { answer := .error .shuttingDown, state := s }
  else (s.handlerFor shape method request).map fun
    | .error e => { answer := .error (.openFailed e), state := s }
    | .ok handler => s.stream (s.host.openSession now shape handler)

/-- Sends a chunk on a stream. -/
def send (now : Instant) (id : SessionId) (chunk : Bytes) (s : Server) :
    Outcome Server (Except StreamError SendStatus) :=
  s.stream (s.host.send now id chunk)

/-- Closes the input of a stream; the handler may go on sending. -/
def closeInput (now : Instant) (id : SessionId) (s : Server) :
    Outcome Server (Except StreamError Unit) :=
  s.stream (s.host.closeInput now id)

/-- Closes a stream from the front end. -/
def close (now : Instant) (id : SessionId) (s : Server) :
    Outcome Server (Except StreamError Unit) :=
  s.stream (s.host.close now id)

/-- Signals that the front end is ready to hear a stream. -/
def markReady (now : Instant) (id : SessionId) (s : Server) :
    Outcome Server (Except StreamError Unit) :=
  s.stream (s.host.markReady now id)

/-- Ends the sessions that have been idle for too long as of `asOf`. -/
def expireIdle (now asOf : Instant) (timeout : Duration) (s : Server) : Outcome Server Nat :=
  s.stream (s.host.expireIdle now asOf timeout)

/-- One look of the reaper for idle sessions, if there is a reaper. -/
def reap (now : Instant) (s : Server) : Outcome Server Nat :=
  match s.config.streamTimeout with
  | some timeout => if s.stopped then { answer := 0, state := s } else s.expireIdle now now timeout
  | none => { answer := 0, state := s }

/-- Gives a handler one more instruction; the answer is whether it is still at work. -/
def instruct (now : Instant) (id : SessionId) (i : Instruction) (s : Server) :
    Outcome Server Bool :=
  s.stream (s.host.instruct now id i)

/-! ## Calls into the front end -/

/-- An operation on the calls into the front end. That the server was stopped is not looked at. -/
def onChannel {α : Type} (op : Reverse.Channel → α × Reverse.Channel) (s : Server) :
    α × Server :=
  let (answer, channel) := op s.channel
  (answer, { s with channel })

/-- Calls into the front end and does not wait. -/
def beginCall (method : String) (payload : Bytes) (s : Server) :
    Reverse.Channel.Begun × Server :=
  s.onChannel (Reverse.Channel.begin method payload)

/-- Calls into the front end and waits for the answer. -/
def callFrontEnd (method : String) (payload : Bytes) (s : Server) :
    (Reverse.Result × Reverse.Channel.Begun) × Server :=
  s.onChannel (Reverse.Channel.call method payload)

/-! ## The cache -/

/-- What the cache is kept in, if there is a cache. -/
def cacheStore (s : Server) : Except CacheError CacheStore :=
  match s.cache with
  | some store => .ok store
  | none => .error .disabled

/-- Looks a value up in the cache, if there is one. -/
def cacheGet (now : Instant) (store key : String) (s : Server) :
    Except CacheError (Option Bytes) × Server :=
  match s.cacheStore.bind (·.get now store key) with
  | .error e => (.error e, s)
  | .ok (value, cache) => (.ok value, { s with cache := some cache })

/-- Keeps a value in the cache, if there is one. -/
def cachePut (now : Instant) (store key : String) (value : Bytes) (ttlSeconds : Int)
    (s : Server) : Except CacheError Unit × Server :=
  match s.cacheStore.bind (·.put now store key value ttlSeconds) with
  | .error e => (.error e, s)
  | .ok cache => (.ok (), { s with cache := some cache })

/-- Whether the cache has a value, if there is a cache. -/
def cacheContains (now : Instant) (store key : String) (s : Server) : Except CacheError Bool :=
  s.cacheStore.bind (·.contains now store key)

/-- Drops a value from the cache, if there is one. -/
def cacheDelete (store key : String) (s : Server) : Except CacheError Unit × Server :=
  match s.cacheStore.bind (·.delete store key) with
  | .error e => (.error e, s)
  | .ok cache => (.ok (), { s with cache := some cache })

/-! ## Stopping -/

/-- Stops the server: ends the reaper, then every session, then every call into the front
end. Only the first time has anything to end. -/
def shutdown (now : Instant) (s : Server) : Outcome Server ShutdownReport :=
  if s.stopped then { answer := {}, state := s }
  else
    let o := s.stream (s.host.shutdown now)
    let (cancelled, channel) := s.channel.cancelAll
    { answer :=
        { sessionsClosed := o.answer, pendingCallsCancelled := cancelled,
          reaperJoined := s.config.streamTimeout.isSome }
      state := { o.state with channel, stopped := true }
      activity := o.activity }

end Server
end Switchboard
