import Switchboard.Gateway.Unary

/-!
# Streams and reverse calls through the C interface
-/

namespace Switchboard.Gateway

/-! ## Streams -/

/-- The arguments of opening a stream. Only a server stream has a request. -/
def openArguments (shape : Shape) (method : CText) (data : Span) :
    Except Status (String × Bytes) := do
  let method ← method.required
  let request ← if shape = .serverStream then data.bytes else pure []
  return (method, request)

/-- Opens a stream: the answer is its identity, or the number of a status. -/
def openStream (now : Instant) (shape : Shape) (method : CText) (data : Span) (g : Gateway) :
    Crossing Int :=
  match openArguments shape method data, g.current with
  | .error status, _ => { answer := status.code, gateway := g }
  | .ok _, .error status => { answer := status.code, gateway := g }
  | .ok (method, request), .ok server =>
    match server.openStream now shape method request with
    | .escaped text => { answer := Status.panicked.code, gateway := g.keepPanic text }
    | .done o => g.after <| o.map fun
      | .ok id => id.number
      | .error e => (Status.ofStream e).code

/-- What the front end gets for a chunk that it sends. -/
inductive SendAnswer where
  | status (status : Status)
  -- Nothing yet: the queue is full, and the call goes on.
  | blocked
  deriving DecidableEq, Repr

/-- Sends a chunk. The bytes are read first, so that a bad span is refused whether a server runs
or not. -/
def send (now : Instant) (id : SessionId) (data : Span) (g : Gateway) : Crossing SendAnswer :=
  match data.bytes, g.current with
  | .error status, _ => { answer := .status status, gateway := g }
  | .ok _, .error status => { answer := .status status, gateway := g }
  | .ok chunk, .ok server => g.after <| (server.send now id chunk).map fun
    | .ok .accepted => .status .ok
    | .ok .blocked => .blocked
    | .error e => .status (Status.ofStream e)

/-- An operation on a stream of the running server, answered by its status. -/
def onServer (op : Server → Outcome Server (Except StreamError Unit)) (g : Gateway) :
    Crossing Status :=
  match g.current with
  | .error status => { answer := status, gateway := g }
  | .ok server => g.after <| (op server).map (Status.ofResult Status.ofStream)

/-- Closes a stream. -/
def close (now : Instant) (id : SessionId) (g : Gateway) : Crossing Status :=
  g.onServer (Server.close now id)

/-- Closes the input of a stream. -/
def closeInput (now : Instant) (id : SessionId) (g : Gateway) : Crossing Status :=
  g.onServer (Server.closeInput now id)

/-- Signals that the front end is ready for a stream. -/
def markReady (now : Instant) (id : SessionId) (g : Gateway) : Crossing Status :=
  g.onServer (Server.markReady now id)

/-- One look of the reaper of the running server, if one runs. -/
def reap (now : Instant) (g : Gateway) : Crossing Nat :=
  match g.server with
  | none => { answer := 0, gateway := g }
  | some server => g.after (server.reap now)

/-- Gives one more instruction to the first of the servers that has the handler at
work. -/
def instructFormer (now : Instant) (id : SessionId) (i : Instruction) :
    List Server → Outcome (List Server) Bool
  | [] => { answer := false, state := [] }
  | s :: ss =>
    if (s.host.task? id).isSome then (s.instruct now id i).within (· :: ss)
    else (instructFormer now id i ss).within (s :: ·)

/-- Gives a handler one more instruction, also when its server was stopped; the answer is
whether it is still at work. -/
def instruct (now : Instant) (id : SessionId) (i : Instruction) (g : Gateway) :
    Crossing Bool :=
  match g.server.filter (fun s => (s.host.task? id).isSome) with
  | some server => g.after (server.instruct now id i)
  | none =>
    let o := instructFormer now id i g.former
    let (handed, g) := handOver { g with former := o.state } o.activity.deliveries
    { answer := o.answer, gateway := g,
      report := { handed, woken := o.activity.woken, events := o.activity.events } }

/-! ## Reverse calls -/

/-- What a caller into the front end gets at once. -/
inductive CallAnswer where
  | finished (result : Reverse.Result)
  -- Nothing yet: the caller waits for the answer to its call.
  | waiting (id : RequestId)

/-- Hands calls to the reverse callback, each payload in an envelope of its own. -/
def handCalls (g : Gateway) : List Reverse.Request → List Called × Gateway
  | [] => ([], g)
  | r :: rs =>
    let (envelope, ledger) := g.ledger.success r.payload
    let (rest, g) := handCalls { g with ledger } rs
    ({ id := r.id, method := r.method, envelope } :: rest, g)

/-- Calls into the front end. The caller has its answer if it was given on the spot, and
waits otherwise. -/
def reverseCall (method : String) (payload : Bytes) (g : Gateway) : Crossing CallAnswer :=
  match g.server with
  | none => { answer := .finished (.error .noCallback), gateway := g }
  | some server =>
    let (begun, channel) := server.channel.begin method payload
    let withChannel (channel : Reverse.Channel) : List Called × Gateway :=
      handCalls { g with server := some { server with channel } } begun.heard
    match begun.answer with
    | .error e =>
      let (called, g) := withChannel channel
      { answer := .finished (.error e), gateway := g, report := { called } }
    | .ok id =>
      match (channel.slot? id).bind (·.outcome) with
      | some result =>
        let (called, g) := withChannel (channel.abandon id)
        { answer := .finished result, gateway := g, report := { called } }
      | none =>
        let (called, g) := withChannel channel
        { answer := .waiting id, gateway := { g with callers := g.callers ++ [id] },
          report := { called } }

/-- Delivers the front end's answer to a call; the caller that waits for it goes on. -/
def deliver (id : RequestId) (data : Span) (g : Gateway) : Crossing Status :=
  match data.bytes, g.current with
  | .error status, _ => { answer := status, gateway := g }
  | .ok _, .error status => { answer := status, gateway := g }
  | .ok payload, .ok server =>
    let (result, channel) := server.channel.complete id payload
    let status := Status.ofResult Status.ofReverse result
    match result with
    | .error _ => { answer := status, gateway := g }
    | .ok () =>
      let (answered, channel) := dismiss (g.callers.filter (· = id)) channel
      { answer := status
        gateway := { g with
          server := some { server with channel }
          callers := g.callers.filter (· ≠ id) }
        report := { answered } }

/-! ## The front end's side -/

/-- What a front end that reads every envelope and gives it back at once has seen. -/
structure Seen where
  deliveries : List (String × Delivery) := []
  calls : List Reverse.Request := []

/-- Reads the bytes of an envelope and gives it back. -/
def readAndFree (e : Envelope) (g : Gateway) : Bytes × Gateway :=
  ((g.ledger.read? e.data).getD [], g.free e.data)

/-- Reads every delivery and gives back its envelope. -/
def readHanded (g : Gateway) : List Handed → List (String × Delivery) × Gateway
  | [] => ([], g)
  | h :: hs =>
    let (payload, g) := g.readAndFree h.envelope
    let (rest, g) := readHanded g hs
    ((h.callback.name, { session := h.session, frame := { kind := h.kind, payload } }) :: rest, g)

/-- Reads every call and gives back its envelope. -/
def readCalled (g : Gateway) : List Called → List Reverse.Request × Gateway
  | [] => ([], g)
  | c :: cs =>
    let (payload, g) := g.readAndFree c.envelope
    let (rest, g) := readCalled g cs
    ({ id := c.id, method := c.method, payload } :: rest, g)

/-- Reads all that was handed out in a report and gives it back. -/
def readReport (r : Report) (g : Gateway) : Seen × Gateway :=
  let (deliveries, g) := g.readHanded r.handed
  let (calls, g) := g.readCalled r.called
  ({ deliveries, calls }, g)

end Switchboard.Gateway
