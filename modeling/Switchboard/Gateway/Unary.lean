import Switchboard.Gateway.Basic

/-!
# Unary calls, the cache and the last break, through the C interface

A unary call and a cache read answer with an envelope, in which a refusal is a failure
with a text. A break that the server could not contain stops at the interface, which
keeps its text.
-/

namespace Switchboard.Gateway

/-! ## Unary calls -/

/-- Answers a call with a diagnostic. -/
def refuse (text : String) (g : Gateway) : Envelope × Gateway :=
  let (envelope, ledger) := g.ledger.failure text
  (envelope, { g with ledger })

/-- Keeps the text of a break for the front end to ask for. -/
def keepPanic (text : String) (g : Gateway) : Gateway := { g with lastPanic := text }

/-- Reads the arguments of a unary call, the metadata first. -/
def unaryArguments (method : CText) (data : Span) (metadata : Option Span) :
    Except Status (String × Bytes × Metadata) := do
  let metadata ← match metadata with
    | none => pure {}
    | some span => Metadata.parse <$> span.bytes
  let method ← method.required
  let payload ← data.bytes
  return (method, payload, metadata)

/-- A unary call; `metadata` is absent from the call without it. -/
def invoke (method : CText) (data : Span) (metadata : Option Span) (g : Gateway) :
    Envelope × Gateway :=
  match unaryArguments method data metadata with
  | .error status => g.refuse ("invalid call: status " ++ toString status.code)
  | .ok (method, payload, metadata) =>
    match g.server with
    | none => g.refuse "server not started"
    | some server =>
      match server.invoke method payload metadata with
      | .escaped text => (g.keepPanic text).refuse "panic at ffi boundary"
      | .done reply =>
        let (envelope, ledger) := g.ledger.reply reply
        (envelope, { g with ledger })

/-! ## The cache -/

/-- The arguments of a cache operation, and the server to do it. -/
def cacheArguments (store key : CText) (g : Gateway) :
    Except Status (String × String × Server) := do
  let store ← store.required
  let key ← key.required
  let server ← g.current
  return (store, key, server)

/-- Reads a value; an absent one is an empty success. -/
def cacheGet (now : Instant) (store key : CText) (g : Gateway) : Envelope × Gateway :=
  let refused (status : Status) := g.refuse ("cache get failed: status " ++ toString status.code)
  match g.cacheArguments store key with
  | .error status => refused status
  | .ok (store, key, server) =>
    let (result, server) := server.cacheGet now store key
    match result with
    | .error e => refused (Status.ofCache e)
    | .ok value =>
      let (envelope, ledger) := g.ledger.success (value.getD [])
      (envelope, { g with ledger, server := some server })

/-- Keeps a value in the cache of the running server. -/
def cachePut (now : Instant) (store key : CText) (data : Span) (ttlSeconds : Int)
    (g : Gateway) : Status × Gateway :=
  match data.bytes, g.cacheArguments store key with
  | .error status, _ => (status, g)
  | .ok _, .error status => (status, g)
  | .ok value, .ok (store, key, server) =>
    let (result, server) := server.cachePut now store key value ttlSeconds
    (Status.ofResult Status.ofCache result, { g with server := some server })

/-- Answers one or zero for whether there is a value, and a status if that is not to be
known. -/
def cacheContains (now : Instant) (store key : CText) (g : Gateway) : Int :=
  match g.cacheArguments store key with
  | .error status => status.code
  | .ok (store, key, server) =>
    match server.cacheContains now store key with
    | .error e => (Status.ofCache e).code
    | .ok present => if present then 1 else 0

/-- Drops a value from the cache of the running server. -/
def cacheDelete (store key : CText) (g : Gateway) : Status × Gateway :=
  match g.cacheArguments store key with
  | .error status => (status, g)
  | .ok (store, key, server) =>
    let (result, server) := server.cacheDelete store key
    (Status.ofResult Status.ofCache result, { g with server := some server })

/-! ## The last break -/

/-- The largest value of thirty-one bits, above which lengths are not told. -/
def maxLength : Nat := 0x7FFFFFFF

/-- Copies as much of a message into a buffer as leaves room for a NUL behind it. -/
def copyMessage (message buffer : Bytes) : Bytes :=
  if buffer = [] then []
  else
    let copied := message.take (buffer.length - 1)
    copied ++ [0] ++ buffer.drop (copied.length + 1)

/-- The length of the last break's text, and a buffer, unless it is null, with the text
copied into it. -/
def lastPanicMessage (buffer : Option Bytes) (g : Gateway) : Nat × Option Bytes :=
  let message := Utf8.encode g.lastPanic
  (min message.length maxLength, buffer.map (copyMessage message))

end Switchboard.Gateway
