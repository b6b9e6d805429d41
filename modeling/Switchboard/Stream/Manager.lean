import Switchboard.Stream.Activity

/-!
# Manager — all the sessions of one server

The manager keeps every session that was opened on it, in opening order. The *live* ones
are its registry. A session that is retired stays known to its handler and to nobody
else: towards the front end, an identity that was given out and is not live is closed
for ever, and one that was never given out is not found. The counter tells the two
apart, also for sessions of other managers before this one.

Time is an argument of every operation that looks at the clock.
-/

namespace Switchboard

/-- All the sessions of one server. -/
structure Manager where
  capacity : Nat
  counter : Counter := {}
  shuttingDown : Bool := false
  -- Every session opened, in opening order.
  sessions : List Session := []
  heard : Bool := true
  -- The deliveries from inside which the front end closes the session, counted from one
  -- among those of the session that are heard.
  hangUps : List (SessionId × Nat) := []

/-- What becomes of a chunk that the front end sends. -/
inductive SendStatus where
  | accepted
  -- The queue is full; chunk and sender wait.
  | blocked
  deriving DecidableEq, Repr

namespace Manager

/-- The session of an identity, live or retired. -/
def find? (id : SessionId) (m : Manager) : Option Session :=
  m.sessions.find? (·.id = id)

/-- The live sessions, in opening order. -/
def registry (m : Manager) : List Session := m.sessions.filter (·.live)

/-- How many sessions are live. -/
def liveCount (m : Manager) : Nat := m.registry.length

/-- The session of an identity, if it is live. -/
def live? (id : SessionId) (m : Manager) : Option Session :=
  (m.find? id).filter (·.live)

/-- The phase of a live session. -/
def phase? (id : SessionId) (m : Manager) : Option Phase :=
  (m.live? id).map Session.phase

/-- Finds a session for the front end: `none` is a session that is closed for ever. -/
def lookup (id : SessionId) (m : Manager) : Except StreamError (Option Session) :=
  match m.live? id with
  | some s => .ok (some s)
  | none => if m.counter.issued id.number then .ok none else .error (.sessionNotFound id)

/-- Takes over what became of a session. -/
def put (s : Session) (m : Manager) : Manager :=
  { m with sessions := m.sessions.map fun t => if t.id = s.id then s else t }

/-- Takes over what became of a session. -/
def commit {α : Type} (answer : α) (t : Turn) (m : Manager) : Outcome Manager α :=
  { answer, state := m.put t.session, activity := t.activity }

/-- From now on the front end hears what is delivered, or does not. -/
def setHeard (heard : Bool) (m : Manager) : Manager :=
  { m with heard, sessions := m.sessions.map fun s => { s with heard } }

/-! ## Opening -/

/-- Opens a session. Its identity is spent even if the manager is shutting down and
refuses. -/
def openSession (now : Instant) (shape : Shape) (m : Manager) :
    Outcome Manager (Except StreamError SessionId) :=
  let id : SessionId := ⟨m.counter.next⟩
  let m := { m with counter := m.counter.advance }
  if m.shuttingDown then { answer := .error .shuttingDown, state := m }
  else
    let hangUps := (m.hangUps.filter (·.1 = id)).map (·.2)
    let s := Session.fresh id shape m.capacity m.heard hangUps now
    { answer := .ok id, state := { m with sessions := m.sessions ++ [s] } }

/-! ## The front end's operations -/

/-- An operation on a live session that is no error on a closed one. -/
def onLive (id : SessionId) (f : Session → Turn) (m : Manager) :
    Outcome Manager (Except StreamError Unit) :=
  match m.lookup id with
  | .error e => { answer := .error e, state := m }
  | .ok none => { answer := .ok (), state := m }
  | .ok (some s) => m.commit (.ok ()) (f s)

/-- Sends a chunk on a session. One that is closed has its input closed, whatever its shape was. -/
def send (now : Instant) (id : SessionId) (chunk : Bytes) (m : Manager) :
    Outcome Manager (Except StreamError SendStatus) :=
  match m.lookup id with
  | .error e => { answer := .error e, state := m }
  | .ok none => { answer := .error (.inputClosed id), state := m }
  | .ok (some s) =>
    match s.send now chunk with
    | .error e => { answer := .error e, state := m }
    | .ok (taken, s) =>
      m.commit (.ok (if taken then .accepted else .blocked)) (.still s)

/-- Closes the input of a session. -/
def closeInput (now : Instant) (id : SessionId) (m : Manager) :
    Outcome Manager (Except StreamError Unit) :=
  m.onLive id fun s => .still (s.closeInput now)

/-- Closes a session; nothing more is delivered for it. -/
def close (id : SessionId) (m : Manager) : Outcome Manager (Except StreamError Unit) :=
  m.onLive id Session.close

/-- Signals that the front end is ready for a session. -/
def markReady (now : Instant) (id : SessionId) (m : Manager) :
    Outcome Manager (Except StreamError Unit) :=
  m.onLive id (Session.markReady now)

/-! ## The handler's calls -/

/-- Answers a call of a session's handler, whether the session is live or not; `none`
while the handler is kept waiting. -/
def call (now : Instant) (id : SessionId) (c : Call) (m : Manager) :
    Option (Outcome Manager Answer) :=
  match m.find? id with
  | none => none
  | some s => (s.call now c).map fun (answer, t) => m.commit answer t

/-! ## Ending sessions by force -/

/-- Ends the live sessions that are due, in opening order, and counts them. -/
def failDue (due : Session → Bool) (cause : Session → StreamError) :
    List Session → List Session × Activity × Nat
  | [] => ([], {}, 0)
  | s :: ss =>
    let (rest, activity, count) := failDue due cause ss
    match if s.live && due s then s.fail (cause s) else none with
    | some t => (t.session :: rest, t.activity ++ activity, count + 1)
    | none => (s :: rest, activity, count)

/-- Ends every live session that has been idle for the timeout or longer. -/
def expireIdle (now : Instant) (timeout : Duration) (m : Manager) : Outcome Manager Nat :=
  let (sessions, activity, count) :=
    failDue (fun s => timeout.nanos ≤ (s.idle now).nanos) (fun s => .timeout s.id) m.sessions
  { answer := count, state := { m with sessions }, activity }

/-- Ends every live session, and opens no more. -/
def shutdown (m : Manager) : Outcome Manager Nat :=
  let (sessions, activity, count) :=
    failDue (fun _ => true) (fun _ => .shuttingDown) m.sessions
  { answer := count, state := { m with sessions, shuttingDown := true }, activity }

end Manager
end Switchboard
