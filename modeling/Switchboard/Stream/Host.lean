import Switchboard.Stream.Manager
import Switchboard.Stream.Peer

/-!
# Host — the sessions of a manager with their handlers at work

Every operation of the front end may set handlers going. The host performs the operation
on the manager and then lets the handlers concerned go on until each has ended, rests or
is kept waiting (`settle`). An operation on one session concerns that session's handler
only; ending sessions by force concerns all.
-/

namespace Switchboard

/-- A session at a moment, as its handler finds it, with what came of the calls so far. -/
structure Desk where
  session : Session
  now : Instant
  activity : Activity := {}

namespace Desk

/-- The session answers a call of its handler. -/
def answer (d : Desk) (c : Call) : Option (Answer × Desk) :=
  (d.session.call d.now c).map fun (a, t) =>
    (a, { d with session := t.session, activity := d.activity ++ t.activity })

instance : Peer Desk where
  answer := answer
  backlog d := d.session.inbox.backlog
  backlog_le := by
    intro d q c a h
    simp only [answer, Option.map_eq_some_iff, Prod.exists] at h
    obtain ⟨b, t, hcall, heq⟩ := h
    cases heq
    exact Session.backlog_call_le hcall
  backlog_lt := by
    intro d q b h
    simp only [answer, Option.map_eq_some_iff, Prod.exists] at h
    obtain ⟨b, t, hcall, heq⟩ := h
    cases heq
    exact Session.backlog_receive_lt hcall

end Desk

/-- A manager and the handlers of its sessions. -/
structure Host where
  manager : Manager
  tasks : List Task := []

namespace Host

/-- The handler of a session. -/
def task? (id : SessionId) (h : Host) : Option Task := h.tasks.find? (·.session = id)

/-- Takes over what became of a handler. -/
def putTask (t : Task) (h : Host) : Host :=
  { h with tasks := h.tasks.map fun u => if u.session = t.session then t else u }

/-- Lets the handler of a session go on as far as it can. -/
def settle (now : Instant) (id : SessionId) (h : Host) : Outcome Host Unit :=
  match h.task? id, h.manager.find? id with
  | some t, some s =>
    let (t, desk, events) := t.run ({ session := s, now } : Desk)
    { answer := ()
      state := { h with manager := h.manager.put desk.session }.putTask t
      activity := desk.activity ++ { events := events.map fun e => (id, e) } }
  | _, _ => { answer := (), state := h }

/-- Lets all handlers go on, in opening order. -/
def settleAll (now : Instant) (h : Host) : Outcome Host Unit :=
  h.tasks.foldl (fun o t => o.andThen (settle now t.session)) { answer := (), state := h }

/-- An operation of the manager on one session, and what it sets going. -/
def perform {α : Type} (now : Instant) (id : SessionId) (op : Manager → Outcome Manager α)
    (h : Host) : Outcome Host α :=
  ((op h.manager).within fun manager => { h with manager }).andThen (settle now id)

/-- An operation of the manager on all sessions, and what it sets going. -/
def performAll {α : Type} (now : Instant) (op : Manager → Outcome Manager α) (h : Host) :
    Outcome Host α :=
  ((op h.manager).within fun manager => { h with manager }).andThen (settleAll now)

/-- Opens a session and sets its handler to work. -/
def openSession (now : Instant) (shape : Shape) (handler : Handler) (h : Host) :
    Outcome Host (Except StreamError SessionId) :=
  let o := h.manager.openSession now shape
  match o.answer with
  | .error e => { answer := .error e, state := { h with manager := o.state } }
  | .ok id =>
    let tasks := h.tasks ++ [Task.ofHandler id shape handler]
    let opened : Outcome Host (Except StreamError SessionId) :=
      { answer := .ok id, state := { manager := o.state, tasks } }
    opened.andThen (settle now id)

/-- Sends a chunk, which may be what the handler was waiting for. -/
def send (now : Instant) (id : SessionId) (chunk : Bytes) (h : Host) :
    Outcome Host (Except StreamError SendStatus) :=
  h.perform now id (Manager.send now id chunk)

/-- Closes the input; a handler that waits for more learns that there is none. -/
def closeInput (now : Instant) (id : SessionId) (h : Host) :
    Outcome Host (Except StreamError Unit) :=
  h.perform now id (Manager.closeInput now id)

/-- Closes a session. A handler that waits for a chunk learns of it at once. -/
def close (now : Instant) (id : SessionId) (h : Host) : Outcome Host (Except StreamError Unit) :=
  h.perform now id (Manager.close id)

/-- Signals that the front end is ready, which no handler waits for. -/
def markReady (now : Instant) (id : SessionId) (h : Host) :
    Outcome Host (Except StreamError Unit) :=
  h.perform now id (Manager.markReady now id)

/-- Ends the sessions that have been idle for too long as of `asOf`. -/
def expireIdle (now asOf : Instant) (timeout : Duration) (h : Host) : Outcome Host Nat :=
  h.performAll now (Manager.expireIdle asOf timeout)

/-- Ends every session, and opens no more. -/
def shutdown (now : Instant) (h : Host) : Outcome Host Nat :=
  h.performAll now Manager.shutdown

/-- Gives a handler one more instruction; the answer is whether it is still at work. -/
def instruct (now : Instant) (id : SessionId) (i : Instruction) (h : Host) :
    Outcome Host Bool :=
  match (h.task? id).bind (·.give i) with
  | none => { answer := false, state := h }
  | some t => Outcome.andThen { answer := true, state := h.putTask t } (settle now id)

end Host
end Switchboard
