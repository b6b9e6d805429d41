import Switchboard.Time
import Switchboard.Stream.Call
import Switchboard.Stream.Halves
import Switchboard.Stream.Inbox
import Switchboard.Stream.Outbox

/-!
# Session — one stream between the front end and its handler

A session joins an inbox, an outbox and two halves. The front end sends, closes and
signals readiness; the handler calls (`Call`); the manager ends idle sessions. Each of
these is a function from a session to a `Turn`: the session afterwards, the frames that
were delivered on the way, and how the front-end sends that had been waiting ended. An
operation that is refused is an error and has no turn, so it cannot have changed
anything.

A session ends in one of two ways. Either both halves close in their own time, and it is
retired once its outbox is empty. Or it is ended by force, by the front end (`close`) or
from inside (`fail`): then the `cause` is recorded, both halves close, and from that
moment the session is *silenced*. The first cause stays.

The front end may close a session from inside a delivery that it hears. `hangUps` says at
which of these, counted from one, it does so. It is that session and no other: what the
front end does to other sessions from inside a delivery is not part of the model.
-/

namespace Switchboard

/-- One stream between the front end and its handler. -/
structure Session where
  id : SessionId
  halves : Halves
  inbox : Inbox
  outbox : Outbox := {}
  lastActivity : Instant
  -- Why the session was ended by force.
  cause : Option StreamError := none
  responded : Bool := false
  -- The front end hears nothing more of the session.
  silenced : Bool := false
  -- The session is not retired.
  live : Bool := true
  -- Somebody at the front end hears what is delivered, and how much of it was heard.
  heard : Bool := true
  delivered : Nat := 0
  -- The deliveries from inside which the front end closes this session. Closes of other
  -- sessions from inside them are left out.
  hangUps : List Nat := []
  deriving DecidableEq, Repr

/-- How a front-end send that had been waiting ended. -/
abbrev SendResult := Except StreamError Unit

/-- What an operation made of a session. -/
structure Turn where
  session : Session
  frames : List Frame := []
  -- How the sends that were waiting ended, in the order in which they had come.
  woken : List SendResult := []

namespace Turn

/-- The turn of an operation that delivered nothing and woke nobody. -/
def still (s : Session) : Turn := { session := s }

@[simp] theorem session_still (s : Session) : (still s).session = s := rfl

/-- One turn after another. -/
def andThen (t : Turn) (f : Session → Turn) : Turn :=
  let u := f t.session
  { session := u.session, frames := t.frames ++ u.frames, woken := t.woken ++ u.woken }

/-- Changes the session once the turn is over. -/
def thenSet (t : Turn) (f : Session → Session) : Turn := { t with session := f t.session }

end Turn

namespace Session

/-- A session as it is opened: nothing queued, nothing said, the front end not ready. -/
def fresh (id : SessionId) (shape : Shape) (capacity : Nat) (heard : Bool)
    (hangUps : List Nat) (now : Instant) : Session :=
  { id, halves := Halves.fresh shape, inbox := Inbox.empty capacity shape.acceptsInput,
    lastActivity := now, heard, hangUps }

/-- The shape of the session. -/
def shape (s : Session) : Shape := s.halves.shape

/-- The phase that the halves are in. -/
def phase (s : Session) : Phase := s.halves.phase

/-! ## Common steps -/

/-- Ends the input for good: the front end cannot send, and every send that waits ends
with the cause, or as a send to a closed input if there is none. -/
def release (s : Session) : Turn :=
  { session := { s with inbox := s.inbox.shut },
    woken := s.inbox.waiting.map fun _ => .error (s.cause.getD (.inputClosed s.id)) }

/-- The front end closes the session: nothing more is delivered for it. -/
def close (s : Session) : Turn :=
  let s := { s with cause := s.cause.or (some (.sessionClosed s.id))
                    halves := s.halves.closeBoth.2 }
  s.release.thenSet fun s => { s with silenced := true, live := false }

/-- The front end closes the session from inside one of the next `n` deliveries. -/
def hangsUpWithin (n : Nat) (s : Session) : Bool :=
  s.live && s.hangUps.any fun k => s.delivered < k && k ≤ s.delivered + n

/-- Delivers frames. If the front end closes the session from inside one of these
deliveries, the others are made all the same. Deliveries that nobody hears are made, and
that is all. -/
def deliver (frames : List Frame) (s : Session) : Turn :=
  if s.heard then
    let t : Turn :=
      { session := { s with delivered := s.delivered + frames.length }, frames }
    if s.hangsUpWithin frames.length then t.andThen close else t
  else { session := s, frames }

/-- Stages a frame and delivers what may go out. A silenced session does neither. -/
def push (f : Frame) (s : Session) : Turn :=
  if s.silenced then .still s
  else
    let (frames, outbox) := (s.outbox.stage f).flush
    { s with outbox }.deliver frames

/-- Both halves are closed and nothing is left to deliver. -/
def drained (s : Session) : Bool :=
  s.halves.isTerminal && (s.silenced || s.outbox.pending.isEmpty)

/-- Retires the session if it is drained. -/
def retireIfDrained (s : Session) : Session :=
  if s.drained then { s with live := false } else s

/-! ## The handler's calls -/

/-- The handler takes the next chunk. There is nothing to say while the queue is empty
and more can come. At the end of the input the handler learns the cause, if the session
was ended by force. -/
def receive (s : Session) : Option (Answer × Turn) :=
  match s.inbox.take with
  | .chunk head movedIn rest =>
    some (.ok (some head),
      { session := { s with inbox := rest }, woken := List.replicate movedIn (.ok ()) })
  | .ended =>
    some (match s.cause with
      | some e => .error e
      | none => .ok none, .still s)
  | .notYet => none

/-- The handler sends a payload, of which a client stream takes one. -/
def emit (now : Instant) (payload : Bytes) (s : Session) : Except StreamError Turn :=
  match s.cause with
  | some e => .error e
  | none =>
    if s.halves.outputOpen = false then .error (.sessionClosed s.id)
    else if s.shape = .clientStream ∧ s.responded then .error (.responseAlreadySent s.id)
    else
      .ok <| push ⟨.data, payload⟩
        { s with responded := s.responded || s.shape == .clientStream, lastActivity := now }

/-- The handler ends the output; the input stays as it is. Once is enough: again is no
error. -/
def closeOutput (now : Instant) (s : Session) : Except StreamError Turn :=
  match s.cause with
  | some e => .error e
  | none =>
    if s.halves.outputOpen = false then .ok (.still s)
    else
      .ok <| ({ s with halves := s.halves.closeOutput.2, lastActivity := now }.push
        ⟨.finish, []⟩).thenSet retireIfDrained

/-- What the end of the handler is still to tell the front end: nothing if the session
was ended by force or the output was closed before. -/
def farewell (outputOpen : Bool) (outcome : Except StreamError Unit) (s : Session) :
    Option Frame :=
  match s.cause, outputOpen, outcome with
  | none, true, .ok () => some ⟨.finish, []⟩
  | none, true, .error e => some ⟨.error, Utf8.encode e.message⟩
  | _, _, _ => none

/-- The handler ended: both halves close, and a send that waits wakes and looks for a cause.
That it wakes is settled before the last frame is delivered, so if the front end closes the
session from inside this delivery, the sender may look before the close or after it. Here it
looks when all is told, so that it finds the close. -/
def finish (now : Instant) (outcome : Except StreamError Unit) (s : Session) : Turn :=
  let ended := { s with halves := s.halves.closeBoth.2, lastActivity := now }
  let told := match ended.farewell s.halves.outputOpen outcome with
    | some f => ended.push f
    | none => .still ended
  (told.andThen release).thenSet retireIfDrained

/-- Answers a call of the handler, `none` while the handler is kept waiting. -/
def call (now : Instant) (c : Call) (s : Session) : Option (Answer × Turn) :=
  match c with
  | .receive => s.receive
  | .send payload =>
    some (match s.emit now payload with
      | .ok t => (.ok none, t)
      | .error e => (.error e, .still s))
  | .closeSend =>
    some (match s.closeOutput now with
      | .ok t => (.ok none, t)
      | .error e => (.error e, .still s))
  | .setHeader key value =>
    some (.ok none, { session := { s with outbox := s.outbox.setHeader key value } })
  | .setTrailer key value =>
    some (.ok none, { session := { s with outbox := s.outbox.setTrailer key value } })
  | .finish ending =>
    some (.ok none, match ending.verdict with
      | some outcome => s.finish now outcome
      | none => .still s)

/-! ## The front end's operations -/

/-- The front end sends a chunk; the answer is whether the queue took it in. A chunk
that it did not take in waits, and so does its sender. -/
def send (now : Instant) (chunk : Bytes) (s : Session) : Except StreamError (Bool × Session) :=
  if s.shape.acceptsInput = false then .error (.wrongShape s.id)
  else if s.inbox.sender = false then .error (.inputClosed s.id)
  else
    let (taken, inbox) := s.inbox.offer chunk
    .ok (taken, { s with inbox, lastActivity := now })

/-- The front end closes the input. Once is enough: again changes nothing. -/
def closeInput (now : Instant) (s : Session) : Session :=
  (if s.halves.inputOpen then
    { s with halves := s.halves.closeInput.2, inbox := s.inbox.dropSender,
             lastActivity := now }
  else s).retireIfDrained

/-- The front end is ready: what is pending goes out. -/
def markReady (now : Instant) (s : Session) : Turn :=
  let s := { s with halves := s.halves.markReady.2, lastActivity := now,
                    outbox := { s.outbox with ready := true } }
  (if s.silenced then Turn.still s
  else
    let (frames, outbox) := s.outbox.flush
    { s with outbox }.deliver frames).thenSet retireIfDrained

/-! ## Ending a session by force -/

/-- Ends the session with a cause, unless it was ended by force before. The front end is
told the cause if it is still owed output, ready or not; what was pending is dropped. -/
def fail (cause : StreamError) (s : Session) : Option Turn :=
  match s.cause with
  | some _ => none
  | none =>
    let owed := s.halves.outputOpen || !s.outbox.pending.isEmpty
    let ended := { s with cause := some cause, halves := s.halves.closeBoth.2 }
    some <| (ended.release.andThen fun t =>
      let t := { t with outbox := { t.outbox with pending := [] } }
      if owed && !t.silenced then t.deliver [⟨.error, Utf8.encode cause.message⟩]
      else .still t).thenSet fun t => { t with silenced := true, live := false }

/-- How long ago the last activity was. -/
def idle (now : Instant) (s : Session) : Duration := now.since s.lastActivity

/-! ## The backlog only shrinks under the handler's calls

The number of chunks that are queued or wait for room is what bounds a handler that
receives in a loop. -/

theorem backlog_close_le (s : Session) : s.close.session.inbox.backlog ≤ s.inbox.backlog := by
  simp [close, release, Turn.thenSet]

theorem backlog_deliver_le (frames : List Frame) (s : Session) :
    (s.deliver frames).session.inbox.backlog ≤ s.inbox.backlog := by
  unfold deliver
  dsimp only
  split
  · split
    · exact backlog_close_le _
    · exact Nat.le_refl _
  · exact Nat.le_refl _

theorem backlog_push_le (f : Frame) (s : Session) :
    (s.push f).session.inbox.backlog ≤ s.inbox.backlog := by
  unfold push
  split
  · exact Nat.le_refl _
  · exact backlog_deliver_le _ _

@[simp] theorem inbox_retireIfDrained (s : Session) : s.retireIfDrained.inbox = s.inbox := by
  unfold retireIfDrained
  split <;> rfl

theorem backlog_emit_le {now : Instant} {payload : Bytes} {s : Session} {t : Turn}
    (h : s.emit now payload = .ok t) : t.session.inbox.backlog ≤ s.inbox.backlog := by
  unfold emit at h
  split at h
  · cases h
  · split at h
    · cases h
    · split at h
      · cases h
      · cases h
        exact backlog_push_le _ _

theorem backlog_closeOutput_le {now : Instant} {s : Session} {t : Turn}
    (h : s.closeOutput now = .ok t) : t.session.inbox.backlog ≤ s.inbox.backlog := by
  unfold closeOutput at h
  split at h
  · cases h
  · split at h
    · cases h
      exact Nat.le_refl _
    · cases h
      simp only [Turn.thenSet, inbox_retireIfDrained]
      exact backlog_push_le _ _

theorem backlog_finish_le (now : Instant) (outcome : Except StreamError Unit) (s : Session) :
    (s.finish now outcome).session.inbox.backlog ≤ s.inbox.backlog := by
  simp only [finish, Turn.thenSet, inbox_retireIfDrained, Turn.andThen]
  have hshut : ∀ u : Session, u.release.session.inbox.backlog ≤ u.inbox.backlog := by
    simp [release]
  refine Nat.le_trans (hshut _) ?_
  split
  · exact backlog_push_le _ _
  · exact Nat.le_refl _

theorem backlog_call_le {now : Instant} {c : Call} {s : Session} {a : Answer} {t : Turn}
    (h : s.call now c = some (a, t)) : t.session.inbox.backlog ≤ s.inbox.backlog := by
  cases c with
  | receive =>
    simp only [call, receive] at h
    split at h
    · next head movedIn rest htake =>
      cases h
      have := Inbox.backlog_take htake
      simp only
      omega
    · cases h
      exact Nat.le_refl _
    · cases h
  | send payload =>
    simp only [call, Option.some.injEq] at h
    split at h
    · next t' ht =>
      cases h
      exact backlog_emit_le ht
    · cases h
      exact Nat.le_refl _
  | closeSend =>
    simp only [call, Option.some.injEq] at h
    split at h
    · next t' ht =>
      cases h
      exact backlog_closeOutput_le ht
    · cases h
      exact Nat.le_refl _
  | setHeader key value =>
    simp only [call] at h
    cases h
    exact Nat.le_refl _
  | setTrailer key value =>
    simp only [call] at h
    cases h
    exact Nat.le_refl _
  | finish ending =>
    simp only [call] at h
    cases h
    split
    · exact backlog_finish_le _ _ _
    · exact Nat.le_refl _

theorem backlog_receive_lt {s : Session} {b : Bytes} {t : Turn}
    (h : s.receive = some (.ok (some b), t)) : t.session.inbox.backlog < s.inbox.backlog := by
  unfold receive at h
  split at h
  · next head movedIn rest htake =>
    cases h
    have := Inbox.backlog_take htake
    simp only
    omega
  · split at h <;> cases h
  · cases h

end Session
end Switchboard
