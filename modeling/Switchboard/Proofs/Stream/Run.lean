import Switchboard.Stream.Manager

/-!
# Run — a manager in the course of time

A run is a list of operations, done one at a time. Three kinds of operation make up all
that can happen to a manager: what the front end asks for, what the clock brings about,
and the calls of the handlers. Handlers are not part of a run: whatever they are, they
show in it by their calls only, and a run may hold any calls in any order.

`Manager.history` is what a run comes to for one session, one `Episode` an operation.
`Session.history` is the same for a session that is on its own. Statement vocabulary is
here (`History.delivered`, `History.calls`, `History.ended`, …); that the two histories
agree is the business of `Proofs.Stream.Share` and `Proofs.Stream.Birth`.
-/

namespace Switchboard

/-! ## Operations -/

/-- One thing done to a manager. -/
inductive Operation where
  | openSession (now : Instant) (shape : Shape)
  | send (now : Instant) (id : SessionId) (chunk : Bytes)
  | closeInput (now : Instant) (id : SessionId)
  | close (id : SessionId)
  | markReady (now : Instant) (id : SessionId)
  | expireIdle (now : Instant) (timeout : Duration)
  | shutdown
  | call (now : Instant) (id : SessionId) (c : Call)
  -- The handler of a session that was ended by force receives and learns the cause, though
  -- chunks may still be queued. Whether it learns of a chunk or of the cause first is not
  -- determined; `call` with `receive` is the other outcome.
  | interrupt (id : SessionId)
  deriving Repr

namespace Operation

/-- The session that an operation names. -/
def subject? : Operation → Option SessionId
  | openSession .. | expireIdle .. | shutdown => none
  | send _ id _ | closeInput _ id | close id | markReady _ id | call _ id _ | interrupt id =>
    some id

/-- Whether the operation can do anything to a session: it names it, or names none. -/
def concerns (id : SessionId) (op : Operation) : Bool := op.subject?.all (· = id)

/-- Whether the operation ends sessions by force. -/
def forces : Operation → Bool
  | close _ | expireIdle .. | shutdown => true
  | _ => false

/-- Whether the operation is a close by the front end. -/
def isClose : Operation → Bool
  | close _ => true
  | _ => false

/-- Whether the operation is the front end's signal that it is ready. -/
def isMarkReady : Operation → Bool
  | markReady .. => true
  | _ => false

theorem forces_of_isClose (op : Operation) (h : op.isClose = true) : op.forces = true := by
  cases op <;> first | rfl | cases h

end Operation

/-- The answer to an operation. -/
inductive Response where
  | opened (result : Except StreamError SessionId)
  | sent (result : Except StreamError SendStatus)
  | done (result : Except StreamError Unit)
  | counted (number : Nat)
  | answered (answer : Answer)
  -- Nothing was said: the handler is kept waiting, or the operation was about others.
  | nothing
  deriving Repr

namespace Response

/-- The session that an answer says was opened. -/
def opened? : Response → Option SessionId
  | opened (.ok id) => some id
  | _ => none

/-- Whether nothing came of the operation, as far as the answer tells. -/
def refused : Response → Bool
  | sent (.ok _) | done (.ok _) | answered _ => false
  | _ => true

end Response

/-- What an operation comes to for one session. -/
structure Episode where
  op : Operation
  -- The answer, if the operation named the session.
  response : Response
  frames : List Frame
  -- How sends that had been waiting on the session ended.
  woken : List SendResult
  -- The phases that the session showed before and after, `none` if it was not live.
  before : Option Phase
  after : Option Phase

namespace Episode

/-- The session was live before and is not live after. -/
def left (e : Episode) : Bool := e.before.isSome && e.after.isNone

/-- The call of the handler that was accepted. -/
def accepted? (e : Episode) : Option Call :=
  match e.op, e.response with
  | .call _ _ c, .answered (.ok _) => some c
  | _, _ => none

end Episode

/-! ## What a history tells -/

/-- What a run came to for one session, episode by episode. -/
abbrev History := List Episode

namespace History

/-- The frames delivered for the session, in order. -/
def delivered (h : History) : List Frame := h.flatMap (·.frames)

/-- The handler's accepted calls, in order. -/
def calls (h : History) : List Call := h.filterMap Episode.accepted?

/-- The session was ended by force: it left the registry when the front end closed it,
when it had been idle for too long, or when the manager was shut down. -/
def ended (h : History) : Bool := h.any fun e => e.left && e.op.forces

/-- The session left the registry when the front end closed it. -/
def closed (h : History) : Bool := h.any fun e => e.left && e.op.isClose

/-- The front end signalled for the session that it was ready. -/
def readied (h : History) : Bool := h.any fun e => e.op.isMarkReady && !e.response.refused

@[simp] theorem delivered_append (h h' : History) :
    delivered (h ++ h') = delivered h ++ delivered h' := List.flatMap_append

@[simp] theorem delivered_singleton (e : Episode) : delivered [e] = e.frames := by
  simp [delivered]

@[simp] theorem calls_append (h h' : History) : calls (h ++ h') = calls h ++ calls h' :=
  List.filterMap_append

@[simp] theorem calls_singleton (e : Episode) : calls [e] = e.accepted?.toList := by
  unfold calls
  cases hcall : e.accepted? <;> simp [hcall]

@[simp] theorem ended_append (h h' : History) : ended (h ++ h') = (ended h || ended h') :=
  List.any_append

@[simp] theorem ended_singleton (e : Episode) : ended [e] = (e.left && e.op.forces) := by
  simp [ended]

@[simp] theorem closed_append (h h' : History) : closed (h ++ h') = (closed h || closed h') :=
  List.any_append

@[simp] theorem closed_singleton (e : Episode) : closed [e] = (e.left && e.op.isClose) := by
  simp [closed]

@[simp] theorem readied_append (h h' : History) :
    readied (h ++ h') = (readied h || readied h') := List.any_append

@[simp] theorem readied_singleton (e : Episode) :
    readied [e] = (e.op.isMarkReady && !e.response.refused) := by simp [readied]

end History

/-! ## One session -/

namespace Session

/-- The phase that a session shows, while it is live. -/
def phase? (s : Session) : Option Phase := if s.live then some s.phase else none

@[simp] theorem isSome_phase? (s : Session) : s.phase?.isSome = s.live := by
  unfold phase?
  cases s.live <;> rfl

@[simp] theorem isNone_phase? (s : Session) : s.phase?.isNone = !s.live := by
  unfold phase?
  cases s.live <;> rfl

/-- A chunk is offered to a session; one that is no longer live takes none. -/
def offered (now : Instant) (chunk : Bytes) (s : Session) : Response × Turn :=
  if s.live then
    match s.send now chunk with
    | .error e => (.sent (.error e), .still s)
    | .ok (taken, t) => (.sent (.ok (if taken then .accepted else .blocked)), .still t)
  else (.sent (.error (.inputClosed s.id)), .still s)

/-- An operation on a live session that is no error on a closed one. -/
def whileLive (f : Session → Turn) (s : Session) : Response × Turn :=
  (.done (.ok ()), if s.live then f s else .still s)

/-- Ends a live session with a cause if it is due. -/
def failIf (due : Bool) (cause : StreamError) (s : Session) : Turn :=
  ((if s.live && due then s.fail cause else none)).getD (.still s)

/-- What an operation that concerns a session comes to for it. -/
def undergo (op : Operation) (s : Session) : Response × Turn :=
  match op with
  | .openSession .. => (.nothing, .still s)
  | .send now _ chunk => s.offered now chunk
  | .closeInput now _ => s.whileLive fun s => .still (s.closeInput now)
  | .close _ => s.whileLive close
  | .markReady now _ => s.whileLive (markReady now)
  | .expireIdle now timeout =>
    (.nothing, s.failIf (timeout.nanos ≤ (s.idle now).nanos) (.timeout s.id))
  | .shutdown => (.nothing, s.failIf true .shuttingDown)
  | .call now _ c =>
    match s.call now c with
    | some (answer, t) => (.answered answer, t)
    | none => (.nothing, .still s)
  | .interrupt _ =>
    match s.cause with
    | some e => (.answered (.error e), .still s)
    | none => (.nothing, .still s)

/-- What any operation comes to for a session. -/
def perform (op : Operation) (s : Session) : Response × Turn :=
  if op.concerns s.id then s.undergo op else (.nothing, .still s)

/-- The session after an operation. -/
def next (op : Operation) (s : Session) : Session := (s.perform op).2.session

/-- The session after operations, one after the other. -/
def after (ops : List Operation) (s : Session) : Session := ops.foldl (fun s op => s.next op) s

/-- What an operation comes to for a session, taken by itself. -/
def episode (op : Operation) (s : Session) : Episode :=
  { op, response := (s.perform op).1, frames := (s.perform op).2.frames,
    woken := (s.perform op).2.woken, before := s.phase?, after := (s.next op).phase? }

/-- What a run comes to for a session, taken by itself. -/
def history : List Operation → Session → History
  | [], _ => []
  | op :: ops, s => s.episode op :: history ops (s.next op)

end Session

/-! ## A manager -/

namespace Activity

/-- What was delivered for a session. -/
def frames (id : SessionId) (a : Activity) : List Frame :=
  (a.deliveries.filter (·.session = id)).map (·.frame)

/-- How sends that had been waiting on a session ended. -/
def results (id : SessionId) (a : Activity) : List SendResult :=
  (a.woken.filter (·.1 = id)).map (·.2)

@[simp] theorem frames_append (id : SessionId) (a b : Activity) :
    (a ++ b).frames id = a.frames id ++ b.frames id := by simp [frames]

@[simp] theorem results_append (id : SessionId) (a b : Activity) :
    (a ++ b).results id = a.results id ++ b.results id := by simp [results]

@[simp] theorem frames_empty (id : SessionId) : ({} : Activity).frames id = [] := rfl

@[simp] theorem results_empty (id : SessionId) : ({} : Activity).results id = [] := rfl

end Activity

namespace Manager

/-- A manager as it is created, after `earlier` sessions of managers before it. -/
def fresh (capacity : Nat) (earlier : Nat) : Manager := { capacity, counter := ⟨earlier + 1⟩ }

/-- The manager under an operation. -/
def step (op : Operation) (m : Manager) : Outcome Manager Response :=
  match op with
  | .openSession now shape => (m.openSession now shape).map .opened
  | .send now id chunk => (m.send now id chunk).map .sent
  | .closeInput now id => (m.closeInput now id).map .done
  | .close id => (m.close id).map .done
  | .markReady now id => (m.markReady now id).map .done
  | .expireIdle now timeout => (m.expireIdle now timeout).map .counted
  | .shutdown => m.shutdown.map .counted
  | .call now id c =>
    match m.call now id c with
    | some o => o.map .answered
    | none => { answer := .nothing, state := m }
  | .interrupt id =>
    match (m.find? id).bind (·.cause) with
    | some e => { answer := .answered (.error e), state := m }
    | none => { answer := .nothing, state := m }

/-- The manager after operations, one after the other. -/
def after (ops : List Operation) (m : Manager) : Manager :=
  ops.foldl (fun m op => (m.step op).state) m

/-- The sessions opened in the course of a run, in order. -/
def opened : List Operation → Manager → List SessionId
  | [], _ => []
  | op :: ops, m => (m.step op).answer.opened?.toList ++ opened ops (m.step op).state

/-- What an operation of the manager comes to for one session. -/
def episode (id : SessionId) (op : Operation) (m : Manager) : Episode :=
  let o := m.step op
  { op, response := if op.subject? = some id then o.answer else .nothing,
    frames := o.activity.frames id, woken := o.activity.results id,
    before := m.phase? id, after := o.state.phase? id }

/-- What a run of the manager comes to for one session, also before it is opened. -/
def history (id : SessionId) : List Operation → Manager → History
  | [], _ => []
  | op :: ops, m => m.episode id op :: history id ops (m.step op).state

end Manager
end Switchboard
