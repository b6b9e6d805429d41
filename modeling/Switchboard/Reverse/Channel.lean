import Switchboard.Reverse.Error
import Switchboard.Text.Utf8
import Switchboard.Time

/-!
# Channel — calls into the front end

A call is forwarded to the front end under a fresh identity and is answered later under
that identity, perhaps from inside the forwarding already. Each call has two ends. The
*pending* table says which calls may still be answered; whoever takes a call out of the
table settles it, so that a second answer finds nothing. The *slot* is the caller's end:
it holds the outcome until the caller collects it, and is gone once the caller has
waited for it or given it up.

A wait here is one on which nothing else will happen: a call that is still pending times
out. A slot that is neither pending nor full had its outcome collected before, and
another wait on it counts as cancelled.

To answer a call is one step here: the call leaves the table and its slot is full. A wait
that times out in between, when the call is no longer pending and its answer has not
arrived, is outside these runs; it would end with the timeout although the answer was
accepted.
-/

namespace Switchboard.Reverse

/-- How a call into the front end ends. -/
abbrev Result := Except ReverseError Bytes

/-- A call as the front end sees it. -/
structure Request where
  id : RequestId
  method : String
  payload : Bytes
  deriving DecidableEq, Repr

/-- What the front end does from inside the forwarding of a call. -/
structure Reaction where
  heard : Bool := true
  answers : List (RequestId × Bytes) := []
  refusal : Option ReverseError := none

/-- The front end, as far as calls into it go. -/
abbrev Sink := Request → Reaction

/-- No front end: every call is refused and none is heard. -/
def Sink.absent : Sink := fun _ => { heard := false, refusal := some .noCallback }

/-- The caller's end of a call. -/
structure Slot where
  id : RequestId
  -- The outcome, from when it arrives until it is collected.
  outcome : Option Result := none
  deriving Repr

/-- All calls into the front end. -/
structure Channel where
  sink : Sink := Sink.absent
  timeout : Duration
  counter : Counter := {}
  pending : List RequestId := []
  slots : List Slot := []

namespace Channel

/-- How many calls may still be answered. -/
def pendingCount (c : Channel) : Nat := c.pending.length

/-- The caller's end of a call, if it is still held. -/
def slot? (id : RequestId) (c : Channel) : Option Slot := c.slots.find? (·.id = id)

/-- Takes a call out of the table of pending ones. -/
def unlist (id : RequestId) (c : Channel) : Channel :=
  { c with pending := c.pending.filter (· ≠ id) }

/-- Puts an outcome in a slot, or takes it out. -/
def setOutcome (id : RequestId) (outcome : Option Result) (c : Channel) : Channel :=
  { c with slots := c.slots.map fun s => if s.id = id then { s with outcome } else s }

/-- The caller gives up a call; it can no more be answered. -/
def abandon (id : RequestId) (c : Channel) : Channel :=
  { c.unlist id with slots := c.slots.filter (·.id ≠ id) }

/-- Answers a call. One that was answered before, or given up, cannot be answered; one that was
never made is told apart from these by the counter. -/
def complete (id : RequestId) (payload : Bytes) (c : Channel) :
    Except ReverseError Unit × Channel :=
  if id ∈ c.pending then (.ok (), (c.unlist id).setOutcome id (some (.ok payload)))
  else if c.counter.issued id.number then (.error (.alreadyCompleted id), c)
  else (.error (.unknownRequest id), c)

/-- Answers calls one after the other, each with a result of its own. -/
def completeAll : List (RequestId × Bytes) → Channel → List (Except ReverseError Unit) × Channel
  | [], c => ([], c)
  | (id, payload) :: rest, c =>
    let (r, c) := c.complete id payload
    let (rs, c) := completeAll rest c
    (r :: rs, c)

/-- What came of an attempt to call. -/
structure Begun where
  answer : Except ReverseError RequestId
  heard : List Request
  answers : List (Except ReverseError Unit)

/-- Makes a call and does not wait. Its identity is spent even if it is refused. -/
def begin (method : String) (payload : Bytes) (c : Channel) : Begun × Channel :=
  let id : RequestId := ⟨c.counter.next⟩
  let request : Request := { id, method, payload }
  let reaction := c.sink request
  let (answers, c) := completeAll reaction.answers
    { c with counter := c.counter.advance, pending := c.pending ++ [id],
             slots := c.slots ++ [{ id }] }
  let heard := if reaction.heard then [request] else []
  match reaction.refusal with
  | some e => ({ answer := .error e, heard, answers }, c.abandon id)
  | none => ({ answer := .ok id, heard, answers }, c)

/-- Collects the outcome if it has arrived: the outer `none` says that the slot is not
held, the inner one that there is nothing to collect. -/
def take (id : RequestId) (c : Channel) : Option (Option Result) × Channel :=
  match c.slot? id with
  | none => (none, c)
  | some s => (some s.outcome, c.setOutcome id none)

/-- What a wait ends with, if nothing else happens: the outcome, or a timeout while the call is
pending. A slot that is empty though the call is settled was collected from. -/
def outcomeOfWait (s : Slot) (c : Channel) : Result :=
  match s.outcome with
  | some r => r
  | none => if s.id ∈ c.pending then .error (.timeout s.id) else .error (.cancelled s.id)

/-- Waits for a call, and gives it up; `none` says that the slot is not held. -/
def wait (id : RequestId) (c : Channel) : Option Result × Channel :=
  match c.slot? id with
  | none => (none, c)
  | some s => (some (c.outcomeOfWait s), c.abandon id)

/-- Makes a call and waits for it. -/
def call (method : String) (payload : Bytes) (c : Channel) : (Result × Begun) × Channel :=
  let (begun, c) := c.begin method payload
  match begun.answer with
  | .error e => ((.error e, begun), c)
  | .ok id =>
    let (result, c) := c.wait id
    ((result.getD (.error (.cancelled id)), begun), c)

/-- Settles every pending call as cancelled, and counts them. -/
def cancelAll (c : Channel) : Nat × Channel :=
  (c.pendingCount,
    { c with
      pending := []
      slots := c.slots.map fun s =>
        if s.id ∈ c.pending then { s with outcome := some (.error (.cancelled s.id)) } else s })

end Channel
end Switchboard.Reverse
