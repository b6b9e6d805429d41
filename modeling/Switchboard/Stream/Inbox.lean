import Switchboard.Text.Utf8

/-!
# Inbox — the bounded queue of input chunks

The front end puts chunks in at one end and the handler takes them out at the other, in
order. The queue holds at most `capacity` chunks. A chunk offered to a full queue waits
outside it, oldest first, and moves in as soon as a chunk is taken. The front end can
stop sending: what is queued or waits is still to be taken. The session can be over:
then nothing waits any more.
-/

namespace Switchboard

/-- A bounded queue of chunks, with those that wait for room. -/
structure Inbox where
  capacity : Nat
  chunks : List Bytes := []
  -- Chunks that found the queue full, oldest first.
  waiting : List Bytes := []
  sender : Bool
  -- The session is over: nobody is kept waiting on it.
  isOver : Bool := false
  deriving DecidableEq, Repr

namespace Inbox

/-- An empty queue; a capacity of zero counts as one. -/
def empty (capacity : Nat) (sender : Bool) : Inbox :=
  { capacity := max capacity 1, sender }

/-- There is no room for one more chunk. -/
def full (b : Inbox) : Bool := b.capacity ≤ b.chunks.length

/-- Offers a chunk. It is taken in if there is room, and waits otherwise; the answer is
whether it was taken in. -/
def offer (chunk : Bytes) (b : Inbox) : Bool × Inbox :=
  if b.full then (false, { b with waiting := b.waiting ++ [chunk] })
  else (true, { b with chunks := b.chunks ++ [chunk] })

/-- What taking a chunk comes to. -/
inductive Taken where
  -- The oldest chunk, how many chunks moved in from outside, and the rest.
  | chunk (head : Bytes) (movedIn : Nat) (rest : Inbox)
  | ended
  | notYet
  deriving DecidableEq, Repr

/-- Takes the oldest chunk; the chunk that has waited longest moves in behind. -/
def take (b : Inbox) : Taken :=
  match b.chunks, b.waiting with
  | c :: cs, [] => .chunk c 0 { b with chunks := cs }
  | c :: cs, w :: ws => .chunk c 1 { b with chunks := cs ++ [w], waiting := ws }
  | [], waiting => if b.isOver || (!b.sender && waiting.isEmpty) then .ended else .notYet

/-- No more chunks are offered; those that wait for room still go in. -/
def dropSender (b : Inbox) : Inbox := { b with sender := false }

/-- The session is over: the front end cannot send, and nothing waits. -/
def shut (b : Inbox) : Inbox := { b with sender := false, isOver := true, waiting := [] }

/-- How many chunks the handler can still receive. -/
def backlog (b : Inbox) : Nat := b.chunks.length + b.waiting.length

theorem backlog_take {b rest : Inbox} {head : Bytes} {n : Nat}
    (h : b.take = .chunk head n rest) : rest.backlog + 1 = b.backlog := by
  unfold take at h
  split at h
  · next c cs heq hw =>
    cases h
    simp [backlog, heq, hw]
  · next c cs w ws heq hw =>
    cases h
    simp [backlog, heq, hw]
    omega
  · split at h <;> cases h

@[simp] theorem backlog_shut_le (b : Inbox) : b.shut.backlog ≤ b.backlog := by
  simp [shut, backlog]

@[simp] theorem backlog_dropSender (b : Inbox) : b.dropSender.backlog = b.backlog := rfl

end Inbox
end Switchboard
