import Switchboard.Stream.Task

/-!
# Peer — whoever answers the calls of a handler

A handler talks to a session when it runs in a server, and to a recorded input when it is
rehearsed. Either is a `Peer`. `Task.run` lets a task and its peer go on until the task
has ended, rests, or is kept waiting. That comes to an end because a peer's backlog, the
number of chunks that can be received, never grows under the calls of a handler.
-/

namespace Switchboard

/-- Answers the calls of a handler. -/
class Peer (ε : Type) where
  -- The answer to a call, `none` while the handler is kept waiting.
  answer : ε → Call → Option (Answer × ε)
  -- How many chunks the handler can still receive before it is kept waiting.
  backlog : ε → Nat
  backlog_le : ∀ {p q : ε} {c : Call} {a : Answer},
    answer p c = some (a, q) → backlog q ≤ backlog p
  backlog_lt : ∀ {p q : ε} {b : Bytes},
    answer p .receive = some (.ok (some b), q) → backlog q < backlog p

namespace Task

/-- One move of a task, `none` if it rests or is kept waiting. -/
def step {ε : Type} [Peer ε] (t : Task) (p : ε) : Option (Task × ε × List Event) :=
  match t.move with
  | .rest => none
  | .note event t => some (t, p, [event])
  | .call c =>
    match Peer.answer p c with
    | none => none
    | some (a, p) => some (t.answered c a, p, sees c a)

/-- Falls with every step of a task. -/
def measure {ε : Type} [Peer ε] (t : Task) (p : ε) : Nat := t.weight + 3 * Peer.backlog p

theorem measure_step_lt {ε : Type} [Peer ε] {t u : Task} {p q : ε} {events : List Event}
    (h : t.step p = some (u, q, events)) : u.measure q < t.measure p := by
  unfold step at h
  split at h
  · cases h
  · next event t' hmove =>
    cases h
    have := weight_note hmove
    simp only [measure]
    omega
  · next c hmove =>
    split at h
    · cases h
    · next a p' hanswer =>
      cases h
      simp only [measure]
      rcases weight_answered a hmove with hlt | ⟨rfl, ⟨b, rfl⟩, hle⟩
      · have := Peer.backlog_le hanswer
        omega
      · have := Peer.backlog_lt hanswer
        omega

/-- Lets a task and its peer go on until the task has ended, rests or is kept waiting. -/
def run {ε : Type} [Peer ε] (t : Task) (p : ε) : Task × ε × List Event :=
  match _h : t.step p with
  | none => (t, p, [])
  | some (u, q, events) =>
    let (v, r, more) := run u q
    (v, r, events ++ more)
termination_by t.measure p
decreasing_by exact measure_step_lt _h

end Task
end Switchboard
