import Switchboard.Proofs.Stream.Hosting

/-!
# Trace — all that comes of a run, operation by operation

A trace has for each operation of a run its answer, what it brought about, and the manager
after it. So whatever can be told of a run is told by its trace, and two runs that have the
same trace cannot be told apart. A run that comes to a state goes on from there as any other
run that comes to it.
-/

namespace Switchboard.Manager

variable {m : Manager} {id : SessionId} {s : Session} {now : Instant} {c : Call}
variable {answer : Answer} {t : Turn}

/-- What the operations of a run come to, one after another. -/
def trace : List Operation → Manager → List (Outcome Manager Response)
  | [], _ => []
  | op :: ops, m => m.step op :: trace ops (m.step op).state

theorem trace_append (ops more : List Operation) (m : Manager) :
    m.trace (ops ++ more) = m.trace ops ++ (m.after ops).trace more := by
  induction ops generalizing m with
  | nil => rfl
  | cons op ops ih =>
    show m.step op :: (m.step op).state.trace (ops ++ more) = _
    rw [ih]
    rfl

/-- What a handler's call comes to is what it comes to for the session. -/
theorem step_call (h : m.find? id = some s) (hcall : s.call now c = some (answer, t)) :
    m.step (.call now id c) =
      { answer := .answered answer, state := m.put t.session, activity := t.activity } := by
  simp only [step, call, h, hcall, Option.map_some, commit]
  rfl

/-- A call that leaves the session as it was is nothing to the manager. -/
theorem step_call_still {first : Nat} (hm : m.Numbered first) (h : m.find? id = some s)
    (hcall : s.call now c = some (answer, .still s)) :
    m.step (.call now id c) = { answer := .answered answer, state := m } := by
  obtain rfl := id_of_find? h
  have hput : m.put s = m := put_eq_self hm h
  rw [step_call h hcall, Turn.session_still, hput]
  rfl

/-- The handler of a session that is not there makes no call. -/
theorem step_call_of_absent (h : m.find? id = none) (now : Instant) (c : Call) :
    m.step (.call now id c) = { answer := .nothing, state := m } := by
  simp only [step, call, h]

end Switchboard.Manager
