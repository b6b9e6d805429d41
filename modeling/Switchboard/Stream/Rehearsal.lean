import Switchboard.Stream.Peer

/-!
# Rehearsal — a handler run over a recorded input

Without a server, a handler can be run over a list of chunks: it receives them one by
one and then the end of the input, and what it asks for is written down. A rehearsal can
be made to refuse sends once a number of them were accepted.
-/

namespace Switchboard

/-- What a rehearsed handler asked for. -/
inductive Asked where
  | send (payload : Bytes)
  | closeSend
  | header (key value : String)
  | trailer (key value : String)
  deriving DecidableEq, Repr

/-- A recorded input, and what was asked for over it. -/
structure Rehearsal where
  input : List Bytes := []
  -- How many more sends are accepted; `none` is any number.
  room : Option Nat := none
  asked : List Asked := []
  ending : Option Ending := none
  deriving Repr

namespace Rehearsal

/-- Notes what the handler asked for. -/
def note (a : Asked) (r : Rehearsal) : Rehearsal := { r with asked := r.asked ++ [a] }

/-- The answer to a call; nobody is kept waiting. -/
def answer (r : Rehearsal) : Call → Answer × Rehearsal
  | .receive =>
    match r.input with
    | [] => (.ok none, r)
    | chunk :: input => (.ok (some chunk), { r with input })
  | .send payload =>
    match r.room with
    | none => (.ok none, r.note (.send payload))
    | some 0 => (.error (.handlerFailed "full"), r)
    | some (n + 1) => (.ok none, { r with room := some n }.note (.send payload))
  | .closeSend => (.ok none, r.note .closeSend)
  | .setHeader key value => (.ok none, r.note (.header key value))
  | .setTrailer key value => (.ok none, r.note (.trailer key value))
  | .finish ending => (.ok none, { r with ending := some ending })

theorem length_answer_le (r : Rehearsal) (c : Call) :
    (r.answer c).2.input.length ≤ r.input.length := by
  cases c <;> simp only [answer, note] <;> (try split) <;> simp_all

instance : Peer Rehearsal where
  answer r c := some (r.answer c)
  backlog r := r.input.length
  backlog_le := by
    intro r q c a h
    have hle := length_answer_le r c
    rw [Option.some.inj h] at hle
    exact hle
  backlog_lt := by
    intro r q b h
    unfold answer at h
    cases hin : r.input with
    | nil => simp [hin] at h
    | cons chunk input =>
      simp only [hin] at h
      cases h
      simp

/-- Runs a handler against the rehearsal as far as it can go. -/
def perform (session : SessionId) (shape : Shape) (h : Handler) (r : Rehearsal) : Rehearsal :=
  ((Task.ofHandler session shape h).run r).2.1

end Rehearsal
end Switchboard
