import Switchboard.Stream.Activity
import Switchboard.Stream.Handler

/-!
# Task — a handler at work

`Task.move` says what a task does next, and `Task.answered` how it goes on once a call
was answered. Every answered call leaves less to do (`weight_answered`), but for a chunk
received in a loop, and of these there are only as many as the session has.
-/

namespace Switchboard

/-- A handler at work on a session. -/
structure Task where
  session : SessionId
  shape : Shape
  request : Bytes
  attended : Bool
  agenda : List Instruction
  -- The chunk that `echo` has received and not yet sent back.
  carried : Option Bytes := none
  collected : Bytes := []
  passedOver : Option StreamError := none
  ending : Option Ending := none
  isOver : Bool := false
  deriving Repr

/-- What a task does next. -/
inductive Move where
  -- Nothing, until it is given an instruction.
  | rest
  -- It has seen something without a call.
  | note (event : Event) (task : Task)
  | call (c : Call)

namespace Task

/-- A handler at the beginning of its work. -/
def ofHandler (session : SessionId) (shape : Shape) (h : Handler) : Task :=
  { session, shape, request := h.request, attended := h.attended, agenda := h.script }

/-- Gives the task one more instruction; `none` if the task is over. A scripted task never
looks at what it is given. -/
def give (i : Instruction) (t : Task) : Option Task :=
  if t.isOver then none
  else if t.attended then some { t with agenda := t.agenda ++ [i] }
  else some t

/-- The session's identity and shape as text. -/
def description (t : Task) : String := t.session.text ++ " " ++ t.shape.text

/-- The ending that `returnLast` comes to. -/
def lastEnding (t : Task) : Ending :=
  .returned (match t.passedOver with
    | some e => .error e
    | none => .ok ())

/-- What the task does next: the call its first instruction makes, or the ending it has come to. -/
def move (t : Task) : Move :=
  if t.isOver then .rest
  else match t.ending, t.agenda with
    | some ending, _ => .call (.finish ending)
    | none, [] => if t.attended then .rest else .call (.finish (.returned (.ok ())))
    | none, i :: agenda =>
      match i.act with
      | .receive | .collect => .call .receive
      | .echo =>
        match t.carried with
        | none => .call .receive
        | some chunk => .call (.send chunk)
      | .send payload => .call (.send payload)
      | .sendRequest => .call (.send t.request)
      | .closeSend => .call .closeSend
      | .header key value => .call (.setHeader key value)
      | .trailer key value => .call (.setTrailer key value)
      | .describe => .note (.described t.description) { t with agenda }
      | .return => .call (.finish (.returned (.ok ())))
      | .returnLast => .call (.finish t.lastEnding)
      | .fail reason => .call (.finish (.returned (.error (.handlerFailed reason))))
      | .throw error => .call (.finish (.returned (.error error)))
      | .panic panic => .call (.finish (.panicked panic))

/-- What the handler sees of the answer to a call. -/
def sees (c : Call) (a : Answer) : List Event :=
  match c with
  | .receive => [.received a]
  | .send _ => [.sent a]
  | .closeSend => [.closedSend a]
  | .setHeader _ _ | .setTrailer _ _ => []
  | .finish (.returned outcome) => [.returned outcome]
  | .finish (.panicked _) => []

/-- The task is to end with an error. -/
def giveUp (e : StreamError) (t : Task) : Task := { t with ending := some (.returned (.error e)) }

/-- Goes on to the rest of the agenda after an instruction was answered; an error ends
the task if the instruction is strict. -/
def proceed (i : Instruction) (agenda : List Instruction) (a : Answer) (t : Task) : Task :=
  match a with
  | .error e => if i.strict then t.giveUp e else { t with agenda, passedOver := some e }
  | .ok _ => { t with agenda }

/-- The task once a call of it was answered. -/
def answered (c : Call) (a : Answer) (t : Task) : Task :=
  match c, t.agenda with
  | .finish _, _ => { t with isOver := true }
  | _, [] => t
  | _, i :: agenda =>
    match i.act with
    | .echo =>
      match a, t.carried with
      | .error e, _ => t.giveUp e
      | .ok _, some _ => { t with carried := none }
      | .ok (some chunk), none => { t with carried := some chunk }
      | .ok none, none => { t with agenda }
    | .collect =>
      match a with
      | .error e => t.giveUp e
      | .ok (some chunk) => { t with collected := t.collected ++ chunk }
      | .ok none => { t with agenda := { act := .send t.collected, strict := true } :: agenda }
    | _ => t.proceed i agenda a

/-! ## How much is left to do -/

/-- An instruction counts once for its call and, if it is a loop, more for what follows
the loop. -/
def weigh (i : Instruction) : Nat :=
  match i.act with
  | .collect => 4
  | _ => 2

/-- The weight of an agenda. -/
def weighAll : List Instruction → Nat
  | [] => 0
  | i :: is => weigh i + weighAll is

/-- Bounds how often the task can still move while its peer's backlog stays the same. -/
def weight (t : Task) : Nat :=
  if t.isOver then 0
  else match t.ending with
    | some _ => 1
    | none => 2 + weighAll t.agenda + (if t.carried.isSome then 1 else 0)

theorem weigh_pos (i : Instruction) : 2 ≤ weigh i := by
  unfold weigh
  split <;> omega

theorem weight_finish (a : Answer) (ending : Ending) (t : Task) :
    (t.answered (.finish ending) a).weight = 0 := by
  simp [answered, weight]

theorem weight_giveUp_le (e : StreamError) (t : Task) : (t.giveUp e).weight ≤ 1 := by
  unfold weight giveUp
  split <;> simp

/-- What is left to do of a task that has not come to its ending. -/
theorem weight_eq {t : Task} {i : Instruction} {agenda : List Instruction}
    (hover : t.isOver = false) (hending : t.ending = none) (hcons : t.agenda = i :: agenda) :
    t.weight = 2 + (weigh i + weighAll agenda) +
      (if t.carried.isSome then 1 else 0) := by
  simp [weight, hover, hending, hcons, weighAll]

theorem weight_proceed_lt {t : Task} {i : Instruction} {agenda : List Instruction} (a : Answer)
    (hover : t.isOver = false) (hending : t.ending = none) (hcons : t.agenda = i :: agenda) :
    (t.proceed i agenda a).weight < t.weight := by
  have hw := weight_eq hover hending hcons
  have hi := weigh_pos i
  unfold proceed
  split
  · next e =>
    split
    · have := weight_giveUp_le e t
      omega
    · rw [hw]
      simp only [weight, hover, hending, Bool.false_eq_true, if_false]
      omega
  · rw [hw]
    simp only [weight, hover, hending, Bool.false_eq_true, if_false]
    omega

/-- An answered call leaves less to do, or the task has received a chunk and then at most
one more move is owed for it. -/
theorem weight_answered {t : Task} {c : Call} (a : Answer) (h : t.move = .call c) :
    (t.answered c a).weight < t.weight ∨
      (c = .receive ∧ (∃ b, a = .ok (some b)) ∧ (t.answered c a).weight ≤ t.weight + 1) := by
  unfold move at h
  split at h
  · cases h
  · next hover =>
    have hover : t.isOver = false := by simpa using hover
    split at h
    · next ending heq =>
      cases h
      left
      rw [weight_finish]
      simp [weight, hover, heq]
    · next heq hnil =>
      split at h
      · cases h
      · cases h
        left
        rw [weight_finish]
        simp only [weight, hover, heq, Bool.false_eq_true, if_false]
        omega
    · next i agenda heq hcons =>
      have hw := weight_eq hover heq hcons
      have hend : ∀ ending, (t.answered (.finish ending) a).weight < t.weight := by
        intro ending
        rw [weight_finish]
        omega
      have hplain := weight_proceed_lt a hover heq hcons
      have hgive : ∀ e, (t.giveUp e).weight < t.weight := by
        intro e
        have := weight_giveUp_le e t
        omega
      obtain ⟨act, strict⟩ := i
      cases act with
      | receive | sendRequest | closeSend | send | header | trailer =>
        cases h
        left
        simpa only [answered, hcons] using hplain
      | describe => cases h
      | «return» | returnLast | fail | throw | panic =>
        cases h
        exact .inl (hend _)
      | collect =>
        cases h
        match a with
        | .error e =>
          left
          simpa only [answered, hcons] using hgive e
        | .ok (some chunk) =>
          -- The loop goes on: nothing was done but that a chunk was received.
          right
          refine ⟨rfl, ⟨chunk, rfl⟩, ?_⟩
          simp [answered, hcons, weight, hover, heq]
        | .ok none =>
          left
          simp [answered, hcons, weight, hover, heq, weighAll, weigh]
      | echo =>
        cases hcar : t.carried with
        | some b =>
          simp only [hcar] at h
          cases h
          left
          cases a with
          | error e => simpa only [answered, hcons, hcar] using hgive e
          | ok chunk => simp [answered, hcons, hcar, weight, hover, heq]
        | none =>
          simp only [hcar] at h
          cases h
          match a with
          | .error e =>
            left
            simpa only [answered, hcons, hcar] using hgive e
          | .ok (some chunk) =>
            -- The chunk received is still to be sent back, which is the move owed.
            right
            refine ⟨rfl, ⟨chunk, rfl⟩, ?_⟩
            simp [answered, hcons, hcar, weight, hover, heq]
          | .ok none =>
            left
            simp [answered, hcons, hcar, weight, hover, heq, weighAll, weigh]

theorem weight_note {t u : Task} {event : Event} (h : t.move = .note event u) :
    u.weight < t.weight := by
  unfold move at h
  split at h
  · cases h
  · next hover =>
    have hover : t.isOver = false := by simpa using hover
    split at h
    · cases h
    · split at h <;> cases h
    · next i agenda heq hcons =>
      have hw := weight_eq hover heq hcons
      have hi := weigh_pos i
      obtain ⟨act, strict⟩ := i
      cases act with
      | describe =>
        cases h
        rw [hw]
        simp only [weight, hover, heq, Bool.false_eq_true, if_false]
        omega
      | echo => cases hcar : t.carried <;> simp [hcar] at h
      | _ => cases h

end Task
end Switchboard
