import Switchboard.Stream.Session

/-!
# Activity — what an operation brings about, besides its answer

Three things can be seen from outside: frames delivered to the front end, front-end
sends that had been waiting and now ended, and what the handlers saw of their own
calls. Each is a list in the order in which it happened.
-/

namespace Switchboard

/-- What a handler saw. -/
inductive Event where
  | received (answer : Answer)
  | sent (answer : Answer)
  | closedSend (answer : Answer)
  | described (text : String)
  | returned (outcome : Except StreamError Unit)
  deriving Repr

/-- What happened, in order. -/
structure Activity where
  deliveries : List Delivery := []
  woken : List (SessionId × SendResult) := []
  events : List (SessionId × Event) := []

namespace Activity

/-- One activity after another. -/
def append (a b : Activity) : Activity :=
  { deliveries := a.deliveries ++ b.deliveries
    woken := a.woken ++ b.woken
    events := a.events ++ b.events }

instance : Append Activity := ⟨append⟩

@[simp] theorem deliveries_append (a b : Activity) :
    (a ++ b).deliveries = a.deliveries ++ b.deliveries := rfl

@[simp] theorem woken_append (a b : Activity) : (a ++ b).woken = a.woken ++ b.woken := rfl

@[simp] theorem events_append (a b : Activity) :
    (a ++ b).events = a.events ++ b.events := rfl

/-- The activity as it is when nobody hears what is delivered. -/
def unheard (a : Activity) : Activity := { a with deliveries := [] }

end Activity

/-- The activity of a turn, under the name of its session. -/
def Turn.activity (t : Turn) : Activity :=
  { deliveries := t.frames.map fun f => ⟨t.session.id, f⟩
    woken := t.woken.map fun r => (t.session.id, r) }

/-- The answer to an operation, the state after it, and what it brought about. -/
structure Outcome (State : Type) (Answer : Type) where
  answer : Answer
  state : State
  activity : Activity := {}

namespace Outcome

/-- Changes the answer and nothing else. -/
def map {σ α β : Type} (f : α → β) (o : Outcome σ α) : Outcome σ β :=
  { o with answer := f o.answer }

/-- The outcome as one of a larger state. -/
def within {σ τ α : Type} (f : σ → τ) (o : Outcome σ α) : Outcome τ α :=
  { o with state := f o.state }

/-- Goes on with a second operation, whose answer counts for nothing. -/
def andThen {σ α β : Type} (o : Outcome σ α) (f : σ → Outcome σ β) : Outcome σ α :=
  let p := f o.state
  { answer := o.answer, state := p.state, activity := o.activity ++ p.activity }

end Outcome
end Switchboard
