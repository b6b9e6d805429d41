/-!
# Panic — how a handler breaks off

A handler that breaks off leaves something behind. Usually it is a text or some other
object, and whoever runs the handler contains the break by disposing of it. It can also
be an object whose disposal breaks off in its turn, with a text: then the break passes
whoever contained it.
-/

namespace Switchboard

/-- What a handler that broke off left behind. -/
inductive Panic where
  | message (text : String)
  | object
  -- An object that is no text and whose disposal breaks off with a text.
  | defiant (text : String)
  deriving DecidableEq, Repr

namespace Panic

/-- What a break is reported as; only a text says anything. -/
def describe : Panic → String
  | message text => text
  | object | defiant _ => "non-string panic payload"

/-- The text with which disposing of it breaks off again, if it does. -/
def rebound? : Panic → Option String
  | defiant text => some text
  | message _ | object => none

end Panic

/-- The outcome of running a handler with breaks contained. -/
inductive Contained (α : Type) where
  | done (value : α)
  | escaped (text : String)
  deriving DecidableEq, Repr

namespace Contained

/-- Changes the value, if there is one. -/
def map {α β : Type} (f : α → β) : Contained α → Contained β
  | done value => done (f value)
  | escaped text => escaped text

end Contained
end Switchboard
