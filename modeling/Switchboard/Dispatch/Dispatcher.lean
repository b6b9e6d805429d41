import Switchboard.Metadata
import Switchboard.Dispatch.Error
import Switchboard.Stream.Handler

/-!
# Dispatcher — where calls find their handlers

A dispatcher answers unary calls and gives handlers for streams. Both are code from
outside, and both may break off.
-/

namespace Switchboard

/-- How code of the dispatcher ended. -/
inductive Attempt (α : Type) where
  | returned (result : Except DispatchError α)
  | panicked (panic : Panic)

/-- Answers unary calls and gives handlers for streams. -/
structure Dispatcher where
  invoke : String → Bytes → Metadata → Attempt Bytes
  openStream : Shape → String → Bytes → Attempt Handler

namespace Dispatcher

/-- The same dispatcher with no streams. -/
def unaryOnly (d : Dispatcher) : Dispatcher :=
  { d with openStream := fun _ method _ => .returned (.error (.methodNotFound method)) }

/-- The same dispatcher, but that opening a stream on one method breaks off. -/
def breakingOn (method : String) (panic : Panic) (d : Dispatcher) : Dispatcher :=
  { d with openStream := fun shape name request =>
      if name = method then .panicked panic else d.openStream shape name request }

end Dispatcher
end Switchboard
