import Switchboard.Text.Utf8
import Switchboard.Dispatch.Error

/-!
# Reply — the outcome of a unary call, with an empty success kept apart
-/

namespace Switchboard

/-- The outcome of a unary call. -/
inductive Reply where
  | payload (bytes : Bytes)
  | empty
  | failed (error : DispatchError)
  deriving DecidableEq, Repr

namespace Reply

/-- Tells an empty response from one that is not. -/
def ofResult : Except DispatchError Bytes → Reply
  | .ok [] => empty
  | .ok (b :: bs) => payload (b :: bs)
  | .error e => failed e

/-- The response, or why there is none. -/
def result : Reply → Except DispatchError Bytes
  | payload bytes => .ok bytes
  | empty => .ok []
  | failed e => .error e

/-- Whether the call came to a result, be it empty. -/
def isSuccess : Reply → Bool
  | payload _ | empty => true
  | failed _ => false

@[simp] theorem result_ofResult (r : Except DispatchError Bytes) : (ofResult r).result = r := by
  cases r with
  | error e => rfl
  | ok bytes => cases bytes <;> rfl

end Reply
end Switchboard
