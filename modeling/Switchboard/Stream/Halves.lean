import Switchboard.Stream.Frame

/-!
# Halves — which directions of a session are open

A session is the product of an input half and an output half, and of the readiness of
the front end to hear from it. Halves only close and readiness is only gained. Each
change answers whether it changed anything.
-/

namespace Switchboard

/-- What a session looks like from outside. -/
inductive Phase where
  -- The front end is not ready yet.
  | opened
  -- Ready, and every half that the shape has is open.
  | streaming
  -- The input was closed; output is still to come.
  | inputClosed
  -- The output ended; input is still taken.
  | outputClosed
  | closed
  deriving DecidableEq, Repr

/-- The open halves of a session, and the front end's readiness. -/
structure Halves where
  shape : Shape
  inputOpen : Bool
  outputOpen : Bool
  ready : Bool
  deriving DecidableEq, Repr

namespace Halves

/-- A fresh session. A server stream has its one request already, so its input is
closed from the start. -/
def fresh (shape : Shape) : Halves :=
  { shape, inputOpen := shape.acceptsInput, outputOpen := true, ready := false }

/-- The front end is ready; the answer is whether that is news. -/
def markReady (h : Halves) : Bool × Halves :=
  (!h.ready, { h with ready := true })

/-- Closes the input; the answer is whether it was open. -/
def closeInput (h : Halves) : Bool × Halves :=
  (h.inputOpen, { h with inputOpen := false })

/-- Closes the output; the answer is whether it was open. -/
def closeOutput (h : Halves) : Bool × Halves :=
  (h.outputOpen, { h with outputOpen := false })

/-- Closes both halves; the answer is whether one was open. -/
def closeBoth (h : Halves) : Bool × Halves :=
  (h.inputOpen || h.outputOpen, { h with inputOpen := false, outputOpen := false })

/-- Whether both halves are closed. -/
def isTerminal (h : Halves) : Bool := !h.inputOpen && !h.outputOpen

/-- The phase that follows from the halves. -/
def phase (h : Halves) : Phase :=
  if h.outputOpen then
    if !h.inputOpen && h.shape.acceptsInput then .inputClosed
    else if h.ready then .streaming
    else .opened
  else if h.inputOpen then .outputClosed
  else .closed

@[simp] theorem isTerminal_closeBoth (h : Halves) : h.closeBoth.2.isTerminal = true := rfl

end Halves
end Switchboard
