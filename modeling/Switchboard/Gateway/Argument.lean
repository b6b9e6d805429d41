import Switchboard.Gateway.Status
import Switchboard.Text.Utf8

/-!
# Argument — what comes in through the C interface

A text comes as a pointer to bytes that a NUL ends; null is no text, and so is the empty
text. Bytes come as a pointer and a length.
-/

namespace Switchboard.Gateway

/-- A text from outside: null, or the bytes before its NUL. -/
abbrev CText := Option Bytes

/-- The text that starts at some bytes, up to the first NUL. -/
def CText.ofBytes (bs : Bytes) : CText := some (bs.takeWhile (· ≠ 0))

/-- A text that need not be there. It must be well-formed. -/
def CText.optional : CText → Except Status (Option String)
  | none => .ok none
  | some bs =>
    match Utf8.decode? bs with
    | none => .error .invalidArgument
    | some s => .ok (if s = "" then none else some s)

/-- Reads a text that must be given. -/
def CText.required (t : CText) : Except Status String :=
  match t.optional with
  | .error s => .error s
  | .ok none => .error .invalidArgument
  | .ok (some s) => .ok s

/-- Bytes from outside: what the pointer points at, unless it is null, and the length. -/
structure Span where
  data : Option Bytes := none
  length : Int := 0
  deriving DecidableEq, Repr

/-- The bytes of a span. Its length must not be negative, and only nothing may be taken
from a null pointer. -/
def Span.bytes (s : Span) : Except Status Bytes :=
  if s.length < 0 then .error .invalidArgument
  else if s.length = 0 then .ok []
  else match s.data with
    | none => .error .invalidArgument
    | some bs => .ok (bs.take s.length.toNat)

end Switchboard.Gateway
