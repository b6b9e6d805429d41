import Switchboard.Dispatch.Reply
import Switchboard.Text.Utf8

/-!
# Envelope — bytes handed out, to be given back

An `Envelope` is a pointer and a length, and the sign of the length says what it is: a
payload of so many bytes, an empty success (null, zero), or a failure whose text has so
many bytes. A failure without a text is null with the length minus one.

Every pointer handed out stands in a `Ledger` with its block until it is given back.
Only what stands there can be read or given back: a null pointer, one that was given back
before and one that the ledger never handed out are let pass without effect. Serial
numbers are not used twice.
-/

namespace Switchboard.Gateway

/-- Where an envelope's bytes are. -/
inductive Pointer where
  | null
  | block (serial : Nat)
  | foreign
  deriving DecidableEq, Repr

/-- Bytes handed out. -/
structure Envelope where
  data : Pointer
  length : Int
  deriving DecidableEq, Repr

namespace Envelope

/-- The envelope of an empty payload, which owns nothing. -/
def empty : Envelope := { data := .null, length := 0 }

/-- A failure with no text. -/
def bareFailure : Envelope := { data := .null, length := -1 }

/-- Whether the envelope carries a payload, which its length says by its sign. -/
def isSuccess (e : Envelope) : Bool := 0 ≤ e.length

/-- Whether the envelope carries a diagnostic. -/
def isFailure (e : Envelope) : Bool := e.length < 0

end Envelope

/-- The blocks handed out and not yet given back. -/
structure Ledger where
  next : Nat := 1
  blocks : List (Nat × Bytes) := []
  deriving DecidableEq, Repr

namespace Ledger

/-- How many blocks are out. -/
def live (l : Ledger) : Nat := l.blocks.length

/-- Places bytes in a new block. No pointer is given out twice. -/
def place (bs : Bytes) (l : Ledger) : Pointer × Ledger :=
  (.block l.next, { next := l.next + 1, blocks := l.blocks ++ [(l.next, bs)] })

/-- The envelope of a payload. An empty one owns no block. -/
def success (bs : Bytes) (l : Ledger) : Envelope × Ledger :=
  if bs = [] then (.empty, l)
  else
    let (data, l) := l.place bs
    ({ data, length := bs.length }, l)

/-- A payload copied into a block of its own, if there is room for the copy. -/
def copy? (room : Bool) (bs : Bytes) (l : Ledger) : Option Envelope × Ledger :=
  if bs = [] then (some .empty, l)
  else if room then
    let (envelope, l) := l.success bs
    (some envelope, l)
  else (none, l)

/-- The envelope of bytes that are copied, or a bare failure if there is no room. -/
def copy (room : Bool) (bs : Bytes) (l : Ledger) : Envelope × Ledger :=
  let (envelope, l) := l.copy? room bs
  (envelope.getD .bareFailure, l)

/-- The envelope of a diagnostic, whose length is counted downwards from zero. -/
def failure (text : String) (l : Ledger) : Envelope × Ledger :=
  let bs := Utf8.encode text
  if bs = [] then (.bareFailure, l)
  else
    let (data, l) := l.place bs
    ({ data, length := -bs.length }, l)

/-- The envelope of a reply. -/
def reply (r : Reply) (l : Ledger) : Envelope × Ledger :=
  match r with
  | .payload bs => l.success bs
  | .empty => (.empty, l)
  | .failed e => l.failure e.message

/-- The bytes at a pointer, if it is out. -/
def read? (p : Pointer) (l : Ledger) : Option Bytes :=
  match p with
  | .block serial => (l.blocks.find? (·.1 = serial)).map (·.2)
  | .null | .foreign => none

/-- The bytes of an envelope. The pointer finds them; the length is not looked at. -/
def copyOut (e : Envelope) (l : Ledger) : Option Bytes := l.read? e.data

/-- Gives back a block, if it is out. -/
def release (p : Pointer) (l : Ledger) : Ledger :=
  match p with
  | .block serial => { l with blocks := l.blocks.filter (·.1 ≠ serial) }
  | .null | .foreign => l

/-- The text of a failure, if it has one. -/
def diagnostic (e : Envelope) (l : Ledger) : Option String :=
  if e.isFailure then (l.read? e.data).map Utf8.decode else none

end Ledger
end Switchboard.Gateway
