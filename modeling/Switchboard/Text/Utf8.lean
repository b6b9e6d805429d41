/-!
# Utf8 — text as bytes, and bytes as text

Text crosses every border of this library as UTF-8 bytes. Writing (`encode`) is a
function on text. Reading comes in two forms:

* `decode` reads *any* byte list. Each maximal ill-formed stretch, that is each
  longest run of bytes that could still have begun a character, becomes one U+FFFD.
* `decode?` reads well-formed bytes only.

Reading is a transducer with one piece of state, the character under way
(`Partial`): `feed` says what one more byte yields and what it leaves pending, and
`flush` what the end of the input yields.
-/

namespace Switchboard

/-- A payload: the library never looks inside one. -/
abbrev Bytes := List UInt8

namespace Utf8

/-- The bytes of a text. -/
def encode (s : String) : Bytes :=
  s.toList.flatMap String.utf8EncodeChar

/-- Stands for an ill-formed stretch of bytes. -/
def replacement : Char := '\uFFFD'

/-- A character under way: the range its next byte must lie in, how many more bytes
follow that one, and the bits read so far. -/
structure Partial where
  low : UInt8
  high : UInt8
  after : Nat
  bits : Nat
  deriving DecidableEq, Repr

/-- What a byte does at the start of a character. The ranges after `E0`, `ED`, `F0`
and `F4` are narrowed, so that no overlong form, surrogate or value past `10FFFF`
begins. -/
def start (b : UInt8) : List Char × Option Partial :=
  if b < 0x80 then ([Char.ofNat b.toNat], none)
  else if b < 0xC2 then ([replacement], none)
  else if b < 0xE0 then ([], some ⟨0x80, 0xBF, 0, b.toNat - 0xC0⟩)
  else if b = 0xE0 then ([], some ⟨0xA0, 0xBF, 1, 0⟩)
  else if b = 0xED then ([], some ⟨0x80, 0x9F, 1, 0x0D⟩)
  else if b < 0xF0 then ([], some ⟨0x80, 0xBF, 1, b.toNat - 0xE0⟩)
  else if b = 0xF0 then ([], some ⟨0x90, 0xBF, 2, 0⟩)
  else if b < 0xF4 then ([], some ⟨0x80, 0xBF, 2, b.toNat - 0xF0⟩)
  else if b = 0xF4 then ([], some ⟨0x80, 0x8F, 2, 4⟩)
  else ([replacement], none)

/-- What one more byte yields, and the character it leaves under way. A byte out of
range ends the character under way as ill-formed and starts afresh. -/
def feed : Option Partial → UInt8 → List Char × Option Partial
  | none, b => start b
  | some p, b =>
    if p.low ≤ b ∧ b ≤ p.high then
      let bits := p.bits * 64 + (b.toNat - 0x80)
      match p.after with
      | 0 => ([Char.ofNat bits], none)
      | n + 1 => ([], some ⟨0x80, 0xBF, n, bits⟩)
    else
      let (cs, q) := start b
      (replacement :: cs, q)

/-- What the end of the input yields: a character that never ended is ill-formed. -/
def flush : Option Partial → List Char
  | none => []
  | some _ => [replacement]

/-- The characters of a byte list, read from a character under way. -/
def decodeFrom : Option Partial → Bytes → List Char
  | p, [] => flush p
  | p, b :: bs =>
    let (cs, q) := feed p b
    cs ++ decodeFrom q bs

/-- The text of any byte list, each maximal ill-formed stretch as one U+FFFD. -/
def decode (bs : Bytes) : String :=
  String.ofList (decodeFrom none bs)

/-- The text of well-formed bytes: those that some text is written as. -/
def decode? (bs : Bytes) : Option String :=
  if encode (decode bs) = bs then some (decode bs) else none

/-! ## The empty text -/

@[simp] theorem encode_empty : encode "" = [] := rfl

@[simp] theorem decode_nil : decode [] = "" := rfl

/-- A text read from well-formed bytes is written as those bytes. -/
theorem encode_of_decode? {bs : Bytes} {s : String} (h : decode? bs = some s) :
    encode s = bs := by
  unfold decode? at h
  split at h
  · next heq => cases h; exact heq
  · cases h

end Utf8
end Switchboard
