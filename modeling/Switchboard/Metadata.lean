import Switchboard.Text.Utf8
import Switchboard.Text.Blank
import Switchboard.Text.Numeral
import Switchboard.Time

/-!
# Metadata — what travels beside a request

Metadata is a list of key and value pairs in the order in which they came, duplicates
kept, and perhaps a timeout for the call. On the wire it is lines `key=value`, each
ended by LF. The timeout travels as a line of its own, under the reserved key
`__timeout_ms`, in whole milliseconds.

Reading goes line by line. `lines` cuts the bytes, `Line.read` says what one line means
and `Metadata.apply` what a line does to the metadata read so far; no line is an error.
Headers and trailers of a stream are written by the same `encodePairs`.
-/

namespace Switchboard

/-- The key whose value is not an entry but the timeout. -/
def timeoutKey : String := "__timeout_ms"

/-- Keys with their values, in order. -/
abbrev Pairs := List (String × String)

/-- Entries in wire order, and the timeout if the caller gave one. -/
structure Metadata where
  entries : Pairs := []
  timeout : Option Duration := none
  deriving DecidableEq, Repr, Inhabited

namespace Metadata

def equalsSign : UInt8 := 0x3D

def lineFeed : UInt8 := 0x0A

def carriageReturn : UInt8 := 0x0D

/-! ## Lines -/

/-- The stretches between line feeds; there is always one more than line feeds. -/
def segments : Bytes → List Bytes
  | [] => [[]]
  | b :: bs =>
    if b = lineFeed then [] :: segments bs
    else match segments bs with
      | [] => [[b]]
      | s :: ss => (b :: s) :: ss

/-- A line without the one carriage return that may end it. -/
def chomp (line : Bytes) : Bytes :=
  if line.getLast? = some carriageReturn then line.dropLast else line

/-- The lines of a text, without their ends. -/
def lines (raw : Bytes) : List Bytes := (segments raw).map chomp

/-- What a line says. -/
inductive Line where
  -- Nothing: it has no `=`, or no key before the first one.
  | void
  | pair (key value : String)
  -- A timeout, which may be unusable.
  | timeout (reading : Option Duration)
  deriving DecidableEq, Repr

/-- A usable timeout: a positive number of milliseconds of at most sixty-four bits,
with blanks around it. -/
def readTimeout (value : String) : Option Duration :=
  ((Numeral.readUpTo? Numeral.max64 (Blank.trim value.toList)).filter (0 < ·)).map
    Duration.ofMillis

/-- What a line says: the key stands before the first `=`, the value after it. -/
def Line.read (line : Bytes) : Line :=
  let key := line.takeWhile (· ≠ equalsSign)
  match line.dropWhile (· ≠ equalsSign) with
  | [] => .void
  | _ :: value =>
    if key = [] then .void
    else if Utf8.decode key = timeoutKey then .timeout (readTimeout (Utf8.decode value))
    else .pair (Utf8.decode key) (Utf8.decode value)

/-! ## Reading -/

/-- Adds an entry after those that are there, also under a key that is there. -/
def insert (key value : String) (m : Metadata) : Metadata :=
  { m with entries := m.entries ++ [(key, value)] }

/-- Sets the timeout, whatever it was. -/
def withTimeout (d : Duration) (m : Metadata) : Metadata :=
  { m with timeout := some d }

/-- What a line does to the metadata read so far. A timeout line settles the timeout
anew, also when its own is unusable. -/
def apply (m : Metadata) : Line → Metadata
  | .void => m
  | .pair key value => m.insert key value
  | .timeout reading => { m with timeout := reading }

/-- Reads metadata line by line. Every text is read as some metadata. -/
def parse (raw : Bytes) : Metadata :=
  ((lines raw).map Line.read).foldl apply {}

/-- The value of a key: the last one, if there are several. -/
def get (key : String) (m : Metadata) : Option String :=
  (m.entries.reverse.find? (·.1 = key)).map (·.2)

/-! ## Writing -/

/-- One line: key and value as they are, with nothing escaped. -/
def encodePair (p : String × String) : Bytes :=
  Utf8.encode p.1 ++ [equalsSign] ++ Utf8.encode p.2 ++ [lineFeed]

/-- A line for each pair, in order. -/
def encodePairs (pairs : Pairs) : Bytes := pairs.flatMap encodePair

/-- The timeout as a pair. -/
def timeoutPair (d : Duration) : String × String := (timeoutKey, Numeral.digits d.millis)

/-- The wire form: the entries, then the timeout. -/
def encode (m : Metadata) : Bytes :=
  encodePairs (m.entries ++ (m.timeout.map timeoutPair).toList)

/-! ## Small laws -/

@[simp] theorem encodePairs_nil : encodePairs [] = [] := rfl

@[simp] theorem encodePairs_append (p q : Pairs) :
    encodePairs (p ++ q) = encodePairs p ++ encodePairs q := by
  simp [encodePairs]

theorem segments_ne_nil (raw : Bytes) : segments raw ≠ [] := by
  cases raw with
  | nil => simp [segments]
  | cons b bs =>
    unfold segments
    split
    · simp
    · split <;> simp

end Metadata
end Switchboard
