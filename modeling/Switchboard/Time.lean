/-!
# Time — durations and readings of a monotonic clock

Both count nanoseconds. A `Duration` is never negative and has no bound; an `Instant`
is a reading of a clock whose zero is arbitrary and whose seconds have sixty-four bits,
so that adding to a reading can fail.
-/

namespace Switchboard

/-- A length of time, in nanoseconds. -/
structure Duration where
  nanos : Nat
  deriving DecidableEq, Repr, Inhabited

namespace Duration

/-- So many microseconds. -/
def ofMicros (n : Nat) : Duration := ⟨n * 1000⟩

/-- So many milliseconds. -/
def ofMillis (n : Nat) : Duration := ⟨n * 1000000⟩

/-- So many seconds. -/
def ofSeconds (n : Nat) : Duration := ⟨n * 1000000000⟩

/-- Whole milliseconds, the rest cut off. -/
def millis (d : Duration) : Nat := d.nanos / 1000000

@[simp] theorem millis_ofMillis (n : Nat) : (ofMillis n).millis = n := by
  simp [millis, ofMillis]

end Duration

/-- A reading of the clock, in nanoseconds from its zero. -/
structure Instant where
  nanos : Int
  deriving DecidableEq, Repr, Inhabited

namespace Instant

/-- The last reading: the largest second of sixty-four bits, and its last nanosecond. -/
def last : Int := 0x7FFFFFFFFFFFFFFF * 1000000000 + 999999999

/-- The time from `earlier` to `now`, nothing if `earlier` is in fact later. -/
def since (now earlier : Instant) : Duration :=
  ⟨(now.nanos - earlier.nanos).toNat⟩

/-- The instant so much later. -/
def after (t : Instant) (d : Duration) : Instant :=
  ⟨t.nanos + d.nanos⟩

/-- The reading that much later, if the clock can show it. -/
def after? (t : Instant) (d : Duration) : Option Instant :=
  if (t.after d).nanos ≤ last then some (t.after d) else none

/-- Whether `t` comes before `u`. -/
def before (t u : Instant) : Bool := t.nanos < u.nanos

end Instant
end Switchboard
