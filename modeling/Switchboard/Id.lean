/-!
# Id — identities of sessions and of reverse calls

Both kinds of identity come from counters that start at one and only grow, so an
identity is never given out twice. Callers may name any number, also one that was never
given out: the counter tells the two apart, and nothing else has to be remembered of an
identity that is no longer in use.
-/

namespace Switchboard

/-- Names a streaming session. -/
structure SessionId where
  number : Int
  deriving DecidableEq, Repr, Inhabited

/-- Names a call into the front end, so that its answer finds it. -/
structure RequestId where
  number : Int
  deriving DecidableEq, Repr, Inhabited

/-- Hands out numbers from one upwards; `next` is the number that comes next. The numbers have
no bound here. A counter that is kept in sixty-four bits with a sign agrees with this one for
`2 ^ 63 - 1` identities, and wraps then. -/
structure Counter where
  next : Nat := 1
  deriving DecidableEq, Repr, Inhabited

namespace Counter

/-- Gives the next number out. -/
def advance (c : Counter) : Counter := ⟨c.next + 1⟩

/-- Whether a number was given out. -/
def issued (c : Counter) (n : Int) : Bool := 0 < n && n < c.next

theorem issued_iff (c : Counter) (n : Int) : c.issued n = true ↔ 0 < n ∧ n < c.next := by
  simp [issued]

theorem issued_advance (c : Counter) (n : Int) (hpos : 0 < c.next) :
    c.advance.issued n = true ↔ c.issued n = true ∨ n = c.next := by
  rw [issued_iff, issued_iff]
  simp only [advance]
  omega

end Counter

namespace SessionId

/-- An identity as text. -/
def text (id : SessionId) : String := toString id.number

end SessionId

namespace RequestId

/-- An identity as text. -/
def text (id : RequestId) : String := toString id.number

end RequestId
end Switchboard
