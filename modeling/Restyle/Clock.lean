import Restyle.Number.Binary64
import Restyle.Value.Reading

/-!
Time in seconds, as binary numbers: every sum and difference is rounded to one.
-/
namespace Restyle

open Number

structure Clock where
  seconds : Rat
  deriving DecidableEq, Repr

namespace Clock

def advance (c : Clock) (by_ : Rat) : Clock := ⟨nearest (c.seconds + by_)⟩

/-- How long ago `earlier` was. -/
def since (now earlier : Clock) : Rat := nearest (now.seconds - earlier.seconds)

/-- Whole milliseconds. -/
def millis (c : Clock) : Int := Value.truncate (nearest (c.seconds * 1000))

end Clock

/-- What the clock says to a call that backs files up: when it stamps a copy, and again when it
looks for copies that are too old. Between the two the clock may go on or be set. A call that copies
two files is told the same of both. -/
structure Readings where
  stamp : Clock
  sweep : Clock
  deriving DecidableEq, Repr

namespace Readings

/-- A clock that stands still for the length of a call. -/
def still (now : Clock) : Readings := { stamp := now, sweep := now }

instance : Coe Clock Readings := ⟨still⟩

end Readings

end Restyle
