/-!
# The session clock

A clock follows the wall clock until it is pinned at an instant.  The wall clock's reading comes
from outside.
-/

namespace MetricBench.Time

/-- A clock with the instant it is pinned at, if any. -/
structure Clock where
  pinned : Option Int
  deriving DecidableEq, Repr

namespace Clock

/-- A clock that follows the wall clock. -/
def following : Clock := ⟨none⟩

def pin (_clock : Clock) (instant : Int) : Clock := ⟨some instant⟩

def unpin (_clock : Clock) : Clock := ⟨none⟩

/-- The instant a clock shows while the wall clock shows `wall`. -/
def now (clock : Clock) (wall : Int) : Int := clock.pinned.getD wall

end Clock

end MetricBench.Time
