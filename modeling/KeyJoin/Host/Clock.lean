/-!
# The clock

Times of the host are counted in ticks from the beginning of the year 1970.
-/

namespace KeyJoin

def secondTicks : Nat := 100000

/-- When the host starts: the beginning of the year 2026. -/
def startTime : Nat := 1767225600 * secondTicks

end KeyJoin
