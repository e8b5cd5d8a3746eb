/-! # Progress: what happened so far

A counter goes up by one for every pass. A flag changes when it still has the value that the caller
expects, so that of several callers with the same expectation exactly one changes it. -/

namespace ItemCatalog.Population

/-- A count of passes. -/
structure RunCounter where
  value : Nat := 0
deriving DecidableEq, Repr, Inhabited

/-- The counter after one more pass. -/
def RunCounter.increment (c : RunCounter) : RunCounter :=
  ⟨c.value + 1⟩

/-- Whether there was a pass. -/
def RunCounter.hasRun (c : RunCounter) : Bool :=
  decide (0 < c.value)

/-- A flag that is changed by whoever expects its value. -/
structure OneShotFlag where
  isSet : Bool := false
deriving DecidableEq, Repr, Inhabited

/-- **The flag after a change:** to the new value if it has the expected one, and whether it had. -/
def OneShotFlag.compareAndSet (f : OneShotFlag) (expected new : Bool) : Bool × OneShotFlag :=
  if f.isSet = expected then (true, ⟨new⟩) else (false, f)

end ItemCatalog.Population
