namespace MetricRelay

structure Lease where
  held : Bool := false
deriving DecidableEq, Repr

namespace Lease

/-- The lease taken, unless it is held. -/
def acquire? (l : Lease) : Option Lease := if l.held then none else some ⟨true⟩

def release (_ : Lease) : Lease := ⟨false⟩

end Lease

structure CycleContext where
  timestamp : UInt64
  cancelled : Bool := false
deriving DecidableEq, Repr

end MetricRelay
