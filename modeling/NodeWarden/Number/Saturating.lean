/-!
# Saturating counters

Counters of 32 bits that stop at their greatest value instead of starting anew.
-/

namespace NodeWarden.Number

/-- The successor of a counter. -/
def saturatingSucc (n : UInt32) : UInt32 :=
  if n = 0xffffffff then n else n + 1

end NodeWarden.Number
