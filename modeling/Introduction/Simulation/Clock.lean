/-!
# Virtual time

Time in milliseconds, as an unsigned number of 64 bits. It moves when it is told to, and stops at
the last moment there is.
-/

namespace Introduction.Simulation

/-- When a simulation begins, in milliseconds. -/
def epoch : UInt64 := 1700000000000

/-- A later time, or the last one there is. -/
def advance (now millis : UInt64) : UInt64 :=
  if now.toNat + millis.toNat < 2 ^ 64 then now + millis else UInt64.ofNat (2 ^ 64 - 1)

end Introduction.Simulation
