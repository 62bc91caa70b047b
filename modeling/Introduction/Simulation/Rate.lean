import Introduction.Simulation.Choice

/-!
# Rates

How often an event happens. A rate is made from a probability by exact arithmetic on its bit
pattern; a certain event and an impossible one draw nothing from the source of choices.
-/

-- powers of numbers are those of the core library
attribute [local instance (high)] instPowNat

namespace Introduction.Simulation

/-- How often an event happens. -/
inductive Rate where
  /-- It never happens, and nothing is drawn. -/
  | never
  /-- It always happens, and nothing is drawn. -/
  | always
  /-- It has `threshold` in `2 ^ 64` chances. -/
  | sometimes (threshold : UInt64)
  deriving DecidableEq, Repr

namespace Rate

/-- The rate of a probability, given as a double-precision bit pattern. Below zero, and for what is
not a number, it is the rate of zero, and above one that of one. The threshold is the probability
times `2 ^ 64`, rounded down. -/
def ofBits (bits : UInt64) : Rate :=
  let n := bits.toNat
  let fraction := n % 2 ^ 52
  let exponent := n / 2 ^ 52 % 2 ^ 11
  if 2 ^ 63 ≤ n then .never
  else if exponent = 2047 ∧ fraction ≠ 0 then .never
  else if n = 0 then .never
  else if 1023 ≤ exponent then .always
  else if exponent = 0 then .sometimes 0
  else .sometimes (UInt64.ofNat ((2 ^ 52 + fraction) * 2 ^ 64 / 2 ^ (1075 - exponent)))

/-- Whether the event happens this time. -/
def decide {σ : Type} [Choice σ] (rate : Rate) (source : σ) : Bool × σ :=
  match rate with
  | .never => (false, source)
  | .always => (true, source)
  | .sometimes threshold => Choice.coin threshold source

end Rate

end Introduction.Simulation
