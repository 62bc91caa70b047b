import Introduction.Bytes

/-!
# Binary floating-point formats

A floating-point number travels in one of three interchange formats: half, single or double
precision. It is held as the bit pattern of the double. `widen` gives the double with the value of
a narrower pattern, and `narrow?` finds the narrower pattern that widens to a given double, if
there is one, so that a number can be written in the fewest bytes without losing a bit.

Widening keeps the sign, zeros, infinities and subnormal values; a NaN keeps its payload and
becomes quiet.
-/

-- powers of numbers are those of the core library
attribute [local instance (high)] instPowNat

namespace Introduction.Cbor

/-- A binary interchange format: a sign bit, an exponent field and a fraction field. -/
structure FloatFormat where
  /-- Width of the exponent field. -/
  exponentBits : Nat
  /-- Width of the fraction field. -/
  fractionBits : Nat
  deriving DecidableEq, Repr

namespace FloatFormat

/-- Half precision, in two bytes. -/
def half : FloatFormat := ⟨5, 10⟩

/-- Single precision, in four bytes. -/
def single : FloatFormat := ⟨8, 23⟩

/-- Double precision, in eight bytes. -/
def double : FloatFormat := ⟨11, 52⟩

variable (f : FloatFormat)

/-- The offset of the exponent field: the field holding it stands for the exponent zero. -/
def bias : Nat := 2 ^ (f.exponentBits - 1) - 1

/-- The exponent field of infinities and NaNs. -/
def topExponent : Nat := 2 ^ f.exponentBits - 1

/-- The sign bit of a pattern. -/
def sign (bits : Nat) : Nat := bits / 2 ^ (f.exponentBits + f.fractionBits)

/-- The exponent field of a pattern. -/
def exponent (bits : Nat) : Nat := bits / 2 ^ f.fractionBits % 2 ^ f.exponentBits

/-- The fraction field of a pattern. -/
def fraction (bits : Nat) : Nat := bits % 2 ^ f.fractionBits

/-- The pattern with the given fields. -/
def assemble (sign exponent fraction : Nat) : Nat :=
  (sign * 2 ^ f.exponentBits + exponent) * 2 ^ f.fractionBits + fraction

/-- The double-precision pattern with the value of a pattern of this format. -/
def widen (bits : Nat) : Nat :=
  let s := f.sign bits
  let e := f.exponent bits
  let m := f.fraction bits
  let spare := double.fractionBits - f.fractionBits
  if e = f.topExponent then
    -- the leading fraction bit of a NaN is set, which makes it quiet
    if m = 0 then double.assemble s double.topExponent 0
    else double.assemble s double.topExponent (2 ^ 51 + m * 2 ^ spare % 2 ^ 51)
  else if e = 0 then
    -- a subnormal pattern is scaled until its leading bit is the implicit one
    if m = 0 then double.assemble s 0 0
    else
      let k := m.log2
      double.assemble s (double.bias - f.bias + 1 + k - f.fractionBits)
        ((m - 2 ^ k) * 2 ^ (double.fractionBits - k))
  else double.assemble s (double.bias - f.bias + e) (m * 2 ^ spare)

/-- The pattern of this format nearest below a double-precision pattern, by dropping the bits that
do not fit. -/
def truncate (bits : Nat) : Nat :=
  let s := double.sign bits
  let e := double.exponent bits
  let m := double.fraction bits
  let spare := double.fractionBits - f.fractionBits
  let shift := double.bias - f.bias
  if e = double.topExponent then f.assemble s f.topExponent (m / 2 ^ spare)
  else if e ≤ shift then
    f.assemble s 0 ((2 ^ double.fractionBits + m) / 2 ^ (spare + 1 + (shift - e)))
  else f.assemble s (min (e - shift) f.topExponent) (m / 2 ^ spare)

/-- The pattern of this format that widens to the given double, if there is one. -/
def narrow? (bits : Nat) : Option Nat :=
  if f.widen (f.truncate bits) = bits then some (f.truncate bits) else none

theorem widen_of_narrow? {bits narrow : Nat} (h : f.narrow? bits = some narrow) :
    f.widen narrow = bits := by
  unfold narrow? at h
  split at h
  · cases h; assumption
  · cases h

end FloatFormat

end Introduction.Cbor
