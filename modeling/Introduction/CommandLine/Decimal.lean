import Introduction.Cbor.FloatFormat

/-!
# Numbers on the command line

The text of an unsigned number is a sign that may be left out and decimal digits. The text of a
probability is a decimal fraction with an exponent that may be left out, or the name of an infinity
or of the value that is not a number; it stands for the nearest double-precision number, and a tie
goes to the one whose last bit is zero. Fractions of any length are read exactly; the digits of an
exponent count until what they write has reached `2 ^ 16`.
-/

-- powers of numbers are those of the core library
attribute [local instance (high)] instPowNat

namespace Introduction.CommandLine

/-- The number that a decimal digit stands for. -/
def digitValue (c : Char) : Nat := c.toNat - '0'.toNat

/-- Splits off the digits at the front. -/
def takeDigits (text : List Char) : List Nat × List Char :=
  ((text.takeWhile Char.isDigit).map digitValue, text.dropWhile Char.isDigit)

/-- The number that decimal digits write. -/
def ofDigits (digits : List Nat) : Nat := digits.foldl (fun n d => n * 10 + d) 0

/-- The number that decimal digits write, if it is below a bound. -/
def ofDigitsBelow (bound : Nat) (digits : List Nat) : Option Nat :=
  digits.foldlM (fun n d => if n * 10 + d < bound then some (n * 10 + d) else none) 0

/-- Reads an unsigned number of 64 bits. -/
def readUInt64 (text : List Char) : Option UInt64 :=
  let body := match text with
    | '+' :: rest => rest
    | _ => text
  match takeDigits body with
  | ([], _) => none
  | (digits, []) => (ofDigitsBelow (2 ^ 64) digits).map UInt64.ofNat
  | (_, _ :: _) => none

/-! ### Rounding -/

/-- The quotient of two numbers rounded to the nearest integer, a tie going to the even one. -/
def roundDiv (num den : Nat) : Nat :=
  let q := num / den
  let r := num % den
  if 2 * r < den then q
  else if den < 2 * r then q + 1
  else if q % 2 = 0 then q else q + 1

/-- How often a fraction can be halved before it is below two, as an integer that may be
negative. -/
def binaryExponent (num den : Nat) : Int :=
  let guess : Int := num.log2 - den.log2
  -- the guess is the exponent or one more than it
  let reached : Bool :=
    if 0 ≤ guess then decide (den * 2 ^ guess.toNat ≤ num)
    else decide (den ≤ num * 2 ^ (-guess).toNat)
  if reached then guess else guess - 1

/-- The double-precision bit pattern nearest to a fraction. -/
def nearestDouble (num den : Nat) : Nat :=
  if num = 0 then 0
  else
    -- the exponent of the last bit, which subnormal numbers share
    let last := max (binaryExponent num den - 52) (-1074)
    let significand :=
      if 0 ≤ last then roundDiv num (den * 2 ^ last.toNat)
      else roundDiv (num * 2 ^ (-last).toNat) den
    let bits := (last + 1074).toNat * 2 ^ 52 + significand
    min bits (0x7ff0000000000000)

/-! ### Decimal fractions -/

/-- The most significant digits of a decimal fraction that are looked at one by one. The numbers
half-way between two doubles have fewer, so of the digits behind them it only matters whether one
is not zero. -/
def maxSignificant : Nat := 800

/-- The double-precision bit pattern nearest to the number that decimal digits write, times a power
of ten. An exponent far beyond the range of the format is cut off, which changes nothing. -/
def ofDecimal (digits : List Nat) (exponent : Int) : Nat :=
  let (front, back) := (digits.dropWhile (· = 0)).splitAt maxSignificant
  if front.isEmpty then 0
  else
    -- one digit stands for all those behind
    let significand := ofDigits (front ++ [if back.any (· ≠ 0) then 1 else 0])
    let exponent := exponent + back.length - 1
    if exponent + front.length < -400 then 0
    else if 400 < exponent then 0x7ff0000000000000
    else if 0 ≤ exponent then nearestDouble (significand * 10 ^ exponent.toNat) 1
    else nearestDouble significand (10 ^ (-exponent).toNat)

/-- The number that the digits of an exponent write. Once the digits read have reached `2 ^ 16`
those that follow do not count. -/
def ofExponentDigits (digits : List Nat) : Nat :=
  digits.foldl (fun n d => if n < 2 ^ 16 then n * 10 + d else n) 0

/-- Reads an exponent, of which the mark has been read. -/
def readExponent (text : List Char) : Option Int :=
  let (negative, body) : Bool × List Char := match text with
    | '-' :: rest => (true, rest)
    | '+' :: rest => (false, rest)
    | _ => (false, text)
  match takeDigits body with
  | ([], _) => none
  | (digits, []) =>
    let n : Int := ofExponentDigits digits
    some (if negative then -n else n)
  | (_, _ :: _) => none

/-- Reads an unsigned decimal fraction. -/
def readFraction (text : List Char) : Option Nat :=
  let (whole, rest) := takeDigits text
  let (part, rest) := match rest with
    | '.' :: rest => takeDigits rest
    | _ => ([], rest)
  if whole.isEmpty && part.isEmpty then none
  else
    let scaled (exponent : Int) : Nat := ofDecimal (whole ++ part) (exponent - part.length)
    match rest with
    | [] => some (scaled 0)
    | c :: rest => if c = 'e' ∨ c = 'E' then (readExponent rest).map scaled else none

/-- Reads an unsigned number that may be infinite or not a number. -/
def readUnsigned (text : List Char) : Option Nat :=
  let lower := text.map Char.toLower
  if lower = "inf".toList ∨ lower = "infinity".toList then some 0x7ff0000000000000
  else if lower = "nan".toList then some 0x7ff8000000000000
  else readFraction text

/-- Reads a number as a double-precision bit pattern. -/
def readDouble (text : List Char) : Option UInt64 :=
  match text with
  | '-' :: rest => (readUnsigned rest).map fun bits => UInt64.ofNat (bits + 2 ^ 63)
  | '+' :: rest => (readUnsigned rest).map UInt64.ofNat
  | _ => (readUnsigned text).map UInt64.ofNat

end Introduction.CommandLine
