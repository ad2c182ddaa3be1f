import NodePressure.Number.Digits

/-!
# NodePressure.Number.Binary - floats as exact numbers

A finite float of 64 bits is `m * 2 ^ q` with whole `m` and `q`. `parts` reads both off the bits,
and `roundToWord` rounds a float to a whole number of 64 bits exactly: halves go away from zero,
what lies outside is taken to the nearest end, and what is no number counts as zero.
-/

namespace NodePressure.Number

/-- What the bits of a float stand for. -/
inductive Parts
  | nan
  | infinite (negative : Bool)
  /-- The number `mantissa * 2 ^ exponent`, or its negative. -/
  | finite (negative : Bool) (mantissa : Nat) (exponent : Int)
  deriving DecidableEq, Repr

/-- The number behind a pattern of 64 bits: a sign, eleven bits of exponent and 52 of mantissa. -/
def partsOfBits (bits : Nat) : Parts :=
  let negative := bits / twoTo 63 % 2 == 1
  let exponent : Nat := bits / twoTo 52 % twoTo 11
  let mantissa : Nat := bits % twoTo 52
  if exponent == 2047 then (if mantissa == 0 then .infinite negative else .nan)
  else if exponent == 0 then .finite negative mantissa (-1074)
  else .finite negative (mantissa + twoTo 52) ((exponent : Int) - 1075)

/-- The number behind a float. -/
def parts (x : Float) : Parts :=
  partsOfBits x.toBits.toNat

/-- The quotient rounded to the nearest whole number, a half upwards. -/
def roundHalfUp (num den : Nat) : Nat :=
  (2 * num + den) / (2 * den)

/-- A number rounded to the nearest whole number of 64 bits: halves go away from zero, negative
numbers and what is no number give zero, and what is too large gives the greatest one. -/
def Parts.roundToWord : Parts → Nat
  | .nan => 0
  | .infinite negative => if negative then 0 else max64
  | .finite true _ _ => 0
  | .finite false m (.ofNat q) =>
    if m = 0 then 0 else if 64 ≤ q then max64 else min (m * twoTo q) max64
  | .finite false m (.negSucc q) => min (roundHalfUp m (twoTo (q + 1))) max64

/-- A float rounded to the nearest whole number of 64 bits. -/
def roundToWord (x : Float) : Nat :=
  (parts x).roundToWord

/-- Whether a float is a number, neither infinite nor undefined. -/
def isFinite (x : Float) : Bool :=
  match parts x with
  | .finite .. => true
  | _ => false

/-- The float nearest to a whole number, of two the one with an even mantissa. -/
def ofNat (n : Nat) : Float :=
  Float.ofScientific n false 0

/-- The float nearest to a whole number. -/
def ofInt : Int → Float
  | .ofNat n => ofNat n
  | .negSucc n => -(ofNat (n + 1))

end NodePressure.Number
