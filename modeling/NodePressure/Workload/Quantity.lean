import NodePressure.Number.Decimal

/-!
# NodePressure.Workload.Quantity - requested amounts

CPU comes in cores, or in thousandths, millionths or billionths of one; memory in bytes or in
multiples of a power of 1024 or of 1000. A text that is no such amount gives nothing.
-/

namespace NodePressure.Quantity

/-- A natural number of 64 bits. -/
def word? (s : List Char) : Option Nat :=
  (Number.readUnsigned Number.max64 s).toOption

/-- An amount of CPU in thousandths of a core: with the suffix `m`, `u` or `n` a natural number of
units, rounded down; without one a decimal number of cores, rounded to nearest. -/
def cpuMillisOf (s : List Char) : Option Nat :=
  let s := Text.trim s
  match Text.dropSuffix? ['m'] s with
  | some n => word? n
  | none =>
    match Text.dropSuffix? ['u'] s with
    | some n => (word? n).map (· / 1000)
    | none =>
      match Text.dropSuffix? ['n'] s with
      | some n => (word? n).map (· / 1000000)
      | none => do
        let cores ← Number.readFloat s
        if cores < 0.0 then none else some (Number.roundToWord (cores * 1000.0))

/-- An amount of CPU in thousandths of a core. -/
def cpuMillis (s : String) : Option Nat :=
  cpuMillisOf s.toList

/-- The suffixes of amounts of memory with their multipliers, in the order they are tried. -/
def units : List (List Char × Nat) := [
  (['K', 'i'], Number.twoTo 10), (['M', 'i'], Number.twoTo 20), (['G', 'i'], Number.twoTo 30),
  (['T', 'i'], Number.twoTo 40), (['P', 'i'], Number.twoTo 50), (['E', 'i'], Number.twoTo 60),
  (['k'], Number.tenTo 3), (['M'], Number.tenTo 6), (['G'], Number.tenTo 9),
  (['T'], Number.tenTo 12), (['P'], Number.tenTo 15), (['E'], Number.tenTo 18)]

/-- The product rounded to bytes, if it is finite and not negative. -/
def scaled (value multiplier : Float) : Option Nat :=
  let bytes := value * multiplier
  if !Number.isFinite bytes || bytes < 0.0 then none else some (Number.roundToWord bytes)

/-- The amount in front of the first unit that ends the text. -/
def withUnit (s : List Char) : List (List Char × Nat) → Option Nat
  | [] => do scaled (← Number.readFloat s) 1.0
  | (suffix, multiplier) :: r =>
    match Text.dropSuffix? suffix s with
    | some n => do scaled (← Number.readFloat n) (Number.ofNat multiplier)
    | none => withUnit s r

/-- An amount of memory in bytes. -/
def memoryBytesOf (s : List Char) : Option Nat :=
  withUnit (Text.trim s) units

/-- An amount of memory in bytes. -/
def memoryBytes (s : String) : Option Nat :=
  memoryBytesOf s.toList

end NodePressure.Quantity
