import NodePressure.Number.Digits

/-!
# NodePressure.Number.Radix - whole numbers in other bases

Digits are the decimal ones and the letters from `a` to `f` in either case; a digit has to be less
than the base.
-/

namespace NodePressure.Number

/-- The value of a hexadecimal digit. -/
def hexDigit? (c : Char) : Option Nat :=
  if '0' ≤ c ∧ c ≤ '9' then some (c.toNat - '0'.toNat)
  else if 'a' ≤ c ∧ c ≤ 'f' then some (c.toNat - 'a'.toNat + 10)
  else if 'A' ≤ c ∧ c ≤ 'F' then some (c.toNat - 'A'.toNat + 10)
  else none

/-- Whether a character is a hexadecimal digit. -/
def isHexDigit (c : Char) : Bool :=
  (hexDigit? c).isSome

/-- The number behind `acc` with the given digits of a base. -/
def ofBaseFrom? (base : Nat) : Nat → List Char → Option Nat
  | acc, [] => some acc
  | acc, c :: r =>
    (hexDigit? c).bind fun d => if d < base then ofBaseFrom? base (acc * base + d) r else none

/-- The number with the given digits of a base, of which there has to be at least one. -/
def ofBase? (base : Nat) (s : List Char) : Option Nat :=
  if s.isEmpty then none else ofBaseFrom? base 0 s

/-- The integer of 64 bits with the given digits of a base behind an optional sign. -/
def signedOfBase? (base : Nat) : List Char → Option Int
  | '-' :: r =>
    (ofBase? base r).bind fun n => if n ≤ maxSigned64 + 1 then some (-(n : Int)) else none
  | '+' :: r => (ofBase? base r).bind fun n => if n ≤ maxSigned64 then some (n : Int) else none
  | s => (ofBase? base s).bind fun n => if n ≤ maxSigned64 then some (n : Int) else none

/-- The character with a given code point; surrogates are none. -/
def charOf? (n : Nat) : Option Char :=
  if n.isValidChar then some (Char.ofNat n) else none

end NodePressure.Number
