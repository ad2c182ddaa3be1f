/-!
# NodePressure.Number.Digits - whole numbers in decimal digits

Decimal digits are the ten ASCII ones. `digits` writes a number without leading zeros,
`ofDigits` reads any row of digits, and `readUnsigned` and `readSigned` read bounded numbers and
say why a text is none: the fault named is the first one met from left to right.
-/

namespace NodePressure.Number

/-- A power of two. -/
def twoTo (n : Nat) : Nat :=
  Nat.pow 2 n

/-- A power of ten. -/
def tenTo (n : Nat) : Nat :=
  Nat.pow 10 n

/-- The value of a decimal digit. -/
def digit? (c : Char) : Option Nat :=
  if '0' ≤ c ∧ c ≤ '9' then some (c.toNat - '0'.toNat) else none

/-- Whether a character is a decimal digit. -/
def isDigit (c : Char) : Bool :=
  (digit? c).isSome

/-- The digit for a number below ten. -/
def digitChar (n : Nat) : Char :=
  Char.ofNat ('0'.toNat + n)

/-- The decimal digits of a number, without leading zeros; zero has one digit. -/
def digits (n : Nat) : List Char :=
  if n < 10 then [digitChar n] else digits (n / 10) ++ [digitChar (n % 10)]
termination_by n

/-- The decimal digits of a number as text. -/
def text (n : Nat) : String :=
  String.ofList (digits n)

/-- A whole number as text, with a minus sign if it is negative. -/
def signedText (n : Int) : String :=
  match n with
  | .ofNat m => text m
  | .negSucc m => "-" ++ text (m + 1)

/-- The number with the given decimal digits behind those already read; characters that are not
digits count as zero. -/
def ofDigits (acc : Nat) (s : List Char) : Nat :=
  s.foldl (fun n c => n * 10 + (digit? c).getD 0) acc

/-- The digits of `n`, filled up with zeros on the left to at least `width`. -/
def padded (width n : Nat) : List Char :=
  let ds := digits n
  List.replicate (width - ds.length) '0' ++ ds

/-- Why a text is no number of the wanted range. -/
inductive Fault
  | empty
  | invalidDigit
  | tooLarge
  | tooSmall
  deriving DecidableEq, Repr

/-- The wording of a fault. -/
def Fault.message : Fault → String
  | .empty => "cannot parse integer from empty string"
  | .invalidDigit => "invalid digit found in string"
  | .tooLarge => "number too large to fit in target type"
  | .tooSmall => "number too small to fit in target type"

/-- Reads digits behind `acc`, as long as the number stays at most `limit`. -/
def readBounded (limit : Nat) (excess : Fault) : Nat → List Char → Except Fault Nat
  | acc, [] => .ok acc
  | acc, c :: r =>
    match digit? c with
    | none => .error .invalidDigit
    | some d =>
      if acc * 10 + d ≤ limit then readBounded limit excess (acc * 10 + d) r else .error excess

/-- Reads a number of at most `limit`: one plus sign may stand before at least one digit. -/
def readUnsigned (limit : Nat) : List Char → Except Fault Nat
  | [] => .error .empty
  | ['+'] => .error .invalidDigit
  | '+' :: r => readBounded limit .tooLarge 0 r
  | s => readBounded limit .tooLarge 0 s

/-- Reads a number from `-limit - 1` to `limit`: one sign may stand before at least one digit. -/
def readSigned (limit : Nat) : List Char → Except Fault Int
  | [] => .error .empty
  | ['+'] => .error .invalidDigit
  | ['-'] => .error .invalidDigit
  | '-' :: r => (readBounded (limit + 1) .tooSmall 0 r).map fun n => -(n : Int)
  | '+' :: r => (readBounded limit .tooLarge 0 r).map Int.ofNat
  | s => (readBounded limit .tooLarge 0 s).map Int.ofNat

/-- The greatest number of 16 bits. -/
def max16 : Nat := 65535

/-- The greatest number of 32 bits. -/
def max32 : Nat := 4294967295

/-- The greatest number of 64 bits. -/
def max64 : Nat := 18446744073709551615

/-- The greatest signed number of 64 bits. -/
def maxSigned64 : Nat := 9223372036854775807

/-- The sum, or the greatest number of 64 bits if the sum is larger. -/
def capAdd (a b : Nat) : Nat :=
  min (a + b) max64

/-- The sum, if it fits into 64 bits. -/
def add64? (a b : Nat) : Option Nat :=
  if a + b ≤ max64 then some (a + b) else none

/-- The number after `n`, or the greatest number of 32 bits if `n` is that already. -/
def next32 (n : Nat) : Nat :=
  min (n + 1) max32

end NodePressure.Number
