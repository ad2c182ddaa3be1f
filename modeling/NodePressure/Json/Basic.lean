import NodePressure.Number.Decimal

/-!
# NodePressure.Json.Basic - JSON values

A value keeps the members of an object in their order, repeated names included, and a number as it
was written, so that a reader can still tell `1` from `1.0` and see which digits were given. A text
that is no row of characters has a value of its own, which does no harm where nobody looks at it.
-/

namespace NodePressure.Json

/-- A number as written: a sign, the whole part, the digits of the fraction and the exponent. -/
structure Numeral where
  negative : Bool
  whole : Nat
  fraction : List Char
  exponent : Option Int
  deriving DecidableEq, Repr

end NodePressure.Json

namespace NodePressure

/-- A JSON value. -/
inductive Json
  | null
  /-- A text, or an object with a name, in which half of a surrogate pair stands without the other
  half. -/
  | garbled
  | bool (b : Bool)
  | num (n : Json.Numeral)
  | str (s : String)
  | arr (items : List Json)
  | obj (members : List (String × Json))
  deriving Repr, Inhabited

namespace Json

/-- The number literal of a natural number. -/
def Numeral.ofNat (n : Nat) : Numeral :=
  ⟨false, n, [], none⟩

/-- The number literal of an integer. -/
def Numeral.ofInt : Int → Numeral
  | .ofNat n => ⟨false, n, [], none⟩
  | .negSucc n => ⟨true, n + 1, [], none⟩

/-- A natural number as a value. -/
def nat (n : Nat) : Json :=
  .num (.ofNat n)

/-- An integer as a value. -/
def int (n : Int) : Json :=
  .num (.ofInt n)

/-- A text or nothing. -/
def ofOption (f : α → Json) : Option α → Json
  | none => .null
  | some a => f a

/-- The first member of an object with the given name. -/
def member? (name : String) : Json → Option Json
  | .obj members => (members.find? (·.1 == name)).map (·.2)
  | _ => none

/-- The last member of an object with the given name, unless it is `null`. -/
def present? (name : String) : Json → Option Json
  | .obj members =>
    match members.reverse.find? (·.1 == name) with
    | some (_, .null) => none
    | some (_, j) => some j
    | none => none
  | _ => none

/-- Whether a number has neither fraction nor exponent. -/
def Numeral.isWhole (n : Numeral) : Bool :=
  n.fraction.isEmpty && n.exponent.isNone

/-- The natural number up to `limit` that a literal stands for. A literal with a fraction, an
exponent or a minus sign stands for none, not even `-0`. -/
def Numeral.toNat? (limit : Nat) (n : Numeral) : Option Nat :=
  if n.isWhole && !n.negative && n.whole ≤ limit then some n.whole else none

/-- The integer of 64 bits that a literal stands for; `-0` is none. -/
def Numeral.toInt? (n : Numeral) : Option Int :=
  if !n.isWhole then none
  else if n.negative then
    if n.whole != 0 && n.whole ≤ Number.maxSigned64 + 1 then some (-(n.whole : Int)) else none
  else if n.whole ≤ Number.maxSigned64 then some n.whole else none

/-- Takes digits into a significand of at most 64 bits. The first digit that does not fit ends it;
the result is the significand, the number of digits taken and whether all were. -/
def takeDigits (acc taken : Nat) : List Char → Nat × Nat × Bool
  | [] => (acc, taken, true)
  | c :: r =>
    let next := acc * 10 + (Number.digit? c).getD 0
    if next ≤ Number.max64 then takeDigits next (taken + 1) r else (acc, taken, false)

/-- The significand of at most 64 bits of a number and its decimal exponent. Digits of the whole
part that do not fit raise the exponent, digits of the fraction that do not fit are dropped. -/
def Numeral.scaled (n : Numeral) : Nat × Int :=
  let ds := Number.digits n.whole
  let (m, taken, _) := takeDigits 0 0 ds
  let raise : Int := (ds.length - taken : Nat)
  let (m', places, _) := takeDigits m 0 n.fraction
  (m', raise - places + n.exponent.getD 0)

/-- `f * 10 ^ e` by one multiplication or division by a power of ten, after as many divisions by
`10 ^ 308` as are needed to bring the exponent into range; nothing if it is too large. -/
def scaleFloat : Nat → Float → Int → Option Float
  | fuel, f, .ofNat e =>
    if 308 < e then (if f == 0.0 then some f else none)
    else
      let _ := fuel
      let x := f * Float.ofScientific 1 false e
      if Number.isFinite x then some x else none
  | 0, _, .negSucc _ => some 0.0
  | fuel + 1, f, .negSucc k =>
    if k + 1 ≤ 308 then some (f / Float.ofScientific 1 false (k + 1))
    else if f == 0.0 then some f
    else scaleFloat fuel (f / Float.ofScientific 1 false 308) (.negSucc k + 308)

/-- The float of a number: the significand as the nearest float, scaled by its exponent. A number
beyond the greatest float has none. -/
def Numeral.toFloat? (n : Numeral) : Option Float :=
  let (m, e) := n.scaled
  (scaleFloat 6 (Number.ofNat m) e).map fun x => if n.negative then -x else x

/-- The nesting depth of a value: lists and objects are one deeper than what they hold. -/
def depth : Json → Nat
  | .arr items => depthList items + 1
  | .obj members => depthMembers members + 1
  | _ => 0
where
  /-- The greatest depth in a list. -/
  depthList : List Json → Nat
    | [] => 0
    | j :: r => max (depth j) (depthList r)
  /-- The greatest depth among the members of an object. -/
  depthMembers : List (String × Json) → Nat
    | [] => 0
    | (_, j) :: r => max (depth j) (depthMembers r)

/-- Whether a value can be taken as it is: its depth has a bound, every number is in the range of
floats and no text is garbled. -/
def isPlain (bound : Nat) (j : Json) : Bool :=
  j.depth ≤ bound && isSound j
where
  /-- Whether the numbers and the texts of a value are sound. -/
  isSound : Json → Bool
    | .garbled => false
    | .num n => n.isWhole && n.whole ≤ Number.max64 || n.toFloat?.isSome
    | .arr items => areSound items
    | .obj members => membersSound members
    | _ => true
  /-- Whether the numbers and the texts of all values are sound. -/
  areSound : List Json → Bool
    | [] => true
    | j :: r => isSound j && areSound r
  /-- Whether the numbers and the texts of all members are sound. -/
  membersSound : List (String × Json) → Bool
    | [] => true
    | (_, j) :: r => isSound j && membersSound r

end Json

end NodePressure
