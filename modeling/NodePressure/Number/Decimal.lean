import NodePressure.Number.Binary
import NodePressure.Text.Blank

/-!
# NodePressure.Number.Decimal - decimal texts of floats

`readFloat` takes a decimal text to the nearest float; `shortest` finds the fewest decimal digits
that are read back as the same float, of those the nearest to it; `floatText` and
`floatTextExp` write them.
-/

namespace NodePressure.Number

/-- The float nearest to `m * 10 ^ e`: infinite from half a unit above the greatest float on,
and zero below half the least one. Exponents far outside the range of floats are not computed. -/
def ofDecimal (m : Nat) (e : Int) : Float :=
  if m = 0 then 0.0
  else
    let top := e + (digits m).length
    if top > 310 then Float.ofBits 0x7FF0000000000000
    else if top < -330 then 0.0
    else match e with
      | .ofNat k => Float.ofScientific m false k
      | .negSucc k => Float.ofScientific m true (k + 1)

/-- A decimal text without its sign. -/
inductive Magnitude
  | nan
  | infinite
  /-- The number `mantissa * 10 ^ exponent`. -/
  | decimal (mantissa : Nat) (exponent : Int)
  deriving DecidableEq, Repr

/-- The exponent behind the mantissa: nothing, or `e`, an optional sign and digits. -/
def readExponent : List Char → Option Int
  | [] => some 0
  | c :: r =>
    if c == 'e' || c == 'E' then
      let (negative, ds) := match r with
        | '-' :: ds => (true, ds)
        | '+' :: ds => (false, ds)
        | ds => (false, ds)
      if ds.isEmpty || !ds.all isDigit then none
      else some (if negative then -(ofDigits 0 ds : Int) else (ofDigits 0 ds : Int))
    else none

/-- Decimal digits with an optional point, at least one digit in all, and an optional exponent;
or the words `inf`, `infinity` and `nan` in any case. -/
def readMagnitude (s : List Char) : Option Magnitude :=
  let word := s.map Char.toLower
  if word == "inf".toList || word == "infinity".toList then some .infinite
  else if word == "nan".toList then some .nan
  else
    let whole := s.takeWhile isDigit
    let (fraction, rest) := match s.dropWhile isDigit with
      | '.' :: r => (r.takeWhile isDigit, r.dropWhile isDigit)
      | r => ([], r)
    if whole.isEmpty && fraction.isEmpty then none
    else (readExponent rest).map fun e =>
      .decimal (ofDigits (ofDigits 0 whole) fraction) (e - fraction.length)

/-- The float of a magnitude. -/
def Magnitude.toFloat : Magnitude → Float
  | .nan => Float.ofBits 0x7FF8000000000000
  | .infinite => Float.ofBits 0x7FF0000000000000
  | .decimal m e => ofDecimal m e

/-- Reads a float: an optional sign and a magnitude, with nothing else around them. -/
def readFloat : List Char → Option Float
  | '-' :: r => (readMagnitude r).map fun m => -m.toFloat
  | '+' :: r => (readMagnitude r).map Magnitude.toFloat
  | s => (readMagnitude s).map Magnitude.toFloat

/-- The numbers that are read as a given float, in units of `2 ^ (exponent - 2)`: the float is
`mid` units, and the ends belong to the interval if the mantissa is even. -/
structure Interval where
  low : Nat
  mid : Nat
  high : Nat
  closed : Bool
  exponent : Int

/-- The interval of `m * 2 ^ q`: half a unit of the last place to either side, but a quarter below
a power of two, where the floats stand twice as dense. -/
def Interval.of (m : Nat) (q : Int) : Interval where
  low := 4 * m - (if m == twoTo 52 && q > -1074 then 1 else 2)
  mid := 4 * m
  high := 4 * m + 2
  closed := m % 2 == 0
  exponent := q - 2

/-- `x * 2 ^ exponent` over `10 ^ place`, as a quotient of whole numbers. -/
def Interval.scale (i : Interval) (place : Int) (x : Nat) : Nat × Nat :=
  let two := (twoTo i.exponent.toNat, twoTo (-i.exponent).toNat)
  let ten := (tenTo place.toNat, tenTo (-place).toNat)
  (x * two.1 * ten.2, two.2 * ten.1)

/-- The multiple of `10 ^ place` in the interval that is nearest to its middle, if there is one;
of two equally near ones the even one. -/
def Interval.onGrid (i : Interval) (place : Int) : Option Nat :=
  let (num, den) := i.scale place i.mid
  let lowest := (i.scale place i.low).1
  let highest := (i.scale place i.high).1
  let inside (n : Nat) : Bool :=
    if i.closed then lowest ≤ n * den && n * den ≤ highest
    else lowest < n * den && n * den < highest
  let below := num / den
  let above := below + 1
  match below != 0 && inside below, inside above with
  | false, false => none
  | true, false => some below
  | false, true => some above
  | true, true =>
    let down := num - below * den
    let up := above * den - num
    some (if down < up || (down == up && below % 2 == 0) then below else above)

/-- Goes to finer grids until one of them has a point in the interval. -/
def Interval.search (i : Interval) : Nat → Int → Nat × Int
  | 0, place => ((i.onGrid place).getD 0, place)
  | fuel + 1, place =>
    match i.onGrid place with
    | some n => (n, place)
    | none => i.search fuel (place - 1)

/-- The place of the leading digit of `m * 2 ^ q`, or the place above it. -/
def leadingPlace (m : Nat) (q : Int) : Int :=
  let bits : Int := (Nat.log2 m : Int) + q
  bits * 30103 / 100000 + 1

/-- The fewest digits that are read back as `m * 2 ^ q`, with the place of the last one; they do
not end in zero. -/
def shortest (m : Nat) (q : Int) : Nat × Int :=
  (Interval.of m q).search 20 (leadingPlace m q)

/-- Digits `n` whose last one stands at `place`, written without an exponent. -/
def positional (n : Nat) (place : Int) : List Char :=
  match place with
  | .ofNat k => digits n ++ List.replicate k '0'
  | .negSucc k =>
    let ds := padded (k + 2) n
    ds.take (ds.length - (k + 1)) ++ '.' :: ds.drop (ds.length - (k + 1))

/-- A float in the fewest digits, always without an exponent; a whole number has no point. -/
def floatText (x : Float) : String :=
  match parts x with
  | .nan => "NaN"
  | .infinite negative => if negative then "-inf" else "inf"
  | .finite negative m q =>
    let body := if m = 0 then ['0'] else let (n, place) := shortest m q; positional n place
    String.ofList (if negative then '-' :: body else body)

/-- A float in the fewest digits, with a point in every number. -/
def floatTextPoint (x : Float) : String :=
  let s := floatText x
  if isFinite x && !s.toList.contains '.' then s ++ ".0" else s

/-- A finite float in the fewest digits, with a point when written positionally, which it is from
`10 ^ -5` up to below `10 ^ 16`; else with one digit before the point and an exponent. -/
def floatTextExp (x : Float) : String :=
  match parts x with
  | .finite negative m q =>
    let body :=
      if m = 0 then "0.0".toList
      else
        let (n, place) := shortest m q
        let ds := digits n
        let top : Int := place + ds.length
        if -5 < top && top ≤ 16 then
          let s := positional n place
          if s.contains '.' then s else s ++ ".0".toList
        else
          let mantissa := match ds with
            | [] => []
            | [d] => [d]
            | d :: r => d :: '.' :: r
          mantissa ++ 'e' :: (signedText (top - 1)).toList
    String.ofList (if negative then '-' :: body else body)
  | _ => "null"

/-- The float number of the 64-bit pattern in sixteen lower-case hexadecimal digits. -/
def hexDigits : Nat → Nat → List Char
  | 0, _ => []
  | k + 1, n => hexDigits k (n / 16) ++ [(Nat.toDigits 16 (n % 16)).headD '0']

end NodePressure.Number
