import NodePressure.Json.Basic
import NodePressure.Number.Radix

/-!
# NodePressure.Json.Reader - reading JSON texts

A recursive descent over the characters. Each reading step gives back the rest of the text, and
the fuel that bounds the descent is the length of the text, which no value outgrows. `parse` reads
one value with blanks around it and nothing else.
-/

namespace NodePressure.Json

/-- The blanks between tokens. -/
def isSpace (c : Char) : Bool :=
  c == ' ' || c == '\n' || c == '\t' || c == '\r'

/-- The text behind the blanks at its beginning. -/
def skipSpace (s : List Char) : List Char :=
  s.dropWhile isSpace

/-- Four hexadecimal digits and the text behind them. -/
def readHex : List Char → Option (Nat × List Char)
  | a :: b :: c :: d :: r => do
    let a ← Number.hexDigit? a
    let b ← Number.hexDigit? b
    let c ← Number.hexDigit? c
    let d ← Number.hexDigit? d
    return (((a * 16 + b) * 16 + c) * 16 + d, r)
  | _ => none

/-- The character behind `\u`: one code unit, or a high and a low surrogate, each written with `\u`.
A surrogate without its partner is no character. -/
def readEscapedUnit (s : List Char) : Option (Option Char × List Char) := do
  let (n, r) ← readHex s
  if 0xD800 ≤ n ∧ n ≤ 0xDBFF then
    match r with
    | '\\' :: 'u' :: behind =>
      match readHex behind with
      | some (m, behind) =>
        if 0xDC00 ≤ m ∧ m ≤ 0xDFFF then
          return (some (Char.ofNat (0x10000 + (n - 0xD800) * 0x400 + (m - 0xDC00))), behind)
        else return (none, r)
      | none => none
    | _ => return (none, r)
  else if 0xDC00 ≤ n ∧ n ≤ 0xDFFF then return (none, r)
  else return (some (Char.ofNat n), r)

/-- The character behind a backslash, if it is one, with the text behind it. -/
def readEscape : List Char → Option (Option Char × List Char)
  | '"' :: r => some (some '"', r)
  | '\\' :: r => some (some '\\', r)
  | '/' :: r => some (some '/', r)
  | 'b' :: r => some (some '\x08', r)
  | 'f' :: r => some (some '\x0c', r)
  | 'n' :: r => some (some '\n', r)
  | 'r' :: r => some (some '\r', r)
  | 't' :: r => some (some '\t', r)
  | 'u' :: r => readEscapedUnit r
  | _ => none

/-- The characters up to the closing quotation mark, if all of them are characters. Control
characters must be escaped. -/
def readChars : Nat → List Char → Option (Option (List Char) × List Char)
  | 0, _ => none
  | _ + 1, [] => none
  | fuel + 1, c :: r =>
    if c == '"' then some (some [], r)
    else if c == '\\' then do
      let (c?, r) ← readEscape r
      let (cs?, r) ← readChars fuel r
      return (c?.bind fun c => cs?.map (c :: ·), r)
    else if c.toNat < 0x20 then none
    else do
      let (cs?, r) ← readChars fuel r
      return (cs?.map (c :: ·), r)

/-- The digits at the beginning of a text and the text behind them. -/
def spanDigits (s : List Char) : List Char × List Char :=
  (s.takeWhile Number.isDigit, s.dropWhile Number.isDigit)

/-- The fraction behind the whole part: nothing, or a point and at least one digit. -/
def readFraction : List Char → Option (List Char × List Char)
  | '.' :: r =>
    let (ds, r) := spanDigits r
    if ds.isEmpty then none else some (ds, r)
  | r => some ([], r)

/-- The exponent behind the digits: nothing, or a letter `e`, an optional sign and at least one
digit. -/
def readExponent : List Char → Option (Option Int × List Char)
  | c :: r =>
    if c == 'e' || c == 'E' then
      let (negative, r) := match r with
        | '-' :: r => (true, r)
        | '+' :: r => (false, r)
        | r => (false, r)
      let (ds, r) := spanDigits r
      if ds.isEmpty then none
      else
        let e : Int := Number.ofDigits 0 ds
        some (some (if negative then -e else e), r)
    else some (none, c :: r)
  | [] => some (none, [])

/-- A number without its sign: no digit may follow a leading zero. -/
def readMagnitude (negative : Bool) (s : List Char) : Option (Numeral × List Char) := do
  let (ds, r) := spanDigits s
  match ds with
  | [] => none
  | '0' :: _ :: _ => none
  | _ =>
    let (fraction, r) ← readFraction r
    let (exponent, r) ← readExponent r
    return (⟨negative, Number.ofDigits 0 ds, fraction, exponent⟩, r)

/-- A number and the text behind it. -/
def readNumeral : List Char → Option (Numeral × List Char)
  | '-' :: r => readMagnitude true r
  | s => readMagnitude false s

mutual

/-- A value without blanks before it, and the text behind it. -/
def readValue : Nat → List Char → Option (Json × List Char)
  | 0, _ => none
  | fuel + 1, s =>
    match s with
    | 'n' :: 'u' :: 'l' :: 'l' :: r => some (.null, r)
    | 't' :: 'r' :: 'u' :: 'e' :: r => some (.bool true, r)
    | 'f' :: 'a' :: 'l' :: 's' :: 'e' :: r => some (.bool false, r)
    | '"' :: r => do
      let (cs?, r) ← readChars (r.length + 1) r
      return (cs?.elim .garbled fun cs => .str (String.ofList cs), r)
    | '[' :: r =>
      match skipSpace r with
      | ']' :: r => some (.arr [], r)
      | r => do
        let (items, r) ← readItems fuel r
        return (.arr items, r)
    | '{' :: r =>
      match skipSpace r with
      | '}' :: r => some (.obj [], r)
      | r => do
        let (members?, r) ← readMembers fuel r
        return (members?.elim .garbled .obj, r)
    | s => do
      let (n, r) ← readNumeral s
      return (.num n, r)

/-- The items of a list up to its closing bracket, from the first one on. -/
def readItems : Nat → List Char → Option (List Json × List Char)
  | 0, _ => none
  | fuel + 1, s => do
    let (j, r) ← readValue fuel s
    match skipSpace r with
    | ',' :: r =>
      let (js, r) ← readItems fuel (skipSpace r)
      return (j :: js, r)
    | ']' :: r => return ([j], r)
    | _ => none

/-- The members of an object up to its closing brace, from the first one on, if their names are all
texts. -/
def readMembers : Nat → List Char → Option (Option (List (String × Json)) × List Char)
  | 0, _ => none
  | fuel + 1, s =>
    match s with
    | '"' :: r => do
      let (cs?, r) ← readChars (r.length + 1) r
      match skipSpace r with
      | ':' :: r =>
        let (j, r) ← readValue fuel (skipSpace r)
        let member? := cs?.map fun cs => (String.ofList cs, j)
        match skipSpace r with
        | ',' :: r =>
          let (js?, r) ← readMembers fuel (skipSpace r)
          return (member?.bind fun m => js?.map (m :: ·), r)
        | '}' :: r => return (member?.map ([·]), r)
        | _ => none
      | _ => none
    | _ => none

end

/-- The value that a text holds, with nothing but blanks around it. -/
def parse (s : List Char) : Option Json := do
  let (j, r) ← readValue (2 * s.length + 1) (skipSpace s)
  match skipSpace r with
  | [] => return j
  | _ => none

/-- The value that a text holds, if no value in it lies deeper than 127 lists and objects, no number
is beyond the range of floats and no text is garbled. -/
def parseBounded (s : List Char) : Option Json := do
  let j ← parse s
  if j.isPlain 127 then return j else none

end NodePressure.Json
