import NodePressure.Number.Radix
import NodePressure.Settings.Tree
import NodePressure.Text.Letter

/-!
# NodePressure.Settings.Format.Json5 - settings in JSON5

JSON with comments, bare keys, either kind of quotation marks, commas behind the last item, and more
spellings of numbers. Integers have 64 bits, those in base 16 have 32 and no sign. Of members with
one name the last one counts.
-/

namespace NodePressure.Settings.Json5

/-! ## Between tokens -/

/-- Whether a character ends a line. -/
def isBreak (c : Char) : Bool :=
  c == '\n' || c == '\r' || c.toNat == 0x2028 || c.toNat == 0x2029

/-- Whether a character is blank: a space of any kind, a control character for spacing, a line end
or a byte order mark. -/
def isBlank (c : Char) : Bool :=
  let n := c.toNat
  n == 0x09 || n == 0x0B || n == 0x0C || n == 0x20 || n == 0xA0 || n == 0xFEFF || n == 0x1680 ||
    (0x2000 ≤ n && n ≤ 0x200A) || n == 0x202F || n == 0x205F || n == 0x3000 || isBreak c

/-- The text behind the end of a comment over several lines. -/
def commentEnd? : List Char → Option (List Char)
  | '*' :: '/' :: r => some r
  | _ :: r => commentEnd? r
  | [] => none

/-- The text behind blanks and comments. -/
def skip : Nat → List Char → List Char
  | 0, s => s
  | fuel + 1, s =>
    match s with
    | '/' :: '/' :: r => skip fuel (r.dropWhile fun c => !isBreak c)
    | '/' :: '*' :: r =>
      match commentEnd? r with
      | some r => skip fuel r
      | none => s
    | c :: r => if isBlank c then skip fuel r else s
    | [] => []

/-- The text behind blanks and comments. -/
def next (s : List Char) : List Char :=
  skip s.length s

/-! ## Texts and keys -/

/-- Sixteen bits in four hexadecimal digits. -/
def unit? (s : List Char) : Option (Nat × List Char) :=
  if (s.take 4).length == 4 then (Number.ofBase? 16 (s.take 4)).map fun n => (n, s.drop 4) else none

/-- The character behind `\u`: one code unit, or a high and a low surrogate, each behind `\u`. -/
def unicode? (s : List Char) : Option (Char × List Char) := do
  let (n, r) ← unit? s
  if 0xD800 ≤ n && n ≤ 0xDBFF then
    match r with
    | '\\' :: 'u' :: r =>
      let (m, r) ← unit? r
      if 0xDC00 ≤ m && m ≤ 0xDFFF then
        return (← Number.charOf? (0x10000 + (n - 0xD800) * 0x400 + (m - 0xDC00)), r)
      else none
    | _ => none
  else return (← Number.charOf? n, r)

/-- The characters that have a letter of their own behind a backslash. -/
def escapes : List (Char × Nat) :=
  [('b', 0x08), ('f', 0x0C), ('n', 0x0A), ('r', 0x0D), ('t', 0x09), ('v', 0x0B), ('0', 0)]

/-- What an escape behind a backslash stands for: nothing for a line end, and for every character
without a meaning of its own, but no digit, the character itself. -/
def escaped? : List Char → Option (List Char × List Char)
  | '\r' :: '\n' :: r => some ([], r)
  | 'x' :: a :: b :: r => do return ([← Number.charOf? (← Number.ofBase? 16 [a, b])], r)
  | 'u' :: r => (unicode? r).map fun (c, r) => ([c], r)
  | c :: r =>
    match escapes.find? (·.1 == c) with
    | some (_, code) => some ([Char.ofNat code], r)
    | none =>
      if isBreak c then some ([], r)
      else if c.isDigit || c == 'x' then none
      else some ([c], r)
  | [] => none

/-- The characters up to the closing mark. -/
def chars? (mark : Char) : Nat → List Char → Option (List Char × List Char)
  | 0, _ => none
  | _ + 1, [] => none
  | fuel + 1, c :: r =>
    if c == mark then some ([], r)
    else if c == '\\' then do
      let (d, r) ← escaped? r
      let (cs, r) ← chars? mark fuel r
      return (d ++ cs, r)
    else if isBreak c then none
    else (chars? mark fuel r).map fun (cs, r) => (c :: cs, r)

/-- A text from its opening mark on. -/
def text? : List Char → Option (String × List Char)
  | c :: r =>
    if c == '"' || c == '\'' then
      (chars? c (r.length + 1) r).map fun (cs, r) => (String.ofList cs, r)
    else none
  | [] => none

/-- Whether a bare key may begin with a character. -/
def beginsName (c : Char) : Bool :=
  Text.isLetter c || c == '$' || c == '_'

/-- Whether a character may follow in a bare key. -/
def goesOnName (c : Char) : Bool :=
  beginsName c || Text.isNameMark c || c.toNat == 0x200C || c.toNat == 0x200D

/-- The characters of a bare key; whether the first one is still to come. -/
def nameChars? : Nat → Bool → List Char → Option (List Char × List Char)
  | 0, _, _ => none
  | fuel + 1, first, s =>
    match s with
    | '\\' :: 'u' :: r => do
      let (c, r) ← unicode? r
      let (cs, r) ← nameChars? fuel false r
      return (c :: cs, r)
    | c :: r =>
      if (if first then beginsName c else goesOnName c) then
        (nameChars? fuel false r).map fun (cs, r) => (c :: cs, r)
      else if first then none
      else some ([], c :: r)
    | [] => if first then none else some ([], [])

/-- A key: a text, or bare. -/
def key? (s : List Char) : Option (String × List Char) :=
  match s with
  | '"' :: _ | '\'' :: _ => text? s
  | _ => (nameChars? (s.length + 1) true s).map fun (cs, r) => (String.ofList cs, r)

/-! ## Numbers -/

/-- The exponent of a float, with its letter and sign; empty where there is none. -/
def exponentOf (s : List Char) : List Char :=
  match s with
  | c :: r =>
    if c == 'e' || c == 'E' then
      let sign := match r with
        | '+' :: _ => ['+']
        | '-' :: _ => ['-']
        | _ => []
      let ds := (r.drop sign.length).takeWhile Number.isDigit
      if ds.isEmpty then [] else c :: (sign ++ ds)
    else []
  | [] => []

/-- The digits of the whole part of a decimal number: a zero alone, or digits that begin with none.
-/
def wholeOf : List Char → List Char
  | '0' :: _ => ['0']
  | s => s.takeWhile Number.isDigit

/-- The point and the digits behind it. A point without digits needs a whole part. -/
def fractionOf (whole r : List Char) : List Char :=
  match r with
  | '.' :: r =>
    let ds := r.takeWhile Number.isDigit
    if whole.isEmpty && ds.isEmpty then [] else '.' :: ds
  | _ => []

/-- A decimal number behind its sign: an integer, or a float that is not beyond the greatest one. -/
def decimal? (sign s : List Char) : Option (Scalar × List Char) :=
  let whole := wholeOf s
  let r := s.drop whole.length
  let fraction := fractionOf whole r
  let exponent := exponentOf (r.drop fraction.length)
  let rest := r.drop (fraction.length + exponent.length)
  if whole.isEmpty && fraction.isEmpty then none
  else if fraction.isEmpty && exponent.isEmpty then
    match Number.readSigned Number.maxSigned64 (sign ++ whole) with
    | .ok n => some (.int n, rest)
    | .error _ => none
  else
    (Number.readFloat (sign ++ whole ++ fraction ++ exponent)).bind fun x =>
      if Number.isFinite x then some (.float x, rest) else none

/-- An integer in base 16, behind `0x`. -/
def hex? (sign s : List Char) : Option (Scalar × List Char) := do
  let ds := s.takeWhile Number.isHexDigit
  let n ← Number.ofBase? 16 ds
  if sign.isEmpty && n ≤ Number.max32 then return (.int n, s.drop ds.length) else none

/-- A number. A plus sign may stand before digits only. -/
def number? (s : List Char) : Option (Scalar × List Char) :=
  let (sign, r) := match s with
    | '+' :: r => (['+'], r)
    | '-' :: r => (['-'], r)
    | r => ([], r)
  match r with
  | '0' :: x :: d :: t =>
    if (x == 'x' || x == 'X') && Number.isHexDigit d then hex? sign (d :: t) else decimal? sign r
  | 'I' :: 'n' :: 'f' :: 'i' :: 'n' :: 'i' :: 't' :: 'y' :: r =>
    if sign == ['+'] then none
    else (Number.readFloat (sign ++ "inf".toList)).map fun x => (.float x, r)
  | 'N' :: 'a' :: 'N' :: r =>
    if sign == ['+'] then none
    else (Number.readFloat "nan".toList).map fun x => (.float x, r)
  | _ => decimal? sign r

/-! ## Values -/

mutual

/-- A value without blanks before it, and the text behind it. -/
def value? : Nat → List Char → Option (Tree × List Char)
  | 0, _ => none
  | fuel + 1, s =>
    match s with
    | 'n' :: 'u' :: 'l' :: 'l' :: r => some (.leaf none .nil, r)
    | 't' :: 'r' :: 'u' :: 'e' :: r => some (.leaf none (.bool true), r)
    | 'f' :: 'a' :: 'l' :: 's' :: 'e' :: r => some (.leaf none (.bool false), r)
    | '"' :: _ | '\'' :: _ => (text? s).map fun (v, r) => (.leaf none (.text v), r)
    | '[' :: r =>
      match next r with
      | ']' :: r => some (.list none [], r)
      | r => items? fuel r []
    | '{' :: r =>
      match next r with
      | '}' :: r => some (Tree.empty, r)
      | r => members? fuel r Tree.empty
    | s => (number? s).map fun (v, r) => (.leaf none v, r)

/-- The items of a list up to its bracket, behind those read already. -/
def items? : Nat → List Char → List Tree → Option (Tree × List Char)
  | 0, _, _ => none
  | fuel + 1, s, done => do
    let (t, r) ← value? fuel s
    let done := done ++ [t]
    match next r with
    | ']' :: r => return (.list none done, r)
    | ',' :: r =>
      match next r with
      | ']' :: r => return (.list none done, r)
      | r => items? fuel r done
    | _ => none

/-- The members of an object up to its brace, put to those read already. -/
def members? : Nat → List Char → Tree → Option (Tree × List Char)
  | 0, _, _ => none
  | fuel + 1, s, done => do
    let (key, r) ← key? s
    match next r with
    | ':' :: r =>
      let (t, r) ← value? fuel (next r)
      let done := done.put key t
      match next r with
      | '}' :: r => return (done, r)
      | ',' :: r =>
        match next r with
        | '}' :: r => return (done, r)
        | r => members? fuel r done
      | _ => none
    | _ => none

end

/-- Reads settings in JSON5. -/
def read (s : List Char) : Option Tree := do
  let (t, r) ← value? (2 * s.length + 2) (next s)
  if (next r).isEmpty then return t else none

end NodePressure.Settings.Json5
