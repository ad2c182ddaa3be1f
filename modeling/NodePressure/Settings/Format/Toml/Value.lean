import NodePressure.Settings.Format.Toml.DateTime
import NodePressure.Settings.Format.Toml.Table
import NodePressure.Settings.Format.Toml.Text

/-!
# NodePressure.Settings.Format.Toml.Value - values of a TOML document

Texts, integers, floats, truth values, dates and times, lists, and tables in a line. Between the
digits of a number single underscores may stand.
-/

namespace NodePressure.Settings.Toml

/-! ## Numbers -/

/-- Digits with single underscores between them, and the text behind; refused where an underscore
has no digit behind it. -/
def digits? (isDigit : Char → Bool) : List Char → Option (List Char × List Char)
  | c :: r =>
    if !isDigit c then none
    else
      match r with
      | '_' :: r => (digits? isDigit r).map fun (ds, r) => (c :: ds, r)
      | d :: r =>
        if isDigit d then (digits? isDigit (d :: r)).map fun (ds, r) => (c :: ds, r)
        else some ([c], d :: r)
      | [] => some ([c], [])
  | [] => none

/-- An integer in digits of a base, at most the greatest one of 64 bits. -/
def based? (base : Nat) (isDigit : Char → Bool) (s : List Char) : Option (Scalar × List Char) := do
  let (ds, r) ← digits? isDigit s
  let n ← Number.signedOfBase? base ds
  return (.int n, r)

/-- The whole part of a decimal number: a zero alone, or digits that begin with none. -/
def whole? : List Char → Option (List Char × List Char)
  | '0' :: r => some (['0'], r)
  | s => digits? Number.isDigit s

/-- The exponent of a float, with its letter and sign; nothing if there is none. -/
def exponent? : List Char → Option (List Char × List Char)
  | c :: r =>
    if c == 'e' || c == 'E' then
      let (sign, r) := match r with
        | '+' :: r => (['+'], r)
        | '-' :: r => (['-'], r)
        | r => ([], r)
      (digits? Number.isDigit r).map fun (ds, r) => ('e' :: (sign ++ ds), r)
    else some ([], c :: r)
  | [] => some ([], [])

/-- The float with the given text. A positive one must not be beyond the greatest float. -/
def float? (s : List Char) : Option Scalar :=
  (Number.readFloat s).bind fun x =>
    match Number.parts x with
    | .infinite false => none
    | _ => some (.float x)

/-- An integer or a float behind its sign. -/
def decimal? (sign s : List Char) : Option (Scalar × List Char) := do
  let (whole, r) ← whole? s
  let (fraction, r) ← match r with
    | '.' :: r => (digits? Number.isDigit r).map fun (ds, r) => ('.' :: ds, r)
    | r => some ([], r)
  let (exponent, r) ← exponent? r
  if fraction.isEmpty && exponent.isEmpty then
    match Number.readSigned Number.maxSigned64 (sign ++ whole) with
    | .ok n => return (.int n, r)
    | .error _ => none
  else return (← float? (sign ++ whole ++ fraction ++ exponent), r)

/-- An integer or a float. -/
def number? (s : List Char) : Option (Scalar × List Char) :=
  let (sign, r) := match s with
    | '+' :: r => (['+'], r)
    | '-' :: r => (['-'], r)
    | r => ([], r)
  match r with
  | 'i' :: 'n' :: 'f' :: r => (Number.readFloat (sign ++ "inf".toList)).map fun x => (.float x, r)
  | 'n' :: 'a' :: 'n' :: r => (Number.readFloat (sign ++ "nan".toList)).map fun x => (.float x, r)
  | '0' :: 'x' :: r => if sign.isEmpty then based? 16 Number.isHexDigit r else none
  | '0' :: 'o' :: r =>
    if sign.isEmpty then based? 8 (fun c => '0' ≤ c ∧ c ≤ '7') r else none
  | '0' :: 'b' :: r =>
    if sign.isEmpty then based? 2 (fun c => c == '0' || c == '1') r else none
  | r => decimal? sign r

/-! ## Lists and tables in a line -/

mutual

/-- A value and the text behind it; brackets and braces may be `room` deep. -/
def value? : Nat → Nat → List Char → Option (Tree × List Char)
  | 0, _, _ => none
  | fuel + 1, room, s =>
    match s with
    | '[' :: r => if room == 0 then none else items? fuel (room - 1) r []
    | '{' :: r =>
      if room == 0 then none
      else
        match skip r with
        | '}' :: r => some (Tree.empty, r)
        | r => pairs? fuel (room - 1) r .root
    | '"' :: _ | '\'' :: _ => (quoted? s).map fun (v, r) => (.leaf none (.text v), r)
    | 't' :: 'r' :: 'u' :: 'e' :: r => some (.leaf none (.bool true), r)
    | 'f' :: 'a' :: 'l' :: 's' :: 'e' :: r => some (.leaf none (.bool false), r)
    | s =>
      if beginsDate s || beginsTime s then
        (dateTime? s).map fun (v, r) => (.leaf none (.text v), r)
      else (number? s).map fun (v, r) => (.leaf none v, r)

/-- The items of a list up to its bracket, behind those read already. Lines may end between them,
and a comma may stand behind the last one. -/
def items? : Nat → Nat → List Char → List Tree → Option (Tree × List Char)
  | 0, _, _, _ => none
  | fuel + 1, room, s, done =>
    match skipLines s.length s with
    | ']' :: r => some (.list none done, r)
    | s => do
      let (t, r) ← value? fuel room s
      match skipLines r.length r with
      | ',' :: r => items? fuel room r (done ++ [t])
      | ']' :: r => return (.list none (done ++ [t]), r)
      | _ => none

/-- The pairs of a table in a line up to its brace, put to those read already. -/
def pairs? : Nat → Nat → List Char → Table → Option (Tree × List Char)
  | 0, _, _, _ => none
  | fuel + 1, room, s, done => do
    let (key, r) ← key? s
    match r with
    | '=' :: r =>
      let (v, r) ← value? fuel room (skip r)
      let done ← done.define key v
      match skip r with
      | ',' :: r => pairs? fuel room r done
      | '}' :: r => return (done.toTree, r)
      | _ => none
    | _ => none

end

end NodePressure.Settings.Toml
