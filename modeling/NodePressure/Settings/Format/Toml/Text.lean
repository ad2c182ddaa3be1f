import NodePressure.Number.Radix
import NodePressure.Text.Blank

/-!
# NodePressure.Settings.Format.Toml.Text - keys and texts of a TOML document

Blanks are spaces and tabs, a line ends at a line feed with or without a carriage return before it,
and no other control character may stand anywhere. Every reading step gives back the rest.
-/

namespace NodePressure.Settings.Toml

/-- Whether a character may stand in comments and texts: no control character but the tab. -/
def isContent (c : Char) : Bool :=
  c == '\t' || (0x20 ≤ c.toNat && c.toNat != 0x7F)

/-- The text behind blanks. -/
def skip (s : List Char) : List Char :=
  s.dropWhile fun c => c == ' ' || c == '\t'

/-- The text behind the end of a line. -/
def newline? : List Char → Option (List Char)
  | '\n' :: r => some r
  | '\r' :: '\n' :: r => some r
  | _ => none

/-- The text behind a comment, if there is one. -/
def skipComment : List Char → List Char
  | '#' :: r => r.dropWhile isContent
  | s => s

/-- The text behind the rest of a line, which may hold blanks and a comment. -/
def lineEnd? (s : List Char) : Option (List Char) :=
  match skipComment (skip s) with
  | [] => some []
  | r => newline? r

/-- The text behind blanks, comments and line ends. -/
def skipLines : Nat → List Char → List Char
  | 0, s => s
  | fuel + 1, s =>
    match newline? (skipComment (skip s)) with
    | some r => skipLines fuel r
    | none => skip s

/-! ## Texts -/

/-- The characters that have a letter of their own behind a backslash. -/
def escapes : List (Char × Char) :=
  [('b', '\x08'), ('t', '\t'), ('n', '\n'), ('f', '\x0c'), ('r', '\r'), ('"', '"'), ('\\', '\\')]

/-- The character with a code point in `n` hexadecimal digits. -/
def codePoint? (n : Nat) (s : List Char) : Option (Char × List Char) := do
  let digits := s.take n
  if digits.length == n then return (← Number.charOf? (← Number.ofBase? 16 digits), s.drop n)
  else none

/-- The character that is escaped behind a backslash. -/
def escaped? : List Char → Option (Char × List Char)
  | 'u' :: r => codePoint? 4 r
  | 'U' :: r => codePoint? 8 r
  | c :: r => (escapes.find? (·.1 == c)).map fun (_, d) => (d, r)
  | [] => none

/-- A text on one line, behind its opening mark. Between double marks characters may be escaped. -/
def lineText (mark : Char) : Nat → List Char → Option (List Char × List Char)
  | 0, _ => none
  | _ + 1, [] => none
  | fuel + 1, c :: r =>
    if c == mark then some ([], r)
    else if c == '\\' && mark == '"' then do
      let (d, r) ← escaped? r
      let (cs, r) ← lineText mark fuel r
      return (d :: cs, r)
    else if isContent c then (lineText mark fuel r).map fun (cs, r) => (c :: cs, r)
    else none

/-- A text over several lines, behind its three opening marks. One or two marks may stand in it,
also before the closing ones; between double marks an escaped line end is dropped with all blanks
and line ends behind it. -/
def blockText (mark : Char) : Nat → List Char → Option (List Char × List Char)
  | 0, _ => none
  | _ + 1, [] => none
  | fuel + 1, c :: r =>
    if c == mark then
      let n := ((c :: r).takeWhile (· == mark)).length
      if n < 3 then
        (blockText mark fuel ((c :: r).drop n)).map fun (cs, r) => (List.replicate n mark ++ cs, r)
      else
        let extra := min (n - 3) 2
        some (List.replicate extra mark, (c :: r).drop (extra + 3))
    else if c == '\\' && mark == '"' then
      match newline? (skip r) with
      | some r =>
        blockText mark fuel (r.dropWhile fun c => c == ' ' || c == '\t' || c == '\n' || c == '\r')
      | none => do
        let (d, r) ← escaped? r
        let (cs, r) ← blockText mark fuel r
        return (d :: cs, r)
    else
      match newline? (c :: r) with
      | some r => (blockText mark fuel r).map fun (cs, r) => ('\n' :: cs, r)
      | none =>
        if isContent c then (blockText mark fuel r).map fun (cs, r) => (c :: cs, r) else none

/-- A text on one line, from its opening mark on. -/
def lineQuoted? : List Char → Option (String × List Char)
  | c :: r =>
    if c == '"' || c == '\'' then
      (lineText c (r.length + 1) r).map fun (cs, r) => (String.ofList cs, r)
    else none
  | [] => none

/-- A text from its opening mark on, or from its three opening marks. A line end right behind those
does not belong to it. -/
def quoted? (s : List Char) : Option (String × List Char) :=
  match s with
  | a :: b :: c :: r =>
    if (a == '"' || a == '\'') && b == a && c == a then
      let r := (newline? r).getD r
      (blockText a (r.length + 1) r).map fun (cs, r) => (String.ofList cs, r)
    else lineQuoted? s
  | _ => lineQuoted? s

/-! ## Keys -/

/-- Whether a character may stand in a bare key. -/
def isBare (c : Char) : Bool :=
  c.isAlphanum || c == '_' || c == '-'

/-- A part of a key: bare, or in quotation marks. -/
def keyPart? (s : List Char) : Option (String × List Char) :=
  let bare := s.takeWhile isBare
  if bare.isEmpty then lineQuoted? s else some (String.ofList bare, s.drop bare.length)

/-- The parts of a key with points between them, and blanks around each. -/
def keyParts? : Nat → List Char → Option (List String × List Char)
  | 0, _ => none
  | fuel + 1, s => do
    let (part, r) ← keyPart? (skip s)
    match skip r with
    | '.' :: r =>
      let (parts, r) ← keyParts? fuel r
      return (part :: parts, r)
    | r => return ([part], r)

/-- A key of fewer than 80 parts. -/
def key? (s : List Char) : Option (List String × List Char) :=
  keyParts? 79 s

end NodePressure.Settings.Toml
