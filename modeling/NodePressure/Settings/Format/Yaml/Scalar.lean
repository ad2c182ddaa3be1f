import NodePressure.Number.Radix
import NodePressure.Settings.Format.Yaml.Cursor
import NodePressure.Settings.Tree

/-!
# NodePressure.Settings.Format.Yaml.Scalar - scalars of a YAML text

A scalar stands in quotation marks or plain. Where it goes on over several lines, a single line
break becomes a space, and of several ones all but the first stay. A plain scalar is an integer, a
float, a truth value or nothing if it looks like one, and else a text.
-/

namespace NodePressure.Settings.Yaml

/-! ## Meaning of plain scalars -/

/-- The integer that a plain scalar stands for: decimal, or behind `0x` or `0o` in base 16 or 8. A
plus sign may stand before a decimal one, which may have its own sign. -/
def integer? (s : List Char) : Option Int :=
  let special := match s with
    | '0' :: 'x' :: r => Number.signedOfBase? 16 r
    | '0' :: 'o' :: r => Number.signedOfBase? 8 r
    | '+' :: r => Number.signedOfBase? 10 r
    | _ => none
  special.orElse fun _ => Number.signedOfBase? 10 s

/-- The spellings of floats that are accepted as such but cannot be read. -/
def unreadableFloats : List String :=
  [".inf", ".Inf", ".INF", "+.inf", "+.Inf", "+.INF", "-.inf", "-.Inf", "-.INF", ".nan", ".NAN"]

/-- What a plain scalar stands for; nothing if it is a float that cannot be read. -/
def meaning? (s : List Char) : Option Scalar :=
  let word := String.ofList s
  match integer? s with
  | some n => some (.int n)
  | none =>
    if ["", "~", "null"].contains word then some .nil
    else if word == "true" then some (.bool true)
    else if word == "false" then some (.bool false)
    else if unreadableFloats.contains word then none
    else
      match Number.readFloat s with
      | some x => some (.float x)
      | none => some (.text word)

/-! ## Folding of lines -/

/-- What becomes of blanks and line breaks within a scalar. Behind an escaped line break all of the
following ones stay. -/
def fold (escaped : Bool) (blanks : List Char) (breaks : Nat) : List Char :=
  if escaped then List.replicate breaks '\n'
  else
    match breaks with
    | 0 => blanks
    | 1 => [' ']
    | n + 2 => List.replicate (n + 1) '\n'

/-! ## Scalars in quotation marks -/

/-- The characters that have a letter of their own behind a backslash. -/
def escapes : List (Char × Nat) :=
  [('0', 0), ('a', 0x07), ('b', 0x08), ('t', 0x09), ('\t', 0x09), ('n', 0x0A), ('v', 0x0B),
    ('f', 0x0C), ('r', 0x0D), ('e', 0x1B), (' ', 0x20), ('"', 0x22), ('/', 0x2F), ('\\', 0x5C),
    ('N', 0x85), ('_', 0xA0), ('L', 0x2028), ('P', 0x2029)]

/-- The number of hexadecimal digits behind a letter that announces a code point. -/
def codeLength? : Char → Option Nat
  | 'x' => some 2
  | 'u' => some 4
  | 'U' => some 8
  | _ => none

/-- The character that is escaped behind a backslash, and the number of characters it takes. -/
def escaped? : List Char → Option (Char × Nat)
  | [] => none
  | c :: r =>
    match codeLength? c with
    | some n => do
      let digits := r.take n
      if digits.length == n then
        let code ← Number.ofBase? 16 digits
        return (← Number.charOf? code, n + 1)
      else none
    | none => (escapes.find? (·.1 == c)).map fun (_, code) => (Char.ofNat code, 1)

/-- The characters up to the next gap or the closing mark, put before `done` in reverse; also
whether they end with an escaped line break, which is crossed. -/
def quotedRun (mark : Char) : Nat → Cursor → List Char → Option (List Char × Cursor × Bool)
  | 0, _, _ => none
  | fuel + 1, c, done =>
    match c.rest with
    | [] => some (done, c, false)
    | x :: r =>
      if atGap (x :: r) then some (done, c, false)
      else if x == mark then
        if mark == '\'' && r.head? == some mark then
          quotedRun mark fuel (c.advance 2) (mark :: done)
        else some (done, c, false)
      else if x == '\\' && mark == '"' then
        if atBreak r then some (done, (c.advance 1).nextLine, true)
        else
          (escaped? r).bind fun (y, n) => quotedRun mark fuel (c.advance (n + 1)) (y :: done)
      else quotedRun mark fuel (c.advance 1) (x :: done)

/-- The blanks before the first line break of a gap and the number of its line breaks. A tab left of
the indentation is refused behind a line break. -/
def quotedGap (indent : Int) (escaped : Bool) :
    Nat → Cursor → List Char → Nat → Option (List Char × Nat × Cursor)
  | 0, _, _, _ => none
  | fuel + 1, c, blanks, breaks =>
    match c.rest with
    | [] => some (blanks, breaks, c)
    | x :: _ =>
      if isBreak x then quotedGap indent escaped fuel c.nextLine blanks (breaks + 1)
      else if !isBlank x then some (blanks, breaks, c)
      else if escaped || breaks != 0 then
        if x == '\t' && c.column < indent then none
        else quotedGap indent escaped fuel (c.advance 1) blanks breaks
      else quotedGap indent escaped fuel (c.advance 1) (blanks ++ [x]) breaks

/-- The text up to the closing mark, put before `done` in reverse, and the place of that mark. No
line may begin left of the indentation, and no document may end. -/
def quotedBody (mark : Char) (indent : Int) : Nat → Cursor → List Char → Option (List Char × Cursor)
  | 0, _, _ => none
  | fuel + 1, c, done => do
    if c.atMark || c.rest.isEmpty || c.column < indent then none
    else
      let (done, c, escaped) ← quotedRun mark (c.rest.length + 1) c done
      if c.rest.head? == some mark then return (done, c)
      else
        let (blanks, breaks, c) ← quotedGap indent escaped (c.rest.length + 1) c [] 0
        quotedBody mark indent fuel c ((fold escaped blanks breaks).reverse ++ done)

/-- What may stand behind a scalar in quotation marks: the end of the line, a colon, and within
brackets what separates items. Outside of brackets a colon may only follow on the same line. -/
def endsQuoted (inFlow oneLine : Bool) : List Char → Bool
  | ',' :: _ | '\x7d' :: _ | ']' :: _ => inFlow
  | ':' :: _ => inFlow || oneLine
  | r => atLineEnd r

/-- A scalar in quotation marks from its opening mark on, and the place behind it. -/
def quoted? (inFlow : Bool) (indent : Int) (c : Cursor) : Option (String × Cursor) := do
  let mark ← c.rest.head?
  let (done, d) ← quotedBody mark indent (c.rest.length + 1) (c.advance 1) []
  let d ← (d.advance 1).skipBlanks
  if endsQuoted inFlow (d.line == c.line) d.rest then return (String.ofList done.reverse, d)
  else none

/-! ## Plain scalars -/

/-- Whether a plain scalar can take the next character: a colon before a gap ends it, and within
brackets all that separates items. -/
def isPlain (inFlow : Bool) : List Char → Bool
  | [] => false
  | c :: r =>
    if c == ':' then !(atGap r || (inFlow && atFlow r))
    else !(inFlow && isFlow c)

/-- The characters of a plain scalar up to the next gap. -/
def plainRun (inFlow : Bool) : List Char → List Char
  | [] => []
  | c :: r =>
    if isBlank c || isBreak c || !isPlain inFlow (c :: r) then [] else c :: plainRun inFlow r

/-- The blanks before the first line break of a gap and the number of its line breaks. Left of the
indentation only lines without content may hold tabs. -/
def plainGap (indent : Int) : Nat → Cursor → List Char → Nat → Option (List Char × Nat × Cursor)
  | 0, _, _, _ => none
  | fuel + 1, c, blanks, breaks =>
    match c.rest with
    | [] => some (blanks, breaks, c)
    | x :: _ =>
      if isBreak x then plainGap indent fuel c.nextLine blanks (breaks + 1)
      else if !isBlank x then some (blanks, breaks, c)
      else if breaks == 0 then plainGap indent fuel (c.advance 1) (blanks ++ [x]) breaks
      else if x == '\t' && c.column < indent then
        c.skipBlanks.bind fun d =>
          if atLineEnd d.rest then plainGap indent fuel d blanks breaks else none
      else plainGap indent fuel (c.advance 1) blanks breaks

/-- The text of a plain scalar behind `done`, and the place where it ends; `gap` is what it takes
for the blanks and line breaks crossed before, if it goes on. -/
def plainBody (inFlow : Bool) (indent : Int) :
    Nat → Cursor → List Char → List Char → Option (List Char × Cursor)
  | 0, _, _, _ => none
  | fuel + 1, c, done, gap => do
    if c.atMark || c.rest.head? == some '#' then return (done, c)
    else if inFlow && c.rest.head? == some '-' && atFlow (c.rest.drop 1) then none
    else
      let run := plainRun inFlow c.rest
      let done := if run.isEmpty then done else done ++ gap ++ run
      let c := c.advance run.length
      if c.rest.isEmpty || !atGap c.rest then return (done, c)
      else
        let (blanks, breaks, d) ← plainGap indent (c.rest.length + 1) c [] 0
        if !inFlow && d.column < indent then return (done, d)
        else plainBody inFlow indent fuel d done (fold false blanks breaks)

/-- A plain scalar, and the place behind it; its lines begin right of `indent`. -/
def plain? (inFlow : Bool) (indent : Int) (c : Cursor) : Option (String × Cursor) :=
  if inFlow && c.column < indent then none
  else
    (plainBody inFlow indent (c.rest.length + 1) c [] []).map fun (s, d) => (String.ofList s, d)

end NodePressure.Settings.Yaml
