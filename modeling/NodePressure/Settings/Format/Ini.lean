import NodePressure.Number.Radix
import NodePressure.Settings.Tree
import NodePressure.Text.Blank

/-!
# NodePressure.Settings.Format.Ini - settings in sections

Keys and values below headings in brackets. Every value is a text; what stands before the first
heading belongs to no section. A heading that comes again begins its section anew. Backslashes
escape characters everywhere, comments take whole lines, and all but the lines of values may go on
over line ends.
-/

namespace NodePressure.Settings.Ini

/-! ## Texts -/

/-- The characters that have a letter of their own behind a backslash. -/
def escapes : List (Char × Nat) :=
  [('0', 0), ('a', 0x07), ('b', 0x08), ('t', 0x09), ('r', 0x0D), ('n', 0x0A)]

/-- The character with a code point in four hexadecimal digits, of which the first may be a plus
sign. -/
def codePoint? (s : List Char) : Option Char := do
  let digits := match s with
    | '+' :: r => r
    | r => r
  if s.length == 4 then Number.charOf? (← Number.ofBase? 16 digits) else none

/-- What an escape behind a backslash stands for: nothing for a line end, and for every character
without a meaning of its own the character itself. -/
def escaped? : List Char → Option (List Char × List Char)
  | [] => none
  | '\n' :: r => some ([], r)
  | 'x' :: r => (codePoint? (r.take 4)).map fun c => ([c], r.drop 4)
  | c :: r =>
    match escapes.find? (·.1 == c) with
    | some (_, code) => some ([Char.ofNat code], r)
    | none => some ([c], r)

/-- The text up to the first character that ends it, which is still to come. The end of the input
ends it too, if that is admitted. -/
def textUntil (ends : Char → Bool) (atEnd : Bool) : Nat → List Char → Option (List Char × List Char)
  | 0, _ => none
  | _ + 1, [] => if atEnd then some ([], []) else none
  | fuel + 1, c :: r =>
    if ends c then some ([], c :: r)
    else if c == '\\' then do
      let (d, r) ← escaped? r
      let (cs, r) ← textUntil ends atEnd fuel r
      return (d ++ cs, r)
    else (textUntil ends atEnd fuel r).map fun (cs, r) => (c :: cs, r)

/-- Whether a character ends a line. -/
def isBreak (c : Char) : Bool :=
  c == '\n' || c == '\r'

/-- The pieces of a value behind `done`: any number in quotation marks, and then the rest of the
line. -/
def valueFrom : Nat → List Char → List Char → Option (List Char × List Char)
  | 0, _, _ => none
  | _ + 1, done, [] => some (done, [])
  | fuel + 1, done, c :: r =>
    if c == '"' || c == '\'' then do
      let (cs, r) ← textUntil (· == c) false (r.length + 1) r
      valueFrom fuel (done ++ cs) (r.drop 1)
    else
      (textUntil isBreak true (r.length + 2) (c :: r)).map fun (cs, r) => (done ++ cs, r)

/-- The value behind an equals sign or colon: without blanks around it, also those in quotation
marks. -/
def value? (s : List Char) : Option (String × List Char) :=
  let r := s.dropWhile fun c => Text.isBlank c && !isBreak c
  (valueFrom (r.length + 1) [] r).map fun (cs, r) => (String.ofList (Text.trim cs), r)

/-! ## Sections -/

/-- What has been read: the section that the next line belongs to, the key that waits for its value,
and the settings. -/
structure State where
  heading : Option String
  key : String
  settings : Tree

/-- Puts a value under the key that waits for it. -/
def State.assign (s : State) (value : String) : State :=
  let leaf : Tree := .leaf none (.text value)
  let settings := match s.heading with
    | none => s.settings.put s.key leaf
    | some name => s.settings.put name (((s.settings.member? name).getD Tree.empty).put s.key leaf)
  { s with key := "", settings := settings }

/-- Begins a section, in place of an earlier one with its name. -/
def State.begin (s : State) (name : String) : State :=
  { s with heading := some name, settings := s.settings.put name Tree.empty }

/-- Whether a place lies at the beginning of a line. -/
def atLineStart : List Char → Bool
  | [] => true
  | before => before.getLast? == some '\n'

/-- Takes up what follows, with whether it stands at the beginning of a line. -/
def sections : Nat → Bool → List Char → State → Option Tree
  | 0, _, _, _ => none
  | fuel + 1, fresh, text, s =>
    let blanks := text.takeWhile Text.isBlank
    let fresh := if blanks.isEmpty then fresh else atLineStart blanks
    match text.drop blanks.length with
    | [] => some s.settings
    | c :: r =>
      if c == ';' || c == '#' then
        if fresh then sections fuel true ((r.dropWhile (· != '\n')).drop 1) s else none
      else if c == '[' then do
        let (name, r) ← textUntil (· == ']') false (r.length + 1) r
        sections fuel false (r.drop 1) (s.begin (String.ofList (Text.trim name)))
      else if c == '=' || c == ':' then
        if s.key == "" then none
        else do
          let (value, r) ← value? r
          sections fuel false r (s.assign value)
      else do
        let (key, r) ← textUntil (fun c => c == '=' || c == ':') false (r.length + 2) (c :: r)
        sections fuel false r { s with key := String.ofList (Text.trim key) }

/-- Reads settings in sections. -/
def read (s : List Char) : Option Tree :=
  sections (s.length + 1) true s ⟨none, "", Tree.empty⟩

end NodePressure.Settings.Ini
