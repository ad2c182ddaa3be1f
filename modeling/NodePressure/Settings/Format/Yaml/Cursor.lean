/-!
# NodePressure.Settings.Format.Yaml.Cursor - places in a YAML text

Blanks are spaces and tabs, and a line ends at a line feed, a carriage return, or both in this
order. A cursor is the text that is left, with the place where it begins.
-/

namespace NodePressure.Settings.Yaml

/-- Whether a character is a blank. -/
def isBlank (c : Char) : Bool :=
  c == ' ' || c == '\t'

/-- Whether a character ends a line. -/
def isBreak (c : Char) : Bool :=
  c == '\n' || c == '\r'

/-- Whether a character separates the items of lists and maps in brackets. -/
def isFlow (c : Char) : Bool :=
  [',', '[', ']', '\x7b', '\x7d'].contains c

/-- Whether a text begins with the end of a line. -/
def atBreak (s : List Char) : Bool :=
  s.head?.any isBreak

/-- Whether a text is at its end or begins with the end of a line. -/
def atLineEnd (s : List Char) : Bool :=
  s.head?.all isBreak

/-- Whether a text is at its end or begins with a blank or the end of a line. -/
def atGap (s : List Char) : Bool :=
  s.head?.all fun c => isBlank c || isBreak c

/-- Whether a text begins with a bracket, a brace or a comma. -/
def atFlow (s : List Char) : Bool :=
  s.head?.any isFlow

/-- Whether a text begins with three times the given character and a gap. -/
def atTriple (mark : Char) : List Char → Bool
  | a :: b :: c :: r => a == mark && b == mark && c == mark && atGap r
  | _ => false

/-- A place in a text. -/
structure Cursor where
  /-- The text from here on. -/
  rest : List Char
  /-- The number of characters before it. -/
  index : Nat
  line : Nat
  column : Nat
  /-- Whether only blanks stand before it on its line. -/
  leading : Bool

namespace Cursor

/-- The beginning of a text. -/
def start (s : List Char) : Cursor :=
  ⟨s, 0, 0, 0, true⟩

/-- The place behind the next `n` characters of the line. -/
def advance (c : Cursor) (n : Nat) : Cursor where
  rest := c.rest.drop n
  index := c.index + n
  line := c.line
  column := c.column + n
  leading := c.leading && (c.rest.take n).all isBlank

/-- The beginning of the next line, from the end of this one. -/
def nextLine (c : Cursor) : Cursor :=
  match c.rest with
  | '\r' :: '\n' :: r => ⟨r, c.index + 2, c.line + 1, 0, true⟩
  | _ :: r => ⟨r, c.index + 1, c.line + 1, 0, true⟩
  | [] => c

/-- The blanks from here on. -/
def blanks (c : Cursor) : List Char :=
  c.rest.takeWhile isBlank

/-- The end of the line. -/
def lineEnd (c : Cursor) : Cursor :=
  c.advance (c.rest.takeWhile fun x => !isBreak x).length

/-- The place behind blanks and a comment. A comment needs a blank before it. -/
def skipBlanks (c : Cursor) : Option Cursor :=
  let d := c.advance c.blanks.length
  if d.rest.head? == some '#' then
    if c.blanks.isEmpty then none else some d.lineEnd
  else some d

/-- Whether a line of three dashes or points stands here, which divides documents. -/
def atMark (c : Cursor) : Bool :=
  c.column == 0 && (atTriple '-' c.rest || atTriple '.' c.rest)

end Cursor

end NodePressure.Settings.Yaml
