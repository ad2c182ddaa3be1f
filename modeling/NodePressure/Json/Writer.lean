import NodePressure.Json.Basic

/-!
# NodePressure.Json.Writer - writing JSON texts

The compact form: no blanks between tokens, and only quotation marks, backslashes and control
characters escaped in texts.
-/

namespace NodePressure.Json

/-- The hexadecimal digit of a number below sixteen, in lower case. -/
def hexChar (n : Nat) : Char :=
  if n < 10 then Char.ofNat ('0'.toNat + n) else Char.ofNat ('a'.toNat + (n - 10))

/-- A character inside quotation marks. -/
def escape (c : Char) : List Char :=
  if c == '"' then ['\\', '"']
  else if c == '\\' then ['\\', '\\']
  else if c == '\x08' then ['\\', 'b']
  else if c == '\x0c' then ['\\', 'f']
  else if c == '\n' then ['\\', 'n']
  else if c == '\r' then ['\\', 'r']
  else if c == '\t' then ['\\', 't']
  else if c.toNat < 0x20 then ['\\', 'u', '0', '0', hexChar (c.toNat / 16), hexChar (c.toNat % 16)]
  else [c]

/-- A text in quotation marks. -/
def writeString (s : String) : List Char :=
  '"' :: (s.toList.flatMap escape ++ ['"'])

/-- Whether a number is a whole one of 64 bits, with a sign or without. -/
def Numeral.isWord (n : Numeral) : Bool :=
  n.isWhole &&
    if n.negative then n.whole != 0 && n.whole ≤ Number.maxSigned64 + 1 else n.whole ≤ Number.max64

/-- A number: a whole one in its digits, every other one as the nearest float in the fewest digits,
which is also the form of `-0` and of whole numbers of more than 64 bits. -/
def writeNumeral (n : Numeral) : List Char :=
  if n.isWord then
    if n.negative then '-' :: Number.digits n.whole else Number.digits n.whole
  else
    match n.toFloat? with
    | some x => (Number.floatTextExp x).toList
    | none => "null".toList

mutual

/-- A value in its compact form. -/
def write : Json → List Char
  | .null => ['n', 'u', 'l', 'l']
  | .garbled => ['"', '\\', 'u', 'd', '8', '0', '0', '"']
  | .bool true => ['t', 'r', 'u', 'e']
  | .bool false => ['f', 'a', 'l', 's', 'e']
  | .num n => writeNumeral n
  | .str s => writeString s
  | .arr items => '[' :: (writeItems items ++ [']'])
  | .obj members => '{' :: (writeMembers members ++ ['}'])

/-- The items of a list with commas between them. -/
def writeItems : List Json → List Char
  | [] => []
  | [j] => write j
  | j :: r => write j ++ ',' :: writeItems r

/-- The members of an object with commas between them. -/
def writeMembers : List (String × Json) → List Char
  | [] => []
  | [(name, j)] => writeString name ++ ':' :: write j
  | (name, j) :: r => writeString name ++ ':' :: (write j ++ ',' :: writeMembers r)

end

/-- A value in its compact form, as text. -/
def render (j : Json) : String :=
  String.ofList (write j)

/-- Puts a member in front of the first one with a greater name; a member of the same name is
replaced. -/
def insertMember (name : String) (j : Json) : List (String × Json) → List (String × Json)
  | [] => [(name, j)]
  | (other, k) :: r =>
    if name < other then (name, j) :: (other, k) :: r
    else if name == other then (name, j) :: r
    else (other, k) :: insertMember name j r

mutual

/-- The value with the members of every object in the order of their names; of members of one name
the last one stays. -/
def sorted : Json → Json
  | .arr items => .arr (sortedItems items)
  | .obj members => .obj (sortedMembers members)
  | j => j

/-- The values of a list, each with its members sorted. -/
def sortedItems : List Json → List Json
  | [] => []
  | j :: r => sorted j :: sortedItems r

/-- The members, each value sorted, in the order of their names. -/
def sortedMembers (members : List (String × Json)) : List (String × Json) :=
  collect [] members
where
  /-- Puts the members one by one into those already in order. -/
  collect (done : List (String × Json)) : List (String × Json) → List (String × Json)
    | [] => done
    | (name, j) :: r => collect (insertMember name (sorted j) done) r

end

end NodePressure.Json
