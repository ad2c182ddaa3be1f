import NodePressure.Number.Radix
import NodePressure.Text.Letter

/-!
# NodePressure.Text.Pattern - well-formed patterns

Patterns of characters: literals, sets in brackets, groups in parentheses, choices, repetitions and
escapes. `isPattern` tells whether a text is one; what a pattern matches is not needed. Braces are
not read, so a text with a repetition count or a named set in braces counts as no pattern, and
neither does one that asks for the boundary of a word.
-/

namespace NodePressure.Text.Pattern

/-- What an escape stands for. -/
inductive Escape
  | literal (c : Char)
  /-- A set of characters, such as all digits. -/
  | set
  /-- A place in the text, which has no characters. -/
  | place
  deriving DecidableEq, Repr

/-- A character by a fixed number of hexadecimal digits. -/
def readCode (width : Nat) (s : List Char) : Option (Escape × List Char) := do
  if s.length < width then none
  else
    let c ← Number.charOf? (← Number.ofBase? 16 (s.take width))
    return (.literal c, s.drop width)

/-- The letters of the classes of characters that are named by one letter. -/
def isClassLetter (c : Char) : Bool :=
  "clmnpsz".toList.contains c.toLower

/-- What stands behind a backslash, and the text behind it. -/
def readEscape : List Char → Option (Escape × List Char)
  | [] => none
  | c :: r =>
    if c == 'x' then readCode 2 r
    else if c == 'u' then readCode 4 r
    else if c == 'U' then readCode 8 r
    else if c.toLower == 'p' then
      match r with
      | k :: r => if isClassLetter k then some (.set, r) else none
      | [] => none
    else if "dswDSW".toList.contains c then some (.set, r)
    else
      match c with
      | 'a' => some (.literal '\x07', r)
      | 'f' => some (.literal '\x0c', r)
      | 't' => some (.literal '\t', r)
      | 'n' => some (.literal '\n', r)
      | 'r' => some (.literal '\r', r)
      | 'v' => some (.literal '\x0b', r)
      | 'A' | 'z' => some (.place, r)
      | _ =>
        if c.toNat < 0x80 && !c.isAlphanum && c != '<' && c != '>' then some (.literal c, r)
        else none

/-- One item of a set: a character or an escape that is no place. -/
def readItem : List Char → Option (Escape × List Char)
  | [] => none
  | '\\' :: r => do
    let (e, r) ← readEscape r
    if e == .place then none else some (e, r)
  | c :: r => some (.literal c, r)

/-- An item of a set, or two characters with a hyphen between them that are in order. A hyphen
before the end of the set or before another one stands for itself. -/
def readRange (s : List Char) : Option (List Char) := do
  let (first, r) ← readItem s
  match r with
  | '-' :: ']' :: _ | '-' :: '-' :: _ => return r
  | '-' :: r =>
    let (last, r) ← readItem r
    match first, last with
    | .literal a, .literal b => if a.toNat ≤ b.toNat then return r else none
    | _, _ => none
  | _ => return r

/-- The classes of characters that can be named within a set. -/
def classNames : List String :=
  ["alnum", "alpha", "ascii", "blank", "cntrl", "digit", "graph", "lower", "print", "punct",
    "space", "upper", "word", "xdigit"]

/-- The text behind a named class whose opening bracket was read. -/
def readNamed? (s : List Char) : Option (List Char) :=
  match s with
  | ':' :: r =>
    let r := match r with
      | '^' :: r => r
      | r => r
    match r.span (· != ':') with
    | (name, ':' :: ']' :: r) => if classNames.contains (String.ofList name) then some r else none
    | _ => none
  | _ => none

/-- The text behind the beginning of a set: a mark that turns it round, and hyphens or a closing
bracket that stand for themselves. -/
def openSet (s : List Char) : List Char :=
  let s := match s with
    | '^' :: r => r
    | s => s
  match s with
  | ']' :: r => r
  | s => s.dropWhile (· == '-')

/-- The text behind a set, which may hold further sets. -/
def readSet : Nat → Nat → List Char → Option (List Char)
  | 0, _, _ => none
  | fuel + 1, depth, s =>
    match s with
    | [] => none
    | ']' :: r => if depth = 0 then some r else readSet fuel (depth - 1) r
    | '[' :: r =>
      match readNamed? r with
      | some r => readSet fuel depth r
      | none => readSet fuel (depth + 1) (openSet r)
    | '&' :: '&' :: r | '-' :: '-' :: r | '~' :: '~' :: r => readSet fuel depth r
    | s =>
      match readRange s with
      | some r => readSet fuel depth r
      | none => none

/-- Whether a text names a group. -/
def isGroupName : List Char → Bool
  | [] => false
  | c :: r => (c == '_' || isAlphanumeric c && !c.isDigit) &&
      r.all fun c => isAlphanumeric c || "_.[]".toList.contains c

/-- Whether letters switch something, each at most once: before or behind one minus sign. -/
def areSwitches (s : List Char) : Bool :=
  s.all ("imsUuRx-".toList.contains ·) && s.eraseDups.length == s.length && s.getLast? != some '-'

/-- The text behind the beginning of a group, and whether a group was opened rather than letters
switched for the rest of the one around it. -/
def openGroup (s : List Char) : Option (Bool × List Char) :=
  let named (r : List Char) : Option (Bool × List Char) :=
    match r.span (· != '>') with
    | (name, _ :: r) => if isGroupName name then some (true, r) else none
    | _ => none
  match s with
  | '?' :: 'P' :: '<' :: r => named r
  | '?' :: '<' :: r => named r
  | '?' :: r =>
    match r.span fun c => c != ':' && c != ')' with
    | (switches, ':' :: r) => if areSwitches switches then some (true, r) else none
    | (switches, _ :: r) =>
      if areSwitches switches && !switches.isEmpty then some (false, r) else none
    | _ => none
  | r => some (true, r)

/-- Whether the rest of a text completes a pattern within `depth` groups; `holds` says whether
there is something in front that can be repeated. -/
def completes : Nat → Nat → Bool → List Char → Bool
  | 0, _, _, _ => false
  | fuel + 1, depth, holds, s =>
    match s with
    | [] => depth == 0
    | '(' :: r =>
      match openGroup r with
      | some (true, r) => completes fuel (depth + 1) false r
      | some (false, r) => completes fuel depth false r
      | none => false
    | ')' :: r => depth != 0 && completes fuel (depth - 1) true r
    | '|' :: r => completes fuel depth false r
    | '[' :: r =>
      match readSet (r.length + 1) 0 (openSet r) with
      | some r => completes fuel depth true r
      | none => false
    | '{' :: _ => false
    | '\\' :: r =>
      match readEscape r with
      | some (_, r) => completes fuel depth true r
      | none => false
    | c :: r =>
      if c == '*' || c == '+' || c == '?' then
        let r := match r with
          | '?' :: r => r
          | r => r
        holds && completes fuel depth true r
      else completes fuel depth true r

end Pattern

/-- Whether a text is a well-formed pattern. -/
def isPattern (s : List Char) : Bool :=
  Pattern.completes (s.length + 1) 0 false s

end NodePressure.Text
