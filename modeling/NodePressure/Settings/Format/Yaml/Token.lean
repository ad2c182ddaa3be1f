import NodePressure.Settings.Format.Yaml.Scalar

/-!
# NodePressure.Settings.Format.Yaml.Token - tokens of a YAML text

Block lists and maps get their ends from the indentation, and a scalar or bracket turns out to begin
a key only when the colon behind it is met. So the tokens are collected with the open indentations
and the places where a key may have begun, and the mark of a key is put in front of it afterwards.

Anchors, aliases, tags, directives and block scalars are refused.
-/

namespace NodePressure.Settings.Yaml

/-- A token. -/
inductive Token
  | documentStart
  | documentEnd
  | listStart
  | mapStart
  /-- The end of a block list or map. -/
  | blockEnd
  | flowListStart
  | flowListEnd
  | flowMapStart
  | flowMapEnd
  /-- A dash before an item. -/
  | item
  | comma
  | key
  | value
  | scalar (plain : Bool) (text : String)
  deriving DecidableEq, Repr

/-- An open indentation: the one before it, and whether it began a block list or map. -/
structure Indent where
  before : Int
  isBlock : Bool

/-- A place where a key may have begun. -/
structure Candidate where
  isOpen : Bool
  /-- Whether nothing but a key can stand there. -/
  isRequired : Bool
  /-- The number of tokens before it. -/
  number : Nat
  index : Nat
  line : Nat
  column : Nat

/-- No place. -/
def Candidate.none : Candidate := ⟨false, false, 0, 0, 0, 0⟩

/-- The tokens up to a place, and what the following ones depend on. -/
structure Scan where
  cursor : Cursor
  tokens : Array Token
  indent : Int
  /-- The open indentations, the last one first. -/
  indents : List Indent
  /-- Where a key may have begun: within the innermost brackets and within each that are around. -/
  candidate : Candidate
  outer : List Candidate
  /-- Whether a key may begin here. -/
  keyAllowed : Bool
  /-- The index at which a colon needs no gap behind it. -/
  adjacentAt : Nat
  /-- Whether a map in braces has begun. -/
  mapBegun : Bool
  /-- For each open list in brackets, the last one first, whether a map of one pair is open in it.
  -/
  pairs : List Bool

namespace Scan

/-- The beginning of a text. -/
def start (s : List Char) : Scan where
  cursor := .start s
  tokens := #[]
  indent := -1
  indents := []
  candidate := .none
  outer := []
  keyAllowed := true
  adjacentAt := 0
  mapBegun := false
  pairs := []

/-- Whether the place is within brackets. -/
def inFlow (s : Scan) : Bool :=
  !s.outer.isEmpty

/-- Adds a token. -/
def push (s : Scan) (t : Token) : Scan :=
  { s with tokens := s.tokens.push t }

/-- Puts a token behind the first `n` ones. -/
def insert (s : Scan) (n : Nat) (t : Token) : Scan :=
  { s with tokens := (s.tokens.extract 0 n).push t ++ s.tokens.extract n s.tokens.size }

/-- Goes on from another place. -/
def moveTo (s : Scan) (c : Cursor) : Scan :=
  { s with cursor := c }

/-- Allows or forbids a key to begin. -/
def allowKey (s : Scan) (b : Bool) : Scan :=
  { s with keyAllowed := b }

/-! ## Keys -/

/-- Notes that a key may begin here, if it may. Where block maps have their keys, nothing else may
stand. -/
def saveCandidate (s : Scan) : Scan :=
  if s.keyAllowed then
    { s with candidate :=
      { isOpen := true
        isRequired := !s.inFlow && s.indent == s.cursor.column && s.indents.head?.any (·.isBlock)
        number := s.tokens.size
        index := s.cursor.index
        line := s.cursor.line
        column := s.cursor.column } }
  else s

/-- Forgets where a key may have begun; refused if there had to be one. -/
def dropCandidate (s : Scan) : Option Scan :=
  if s.candidate.isOpen && s.candidate.isRequired then none
  else some { s with candidate := { s.candidate with isOpen := false } }

/-- Forgets where a key may have begun if it is too far away: outside of brackets a key stands on
one line and has at most 1024 characters. -/
def dropStale (s : Scan) : Option Scan :=
  if s.candidate.isOpen && !s.inFlow &&
      (s.candidate.line < s.cursor.line || s.candidate.index + 1024 < s.cursor.index) then
    s.dropCandidate
  else some s

/-! ## Indentation -/

/-- Closes the indentations right of a column. -/
def unroll (column : Int) (s : Scan) : Scan :=
  if s.inFlow then s else go s.indents s
where
  /-- Closes the given indentations one by one. -/
  go : List Indent → Scan → Scan
    | [], s => s
    | i :: r, s =>
      if s.indent ≤ column then s
      else
        let s := { s with indent := i.before, indents := r }
        go r (if i.isBlock then s.push .blockEnd else s)

/-- Closes the indentations that began no list or map. -/
def unrollOpen (s : Scan) : Scan :=
  go s.indents s
where
  /-- Closes the given indentations up to the first that began a list or map. -/
  go : List Indent → Scan → Scan
    | [], s => s
    | i :: r, s => if i.isBlock then s else go r { s with indent := i.before, indents := r }

/-- Opens a block list or map at a column if it is deeper than the ones around it; its token is put
behind the first `n` ones. -/
def roll (column : Nat) (n : Nat) (t : Token) (s : Scan) : Scan :=
  if s.inFlow then s
  else
    let s : Scan :=
      match s.indents with
      | i :: r =>
        if s.indent ≤ column && !i.isBlock then { s with indent := i.before, indents := r } else s
      | [] => s
    if s.indent < column then
      { s.insert n t with indent := (column : Int), indents := ⟨s.indent, true⟩ :: s.indents }
    else s

/-- Demands that what follows is one column deeper than the list or map here. -/
def rollOne (s : Scan) : Scan :=
  if !s.inFlow && s.indents.head?.any (·.isBlock) then
    { s with indent := s.indent + 1, indents := ⟨s.indent, false⟩ :: s.indents }
  else s

/-! ## Between tokens -/

/-- Goes to the next token, over blanks, comments and line ends. Content may not be indented by tabs
within a block. -/
def skip : Nat → Scan → Option Scan
  | 0, s => some s
  | fuel + 1, s =>
    let c := s.cursor
    match c.rest with
    | [] => some s
    | x :: _ =>
      if x == '\t' && !s.indents.isEmpty && c.leading && c.column < s.indent then
        c.skipBlanks.bind fun d => if atLineEnd d.rest then skip fuel (s.moveTo d) else none
      else if isBlank x then skip fuel (s.moveTo (c.advance 1))
      else if isBreak x then
        skip fuel { s.moveTo c.nextLine with keyAllowed := s.keyAllowed || !s.inFlow }
      else if x == '#' then skip fuel (s.moveTo c.lineEnd)
      else some s

/-! ## Tokens within brackets -/

/-- Closes the map of one pair in a list, if there is one. -/
def endPair (s : Scan) : Scan :=
  match s.pairs with
  | true :: r => { s.push .flowMapEnd with pairs := false :: r, mapBegun := false }
  | _ => s

/-- An opening bracket or brace. -/
def openFlow (t : Token) (s : Scan) : Option Scan := do
  let s := s.saveCandidate.rollOne
  if s.outer.length < 255 then
    let s := { s with candidate := .none, outer := s.candidate :: s.outer, keyAllowed := true }
    let s := if t == .flowMapStart then { s with mapBegun := true }
      else { s with pairs := false :: s.pairs }
    return (s.moveTo (← (s.cursor.advance 1).skipBlanks)).push t
  else none

/-- A closing bracket or brace. -/
def closeFlow (t : Token) (s : Scan) : Option Scan := do
  let s ← s.dropCandidate
  let s :=
    match s.outer with
    | c :: r => { s with candidate := c, outer := r, keyAllowed := false }
    | [] => s.allowKey false
  let s := if t == .flowListEnd then { s.endPair with pairs := s.endPair.pairs.drop 1 } else s
  let s := s.moveTo (← (s.cursor.advance 1).skipBlanks)
  return (if s.inFlow then { s with adjacentAt := s.cursor.index } else s).push t

/-- A comma. -/
def comma (s : Scan) : Option Scan := do
  let s := ((← s.dropCandidate).allowKey true).endPair
  return (s.moveTo (← (s.cursor.advance 1).skipBlanks)).push .comma

/-! ## Items, keys and values -/

/-- A dash before an item. It may stand only where a key might, and not within brackets. -/
def item (s : Scan) : Option Scan := do
  if s.inFlow || !s.keyAllowed then none
  else
    let c := s.cursor.advance 1
    let d ← c.skipBlanks
    if c.blanks.contains '\t' && d.rest.head? == some '-' && atGap (d.rest.drop 1) then none
    else
      let s := (s.roll s.cursor.column s.tokens.size .listStart).moveTo d
      let s := if atBreak d.rest || atFlow d.rest then s.rollOne else s
      return ((← s.dropCandidate).allowKey true).push .item

/-- Goes over blanks that are no tabs, comments and line ends, at least one of them. -/
def skipSpaces : Nat → Scan → Bool → Option Scan
  | 0, _, _ => none
  | fuel + 1, s, any =>
    let c := s.cursor
    match c.rest with
    | ' ' :: _ => skipSpaces fuel (s.moveTo (c.advance 1)) true
    | '#' :: _ => skipSpaces fuel (s.moveTo c.lineEnd) any
    | r =>
      if atBreak r then
        skipSpaces fuel { s.moveTo c.nextLine with keyAllowed := s.keyAllowed || !s.inFlow } true
      else if any then some s else none

/-- A question mark before a key. -/
def explicitKey (s : Scan) : Option Scan := do
  if !s.inFlow && !s.keyAllowed then none
  else
    let s := if s.inFlow then { s with mapBegun := true }
      else s.roll s.cursor.column s.tokens.size .mapStart
    let s := (← s.dropCandidate).allowKey (!s.inFlow)
    let s := s.moveTo (s.cursor.advance 1)
    let s ← skipSpaces (s.cursor.rest.length + 1) s false
    if s.cursor.rest.head? == some '\t' then none else return s.push .key

/-- Whether a value behind a colon is separated from it by tabs alone. -/
def isTabbed (c d : Cursor) : Bool :=
  c.rest.head? == some '\t' && !c.blanks.contains ' ' &&
    d.rest.head?.any fun x => x == '-' || x == '_' || x.isAlphanum

/-- A colon before a value. If a key may have begun before, it did. -/
def value (s : Scan) : Option Scan := do
  let startLine := s.cursor.line
  let startColumn := s.cursor.column
  let k := s.candidate
  let isPair := !s.pairs.isEmpty && !s.mapBegun
  let s := if isPair then { s with pairs := true :: s.pairs.drop 1 } else s
  let c := s.cursor.advance 1
  let d ← if c.rest.head? == some '\t' then c.skipBlanks else some c
  if isTabbed c d then none
  else
    let s := s.moveTo d
    if k.isOpen then
      if isPair && k.line < startLine then none
      else
        let s := s.insert k.number .key
        let s := if isPair then s.insert k.number .flowMapStart else s
        let s := (s.roll k.column k.number .mapStart).rollOne
        let candidate := { s.candidate with isOpen := false }
        return { s with candidate, keyAllowed := false }.push .value
    else
      let s := if isPair then s.push .flowMapStart else s
      if s.inFlow then return (s.rollOne.allowKey false).push .value
      else if !s.keyAllowed then none
      else return ((s.roll startColumn s.tokens.size .mapStart).rollOne.allowKey true).push .value

/-! ## Scalars and documents -/

/-- A scalar in quotation marks. A value may follow its colon without a gap. -/
def quoted (s : Scan) : Option Scan := do
  let s := s.saveCandidate.allowKey false
  let (text, c) ← quoted? s.inFlow s.indent s.cursor
  let s ← skip (c.rest.length + 1) (s.moveTo c)
  return { s with adjacentAt := s.cursor.index }.push (.scalar false text)

/-- A plain scalar. -/
def plain (s : Scan) : Option Scan := do
  let s := (s.saveCandidate.allowKey false).unrollOpen
  let (text, c) ← plain? s.inFlow (s.indent + 1) s.cursor
  return ((s.moveTo c).allowKey c.leading).push (.scalar true text)

/-- The mark before or behind a document. Only a comment may follow on the line of the latter. -/
def document (t : Token) (s : Scan) : Option Scan := do
  let s ← (s.unroll (-1)).dropCandidate
  let s := ((s.allowKey false).moveTo (s.cursor.advance 3)).push t
  if t == .documentEnd then
    let c ← s.cursor.skipBlanks
    if atLineEnd c.rest then return s.moveTo c else none
  else return s

/-- The token that begins with the given character. -/
def token (s : Scan) (x : Char) (r : List Char) : Option Scan :=
  if s.cursor.column == 0 && x == '%' then none
  else if s.cursor.column == 0 && atTriple '-' (x :: r) then s.document .documentStart
  else if s.cursor.column == 0 && atTriple '.' (x :: r) then s.document .documentEnd
  else if x == '[' then s.openFlow .flowListStart
  else if x == '\x7b' then s.openFlow .flowMapStart
  else if x == ']' then s.closeFlow .flowListEnd
  else if x == '\x7d' then s.closeFlow .flowMapEnd
  else if x == ',' then s.comma
  else if x == '-' && atGap r then s.item
  else if x == '?' && atGap r then s.explicitKey
  else if x == ':' && (atGap r || (s.inFlow && (atFlow r || s.cursor.index == s.adjacentAt))) then
    s.value
  else if ['*', '&', '!', '%', '@', '\x60'].contains x then none
  else if (x == '|' || x == '>') && !s.inFlow then none
  else if x == '\'' || x == '"' then s.quoted
  else s.plain

/-- The end of the text. -/
def finish (s : Scan) : Option (List Token) :=
  if (s.candidate :: s.outer).any fun k => k.isOpen && k.isRequired then none
  else some (s.unroll (-1)).tokens.toList

/-- The tokens from a place on, behind those before it. -/
def run : Nat → Scan → Option (List Token)
  | 0, _ => none
  | fuel + 1, s => do
    let s ← skip (s.cursor.rest.length + 1) s
    let s ← s.dropStale
    let s := s.unroll s.cursor.column
    match s.cursor.rest with
    | [] => s.finish
    | x :: r => if s.cursor.column < s.indent then none else run fuel (← s.token x r)

end Scan

/-- The tokens of a text, which ends before a NUL character. -/
def tokens? (s : List Char) : Option (List Token) :=
  let s := s.takeWhile fun c => c.toNat != 0
  Scan.run (s.length + 1) (.start s)

end NodePressure.Settings.Yaml
