import NodePressure.Number.Radix
import NodePressure.Settings.Tree

/-!
# NodePressure.Settings.Format.Ron - settings in RON

Maps in braces with texts as keys, records in parentheses with names as keys, lists in brackets or
parentheses, optional values, and numbers with underscores between their digits. A name before
parentheses is not looked at, and alone it is nothing. Of members with one name the last one counts.
-/

namespace NodePressure.Settings.Ron

/-! ## Between tokens -/

/-- Whether a character is a blank. -/
def isBlank (c : Char) : Bool :=
  c == ' ' || c == '\t' || c == '\n' || c == '\r'

/-- The text behind the end of a comment in which `depth` comments are open. -/
def commentEnd? : Nat → Nat → List Char → Option (List Char)
  | _, 0, s => some s
  | 0, _, _ => none
  | fuel + 1, depth + 1, s =>
    match s with
    | '/' :: '*' :: r => commentEnd? fuel (depth + 2) r
    | '*' :: '/' :: r => commentEnd? fuel depth r
    | _ :: r => commentEnd? fuel (depth + 1) r
    | [] => none

/-- The text behind blanks and comments. -/
def skip? : Nat → List Char → Option (List Char)
  | 0, s => some s
  | fuel + 1, s =>
    match s.dropWhile isBlank with
    | '/' :: '/' :: r => skip? fuel (r.dropWhile (· != '\n'))
    | '/' :: '*' :: r => (commentEnd? r.length 1 r).bind (skip? fuel)
    | '/' :: _ => none
    | s => some s

/-- The text behind blanks and comments; a comment has to end. -/
def next? (s : List Char) : Option (List Char) :=
  skip? (s.length + 1) s

/-! ## Names -/

/-- Whether a name may begin with a character. -/
def beginsName (c : Char) : Bool :=
  c.isAlpha || c == '_'

/-- Whether a character may follow in a name. -/
def goesOnName (c : Char) : Bool :=
  c.isAlphanum || c == '_'

/-- Whether a character may stand in a name behind `r#`. -/
def isRawName (c : Char) : Bool :=
  goesOnName c || c == '.' || c == '+' || c == '-'

/-- The text behind a word that does not go on. -/
def word? (word : String) (s : List Char) : Option (List Char) :=
  if word.toList.isPrefixOf s && !(s.drop word.length).head?.any goesOnName then
    some (s.drop word.length)
  else none

/-- A name. One that goes on with a point or a sign needs `r#` before it. -/
def name? (s : List Char) : Option (String × List Char) :=
  match s with
  | 'r' :: '"' :: _ => none
  | 'r' :: '#' :: r =>
    let cs := r.takeWhile isRawName
    if cs.isEmpty then none else some (String.ofList cs, r.drop cs.length)
  | c :: _ =>
    if beginsName c then
      let cs := s.takeWhile goesOnName
      if (s.drop cs.length).head?.any isRawName then none
      else some (String.ofList cs, s.drop cs.length)
    else none
  | [] => none

/-! ## Texts -/

/-- The characters that have a letter of their own behind a backslash. -/
def escapes : List (Char × Char) :=
  [('\'', '\''), ('"', '"'), ('\\', '\\'), ('n', '\n'), ('r', '\r'), ('t', '\t'),
    ('0', Char.ofNat 0)]

/-- The character that is escaped behind a backslash: a code point has one to six hexadecimal digits
in braces, or two behind `x`. -/
def escaped? : List Char → Option (Char × List Char)
  | 'x' :: a :: b :: r => do return (← Number.charOf? (← Number.ofBase? 16 [a, b]), r)
  | 'u' :: '{' :: r =>
    let digits := r.takeWhile (· != '\x7d')
    if digits.length ≤ 6 then do
      let c ← Number.charOf? (← Number.ofBase? 16 digits)
      match r.drop digits.length with
      | '}' :: r => return (c, r)
      | _ => none
    else none
  | c :: r => (escapes.find? (·.1 == c)).map fun (_, d) => (d, r)
  | [] => none

/-- The characters up to the closing mark. -/
def chars? : Nat → List Char → Option (List Char × List Char)
  | 0, _ => none
  | fuel + 1, s =>
    match s with
    | '"' :: r => some ([], r)
    | '\\' :: r => do
      let (c, r) ← escaped? r
      let (cs, r) ← chars? fuel r
      return (c :: cs, r)
    | c :: r => (chars? fuel r).map fun (cs, r) => (c :: cs, r)
    | [] => none

/-- The characters up to a mark with the given number of hashes behind it, without escapes. -/
def rawChars? (hashes : List Char) : List Char → Option (List Char × List Char)
  | [] => none
  | c :: r =>
    if c == '"' && hashes.isPrefixOf r then some ([], r.drop hashes.length)
    else (rawChars? hashes r).map fun (cs, r) => (c :: cs, r)

/-- A text: between marks, behind `r` without escapes, or a single character. -/
def text? : List Char → Option (String × List Char)
  | '"' :: r => (chars? (r.length + 1) r).map fun (cs, r) => (String.ofList cs, r)
  | 'r' :: r =>
    let hashes := r.takeWhile (· == '#')
    match r.drop hashes.length with
    | '"' :: r => (rawChars? hashes r).map fun (cs, r) => (String.ofList cs, r)
    | _ => none
  | '\'' :: '\\' :: r => do
    let (c, r) ← escaped? r
    match r with
    | '\'' :: r => return (String.ofList [c], r)
    | _ => none
  | '\'' :: c :: '\'' :: r => if c == '\'' then none else some (String.ofList [c], r)
  | _ => none

/-! ## Numbers -/

/-- Whether a character may stand in an integer. -/
def isIntChar (c : Char) : Bool :=
  Number.isHexDigit c || c == '_'

/-- Whether a character may stand in a float. -/
def isFloatChar (c : Char) : Bool :=
  Number.isDigit c || ['e', 'E', '.', '+', '-', '_'].contains c

/-- A float. -/
def float? (s : List Char) : Option (Scalar × List Char) :=
  let cs := s.takeWhile isFloatChar
  if cs.contains '_' then none
  else (Number.readFloat cs).map fun x => (.float x, s.drop cs.length)

/-- The magnitude of an integer, in base 16, 2 or 8 behind `0x`, `0b` or `0o`. -/
def magnitude? (s : List Char) : Option (Nat × List Char) :=
  let (base, r) := match s with
    | '0' :: 'x' :: r => (16, r)
    | '0' :: 'b' :: r => (2, r)
    | '0' :: 'o' :: r => (8, r)
    | r => (10, r)
  let cs := r.takeWhile isIntChar
  if cs.head? == some '_' then none
  else (Number.ofBase? base (cs.filter (· != '_'))).map fun n => (n, r.drop cs.length)

/-- An integer of 64 bits, with a sign or without; one that fits only without a sign becomes a
float. -/
def integer? : List Char → Option (Scalar × List Char)
  | '-' :: r =>
    (magnitude? r).bind fun (n, r) =>
      if n ≤ Number.maxSigned64 + 1 then some (.int (-(n : Int)), r) else none
  | '+' :: r =>
    (magnitude? r).bind fun (n, r) => if n ≤ Number.maxSigned64 then some (.int n, r) else none
  | s =>
    (magnitude? s).bind fun (n, r) =>
      if n ≤ Number.maxSigned64 then some (.int n, r)
      else if n ≤ Number.max64 then some (.float (Number.ofNat n), r)
      else none

/-- A number: a float if more characters of it belong to a float than to an integer, or if it is no
integer. -/
def number? (s : List Char) : Option (Scalar × List Char) :=
  let body := match s with
    | '+' :: r => r
    | '-' :: r => r
    | r => r
  if (body.takeWhile isIntChar).length < (body.takeWhile isFloatChar).length then float? s
  else (integer? s).orElse fun _ => float? s

/-! ## Values -/

/-- The text behind a comma, blanks and comments, and whether there was a comma. -/
def comma? (s : List Char) : Option (Bool × List Char) := do
  match ← next? s with
  | ',' :: r => return (true, ← next? r)
  | r => return (false, r)

/-- Whether parentheses hold members: a name with a colon behind it stands first. -/
def holdsMembers? (s : List Char) : Option Bool :=
  match name? s with
  | none => some false
  | some (_, r) => do
    match ← next? r with
    | [] => none
    | c :: _ => return c == ':'

/-- The words that stand for a value. -/
def words : List (String × Scalar) :=
  [("true", .bool true), ("false", .bool false), ("None", .nil),
    ("inf", .float (Float.ofBits 0x7FF0000000000000)),
    ("-inf", .float (Float.ofBits 0xFFF0000000000000)),
    ("NaN", .float (Float.ofBits 0x7FF8000000000000))]

/-- The value of a word, and the text behind it. -/
def wordValue? (s : List Char) : Option (Scalar × List Char) :=
  words.findSome? fun (w, v) => (word? w s).map fun r => (v, r)

mutual

/-- A value without blanks before it, and the text behind it. Lists, maps and optional values may be
nested up to `room`, where what a list or map holds takes up two. -/
def value? : Nat → Nat → List Char → Option (Tree × List Char)
  | 0, _, _ => none
  | fuel + 1, room, s =>
    match wordValue? s with
    | some (v, r) => some (.leaf none v, r)
    | none =>
      match word? "Some" s with
      | some r => do
        match ← next? r with
        | '(' :: r =>
          if room == 0 then none
          else
            let (t, r) ← value? fuel (room - 1) (← next? r)
            match ← next? r with
            | ')' :: r => return (t, r)
            | _ => none
        | _ => none
      | none =>
        match s with
        | '(' :: ')' :: r => some (.leaf none .nil, r)
        | s =>
          match name? s with
          | some (_, r) => do
            match ← next? r with
            | '(' :: r => group? fuel room r
            | r => return (.leaf none .nil, r)
          | none =>
            match s with
            | '(' :: r => group? fuel room r
            | '[' :: r => if room == 0 then none else items? fuel (room - 1) ']' true r []
            | '{' :: r =>
              if room == 0 then none else members? fuel (room - 1) '\x7d' true r Tree.empty
            | c :: _ =>
              if Number.isDigit c || c == '+' || c == '-' then
                (number? s).map fun (v, r) => (.leaf none v, r)
              else if c == '.' then (float? s).map fun (v, r) => (.leaf none v, r)
              else (text? s).map fun (v, r) => (.leaf none (.text v), r)
            | [] => none

/-- What parentheses hold, behind the opening one. -/
def group? : Nat → Nat → List Char → Option (Tree × List Char)
  | 0, _, _ => none
  | fuel + 1, room, s => do
    if room == 0 then none
    else
      if ← holdsMembers? (← next? s) then members? fuel (room - 1) ')' true s Tree.empty
      else items? fuel (room - 1) ')' true s []

/-- The items of a list up to what closes it, behind those read already. Between two items there has
to be a comma. -/
def items? : Nat → Nat → Char → Bool → List Char → List Tree → Option (Tree × List Char)
  | 0, _, _, _, _, _ => none
  | fuel + 1, room, closing, free, s, done => do
    match ← next? s with
    | [] => none
    | c :: r =>
      if c == closing then return (.list none done, r)
      else if !free || room == 0 then none
      else
        let (t, r) ← value? fuel (room - 1) (c :: r)
        let (free, r) ← comma? r
        items? fuel room closing free r (done ++ [t])

/-- The members of a map or record up to what closes it, put to those read already. The keys of a
record are names, those of a map are texts. -/
def members? : Nat → Nat → Char → Bool → List Char → Tree → Option (Tree × List Char)
  | 0, _, _, _, _, _ => none
  | fuel + 1, room, closing, free, s, done => do
    match ← next? s with
    | [] => none
    | c :: r =>
      if c == closing then return (done, r)
      else if !free || room == 0 then none
      else
        let (key, r) ← if closing == ')' then name? (c :: r) else text? (c :: r)
        match ← next? r with
        | ':' :: r =>
          let (t, r) ← value? fuel (room - 1) (← next? r)
          let (free, r) ← comma? r
          members? fuel room closing free r (done.put key t)
        | _ => none

end

/-! ## Documents -/

/-- The text behind the given marks, with blanks and comments between them. -/
def marks? : List Char → List Char → Option (List Char)
  | [], s => some s
  | m :: ms, s => do
    match ← next? s with
    | c :: r => if c == m then marks? ms r else none
    | [] => none

/-- The extensions that may be enabled. -/
def extensions : List String :=
  ["unwrap_newtypes", "implicit_some", "unwrap_variant_newtypes"]

/-- The text behind the names of enabled extensions. -/
def extensionNames? : Nat → List Char → Option (List Char)
  | 0, _ => none
  | fuel + 1, s => do
    let (name, r) ← name? s
    let (more, r) ← comma? r
    if !extensions.contains name then none
    else if more && r.head?.any goesOnName then extensionNames? fuel r
    else if !more && r.head?.any goesOnName then none
    else return r

/-- The text behind attributes that enable extensions. -/
def attributes? : Nat → List Char → Option (List Char)
  | 0, _ => none
  | fuel + 1, s => do
    match ← next? s with
    | '#' :: r =>
      let r ← marks? ['!', '[', 'e', 'n', 'a', 'b', 'l', 'e', '('] r
      let r ← extensionNames? (r.length + 1) (← next? r)
      attributes? fuel (← marks? [')', ']'] r)
    | r => return r

/-- Reads settings in RON. -/
def read (s : List Char) : Option Tree := do
  let s ← attributes? (s.length + 1) s
  let (t, r) ← value? (3 * s.length + 3) 128 s
  if (← next? r).isEmpty then return t else none

end NodePressure.Settings.Ron
