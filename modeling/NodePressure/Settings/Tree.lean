import NodePressure.Number.Decimal
import NodePressure.Text.Quoted

/-!
# NodePressure.Settings.Tree - settings before they are typed

A source of settings gives a tree of tables, lists and scalars. Scalars and lists know their
origin; a table that was put together from several sources has none. `Tree.place` puts a value at
a path: a scalar replaces what is there, a table is merged with what is there.
-/

namespace NodePressure.Settings

/-- A value without parts. -/
inductive Scalar
  | nil
  | bool (b : Bool)
  /-- An integer of 64 bits. -/
  | int (n : Int)
  | float (x : Float)
  | text (s : String)

/-- Untyped settings. -/
inductive Tree
  | leaf (origin : Option String) (value : Scalar)
  | list (origin : Option String) (items : List Tree)
  | table (origin : Option String) (members : List (String × Tree))

namespace Tree

/-- A table without members. -/
def empty : Tree := .table none []

instance : Inhabited Tree := ⟨empty⟩

/-- Where a value comes from. -/
def origin : Tree → Option String
  | leaf o _ => o
  | list o _ => o
  | table o _ => o

/-- The members of a table. -/
def members : Tree → List (String × Tree)
  | table _ ms => ms
  | _ => []

/-- The member with a given name. -/
def member? (t : Tree) (name : String) : Option Tree :=
  (t.members.find? (·.1 == name)).map (·.2)

mutual

/-- The tree with all its parts from one origin. -/
def stamp (o : String) : Tree → Tree
  | leaf _ v => leaf (some o) v
  | list _ items => list (some o) (stampItems o items)
  | table _ ms => table (some o) (stampMembers o ms)

/-- The items of a list, from one origin. -/
def stampItems (o : String) : List Tree → List Tree
  | [] => []
  | t :: r => stamp o t :: stampItems o r

/-- The members of a table, from one origin. -/
def stampMembers (o : String) : List (String × Tree) → List (String × Tree)
  | [] => []
  | (name, t) :: r => (name, stamp o t) :: stampMembers o r

end

/-- Puts a member in place of one of the same name, or behind the others. -/
def putMember (name : String) (t : Tree) : List (String × Tree) → List (String × Tree)
  | [] => [(name, t)]
  | (other, u) :: r => if other == name then (name, t) :: r else (other, u) :: putMember name t r

/-- A table with a member put into it; anything but a table is replaced by one. -/
def put (t : Tree) (name : String) (u : Tree) : Tree :=
  match t with
  | table o ms => table o (putMember name u ms)
  | _ => table none (putMember name u [])

/-- A name in lower case. -/
def lowerName (name : String) : String :=
  String.ofList (Text.lower name.toList)

mutual

/-- What becomes of a value where another one is put: tables are merged member by member, their
names in lower case, and everything else is replaced. -/
def graft (before : Option Tree) : Tree → Tree
  | table _ ms => graftMembers (table none (before.getD empty).members) ms
  | t => t

/-- Grafts members one by one. -/
def graftMembers (target : Tree) : List (String × Tree) → Tree
  | [] => target
  | (name, t) :: r =>
    let name := lowerName name
    graftMembers (target.put name (graft (target.member? name) t)) r

end

end Tree

/-- A step into a tree. -/
inductive Step
  | key (name : String)
  /-- The item of a list; negative numbers count from its end. -/
  | item (n : Int)
  deriving DecidableEq, Repr

namespace Step

/-- Whether a character may stand in a key of a path. -/
def isKeyChar (c : Char) : Bool :=
  c.isAlphanum || c == ' ' || c == '_' || c == '-'

/-- The text behind spaces and tabs. -/
def skipBlanks (s : List Char) : List Char :=
  s.dropWhile fun c => c == ' ' || c == '\t'

/-- The number of 64 bits in brackets behind an opening one, with blanks around it, and the text
behind the brackets. -/
def readItem (s : List Char) : Option (Int × List Char) :=
  let s := skipBlanks s
  let sign := if s.head? == some '-' then ['-'] else []
  let ds := (s.drop sign.length).takeWhile Number.isDigit
  match skipBlanks (s.drop (sign.length + ds.length)) with
  | ']' :: rest =>
    match Number.readSigned Number.maxSigned64 (sign ++ ds) with
    | .ok n => some (n, rest)
    | .error _ => none
  | _ => none

/-- The steps behind the first one: `.key` or `[n]`, any number of times. -/
def readRest : Nat → List Char → Option (List Step)
  | _, [] => some []
  | 0, _ => none
  | fuel + 1, '.' :: s =>
    let name := s.takeWhile isKeyChar
    if name.isEmpty then none
    else (readRest fuel (s.dropWhile isKeyChar)).map (.key (String.ofList name) :: ·)
  | fuel + 1, '[' :: s => do
    let (n, r) ← readItem s
    return .item n :: (← readRest fuel r)
  | _, _ => none

/-- The steps of a path. A text that is no path is one key as a whole. -/
def path (s : String) : List Step :=
  let cs := s.toList
  let name := cs.takeWhile isKeyChar
  match (if name.isEmpty then none else readRest cs.length (cs.dropWhile isKeyChar)) with
  | some steps => .key (String.ofList name) :: steps
  | none => [.key s]

/-- The place in a list of a given length that a number means. -/
def place (n : Int) (length : Nat) : Nat :=
  if 0 ≤ n then n.toNat else length - (-n).toNat

end Step

namespace Tree

/-- A list with at least `n` items, filled up with nothing. -/
def fill (n : Nat) (items : List Tree) : List Tree :=
  items ++ List.replicate (n - items.length) (leaf none .nil)

/-- Puts a value at a path, its keys in lower case. What stands in the way is replaced by tables and
lists. -/
def place (v : Tree) : List Step → Tree → Tree
  | [], _ => v
  | [.key name], t =>
    let name := lowerName name
    t.put name (graft (t.member? name) v)
  | .key name :: rest, t =>
    let name := lowerName name
    t.put name (place v rest ((t.member? name).getD (leaf none .nil)))
  | .item n :: rest, t =>
    let (o, items) := match t with
      | list o items => (o, items)
      | _ => (none, [])
    let i := Step.place n items.length
    let items := fill (i + 1) items
    list o (items.set i (place v rest (items.getD i (leaf none .nil))))

/-- The value at a path. -/
def follow : List Step → Tree → Option Tree
  | [], t => some t
  | .key name :: rest, t => (t.member? name).bind (follow rest)
  | .item n :: rest, t =>
    match t with
    | list _ items => (items[Step.place n items.length]?).bind (follow rest)
    | _ => none

/-- Puts all members of a source into a tree, their names read as paths. -/
def layer (t : Tree) (source : List (String × Tree)) : Tree :=
  source.foldl (fun t (name, v) => place v (Step.path name) t) t

end Tree

end NodePressure.Settings
