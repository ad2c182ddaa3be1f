import NodePressure.Settings.Tree

/-!
# NodePressure.Settings.Format.Toml.Table - tables of a TOML document

A table comes into being under its own heading, on the way to another heading, or on the way to a
key with points. It can be continued only in the manner in which it began, and a value, such as a
table in a line, not at all.
-/

namespace NodePressure.Settings.Toml

/-- What stands under a key. -/
inductive Item
  | value (t : Tree)
  /-- A table: whether it has no heading of its own, and whether it came from a key with points. -/
  | table (isImplicit isDotted : Bool) (members : List (String × Item))
  /-- A list of tables, each under a heading of its own. -/
  | tables (elements : List (List (String × Item)))

/-- A table. -/
structure Table where
  isImplicit : Bool
  isDotted : Bool
  members : List (String × Item)

/-- The outermost table. -/
def Table.root : Table := ⟨false, false, []⟩

namespace Item

mutual

/-- An item as untyped settings. -/
def toTree : Item → Tree
  | value t => t
  | table _ _ ms => .table none (treesOf ms)
  | tables es => .list none (tablesOf es)

/-- The members of a table as untyped settings. -/
def treesOf : List (String × Item) → List (String × Tree)
  | [] => []
  | (name, i) :: r => (name, toTree i) :: treesOf r

/-- The tables of a list as untyped settings. -/
def tablesOf : List (List (String × Item)) → List Tree
  | [] => []
  | ms :: r => .table none (treesOf ms) :: tablesOf r

end

end Item

namespace Table

/-- A table as untyped settings. -/
def toTree (t : Table) : Tree :=
  .table none (Item.treesOf t.members)

/-- What stands under a key. -/
def find? (t : Table) (key : String) : Option Item :=
  (t.members.find? (·.1 == key)).map (·.2)

/-- Puts an item under a key, in place of one that is there. -/
def put (t : Table) (key : String) (i : Item) : Table :=
  { t with members := (t.members.filter (·.1 != key)) ++ [(key, i)] }

/-- Changes the table at the end of a path, and makes the tables on the way that are missing. The
way goes through the last table of a list, and for a key with points only through tables without a
heading. -/
def change (isDotted : Bool) (f : Table → Option Table) : List String → Table → Option Table
  | [], t => f t
  | key :: path, t =>
    let inner : Option Item :=
      match t.find? key with
      | none => (change isDotted f path ⟨true, isDotted, []⟩).map fun u =>
          .table u.isImplicit u.isDotted u.members
      | some (.table i d ms) =>
        if isDotted && !i then none
        else (change isDotted f path ⟨i, d, ms⟩).map fun u =>
          .table u.isImplicit u.isDotted u.members
      | some (.tables es) =>
        (change isDotted f path ⟨false, false, es.getLast?.getD []⟩).map fun u =>
          .tables (es.dropLast ++ [u.members])
      | some (.value _) => none
    inner.map (t.put key)

/-- Puts a value under a key. A key with points leads to a table that came from such keys, any other
one does not; and nothing may be there yet. -/
def define (t : Table) (path : List String) (v : Tree) : Option Table :=
  match path.getLast? with
  | none => none
  | some key =>
    let way := path.dropLast
    t.change true (fun u =>
      if u.isDotted == way.isEmpty || (u.find? key).isSome then none
      else some (u.put key (.value v))) way

/-- Begins a table under a heading. Only a table without a heading that did not come from a key with
points may be there already. -/
def begin? (t : Table) (path : List String) : Option Table :=
  match path.getLast? with
  | none => none
  | some key =>
    t.change false (fun u =>
      match u.find? key with
      | none => some (u.put key (.table false false []))
      | some (.table true false ms) => some (u.put key (.table false false ms))
      | some _ => none) path.dropLast

/-- Begins another table of a list of tables. -/
def beginNext? (t : Table) (path : List String) : Option Table :=
  match path.getLast? with
  | none => none
  | some key =>
    t.change false (fun u =>
      match u.find? key with
      | none => some (u.put key (.tables [[]]))
      | some (.tables es) => some (u.put key (.tables (es ++ [[]])))
      | some _ => none) path.dropLast

/-- Puts a value under a key of the table under a heading. -/
def defineUnder (t : Table) (heading path : List String) (v : Tree) : Option Table :=
  t.change false (fun u => u.define path v) heading

end Table

end NodePressure.Settings.Toml
