import NodePressure.Settings.Format.Toml.Value

/-!
# NodePressure.Settings.Format.Toml - settings in TOML

Lines of keys and values, below headings of tables and of lists of tables.
-/

namespace NodePressure.Settings.Toml

/-- A heading in one or two pairs of brackets, behind the first bracket: whether it has two, its
key, and the text behind its line. -/
def heading? (s : List Char) : Option (Bool × List String × List Char) := do
  let (isList, r) := match s with
    | '[' :: r => (true, r)
    | r => (false, r)
  let (key, r) ← key? r
  match isList, r with
  | true, ']' :: ']' :: r => return (true, key, ← lineEnd? r)
  | false, ']' :: r => return (false, key, ← lineEnd? r)
  | _, _ => none

/-- The lines of a text, put into the outermost table; `heading` is where they belong. -/
def lines? : Nat → List Char → List String → Table → Option Table
  | 0, _, _, _ => none
  | fuel + 1, s, heading, t =>
    match skipLines s.length s with
    | [] => some t
    | '#' :: r => if (r.dropWhile isContent).isEmpty then some t else none
    | '[' :: r => do
      let (isList, key, r) ← heading? r
      lines? fuel r key (← if isList then t.beginNext? key else t.begin? key)
    | s => do
      let (key, r) ← key? s
      match r with
      | '=' :: r =>
        let (v, r) ← value? (2 * r.length + 2) 79 (skip r)
        lines? fuel (← lineEnd? r) heading (← t.defineUnder heading key v)
      | _ => none

/-- Reads settings in TOML; a byte order mark may stand before them. -/
def read (s : List Char) : Option Tree :=
  let s := match s with
    | c :: r => if c.toNat == 0xFEFF then r else c :: r
    | [] => []
  (lines? (s.length + 1) s [] .root).map Table.toTree

end NodePressure.Settings.Toml
