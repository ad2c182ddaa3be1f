import NodePressure.NameMap
import NodePressure.Text.Blank
import NodePressure.Text.Utf8

/-!
# NodePressure.Files.Tree - a tree of files

Files and directories by their paths. A directory exists if it was made or if a file lies below
it. A path is followed part by part: what a part starts from has to be a directory, doubled slashes
and parts `.` stay there, and a part `..` leads to the directory above.
-/

namespace NodePressure

/-- What lies at a path. -/
inductive FileEntry
  /-- A file: its bytes and the time of its last change. -/
  | file (bytes : List Nat) (modified : Int)
  | directory
  deriving DecidableEq, Repr

/-- How a file fails to be read as text. -/
inductive ReadFault
  | missing
  /-- A part of the path is a file. -/
  | notDirectory
  | isDirectory
  | notUtf8
  /-- A part of the path or the path as a whole is too long. -/
  | tooLong
  /-- The path holds a NUL character. -/
  | holdsNul
  | other (text : String)
  deriving DecidableEq, Repr

/-- The wording of a fault. -/
def ReadFault.message : ReadFault → String
  | .missing => "No such file or directory (os error 2)"
  | .notDirectory => "Not a directory (os error 20)"
  | .isDirectory => "Is a directory (os error 21)"
  | .notUtf8 => "stream did not contain valid UTF-8"
  | .tooLong => "File name too long (os error 36)"
  | .holdsNul => "file name contained an unexpected NUL byte"
  | .other text => text

/-- Files and directories by the paths that lead straight to them. -/
structure FileTree where
  entries : NameMap FileEntry

namespace FileTree

/-- A tree without files. -/
def empty : FileTree := ⟨NameMap.empty⟩

instance : Inhabited FileTree := ⟨empty⟩

/-- The parts of a path. -/
def parts (path : String) : List (List Char) :=
  (Text.pieces (· == '/') path.toList).filter fun p => !(p.isEmpty || p == ['.'])

/-- The path with given parts. -/
def ofParts (absolute : Bool) (ps : List (List Char)) : String :=
  let body := String.ofList (['/'].intercalate ps)
  if absolute then "/" ++ body else body

/-- Whether a path starts at the root. -/
def isAbsolute (path : String) : Bool :=
  path.toList.head? == some '/'

/-- A path with single slashes and without parts `.`. -/
def normal (path : String) : String :=
  ofParts (isAbsolute path) (parts path)

/-- Follows parts from a place, given by its parts in reverse; nothing lies above the first one. -/
def follow : List (List Char) → List (List Char) → List (List Char)
  | place, [] => place.reverse
  | place, p :: r => follow (if p == ['.', '.'] then place.tail else p :: place) r

/-- The path that leads straight to the same place, if there is one. -/
def straight (path : String) : String :=
  ofParts (isAbsolute path) (follow [] (parts path))

/-- A path below another one. -/
def join (root path : String) : String :=
  if root.isEmpty || root.toList.getLast? == some '/' then root ++ path else root ++ "/" ++ path

/-- Puts an entry at a path, in place of what was there. -/
def put (t : FileTree) (path : String) (e : FileEntry) : FileTree :=
  ⟨t.entries.insert (straight path) e⟩

/-- Puts a text at a path. -/
def putText (t : FileTree) (path text : String) (modified : Int) : FileTree :=
  t.put path (.file (Text.encode text.toList) modified)

/-- Whether a path lies below another one, both straight. -/
def isBelow (root path : String) : Bool :=
  Text.startsWith (root.toList ++ ['/']) path.toList

/-- Takes away what lies at a path. -/
def remove (t : FileTree) (path : String) : FileTree :=
  ⟨NameMap.ofList (t.entries.entries.filter fun e => e.1 != straight path)⟩

/-- What lies at a straight path. -/
def find? (t : FileTree) (path : String) : Option FileEntry :=
  match t.entries.get? path with
  | some e => some e
  | none => if t.entries.names.any (isBelow path) then some .directory else none

/-- The greatest number of bytes in a part of a path. -/
def longestPart : Nat := 255

/-- The number of bytes from which on a path is too long. -/
def tooManyBytes : Nat := 4096

/-- Follows the parts of a path from a place, whose own parts are given in reverse. -/
def walk (t : FileTree) (absolute : Bool) :
    List (List Char) → List (List Char) → Except ReadFault (List (List Char))
  | place, [] => .ok place
  | place, p :: r =>
    match if place.isEmpty then some .directory else t.find? (ofParts absolute place.reverse) with
    | none => .error .missing
    | some (.file ..) => .error .notDirectory
    | some .directory =>
      if p.isEmpty || p == ['.'] then walk t absolute place r
      else if p == ['.', '.'] then walk t absolute place.tail r
      else if longestPart < (Text.encode p).length then .error .tooLong
      else walk t absolute (p :: place) r

/-- What lies at a path, or why nothing does. -/
def reach (t : FileTree) (path : String) : Except ReadFault FileEntry := do
  let cs := path.toList
  if cs.any fun c => c.toNat == 0 then throw .holdsNul
  else if cs.isEmpty then throw .missing
  else if tooManyBytes ≤ (Text.encode cs).length then throw .tooLong
  else
    let place ← t.walk (isAbsolute path) [] (Text.pieces (· == '/') cs)
    if place.isEmpty then return .directory
    else
      match t.find? (ofParts (isAbsolute path) place.reverse) with
      | some e => return e
      | none => throw .missing

/-- The text of the file at a path. -/
def readText (t : FileTree) (path : String) : Except ReadFault String :=
  match t.reach path with
  | .ok (.file bytes _) =>
    match Text.decode bytes with
    | .ok s => .ok s
    | .error _ => .error .notUtf8
  | .ok .directory => .error .isDirectory
  | .error f => .error f

/-- Whether a file lies at a path. -/
def isFile (t : FileTree) (path : String) : Bool :=
  match t.reach path with
  | .ok (.file ..) => true
  | _ => false

/-- The time of the last change of what lies at a path; a directory made by itself has none. -/
def modified? (t : FileTree) (path : String) : Option Int :=
  match t.reach path with
  | .ok (.file _ m) => some m
  | .ok .directory => some 0
  | .error _ => none

end FileTree

end NodePressure
