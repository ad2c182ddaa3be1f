import NodePressure.Files.Tree
import NodePressure.Settings.Format.Ini
import NodePressure.Settings.Format.Json
import NodePressure.Settings.Format.Json5
import NodePressure.Settings.Format.Ron
import NodePressure.Settings.Format.Toml
import NodePressure.Settings.Format.Yaml
import NodePressure.Settings.Reading

/-!
# NodePressure.Settings.Source - where settings come from

A file gives the settings, and the environment overrides them one by one. A file that is not there
gives none, as does one whose name or bytes say that it holds no settings.
-/

namespace NodePressure.Settings

/-- The formats of files, known by the extensions of their names. -/
inductive Format
  | yaml
  | json
  | toml
  | ini
  | ron
  | json5
  deriving DecidableEq, Repr

/-- The extensions of file names, each with its format. -/
def extensions : List (String × Format) :=
  [("yaml", .yaml), ("yml", .yaml), ("json", .json), ("toml", .toml), ("ini", .ini), ("ron", .ron),
    ("json5", .json5)]

/-- Reads a text in a format. -/
def Format.read : Format → List Char → Option Tree
  | .yaml => Yaml.read
  | .json => readJson
  | .toml => Toml.read
  | .ini => Ini.read
  | .ron => Ron.read
  | .json5 => Json5.read

/-- The extension of the name at the end of a path. A point at the beginning of the name does not
count. -/
def extensionOf (path : String) : Option String :=
  let name := (path.toList.reverse.takeWhile (· != '/')).reverse
  match name.reverse.span (· != '.') with
  | (ext, '.' :: before) => if before.isEmpty then none else some (String.ofList ext.reverse)
  | _ => none

/-- The format of a path. -/
def formatOf (path : String) : Option Format :=
  (extensionOf path).bind fun ext => (extensions.find? (·.1 == ext)).map (·.2)

/-- The files named like a path with a known extension behind. Slashes and parts `.` at its end do
not count, and a path that ends with a part `..` has no such files. -/
def siblings (path : String) : List (String × Format) :=
  match (FileTree.parts path).getLast? with
  | none => []
  | some name =>
    if name == ['.', '.'] then []
    else extensions.map fun (ext, f) => (FileTree.normal path ++ "." ++ ext, f)

/-- The file that a path means, with its format: the file itself if there is one, else the first
one that is named like it with a known extension behind. -/
def locate (files : FileTree) (path : String) : Option (String × Format) :=
  if files.isFile path then (formatOf path).map fun f => (path, f)
  else (siblings path).find? fun (p, _) => files.isFile p

/-- The settings of a file; its text has to be a table. They come from its path with single slashes
and without parts `.`. -/
def ofFile (files : FileTree) (path : String) : Except SettingsFault (List (String × Tree)) :=
  match locate files path with
  | none => .ok []
  | some (path, format) =>
    match files.readText path with
    | .error _ => .ok []
    | .ok text =>
      match format.read text.toList with
      | some (.table o ms) => .ok ((Tree.table o ms).stamp (FileTree.normal path)).members
      | _ => .error (.unreadable path)

/-- What the names of variables begin with. -/
def variablePrefix : String := "eviction_agent__"

/-- The origin of what the environment sets. -/
def environmentOrigin : String := "the environment"

/-- A key with points in place of doubled underscores. -/
def dotted : List Char → List Char
  | '_' :: '_' :: r => '.' :: dotted r
  | c :: r => c :: dotted r
  | [] => []

/-- The value of a variable: a truth value, an integer, a float, or else a text. -/
def variableValue (s : String) : Scalar :=
  let word := String.ofList (s.toList.map Char.toLower)
  if word == "true" then .bool true
  else if word == "false" then .bool false
  else
    match Number.readSigned Number.maxSigned64 s.toList with
    | .ok n => .int n
    | .error _ =>
      match Number.readFloat s.toList with
      | some x => .float x
      | none => .text s

/-- The settings of the environment. -/
def ofEnvironment (vars : List (String × String)) : List (String × Tree) :=
  vars.filterMap fun (name, value) =>
    (Text.dropPrefix? variablePrefix.toList (Text.lower name.toList)).map fun key =>
      (String.ofList (dotted key), .leaf (some environmentOrigin) (variableValue value))

/-- The settings of a file with those of the environment over them. -/
def gather (files : FileTree) (vars : List (String × String)) (path : String) :
    Except SettingsFault Tree :=
  (ofFile files path).map fun ms => (Tree.empty.layer ms).layer (ofEnvironment vars)

/-- Reads a section, or gives the default if there is none. -/
def readSection (area : String) (default : α) (f : Reader α) (t : Tree) : Except SettingsFault α :=
  match t.member? area with
  | some s => f area s
  | none => .ok default

end NodePressure.Settings

namespace NodePressure

open Settings

/-- Loads the settings of the condition source. -/
def ConditionSettings.load (files : FileTree) (vars : List (String × String)) (path : String) :
    Except SettingsFault ConditionSettings := do
  readSection "condition" .default ConditionSettings.read (← gather files vars path)

/-- Loads the settings of the agent. -/
def AgentSettings.load (files : FileTree) (vars : List (String × String)) (path : String) :
    Except SettingsFault AgentSettings := do
  readSection "agent" .default AgentSettings.read (← gather files vars path)

end NodePressure
