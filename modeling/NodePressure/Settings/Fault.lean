import NodePressure.Text.Quoted

/-!
# NodePressure.Settings.Fault - what is wrong with settings

A file that cannot be taken apart, a property that is not there, or a value that is not of the
wanted kind. Where a value of the wrong kind comes from is named when it is known.
-/

namespace NodePressure

/-- What is wrong with settings. -/
inductive SettingsFault
  /-- The text of a file is not of its format. -/
  | unreadable (path : String)
  | notFound (property : String)
  /-- A value is of the wrong kind: what it is, what it should be, in which section it stands and
  where it comes from. -/
  | wrongKind (found wanted area : String) (origin : Option String)
  /-- A value does not fit the shape that is wanted. -/
  | misshapen (text : String)
  deriving DecidableEq, Repr

/-- The wording of a fault. -/
def SettingsFault.message : SettingsFault → String
  | .unreadable path => "malformed text in " ++ path
  | .notFound property => "configuration property " ++ Text.quoted property ++ " not found"
  | .wrongKind found wanted area origin =>
    "invalid type: " ++ found ++ ", expected " ++ wanted ++ " for key \x60" ++ area ++ "\x60" ++
      (match origin with
        | some o => " in " ++ o
        | none => "")
  | .misshapen text => text

end NodePressure
