import NodePressure.Command.Parameter
import NodePressure.Number.Digits

/-!
# NodePressure.Command.Arguments - reading the command line

Words are read from left to right. A parameter takes the rest of its word behind an equals sign, or
else the next word; its value is looked at only when the next parameter begins or the words end, so
a word that means nothing is noticed before a bad value in front of it. A parameter that was not
given takes the value of its variable, or else its default.
-/

namespace NodePressure.Command

/-- How log records are written. -/
inductive LogFormat
  | json
  | text
  deriving DecidableEq, Repr

/-- What the command line gives. -/
structure Arguments where
  config : String
  nodeName : String
  metricsPort : Option Nat
  logFormat : LogFormat
  deriving DecidableEq, Repr

/-- A flag that ends the program with a text. -/
inductive Inquiry
  | help
  | version
  deriving DecidableEq, Repr

/-- The word of a flag. -/
def Inquiry.word : Inquiry → String
  | .help => "help"
  | .version => "version"

/-- What is wrong with a command line. -/
inductive UsageFault
  /-- A word that means nothing. -/
  | unexpected (word : String)
  | unexpectedValue (value : String) (flag : Inquiry)
  | noValue (p : Parameter)
  | repeated (p : Parameter)
  | badValue (p : Parameter) (value : String) (reason : Option String)
  | missing (ps : List Parameter)
  deriving DecidableEq, Repr

/-- The wording of a fault. -/
def UsageFault.message : UsageFault → String
  | .unexpected word => "unexpected argument '" ++ word ++ "' found"
  | .unexpectedValue value flag =>
    "unexpected value '" ++ value ++ "' for '--" ++ flag.word ++ "' found; no more were expected"
  | .noValue p => "a value is required for '" ++ p.shape ++ "' but none was supplied"
  | .repeated p => "the argument '" ++ p.shape ++ "' cannot be used multiple times"
  | .badValue p value reason =>
    "invalid value '" ++ value ++ "' for '" ++ p.shape ++ "'" ++
      (match reason with
        | some r => ": " ++ r
        | none => "")
  | .missing _ => "the following required arguments were not provided:"

/-- The lines below the wording of a fault. -/
def UsageFault.details : UsageFault → List String
  | .missing ps => ps.map fun p => "  " ++ p.shape
  | .badValue p _ none => ["  [possible values: " ++ ", ".intercalate p.choices ++ "]"]
  | _ => []

/-- What ends the reading of a command line before there are arguments. -/
inductive Interruption
  | inquiry (i : Inquiry)
  | misuse (f : UsageFault)
  deriving DecidableEq, Repr

/-- Reads the number of a TCP port. -/
def readPort (value : String) : Except String Nat :=
  match Number.readSigned Number.maxSigned64 value.toList with
  | .error f => .error f.message
  | .ok n =>
    if 0 ≤ n ∧ n ≤ Number.max16 then .ok n.toNat
    else .error (Number.signedText n ++ " is not in 0..=" ++ Number.text Number.max16)

/-- Reads a format of log records. -/
def LogFormat.ofName? (value : String) : Option LogFormat :=
  if value == "json" then some .json else if value == "text" then some .text else none

/-- What is wrong with a value. -/
def Parameter.objection? (p : Parameter) (value : String) : Option UsageFault :=
  match p with
  | .config => if value.isEmpty then some (.noValue p) else none
  | .nodeName => none
  | .metricsPort =>
    match readPort value with
    | .ok _ => none
    | .error reason => some (.badValue p value (some reason))
  | .logFormat =>
    if (LogFormat.ofName? value).isSome then none
    else if value.isEmpty then some (.noValue p)
    else some (.badValue p value none)

/-- Values that were given. -/
abbrev Given := List (Parameter × String)

namespace Given

/-- Takes a value, unless the parameter has one or the value is wrong. -/
def add (g : Given) (p : Parameter) (value : String) : Except UsageFault Given :=
  if (g.lookup p).isSome then .error (.repeated p)
  else
    match p.objection? value with
    | some f => .error f
    | none => .ok (g ++ [(p, value)])

/-- Takes the value of a parameter whose value may be missing. -/
def settle (g : Given) : Option (Parameter × Option String) → Except UsageFault Given
  | none => .ok g
  | some (p, none) => .error (.noValue p)
  | some (p, some value) => g.add p value

/-- Takes the values of variables for parameters that have none. -/
def addVariables (vars : List (String × String)) : List Parameter → Given → Except UsageFault Given
  | [], g => .ok g
  | p :: ps, g =>
    match g.lookup p, p.envName?.bind fun v => vars.lookup v with
    | none, some value => do addVariables vars ps (← g.add p value)
    | _, _ => addVariables vars ps g

/-- The value of a parameter, or its default. -/
def value? (g : Given) (p : Parameter) : Option String :=
  (g.lookup p).or p.default?

/-- The arguments, if no parameter lacks a value. -/
def arguments (g : Given) : Except UsageFault Arguments :=
  match Parameter.all.filter fun p => p.isRequired && (g.lookup p).isNone with
  | [] =>
    .ok {
      config := (g.value? .config).getD ""
      nodeName := (g.value? .nodeName).getD ""
      metricsPort := (g.value? .metricsPort).bind fun v => (readPort v).toOption
      logFormat := ((g.value? .logFormat).bind LogFormat.ofName?).getD .json }
  | ps => .error (.missing ps)

end Given

/-- What a word means by itself. -/
inductive Word
  /-- Parameters and flags end here. -/
  | separator
  /-- A parameter or flag by its name, with a value if one is attached. -/
  | long (name : String) (value : Option String)
  /-- A flag by its letter. -/
  | short (letter : Char)
  | plain
  deriving DecidableEq, Repr

/-- Tells what a word means by itself. -/
def Word.ofText (s : String) : Word :=
  match s.toList with
  | ['-', '-'] => .separator
  | '-' :: '-' :: r =>
    match r.span (· != '=') with
    | (name, _ :: value) => .long (String.ofList name) (some (String.ofList value))
    | (name, []) => .long (String.ofList name) none
  | '-' :: c :: _ => .short c
  | _ => .plain

/-- The flag of a letter. -/
def Inquiry.ofLetter? (c : Char) : Option Inquiry :=
  if c == 'h' then some .help else if c == 'V' then some .version else none

/-- The flag of a name. -/
def Inquiry.ofWord? (name : String) : Option Inquiry :=
  [Inquiry.help, .version].find? (·.word == name)

/-- The parameter of a name. -/
def Parameter.ofWord? (name : String) : Option Parameter :=
  Parameter.all.find? (·.word == name)

/-- A flag is obeyed if the value before it is good. -/
def obey (g : Given) (pending : Option (Parameter × Option String)) (i : Inquiry) : Interruption :=
  match g.settle pending with
  | .ok _ => .inquiry i
  | .error f => .misuse f

/-- Reads words, given the values so far and the parameter whose value was not looked at yet. -/
def readWords : Given → Option (Parameter × Option String) → List String → Except Interruption Given
  | g, pending, [] => (g.settle pending).mapError .misuse
  | g, pending, s :: rest =>
    match Word.ofText s with
    | .separator =>
      match rest with
      | [] => (g.settle pending).mapError .misuse
      | extra :: _ => .error (.misuse (.unexpected extra))
    | .long name value =>
      match Parameter.ofWord? name, Inquiry.ofWord? name with
      | some p, _ =>
        match g.settle pending with
        | .error f => .error (.misuse f)
        | .ok g =>
          match value with
          | none => readWords g (some (p, none)) rest
          | some v =>
            match g.add p v with
            | .error f => .error (.misuse f)
            | .ok g => readWords g none rest
      | none, some i =>
        match value with
        | some v => .error (.misuse (.unexpectedValue v i))
        | none => .error (obey g pending i)
      | none, none => .error (.misuse (.unexpected ("--" ++ name)))
    | .short c =>
      match Inquiry.ofLetter? c with
      | some i => .error (obey g pending i)
      | none => .error (.misuse (.unexpected ("-" ++ String.singleton c)))
    | .plain =>
      match pending with
      | some (p, none) => readWords g (some (p, some s)) rest
      | _ => .error (.misuse (.unexpected s))

/-- Reads a command line. -/
def Arguments.read (words : List String) (vars : List (String × String)) :
    Except Interruption Arguments := do
  let g ← readWords [] none words
  let g ← (g.addVariables vars Parameter.all).mapError .misuse
  g.arguments.mapError .misuse

end NodePressure.Command
