/-!
# NodePressure.Command.Parameter - what can be given on the command line

Four parameters with values, two of which may come from the environment as well, and the texts that
describe them.
-/

namespace NodePressure.Command

/-- The name of the program. -/
def programName : String := "eviction-agent"

/-- The version of the program. -/
def version : String := "0.1.0"

/-- Something that can be given a value. -/
inductive Parameter
  | config
  | nodeName
  | metricsPort
  | logFormat
  deriving DecidableEq, Repr

namespace Parameter

/-- All parameters, in the order in which they are described. -/
def all : List Parameter := [config, nodeName, metricsPort, logFormat]

/-- The word that stands for a parameter, without its dashes. -/
def word : Parameter → String
  | config => "config"
  | nodeName => "node-name"
  | metricsPort => "metrics-port"
  | logFormat => "log-format"

/-- What stands for the value of a parameter in descriptions. -/
def placeholder : Parameter → String
  | config => "CONFIG"
  | nodeName => "NODE_NAME"
  | metricsPort => "METRICS_PORT"
  | logFormat => "LOG_FORMAT"

/-- A parameter with its value, as it is described. -/
def shape (p : Parameter) : String :=
  "--" ++ p.word ++ " <" ++ p.placeholder ++ ">"

/-- What a parameter is for. -/
def purpose? : Parameter → Option String
  | config => some "Config file (YAML, TOML or JSON)"
  | nodeName => some "Name of the node this agent manages"
  | metricsPort => some "Serve health and metrics on this port (overrides the config file)"
  | logFormat => none

/-- The variable of the environment that gives a value if the command line does not. -/
def envName? : Parameter → Option String
  | config => some "EVICTION_AGENT_CONFIG"
  | nodeName => some "NODE_NAME"
  | metricsPort | logFormat => none

/-- The value unless another one is given. -/
def default? : Parameter → Option String
  | config => some "/etc/eviction-agent/config.yaml"
  | logFormat => some "json"
  | nodeName | metricsPort => none

/-- The values that a parameter can have, if they are few. -/
def choices : Parameter → List String
  | logFormat => ["json", "text"]
  | config | nodeName | metricsPort => []

/-- Whether a value has to come from somewhere. -/
def isRequired : Parameter → Bool
  | nodeName => true
  | config | metricsPort | logFormat => false

/-- The remarks on a parameter, given the variables of the environment. -/
def remarks (vars : List (String × String)) (p : Parameter) : List String :=
  (p.envName?.map fun v => "[env: " ++ v ++ "=" ++ (vars.lookup v).getD "" ++ "]").toList ++
    (p.default?.map fun d => "[default: " ++ d ++ "]").toList ++
    (if p.choices.isEmpty then [] else ["[possible values: " ++ ", ".intercalate p.choices ++ "]"])

/-- What is said about a parameter. -/
def about (vars : List (String × String)) (p : Parameter) : String :=
  " ".intercalate (p.purpose?.toList ++ p.remarks vars)

end Parameter

/-- How the program is called. -/
def usage : String :=
  "Usage: " ++ programName ++ " [OPTIONS]" ++
    String.join ((Parameter.all.filter Parameter.isRequired).map fun p => " " ++ p.shape)

/-- Everything that can be given: the letter, the shape and what is said about it. -/
def options (vars : List (String × String)) : List (Option Char × String × String) :=
  (Parameter.all.map fun p => (none, p.shape, p.about vars)) ++
    [(some 'h', "--help", "Print help"), (some 'V', "--version", "Print version")]

/-- A line of the description of the options: all that is said begins in one column. -/
def optionLine (width : Nat) : Option Char × String × String → String
  | (letter, shape, about) =>
    let short :=
      match letter with
      | some c => "-" ++ String.singleton c ++ ", "
      | none => "    "
    "  " ++ short ++ shape ++ String.ofList (List.replicate (width - shape.length + 2) ' ') ++ about

/-- What the program says about itself when asked for help. -/
def help (vars : List (String × String)) : List String :=
  let os := options vars
  let width := (os.map (·.2.1.length)).foldl max 0
  ["Node-local eviction controller", "", usage, "", "Options:"] ++ os.map (optionLine width)

/-- What the program says when asked for its version. -/
def versionLine : String :=
  programName ++ " " ++ version

end NodePressure.Command
