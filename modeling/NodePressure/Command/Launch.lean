import NodePressure.Agent.Fault
import NodePressure.Command.LogLine
import NodePressure.Condition.Manager

/-!
# NodePressure.Command.Launch - coming up and going down

The program reads its arguments and settings, makes sure that it can find the API server, and hands
over to the controller. Whatever fails on the way ends it with one line on the error output; once
the controller runs, only a signal ends it well.
-/

namespace NodePressure.Command

/-- What keeps the program from running. -/
inductive LaunchFault
  | settings (path : String) (f : SettingsFault)
  /-- There is no description of the way to the API server. -/
  | noConnection
  | conditionSettings (f : SettingsFault)
  | controller (f : ControllerFault)
  deriving DecidableEq, Repr

/-- The wording of a fault. -/
def LaunchFault.message : LaunchFault → String
  | .settings path f => f.outline path
  | .noConnection => "Failed to create Kubernetes client"
  | .conditionSettings _ => "Failed to load condition config"
  | .controller f => f.message

/-- How the program ends. -/
inductive Ending
  | inquiry (i : Inquiry)
  | misuse (f : UsageFault)
  | failed (f : LaunchFault)
  | stopped
  deriving DecidableEq, Repr

namespace Ending

/-- The code with which the program ends. -/
def code : Ending → Nat
  | inquiry _ | stopped => 0
  | failed _ => 1
  | misuse _ => 2

/-- What is written to the output, the log apart. -/
def output (vars : List (String × String)) : Ending → List String
  | inquiry .help => help vars
  | inquiry .version => [versionLine]
  | _ => []

/-- What is written to the error output. -/
def errors : Ending → List String
  | misuse f =>
    ["error: " ++ f.message] ++ f.details ++ ["", usage, "", "For more information, try '--help'."]
  | failed f => ["Error: " ++ f.message]
  | _ => []

end Ending

/-- A signal that ends the program. -/
inductive Signal
  | terminate
  | interrupt
  deriving DecidableEq, Repr

/-- What a signal is given as the reason of the end. -/
def Signal.reason : Signal → String
  | .terminate => "SIGTERM received"
  | .interrupt => "SIGINT received"

/-- A program that has come up as far as the controller. -/
structure Agent where
  arguments : Arguments
  settings : AgentSettings
  manager : Manager

namespace Agent

/-- The TCP port for health and metrics: that of the command line, or else that of the settings. -/
def metricsPort? (a : Agent) : Option Nat :=
  a.arguments.metricsPort.or a.settings.metricsPort

/-- The record of the log for an event. -/
def record (a : Agent) (e : LogEvent) : LogLine :=
  .event ⟨a.arguments.nodeName, e⟩

end Agent

/-- The files that describe the way to the API server. -/
def connectionFiles (vars : List (String × String)) : List String :=
  let given := (vars.lookup "KUBECONFIG").getD ""
  let listed := (Text.pieces (· == ':') given.toList).filter (!·.isEmpty)
  if listed.isEmpty then [FileTree.join ((vars.lookup "HOME").getD "") ".kube/config"]
  else listed.map String.ofList

/-- Whether the way to the API server is described. -/
def isConnectable (env : Surroundings) : Bool :=
  (connectionFiles env.vars).all env.files.isFile

/-- Comes up, given the arguments: the lines of the log, and the program or what keeps it from
running. -/
def prepare (arguments : Arguments) (env : Surroundings) :
    List LogLine × Except LaunchFault Agent :=
  match AgentSettings.load env.files env.vars arguments.config with
  | .error f => ([.starting], .error (.settings arguments.config f))
  | .ok settings =>
    let lines := [.starting, .configured arguments.nodeName arguments.config settings.tickSeconds,
      .event ⟨arguments.nodeName, .started version⟩]
    if isConnectable env then
      match Manager.ofFile env arguments.config with
      | .error f => (lines, .error (.conditionSettings f))
      | .ok manager => (lines, .ok ⟨arguments, settings, manager⟩)
    else (lines, .error .noConnection)

/-- The line about a server that could not take its place. -/
def serverLines (isTaken : Nat → Bool) (a : Agent) : List LogLine :=
  if a.metricsPort?.any isTaken then [.serverFailed "Address already in use (os error 98)"] else []

/-- Goes down: after a controller that did not start, or after a signal. -/
def finish (isTaken : Nat → Bool) (a : Agent) (reason : Except ControllerFault String) :
    List LogLine × Ending :=
  match reason with
  | .error f => (serverLines isTaken a, .failed (.controller f))
  | .ok reason =>
    ([a.record (.shutdown reason)] ++ serverLines isTaken a ++ [.stopped], .stopped)

/-- The whole way of a program that gets a signal as soon as the controller runs. -/
def trial (arguments : Arguments) (env : Surroundings) (isTaken : Nat → Bool) (signal : Signal) :
    List LogLine × Ending :=
  match prepare arguments env with
  | (lines, .error f) => (lines, .failed f)
  | (lines, .ok a) =>
    let (_, started, _) := a.manager.start env 0
    let (more, ending) := finish isTaken a <|
      match started with
      | .ok _ => .ok signal.reason
      | .error f => .error (.notStarted f)
    (lines ++ more, ending)

/-- What a run of the program leaves. -/
structure Result where
  format : LogFormat
  lines : List LogLine
  ending : Ending

/-- Runs the program with words, up to a signal at the beginning of the controller's work. -/
def run (words : List String) (env : Surroundings) (isTaken : Nat → Bool) (signal : Signal) :
    Result :=
  match Arguments.read words env.vars with
  | .error (.inquiry i) => ⟨.json, [], .inquiry i⟩
  | .error (.misuse f) => ⟨.json, [], .misuse f⟩
  | .ok arguments =>
    let (lines, ending) := trial arguments env isTaken signal
    ⟨arguments.logFormat, lines.filter (LogLine.passes (LogFilter.ofVariables env.vars)), ending⟩

end NodePressure.Command
