import NodePressure.Host.Sampler
import NodePressure.Settings.Source
import NodePressure.Telemetry.Basic

/-!
# NodePressure.Condition.Manager - the condition source of a real node

The manager publishes what the last good sample of the host left available. Starting it takes a
first sample, which has to succeed; then a loop samples again and again, and before each sample
reads the settings again if their file has changed. Starting and looping are told step by step, so
that other steps can come between.
-/

namespace NodePressure

/-- What a process can read: files and variables of its environment. -/
structure Surroundings where
  files : FileTree
  vars : List (String × String)

/-- Loads the settings of the condition source. -/
def Surroundings.settings (env : Surroundings) (path : String) :
    Except SettingsFault ConditionSettings :=
  ConditionSettings.load env.files env.vars path

/-- What the sampling loop is doing. -/
inductive Sampling.Phase
  /-- About to begin a sleep. -/
  | resting
  | sleeping (wakes : Moment)
  /-- About to look whether the file of the settings has changed. -/
  | checking
  /-- About to read the settings again. -/
  | loading
  /-- About to take a sample. -/
  | sampling
  | ended
  deriving DecidableEq, Repr

/-- The sampling loop. -/
structure Sampling where
  sampler : Sampler
  /-- When the file of the settings was last seen to change. -/
  modified : Option Int
  /-- Whether the loop was told to end and has not noticed yet. -/
  told : Bool
  phase : Sampling.Phase

/-- The condition source. -/
structure Manager where
  settings : ConditionSettings
  /-- The file of the settings, if they come from one. -/
  path : Option String
  /-- What the last good sample left available. -/
  availability : Availability
  /-- Whether a call that starts the manager has succeeded or is under way. -/
  started : Bool
  loop : Option Sampling

/-- How far a call that starts the manager has come. -/
inductive Attempt
  | fresh
  /-- The call is the only one, and has read the settings. -/
  | claimed (settings : ConditionSettings)
  /-- The first sample has been taken. -/
  | sampled (settings : ConditionSettings) (usage : Except ConditionFault Host.Usage) (s : Sampler)
  | ended (result : Except ConditionFault Unit)

namespace Manager

/-- A manager that has not been started; everything counts as available. -/
def fresh (settings : ConditionSettings) (path : Option String) : Manager :=
  ⟨settings, path, Availability.full, false, none⟩

/-- A manager with the settings of a file. -/
def ofFile (env : Surroundings) (path : String) : Except SettingsFault Manager :=
  (env.settings path).map fun s => fresh s (some path)

/-- When the file of the settings last changed. -/
def modified (m : Manager) (env : Surroundings) : Option Int :=
  m.path.bind env.files.modified?

/-- The first step of starting: nobody else may be starting, or have started, the manager. -/
def claim (m : Manager) : Manager × Attempt :=
  if m.started then (m, .ended (.error .alreadyStarted))
  else ({ m with started := true }, .claimed m.settings)

/-- The second step: the first sample is taken, with the settings read before. -/
def firstSample (env : Surroundings) (now : Moment) (settings : ConditionSettings) : Attempt :=
  let (usage, sampler) := (Sampler.fresh settings.procRoot).sample env.files now
  .sampled settings usage sampler

/-- The last step: a good sample is published and the loop begins; after a bad one the manager can
be started again. -/
def conclude (m : Manager) (env : Surroundings) (settings : ConditionSettings) (sampler : Sampler) :
    Except ConditionFault Host.Usage → Manager × List Note
  | .ok u =>
    ({ m with
        availability := settings.thresholds.evaluate u
        loop := some ⟨sampler, m.modified env, false, .resting⟩ },
      [.report conditionPart .healthy])
  | .error f => ({ m with started := false }, [.report conditionPart (.unhealthy f.message)])

/-- Goes on with starting the manager by one step. -/
def attempt (m : Manager) (env : Surroundings) (now : Moment) :
    Attempt → Manager × Attempt × List Note
  | .fresh =>
    let (m, a) := m.claim
    (m, a, [])
  | .claimed settings => (m, firstSample env now settings, [])
  | .sampled settings usage sampler =>
    let (m, notes) := m.conclude env settings sampler usage
    (m, .ended (usage.map fun _ => ()), notes)
  | .ended r => (m, .ended r, [])

/-- Starts the manager with nothing coming between the steps. -/
def start (m : Manager) (env : Surroundings) (now : Moment) :
    Manager × Except ConditionFault Unit × List Note :=
  let (m, a, _) := m.attempt env now .fresh
  let (m, a, _) := m.attempt env now a
  let (m, a, notes) := m.attempt env now a
  match a with
  | .ended r => (m, r, notes)
  | _ => (m, .ok (), notes)

/-- Takes new settings, which hold from the next sample on. -/
def update (m : Manager) (settings : ConditionSettings) : Manager :=
  { m with settings }

/-- Looks whether the file of the settings has changed since it was last seen to. -/
def check (m : Manager) (env : Surroundings) (l : Sampling) : Manager :=
  if m.path.isNone || m.modified env = l.modified then
    { m with loop := some { l with phase := .sampling } }
  else { m with loop := some { l with modified := m.modified env, phase := .loading } }

/-- Reads the settings again. Bad ones change nothing; new ones begin with a new sampler if the
root is another one. -/
def reload (m : Manager) (env : Surroundings) (l : Sampling) : Manager :=
  let stay := { m with loop := some { l with phase := .sampling } }
  match m.path with
  | none => stay
  | some path =>
    match env.settings path with
    | .error _ => stay
    | .ok s =>
      let sampler := if FileTree.normal s.procRoot = FileTree.normal l.sampler.root then l.sampler
        else Sampler.fresh s.procRoot
      { m with settings := s, loop := some { l with sampler, phase := .sampling } }

/-- Begins a sleep, unless the loop was told to end. How long it lasts is read from the settings
now. -/
def rest (m : Manager) (now : Moment) (l : Sampling) : Manager :=
  { m with loop := some { l with
      phase := if l.told then .ended else .sleeping (now + m.settings.interval) } }

/-- Takes a sample and publishes it, if it is good. -/
def sample (m : Manager) (env : Surroundings) (now : Moment) (l : Sampling) : Manager × List Note :=
  let (usage, sampler) := l.sampler.sample env.files now
  let l := { l with sampler, phase := .resting }
  match usage with
  | .ok u =>
    ({ m with availability := m.settings.thresholds.evaluate u, loop := some l },
      [.report conditionPart .healthy])
  | .error f => ({ m with loop := some l }, [.report conditionPart (.failed f.message)])

/-- Goes on with the loop by one step; one that sleeps wakes if its time has come. -/
def step (m : Manager) (env : Surroundings) (now : Moment) : Manager × List Note :=
  match m.loop with
  | none => (m, [])
  | some l =>
    match l.phase with
    | .resting => (m.rest now l, [])
    | .sleeping wakes =>
      if wakes ≤ now then ({ m with loop := some { l with phase := .checking } }, []) else (m, [])
    | .checking => (m.check env l, [])
    | .loading => (m.reload env l, [])
    | .sampling => m.sample env now l
    | .ended => (m, [])

/-- Ends the loop: at once if it sleeps, or else as soon as it would sleep again. -/
def stop (m : Manager) : Manager :=
  match m.loop with
  | some l =>
    match l.phase with
    | .sleeping _ => { m with loop := some { l with phase := .ended } }
    | _ => { m with loop := some { l with told := true } }
  | none => m

/-- When the loop wakes from its sleep. -/
def wakes (m : Manager) : Option Moment :=
  m.loop.bind fun l =>
    match l.phase with
    | .sleeping w => some w
    | _ => none

/-- Whether the loop goes on at a moment. -/
def isDue (m : Manager) (now : Moment) : Bool :=
  m.loop.any fun l =>
    match l.phase with
    | .sleeping w => w ≤ now
    | .ended => false
    | _ => true

/-- Lets the loop go on for as long as no time has to pass, with nothing coming between its steps.
A round has five of them. -/
def settle (m : Manager) (env : Surroundings) (now : Moment) : Manager × List Note :=
  (List.range 5).foldl
    (fun (m, notes) _ =>
      if m.isDue now then
        let (m, more) := m.step env now
        (m, notes ++ more)
      else (m, notes))
    (m, [])

/-- The decision about a signal, once the workloads of the node are known. -/
def choose (m : Manager) (r : Resource) :
    Except ClusterFault (List Candidate) → Except ConditionFault Decision
  | .error f => .error (.cluster f)
  | .ok cs =>
    match m.settings.policy.choose r cs with
    | some d => .ok d
    | none => .error (.noCandidate r)

end Manager

end NodePressure
