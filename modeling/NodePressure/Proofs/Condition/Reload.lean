import Mathlib.Logic.Relation
import NodePressure.Proofs.Condition.Scene

/-!
# NodePressure.Proofs.Condition.Reload - edits of the settings file

A `Watched` is a scene with the times at which the settings file was written. The loop reads the
settings again if the time of the file is not the one that it has on record, so it sees every edit
that comes after its launch (`Watched.InStep`). But the settings are first read when the manager is
made, and the first time goes on record only when the loop is launched. An edit between the two is
missed until the next one: `settings_after_reload` says exactly when the settings in force are those
of the file, and `edit_before_launch_is_missed` is a run in which they are not.
-/

namespace NodePressure.Condition

/-- A scene, and the times of the settings file, one after the other. -/
structure Watched where
  scene : Scene
  times : List Int

namespace Watched

/-- The manager or a call does something. -/
def act (w : Watched) (d : Deed) : Watched :=
  { w with scene := w.scene.perform d }

/-- Files or variables change. -/
def turnTo (w : Watched) (env : Surroundings) : Watched :=
  { w with scene := { w.scene with env } }

/-- The settings file is written, and gets a time. -/
def write (w : Watched) (env : Surroundings) (time : Int) : Watched :=
  { w.turnTo env with times := w.times ++ [time] }

/-- What can happen to a manager and its file. -/
inductive Step (path : String) : Watched → Watched → Prop
  | act {w : Watched} (d : Deed) : Step path w (w.act d)
  /-- The file is written, and gets a time that it never had. -/
  | write {w : Watched} {env : Surroundings} {t : Int} (new : t ∉ w.times)
      (time : env.files.modified? path = some t) : Step path w (w.write env t)
  /-- Something else changes. -/
  | drift {w : Watched} {env : Surroundings}
      (settings : env.settings path = w.scene.env.settings path)
      (time : env.files.modified? path = w.scene.env.files.modified? path) :
      Step path w (w.turnTo env)

/-- One can come from one state to another. -/
abbrev Reaches (path : String) : Watched → Watched → Prop :=
  Relation.ReflTransGen (Step path)

/-- The manager has just been made, with the settings of its file. -/
structure Opens (path : String) (w : Watched) : Prop where
  made : Manager.ofFile w.scene.env path = .ok w.scene.manager
  calls : w.scene.calls = []
  time : w.times.getLast? = w.scene.env.files.modified? path

/-- The second state is the one in which the loop is launched. -/
def Launches (path : String) (w w' : Watched) : Prop :=
  ∃ ready, Reaches path w ready ∧ ready.scene.manager.loop = none ∧ Step path ready w' ∧
    w'.scene.manager.loop.isSome = true

/-- What the loop is doing, if there is one. -/
def phase? (w : Watched) : Option Sampling.Phase :=
  w.scene.manager.loop.map Sampling.phase

/-- The settings in force are those of the file, if that is good. -/
def Current (path : String) (w : Watched) : Prop :=
  ∀ s, w.scene.env.settings path = .ok s → w.scene.manager.settings = s

variable {path : String} {w w' : Watched}

/-! ## Times -/

/-- The history of the file goes on, and the file stays as it is unless the history does. -/
theorem Step.times_prefix (step : Step path w w') : w.times <+: w'.times := by
  cases step with
  | act _ => exact List.prefix_rfl
  | write _ _ => exact List.prefix_append _ _
  | drift _ _ => exact List.prefix_rfl

theorem Reaches.times_prefix (h : Reaches path w w') : w.times <+: w'.times := by
  induction h with
  | refl => exact List.prefix_rfl
  | tail _ step ih => exact ih.trans step.times_prefix

/-- As long as the file is not written it stays as it is. -/
theorem Step.file_eq (step : Step path w w') (quiet : w'.times = w.times) :
    w'.scene.env.settings path = w.scene.env.settings path ∧
      w'.scene.env.files.modified? path = w.scene.env.files.modified? path := by
  cases step with
  | act d =>
    rw [Watched.act, Scene.env_perform]
    exact ⟨rfl, rfl⟩
  | write _ _ => simp [Watched.write] at quiet
  | drift settings time => exact ⟨settings, time⟩

/-! ## What holds in every state -/

/-- The manager has its file, which has the time of its last edit, at most one call is under way or
has launched the loop, and the time that the loop has on record is one that the file has had. -/
structure Sound (path : String) (w : Watched) : Prop where
  file : w.scene.manager.path = some path
  time : w.times.getLast? = w.scene.env.files.modified? path
  exclusive : w.scene.Exclusive
  recorded : ∀ l, w.scene.manager.loop = some l → ∀ t, l.modified = some t → t ∈ w.times

theorem Opens.settings (h : Opens path w) :
    w.scene.env.settings path = .ok w.scene.manager.settings ∧
      w.scene.manager.path = some path ∧ w.scene.manager.started = false ∧
      w.scene.manager.loop = none := by
  have hmade := h.made
  rw [Manager.ofFile] at hmade
  cases hload : w.scene.env.settings path with
  | error f => simp [hload, Except.map] at hmade
  | ok s =>
    simp only [hload, Except.map, Except.ok.injEq] at hmade
    rw [← hmade]
    exact ⟨rfl, rfl, rfl, rfl⟩

theorem Opens.sound (h : Opens path w) : Sound path w := by
  obtain ⟨-, hpath, hstarted, hloop⟩ := h.settings
  refine ⟨hpath, h.time, ?_, by simp [hloop]⟩
  simp [Scene.Exclusive, Scene.underway, h.calls, hstarted, hloop]

theorem Sound.mem_times (h : Sound path w) {t : Int}
    (ht : w.scene.env.files.modified? path = some t) : t ∈ w.times := by
  rw [← h.time] at ht
  exact List.mem_of_getLast? ht

/-- A scene that has a loop launches no other one. -/
theorem Sound.turn (h : Sound path w) {l : Sampling} (hloop : w.scene.manager.loop = some l)
    (d : Deed) : ∃ l', (w.act d).scene.manager.loop = some l' ∧
      Turn w.scene.env path w.scene.manager.settings l (w.act d).scene.manager.settings l' := by
  cases Scene.effect_perform h.file d with
  | still settings loop =>
    rw [act, settings]
    exact ⟨l, loop.trans hloop, .idle rfl (.inl rfl)⟩
  | launch call _ _ _ _ =>
    have hone := h.exclusive.le_one
    simp only [hloop, Option.toList_some, List.length_singleton] at hone
    omega
  | turn before after turn =>
    obtain rfl := Option.some_inj.mp (before.symm.trans hloop)
    exact ⟨_, after, turn⟩

/-- A step that does not write the file is a turn of the loop, or as good as one. -/
theorem Sound.turn_of_quiet (h : Sound path w) (step : Step path w w') (quiet : w'.times = w.times)
    {l : Sampling} (hloop : w.scene.manager.loop = some l) :
    ∃ l', w'.scene.manager.loop = some l' ∧
      Turn w.scene.env path w.scene.manager.settings l w'.scene.manager.settings l' := by
  cases step with
  | act d => exact h.turn hloop d
  | write _ _ => simp [write] at quiet
  | drift _ _ => exact ⟨l, hloop, .idle rfl (.inl rfl)⟩

theorem Sound.recorded_act (h : Sound path w) {d : Deed} {l' : Sampling}
    (hloop' : (w.act d).scene.manager.loop = some l') {t : Int} (ht : l'.modified = some t) :
    t ∈ w.times := by
  cases Scene.effect_perform h.file d with
  | still _ loop => exact h.recorded l' (loop.symm.trans hloop') t ht
  | launch _ _ loop modified _ =>
    obtain rfl := Option.some_inj.mp (loop.symm.trans hloop')
    exact h.mem_times (modified.symm.trans ht)
  | turn before after turn =>
    obtain rfl := Option.some_inj.mp (after.symm.trans hloop')
    rcases turn.modified with modified | modified
    · exact h.recorded _ before t (modified.symm.trans ht)
    · exact h.mem_times (modified.symm.trans ht)

theorem Sound.step (h : Sound path w) (step : Step path w w') : Sound path w' := by
  cases step with
  | act d =>
    refine ⟨Scene.path_perform.trans h.file, ?_, h.exclusive.perform d, fun l hl t ht => ?_⟩
    · rw [act, Scene.env_perform]
      exact h.time
    · exact h.recorded_act hl ht
  | write new time =>
    refine ⟨h.file, ?_, h.exclusive, fun l hl t ht => ?_⟩
    · rw [write, List.getLast?_concat]
      exact time.symm
    · exact List.mem_append_left _ (h.recorded l hl t ht)
  | drift settings time => exact ⟨h.file, h.time.trans time.symm, h.exclusive, h.recorded⟩

theorem Sound.reaches (h : Sound path w) (run : Reaches path w w') : Sound path w' := by
  induction run with
  | refl => exact h
  | tail _ step ih => exact ih.step step

/-- What every step keeps that does not write the file, a run keeps in which the file is not
written. -/
theorem Reaches.keeps {P : Watched → Prop} (run : Reaches path w w') (quiet : w'.times = w.times)
    (sound : Sound path w)
    (keep : ∀ u u', Sound path u → Step path u u' → u'.times = u.times → P u → P u') (hP : P w) :
    P w' := by
  induction run with
  | refl => exact hP
  | @tail u u' run step ih =>
    have hu : u.times = w.times := by
      have hle : u.times.length ≤ w.times.length := quiet ▸ step.times_prefix.length_le
      exact ((Reaches.times_prefix run).eq_of_length_le hle).symm
    exact keep u u' (sound.reaches run) step (quiet.trans hu.symm) (ih hu)

/-- The file is the same as before if it was not written. -/
theorem Reaches.settings_eq (run : Reaches path w w') (quiet : w'.times = w.times)
    (sound : Sound path w) :
    w'.scene.env.settings path = w.scene.env.settings path :=
  run.keeps (P := fun u => u.scene.env.settings path = w.scene.env.settings path) quiet sound
    (fun _ _ _ step hu h => (step.file_eq hu).1.trans h) rfl

/-! ## The launch -/

/-- Before the launch the settings stay as they were read. -/
theorem settings_of_unlaunched (sound : Sound path w) (run : Reaches path w w')
    (hnone : w'.scene.manager.loop = none) :
    w'.scene.manager.settings = w.scene.manager.settings := by
  induction run with
  | refl => rfl
  | tail run step ih =>
    cases step with
    | act d =>
      cases Scene.effect_perform (sound.reaches run).file d with
      | still settings loop => exact settings.trans (ih (loop.symm.trans hnone))
      | launch _ _ loop _ _ => simp [act, loop] at hnone
      | turn _ after _ => simp [act, after] at hnone
    | write _ _ => exact ih hnone
    | drift _ _ => exact ih hnone

/-- A loop that runs was launched. -/
theorem exists_launch (hnone : w.scene.manager.loop = none) (run : Reaches path w w')
    (hsome : w'.scene.manager.loop.isSome = true) :
    ∃ launched, Launches path w launched ∧ Reaches path launched w' := by
  induction run with
  | refl => simp [hnone] at hsome
  | @tail u u' run step ih =>
    cases hu : u.scene.manager.loop with
    | none => exact ⟨u', ⟨u, run, hu, step, hsome⟩, .refl⟩
    | some l =>
      obtain ⟨launched, launches, run'⟩ := ih (by simp [hu])
      exact ⟨launched, launches, run'.tail step⟩

/-- The loop has the time of the file on record, and is not about to read the settings. -/
def UpToDate (path : String) (w : Watched) : Prop :=
  ∃ l, w.scene.manager.loop = some l ∧ l.modified = w.scene.env.files.modified? path ∧
    l.phase ≠ .loading

/-- When the loop is launched, the settings are still those that were read first, and the time of
the file goes on record. -/
theorem Launches.upToDate (launch : Launches path w w') (sound : Sound path w) :
    UpToDate path w' ∧ w'.scene.manager.settings = w.scene.manager.settings := by
  obtain ⟨ready, run, hnone, step, hsome⟩ := launch
  have hready := settings_of_unlaunched sound run hnone
  cases step with
  | act d =>
    cases Scene.effect_perform (sound.reaches run).file d with
    | still _ loop => simp [act, loop, hnone] at hsome
    | launch _ settings loop modified between =>
      refine ⟨⟨_, loop, ?_, between.1⟩, settings.trans hready⟩
      rw [act, Scene.env_perform]
      exact modified
    | turn before _ _ => simp [hnone] at before
  | write _ _ => simp [write, turnTo, hnone] at hsome
  | drift _ _ => simp [turnTo, hnone] at hsome

theorem Launches.reaches (launch : Launches path w w') : Reaches path w w' := by
  obtain ⟨ready, run, -, step, -⟩ := launch
  exact run.tail step

/-! ## Edits after the launch -/

/-- The settings in force are those of the file whenever its time is on record, unless the loop is
about to read them. -/
def InStep (path : String) (w : Watched) : Prop :=
  ∃ l, w.scene.manager.loop = some l ∧
    (l.phase ≠ .loading → l.modified = w.scene.env.files.modified? path → Current path w)

/-- A loop stays. -/
theorem Step.loop (sound : Sound path w) (step : Step path w w') {l : Sampling}
    (hloop : w.scene.manager.loop = some l) : ∃ l', w'.scene.manager.loop = some l' := by
  cases step with
  | act d =>
    obtain ⟨l', hl', -⟩ := sound.turn hloop d
    exact ⟨l', hl'⟩
  | write _ _ => exact ⟨l, hloop⟩
  | drift _ _ => exact ⟨l, hloop⟩

/-- An edit is noticed: its time is not the one on record. -/
theorem inStep_of_written (sound : Sound path w) (step : Step path w w')
    (written : w'.times ≠ w.times) {l : Sampling} (hloop : w.scene.manager.loop = some l) :
    InStep path w' := by
  cases step with
  | act _ => exact absurd rfl written
  | write new time =>
    refine ⟨l, hloop, fun _ hrecorded => ?_⟩
    exact absurd (sound.recorded l hloop _ (hrecorded.trans time)) new
  | drift _ _ => exact absurd rfl written

theorem InStep.step (h : InStep path w) (sound : Sound path w) (step : Step path w w') :
    InStep path w' := by
  obtain ⟨l, hloop, hcurrent⟩ := h
  by_cases quiet : w'.times = w.times
  · obtain ⟨l', hloop', turn⟩ := sound.turn_of_quiet step quiet hloop
    obtain ⟨hsettings, htime⟩ := step.file_eq quiet
    refine ⟨l', hloop', fun hphase hrecorded => ?_⟩
    rw [Current, hsettings]
    exact turn.current hcurrent hphase (hrecorded.trans htime)
  · exact inStep_of_written sound step quiet hloop

theorem InStep.reaches (h : InStep path w) (sound : Sound path w) (run : Reaches path w w') :
    InStep path w' := by
  induction run with
  | refl => exact h
  | tail run step ih => exact ih.step (sound.reaches run) step

/-- From the first edit after the launch on, the settings are in step. -/
theorem inStep_of_edited {l : Sampling} (hloop : w.scene.manager.loop = some l)
    (sound : Sound path w) (run : Reaches path w w') (edited : w'.times ≠ w.times) :
    InStep path w' := by
  suffices h : (∃ l, w'.scene.manager.loop = some l) ∧ (w'.times ≠ w.times → InStep path w') from
    h.2 edited
  clear edited
  induction run with
  | refl => exact ⟨⟨l, hloop⟩, fun h => absurd rfl h⟩
  | @tail u u' run step ih =>
    obtain ⟨⟨l, hl⟩, hu⟩ := ih
    have hsound := sound.reaches run
    refine ⟨step.loop hsound hl, fun edited => ?_⟩
    by_cases quiet : u'.times = u.times
    · exact (hu (quiet ▸ edited)).step hsound step
    · exact inStep_of_written hsound step quiet hl

/-! ## Iterations -/

/-- A loop that has the time of the file on record keeps the settings as long as the file is not
written. -/
theorem UpToDate.reaches (h : UpToDate path w) (sound : Sound path w) (run : Reaches path w w')
    (quiet : w'.times = w.times) :
    UpToDate path w' ∧ w'.scene.manager.settings = w.scene.manager.settings := by
  refine Reaches.keeps
    (P := fun u => UpToDate path u ∧ u.scene.manager.settings = w.scene.manager.settings)
    run quiet sound (fun u u' hsound step quiet hu => ?_) ⟨h, rfl⟩
  obtain ⟨⟨l, hloop, hrecorded, hphase⟩, hsettings⟩ := hu
  obtain ⟨l', hloop', turn⟩ := hsound.turn_of_quiet step quiet hloop
  obtain ⟨hrecorded', hphase', hsame⟩ := turn.upToDate hrecorded hphase
  have htime := (step.file_eq quiet).2
  exact ⟨⟨l', hloop', hrecorded'.trans htime.symm, hphase'⟩, hsame.trans hsettings⟩

/-- An iteration that begins and reads the settings puts the time of the file on record, if the file
is not written meanwhile. -/
theorem upToDate_of_iteration (sound : Sound path w) (run : Reaches path w w')
    (quiet : w'.times = w.times) {l l' : Sampling} (hloop : w.scene.manager.loop = some l)
    (before : l.IsBetween) (hloop' : w'.scene.manager.loop = some l')
    (after : l'.phase = .sampling) : UpToDate path w' := by
  have looked : ∃ l, w'.scene.manager.loop = some l ∧
      (l.IsBetween ∨ l.modified = w'.scene.env.files.modified? path) := by
    refine Reaches.keeps (P := fun u => ∃ l, u.scene.manager.loop = some l ∧
      (l.IsBetween ∨ l.modified = u.scene.env.files.modified? path))
      run quiet sound (fun u u' hsound step quiet hu => ?_) ⟨l, hloop, .inl before⟩
    obtain ⟨l, hloop, hlooked⟩ := hu
    obtain ⟨l', hloop', turn⟩ := hsound.turn_of_quiet step quiet hloop
    rw [(step.file_eq quiet).2]
    exact ⟨l', hloop', turn.looked hlooked⟩
  obtain ⟨l₁, hl₁, hlooked⟩ := looked
  obtain rfl := Option.some_inj.mp (hl₁.symm.trans hloop')
  exact ⟨l₁, hloop', hlooked.resolve_left fun between => between.2 after, by simp [after]⟩

/-! ## The rule -/

/-- **Edits of the settings file.** Take any run from the making of a manager: at `woken` the loop
has not yet looked at the file for an iteration, at `read` that iteration has read the settings
again or found that it need not, and from `woken` to `now` the file is not written. The loop was
launched in between. The settings in force are those of the file, if that is good, unless the last
edit came after the making of the manager and before the launch; then they are still the first ones.
-/
theorem settings_after_reload {opening woken read now : Watched} (opens : Opens path opening)
    (lead : Reaches path opening woken) {p : Sampling.Phase} (running : woken.phase? = some p)
    (before : p ≠ .loading ∧ p ≠ .sampling) (iteration : Reaches path woken read)
    (after : read.phase? = some .sampling) (rest : Reaches path read now)
    (quiet : now.times = woken.times) :
    (∃ launched, Launches path opening launched ∧ Reaches path launched woken) ∧
    ∀ launched, Launches path opening launched → Reaches path launched woken →
      (launched.times = opening.times ∨ now.times ≠ launched.times → Current path now) ∧
      (now.times = launched.times →
        now.scene.manager.settings = opening.scene.manager.settings) := by
  have sound := opens.sound
  obtain ⟨hload, -, -, hnone⟩ := opens.settings
  obtain ⟨l, hl, rfl⟩ := Option.map_eq_some_iff.mp running
  obtain ⟨l', hl', hsampling⟩ := Option.map_eq_some_iff.mp after
  refine ⟨exists_launch hnone lead (by simp [hl]), fun launched launch run => ?_⟩
  have soundLaunched := sound.reaches launch.reaches
  have run' : Reaches path launched now := (run.trans iteration).trans rest
  obtain ⟨upToDate, hfirst⟩ := launch.upToDate sound
  refine ⟨fun hseen => ?_, fun hsame => ?_⟩
  · have inStep : InStep path now := by
      obtain ⟨l, hloop, -, -⟩ := upToDate
      by_cases edited : now.times = launched.times
      · have hunwritten := hseen.resolve_right fun h => h edited
        have hfile := Reaches.settings_eq launch.reaches hunwritten sound
        have hcurrent : InStep path launched := by
          refine ⟨l, hloop, fun _ _ s hs => ?_⟩
          rw [hfile, hload] at hs
          rw [hfirst]
          exact Except.ok.inj hs
        exact hcurrent.reaches soundLaunched run'
      · exact inStep_of_edited hloop soundLaunched run' edited
    have soundWoken := soundLaunched.reaches run
    have hquiet : read.times = woken.times := by
      have hle : read.times.length ≤ woken.times.length := by
        rw [← quiet]
        exact (Reaches.times_prefix rest).length_le
      exact ((Reaches.times_prefix iteration).eq_of_length_le hle).symm
    -- the iteration has put the time of the file on record, and that is what `InStep` waits for
    have recorded := upToDate_of_iteration soundWoken iteration hquiet hl before hl' hsampling
    obtain ⟨⟨l₁, hl₁, hrecorded, hphase⟩, -⟩ :=
      recorded.reaches (soundWoken.reaches iteration) rest (quiet.trans hquiet.symm)
    obtain ⟨l₂, hl₂, hcurrent⟩ := inStep
    obtain rfl := Option.some_inj.mp (hl₁.symm.trans hl₂)
    exact hcurrent hphase hrecorded
  · exact (upToDate.reaches soundLaunched run' hsame).2.trans hfirst

/-! ## Two runs -/

/-- A host without a settings file. -/
def bare : FileTree :=
  FileTree.empty.putText "/proc/stat" "cpu 1 2 3 4\n" 0
    |>.putText "/proc/meminfo" "MemTotal: 100\nMemAvailable: 5\n" 0
    |>.putText "/proc/diskstats" "" 0
    |>.putText "/proc/net/dev" "" 0

/-- The same host with a settings file that sets the grace period to a minute. -/
def minute : FileTree :=
  bare.putText "a.json" "\x7b\"condition.untaint_grace_period_secs\":60\x7d" 1

/-- A manager that has just been made from a good file. -/
def made (env : Surroundings) (path : String) : Watched where
  scene := ⟨.fresh ((env.settings path).toOption.getD default) (some path), [], env⟩
  times := (env.files.modified? path).toList

theorem opens_made {env : Surroundings} (good : (env.settings path).toOption.isSome = true) :
    Opens path (made env path) := by
  refine ⟨?_, rfl, ?_⟩
  · cases hload : env.settings path with
    | error f => simp [hload, Except.toOption] at good
    | ok s => simp [Manager.ofFile, made, hload, Except.map, Except.toOption]
  · simp only [made]
    cases env.files.modified? path <;> rfl

/-- A call comes to its last step. -/
def call (w : Watched) : Watched :=
  w.act .call |>.act (.attempt 0 0) |>.act (.attempt 0 0)

/-- The loop sleeps and wakes. -/
def wake (w : Watched) : Watched :=
  w.act (.round 0) |>.act (.round (Span.seconds 5))

/-- The loop looks at the file. -/
def look (w : Watched) : Watched :=
  w.act (.round (Span.seconds 5))

theorem times_look : w.look.times = w.times := rfl

theorem reaches_call : Reaches path w w.call :=
  .tail (.tail (.single (.act _)) (.act _)) (.act _)

theorem reaches_wake : Reaches path w w.wake :=
  .tail (.single (.act _)) (.act _)

/-- An edit that comes after the launch is seen by the next iteration. -/
theorem edit_after_launch_is_seen :
    ∃ opening launched woken now : Watched, opening.Opens "a.json" ∧
      Launches "a.json" opening launched ∧ Reaches "a.json" launched woken ∧
      woken.phase? = some .checking ∧ Reaches "a.json" woken now ∧
      now.phase? = some .sampling ∧ now.times = woken.times ∧ Current "a.json" now ∧
      opening.scene.manager.settings.graceSeconds = 300 ∧
      now.scene.manager.settings.graceSeconds = 60 := by
  let opening := made ⟨bare, []⟩ "a.json"
  let launched := opening.call.act (.attempt 0 0)
  let woken := (launched.write ⟨minute, []⟩ 1).wake
  obtain ⟨hready, hlaunched, hbegins, hreads, hfirst, hlast⟩ :
      opening.call.scene.manager.loop = none ∧ launched.scene.manager.loop.isSome = true ∧
      woken.phase? = some .checking ∧ woken.look.look.phase? = some .sampling ∧
      opening.scene.manager.settings.graceSeconds = 300 ∧
      woken.look.look.scene.manager.settings.graceSeconds = 60 := by decide +kernel
  have opens : opening.Opens "a.json" := opens_made (by decide +kernel)
  have launch : Launches "a.json" opening launched :=
    ⟨opening.call, reaches_call, hready, .act _, hlaunched⟩
  have edit : Step "a.json" launched (launched.write ⟨minute, []⟩ 1) :=
    .write (by decide +kernel) (by decide +kernel)
  have run : Reaches "a.json" launched woken := .head edit reaches_wake
  have iteration : Reaches "a.json" woken woken.look.look := .tail (.single (.act _)) (.act _)
  have hquiet : woken.look.look.times = woken.times := times_look.trans times_look
  have hrule := (settings_after_reload opens (launch.reaches.trans run) hbegins (by decide)
    iteration hreads .refl hquiet).2 launched launch run
  have hedited : woken.look.look.times ≠ launched.times := by decide +kernel
  exact ⟨opening, launched, woken, woken.look.look, opens, launch, run, hbegins, iteration, hreads,
    hquiet, hrule.1 (.inr hedited), hfirst, hlast⟩

/-- **An edit can be missed.** An edit that comes between the making of the manager and the launch
of the loop is not seen by an iteration that comes later, although the file is good. -/
theorem edit_before_launch_is_missed :
    ∃ opening launched woken now : Watched, opening.Opens "a.json" ∧
      Launches "a.json" opening launched ∧ Reaches "a.json" launched woken ∧
      woken.phase? = some .checking ∧ Reaches "a.json" woken now ∧
      now.phase? = some .sampling ∧ now.times = woken.times ∧
      (now.scene.env.settings "a.json").toOption.map ConditionSettings.graceSeconds = some 60 ∧
      now.scene.manager.settings.graceSeconds = 300 := by
  let opening := made ⟨bare, []⟩ "a.json"
  let edited := opening.write ⟨minute, []⟩ 1
  let launched := edited.call.act (.attempt 0 0)
  let woken := launched.wake
  obtain ⟨hready, hlaunched, hbegins, hlooked, hfile, hforce⟩ :
      edited.call.scene.manager.loop = none ∧ launched.scene.manager.loop.isSome = true ∧
      woken.phase? = some .checking ∧ woken.look.phase? = some .sampling ∧
      (woken.look.scene.env.settings "a.json").toOption.map ConditionSettings.graceSeconds =
        some 60 ∧
      woken.look.scene.manager.settings.graceSeconds = 300 := by decide +kernel
  have opens : opening.Opens "a.json" := opens_made (by decide +kernel)
  have edit : Step "a.json" opening edited := .write (by decide +kernel) (by decide +kernel)
  have launch : Launches "a.json" opening launched :=
    ⟨edited.call, .head edit reaches_call, hready, .act _, hlaunched⟩
  have iteration : Reaches "a.json" woken woken.look := .single (.act _)
  exact ⟨opening, launched, woken, woken.look, opens, launch, reaches_wake, hbegins, iteration,
    hlooked, times_look, hfile, hforce⟩

end Watched

end NodePressure.Condition
