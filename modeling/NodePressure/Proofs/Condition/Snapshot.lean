import NodePressure.Proofs.Condition.Reload

/-!
# NodePressure.Proofs.Condition.Snapshot - what is published, and what it is compared with

A `Station` is a manager with the telemetry that takes up its notes. Whatever becomes of it, its
loop draws samples; what the manager publishes is the last good one (`lastGood`), and the condition
source counts the failures since (`failures`). A reload that fails changes nothing; a good one keeps
the sampler with the counters of the last good sample if the root stays the same, and begins with a
fresh one if not, whose first good sample shows no rates (`snapshot_is_last_good`).
-/

namespace NodePressure.Condition

/-- A manager, with the telemetry that takes up what it tells. -/
structure Station where
  manager : Manager
  telemetry : Telemetry

/-- What may happen to a station. -/
inductive Move
  /-- The loop makes a step, in its surroundings and at a time of both clocks. -/
  | turn (env : Surroundings) (now : Moment) (clock : Int)
  /-- The settings are replaced. -/
  | update (settings : ConditionSettings)
  /-- The loop is told to end. -/
  | stop

/-- A sample that was drawn: the thresholds read for it, and its outcome. -/
abbrev Drawn := Thresholds × Except ConditionFault Host.Usage

namespace Station

/-- What becomes of a station. -/
def move (s : Station) : Move → Station
  | .turn env now clock =>
    let (m, notes) := s.manager.step env now
    ⟨m, s.telemetry.takeAll clock notes⟩
  | .update settings => { s with manager := s.manager.update settings }
  | .stop => { s with manager := s.manager.stop }

/-- What becomes of a station after some moves. -/
def run (s : Station) (moves : List Move) : Station :=
  moves.foldl move s

/-- The sample that is drawn in a move, if there is one. -/
def draws (s : Station) : Move → List Drawn
  | .turn env now _ =>
    match s.manager.loop with
    | some l =>
      if l.phase = .sampling then
        [(s.manager.settings.thresholds, (l.sampler.sample env.files now).1)]
      else []
    | none => []
  | .update _ | .stop => []

/-- The samples that are drawn in some moves. -/
def samples (s : Station) : List Move → List Drawn
  | [] => []
  | mv :: moves => s.draws mv ++ (s.move mv).samples moves

end Station

/-- The last good sample, given the one before them. -/
def lastGood (first : Thresholds × Host.Usage) : List Drawn → Thresholds × Host.Usage
  | [] => first
  | (t, .ok u) :: r => lastGood (t, u) r
  | (_, .error _) :: r => lastGood first r

/-- The failures since the last good sample, given those before them. -/
def failures (n : Nat) : List Drawn → Nat
  | [] => n
  | (_, .ok _) :: r => failures 0 r
  | (_, .error _) :: r => failures (n + 1) r

/-- The first good sample, if there is one. -/
def firstGood? : List Drawn → Option Host.Usage
  | [] => none
  | (_, .ok u) :: _ => some u
  | (_, .error _) :: r => firstGood? r

variable {s : Station} {m : Manager} {l : Sampling} {env : Surroundings} {now : Moment}
  {clock : Int} {moves : List Move} {first : Thresholds × Host.Usage} {n : Nat}
  {ds ds' : List Drawn}

theorem lastGood_append : lastGood first (ds ++ ds') = lastGood (lastGood first ds) ds' := by
  induction ds generalizing first with
  | nil => rfl
  | cons d ds ih =>
    obtain ⟨t, f | u⟩ := d
    · exact ih
    · exact ih

theorem failures_append : failures n (ds ++ ds') = failures (failures n ds) ds' := by
  induction ds generalizing n with
  | nil => rfl
  | cons d ds ih =>
    obtain ⟨t, f | u⟩ := d
    · exact ih
    · exact ih

/-! ## Turns of the loop -/

/-- Besides reading the settings and taking a sample, the loop only goes on. -/
theorem step_of_other (env : Surroundings) (now : Moment) (hloop : m.loop = some l)
    (hloading : l.phase ≠ .loading) (hsampling : l.phase ≠ .sampling) :
    ∃ l', l'.sampler = l.sampler ∧ m.step env now = ({ m with loop := some l' }, []) := by
  have hsame : { m with loop := some l } = m := by rw [← hloop]
  cases hp : l.phase with
  | loading => exact absurd hp hloading
  | sampling => exact absurd hp hsampling
  | resting =>
    refine ⟨{ l with phase := if l.told then .ended else .sleeping (now + m.settings.interval) },
      rfl, ?_⟩
    simp [Manager.step, hloop, hp, Manager.rest]
  | sleeping wakes =>
    by_cases hdue : wakes ≤ now
    · refine ⟨{ l with phase := .checking }, rfl, ?_⟩
      simp [Manager.step, hloop, hp, hdue]
    · refine ⟨l, rfl, ?_⟩
      simp [Manager.step, hloop, hp, hdue, hsame]
  | checking =>
    by_cases hseen : m.path.isNone || m.modified env = l.modified
    · refine ⟨{ l with phase := .sampling }, rfl, ?_⟩
      simp only [Manager.step, hloop, hp, Manager.check, if_pos hseen]
    · refine ⟨{ l with modified := m.modified env, phase := .loading }, rfl, ?_⟩
      simp only [Manager.step, hloop, hp, Manager.check, if_neg hseen]
  | ended =>
    refine ⟨l, rfl, ?_⟩
    simp [Manager.step, hloop, hp, hsame]

/-- What a turn does to a station, and what is drawn in it. -/
inductive Turned (env : Surroundings) (now : Moment) (clock : Int) (s : Station) :
    Station → List Drawn → Prop
  /-- There is no loop. -/
  | idle (loop : s.manager.loop = none) : Turned env now clock s s []
  /-- A good sample is published. -/
  | good {l : Sampling} {u : Host.Usage} {sampler : Sampler} (loop : s.manager.loop = some l)
      (sample : l.sampler.sample env.files now = (.ok u, sampler)) :
      Turned env now clock s
        ⟨{ s.manager with
            availability := s.manager.settings.thresholds.evaluate u
            loop := some { l with sampler, phase := .resting } },
          s.telemetry.takeAll clock [.report conditionPart .healthy]⟩
        [(s.manager.settings.thresholds, .ok u)]
  /-- A bad one leaves the sampler as it was. -/
  | bad {l : Sampling} {f : ConditionFault} (loop : s.manager.loop = some l)
      (sample : l.sampler.sample env.files now = (.error f, l.sampler)) :
      Turned env now clock s
        ⟨{ s.manager with loop := some { l with phase := .resting } },
          s.telemetry.takeAll clock [.report conditionPart (.failed f.message)]⟩
        [(s.manager.settings.thresholds, .error f)]
  /-- The settings are read again. -/
  | reload {l : Sampling} (loop : s.manager.loop = some l) :
      Turned env now clock s ⟨s.manager.reload env l, s.telemetry⟩ []
  /-- The loop goes on. -/
  | other {l l' : Sampling} (loop : s.manager.loop = some l) (sampler : l'.sampler = l.sampler) :
      Turned env now clock s ⟨{ s.manager with loop := some l' }, s.telemetry⟩ []

theorem turned (env : Surroundings) (now : Moment) (clock : Int) (s : Station) :
    Turned env now clock s (s.move (.turn env now clock)) (s.draws (.turn env now clock)) := by
  cases hloop : s.manager.loop with
  | none =>
    have hstep : s.manager.step env now = (s.manager, []) := by simp [Manager.step, hloop]
    simp only [Station.move, Station.draws, hloop, hstep]
    exact .idle hloop
  | some l =>
    by_cases hsampling : l.phase = .sampling
    · have hstep : s.manager.step env now = s.manager.sample env now l := by
        simp only [Manager.step, hloop, hsampling]
      simp only [Station.move, Station.draws, hloop, if_pos hsampling, hstep]
      cases hmeasure : Host.measure env.files l.sampler.root with
      | ok measured =>
        have hsample : l.sampler.sample env.files now = l.sampler.take now (.ok measured) := by
          rw [Sampler.sample, hmeasure]
        simp only [Manager.sample, hsample]
        exact .good hloop hsample
      | error f =>
        have hsample : l.sampler.sample env.files now = (.error f, l.sampler) := by
          rw [Sampler.sample, hmeasure, Sampler.take]
        simp only [Manager.sample, hsample]
        exact .bad hloop hsample
    · by_cases hloading : l.phase = .loading
      · have hstep : s.manager.step env now = (s.manager.reload env l, []) := by
          simp only [Manager.step, hloop, hloading]
        simp only [Station.move, Station.draws, hloop, if_neg hsampling, hstep]
        exact .reload hloop
      · obtain ⟨l', hsampler, hstep⟩ := step_of_other env now hloop hloading hsampling
        simp only [Station.move, Station.draws, hloop, if_neg hsampling, hstep]
        exact .other hloop hsampler

/-- The sampler that the loop has after reading settings, if they are good. -/
def samplerFor (l : Sampling) (new : ConditionSettings) : Sampler :=
  if FileTree.normal new.procRoot = FileTree.normal l.sampler.root then l.sampler
  else .fresh new.procRoot

/-- What reading the settings does. -/
theorem reload_eq (env : Surroundings) (m : Manager) (l : Sampling) :
    m.reload env l =
      match m.path.map env.settings with
      | some (.ok new) =>
        { m with
          settings := new
          loop := some { l with sampler := samplerFor l new, phase := .sampling } }
      | _ => { m with loop := some { l with phase := .sampling } } := by
  unfold Manager.reload
  cases m.path with
  | none => rfl
  | some path => cases h : env.settings path <;> simp [h, samplerFor]

/-! ## What is published -/

/-- What the manager publishes and telemetry knows, after the last good sample and some failures. -/
structure Shows (s : Station) (last : Thresholds × Host.Usage) (n : Nat) : Prop where
  availability : s.manager.availability = last.1.evaluate last.2
  entry : ∃ h, s.telemetry.health.components.get? conditionPart = some h ∧
    h.failures = min n Number.max32 ∧ h.status = if n = 0 then .healthy else .degraded

/-- What tells nothing about the condition source and publishes nothing changes nothing. -/
theorem Shows.keep {last : Thresholds × Host.Usage} (h : Shows s last n) {m' : Manager}
    (hm : m'.availability = s.manager.availability) : Shows ⟨m', s.telemetry⟩ last n :=
  ⟨hm.trans h.availability, h.entry⟩

/-- The entry of the condition source after a report. -/
theorem entry_report (t : Telemetry) (clock : Int) (r : Report) :
    (t.takeAll clock [.report conditionPart r]).health.components.get? conditionPart =
      some (r.entry (t.health.components.get? conditionPart) clock) := by
  simp [Telemetry.takeAll, Telemetry.take, Registry.report]

/-- A good sample is published, and the condition source is healthy. -/
theorem Shows.good {last : Thresholds × Host.Usage} (t : Telemetry) (clock : Int) {m : Manager}
    (hm : m.availability = last.1.evaluate last.2) :
    Shows ⟨m, t.takeAll clock [.report conditionPart .healthy]⟩ last 0 :=
  ⟨hm, _, entry_report t clock .healthy, by simp [Report.entry], rfl⟩

/-- A bad sample is counted. -/
theorem Shows.bad {last : Thresholds × Host.Usage} (h : Shows s last n) (clock : Int) {m : Manager}
    (hm : m.availability = s.manager.availability) (message : String) :
    Shows ⟨m, s.telemetry.takeAll clock [.report conditionPart (.failed message)]⟩ last
      (n + 1) := by
  obtain ⟨havailability, entry, hentry, hfailures, -⟩ := h
  refine ⟨hm.trans havailability, _, entry_report s.telemetry clock (.failed message), ?_, ?_⟩
  · rw [hentry]
    simp only [Report.entry, Option.map_some, Option.getD_some, hfailures, Number.next32]
    omega
  · simp [Report.entry]

theorem availability_reload (env : Surroundings) (m : Manager) (l : Sampling) :
    (m.reload env l).availability = m.availability := by
  rw [reload_eq]
  split <;> rfl

theorem availability_stop (m : Manager) : m.stop.availability = m.availability := by
  unfold Manager.stop
  split
  · split <;> rfl
  · rfl

theorem sampler_stop (m : Manager) :
    m.stop.loop.map Sampling.sampler = m.loop.map Sampling.sampler := by
  unfold Manager.stop
  split
  · rename_i l hl
    split <;> simp [hl]
  · rfl

/-- Every move publishes what is good, and counts what is not. -/
theorem Shows.move {last : Thresholds × Host.Usage} (h : Shows s last n) (mv : Move) :
    Shows (s.move mv) (lastGood last (s.draws mv)) (failures n (s.draws mv)) := by
  cases mv with
  | update settings => exact h.keep rfl
  | stop => exact h.keep (availability_stop s.manager)
  | turn env now clock =>
    have hturn := turned env now clock s
    generalize s.move (.turn env now clock) = s' at hturn ⊢
    generalize s.draws (.turn env now clock) = ds at hturn ⊢
    cases hturn with
    | idle loop => exact h.keep rfl
    | good loop sample => exact .good s.telemetry clock rfl
    | @bad l f loop sample => exact h.bad clock (by rfl) f.message
    | @reload l loop => exact h.keep (availability_reload env s.manager l)
    | other loop sampler => exact h.keep rfl

theorem Shows.run {last : Thresholds × Host.Usage} (h : Shows s last n) (moves : List Move) :
    Shows (s.run moves) (lastGood last (s.samples moves)) (failures n (s.samples moves)) := by
  induction moves generalizing s last n with
  | nil => exact h
  | cons mv moves ih =>
    rw [Station.samples, lastGood_append, failures_append]
    exact ih (h.move mv)

/-! ## What samples are compared with -/

/-- The loop has no sample to compare the next one with. -/
def Station.Bare (s : Station) : Prop :=
  ∀ l, s.manager.loop = some l → l.sampler.previous = none

/-- A station is bare if its loop has no sample. -/
theorem bare_of_loop {telemetry : Telemetry} {a : Availability} {settings : ConditionSettings}
    {path : Option String} {started : Bool} (hnone : l.sampler.previous = none) :
    Station.Bare ⟨⟨settings, path, a, started, some l⟩, telemetry⟩ := by
  intro l' hl'
  obtain rfl := Option.some_inj.mp hl'
  exact hnone

/-- Without a sample to compare it with, a good one shows nothing but memory. -/
theorem usage_of_none {sampler sampler' : Sampler} {files : FileTree} {u : Host.Usage}
    (hnone : sampler.previous = none) (h : sampler.sample files now = (.ok u, sampler')) :
    ∃ memory, u = Host.Usage.first memory := by
  unfold Sampler.sample at h
  cases hmeasure : Host.measure files sampler.root with
  | error f => simp [hmeasure, Sampler.take] at h
  | ok measured =>
    obtain ⟨counters, memory⟩ := measured
    rw [hmeasure, Sampler.take, hnone] at h
    exact ⟨memory, (Except.ok.inj (Prod.mk.inj h).1).symm⟩

theorem previous_samplerFor (hnone : l.sampler.previous = none) (new : ConditionSettings) :
    (samplerFor l new).previous = none := by
  unfold samplerFor
  split
  · exact hnone
  · rfl

/-- Until a sample is good there is none to compare the next one with, and the good one shows
nothing but memory. -/
theorem Station.Bare.move (h : s.Bare) (mv : Move) :
    (firstGood? (s.draws mv) = none ∧ (s.move mv).Bare) ∨
      ∃ memory, firstGood? (s.draws mv) = some (Host.Usage.first memory) := by
  cases mv with
  | update settings => exact .inl ⟨rfl, h⟩
  | stop =>
    refine .inl ⟨rfl, fun l' (hl' : s.manager.stop.loop = some l') => ?_⟩
    have hsampler := sampler_stop s.manager
    rw [hl'] at hsampler
    obtain ⟨l, hloop, hsame⟩ := Option.map_eq_some_iff.mp hsampler.symm
    rw [← hsame]
    exact h l hloop
  | turn env now clock =>
    have hturn := turned env now clock s
    generalize s.move (.turn env now clock) = s' at hturn ⊢
    generalize s.draws (.turn env now clock) = ds at hturn ⊢
    cases hturn with
    | idle loop => exact .inl ⟨rfl, h⟩
    | good loop sample =>
      obtain ⟨memory, rfl⟩ := usage_of_none (h _ loop) sample
      exact .inr ⟨memory, rfl⟩
    | bad loop sample =>
      have hnone := h _ loop
      exact .inl ⟨rfl, bare_of_loop hnone⟩
    | other loop sampler =>
      have hnone := h _ loop
      exact .inl ⟨rfl, bare_of_loop (sampler ▸ hnone)⟩
    | reload loop =>
      have hnone := h _ loop
      refine .inl ⟨rfl, ?_⟩
      rw [reload_eq]
      split
      · exact bare_of_loop (previous_samplerFor hnone _)
      · exact bare_of_loop hnone

theorem firstGood?_append :
    firstGood? (ds ++ ds') = (firstGood? ds).or (firstGood? ds') := by
  induction ds with
  | nil => rfl
  | cons d ds ih =>
    obtain ⟨t, f | u⟩ := d
    · exact ih
    · rfl

/-- However long it takes, the first good sample shows nothing but memory. -/
theorem Station.Bare.firstGood (h : s.Bare) {u : Host.Usage}
    (hu : firstGood? (s.samples moves) = some u) : ∃ memory, u = Host.Usage.first memory := by
  induction moves generalizing s with
  | nil => cases hu
  | cons mv moves ih =>
    rw [Station.samples, firstGood?_append] at hu
    rcases h.move mv with ⟨hnone, hbare⟩ | ⟨memory, hfirst⟩
    · rw [hnone, Option.none_or] at hu
      exact ih hbare hu
    · rw [hfirst, Option.some_or] at hu
      exact ⟨memory, (Option.some_inj.mp hu).symm⟩

/-! ## All runs -/

/-- A call that succeeds is the first one, and publishes the good sample that it has taken. -/
theorem start_ok {notes : List Note} {m' : Manager} (h : m.start env now = (m', .ok (), notes)) :
    ∃ u, ((Sampler.fresh m.settings.procRoot).sample env.files now).1 = .ok u ∧
      m'.availability = m.settings.thresholds.evaluate u ∧
      notes = [.report conditionPart .healthy] := by
  cases hstarted : m.started with
  | true =>
    have hclaim : m.attempt env now .fresh = (m, .ended (.error .alreadyStarted), []) := by
      simp [Manager.attempt, Manager.claim, hstarted]
    rw [Manager.start, hclaim] at h
    simp [Manager.attempt] at h
  | false =>
    have hclaim : m.attempt env now .fresh =
        ({ m with started := true }, .claimed m.settings, []) := by
      simp [Manager.attempt, Manager.claim, hstarted]
    rcases hsample : (Sampler.fresh m.settings.procRoot).sample env.files now with ⟨f | u, sampler⟩
    · have hfirst : Manager.firstSample env now m.settings =
          .sampled m.settings (.error f) sampler := by
        rw [Manager.firstSample, hsample]
      rw [Manager.start, hclaim] at h
      simp [Manager.attempt, hfirst, Except.map] at h
    · have hfirst : Manager.firstSample env now m.settings =
          .sampled m.settings (.ok u) sampler := by
        rw [Manager.firstSample, hsample]
      rw [Manager.start, hclaim] at h
      simp only [Manager.attempt, hfirst, Manager.conclude, Except.map, Prod.mk.injEq,
        true_and] at h
      obtain ⟨rfl, rfl⟩ := h
      exact ⟨u, rfl, rfl, rfl⟩

/-- A usage shows no rates. -/
def NoRates (u : Host.Usage) : Prop :=
  u.cpuBusyPercent = 0.0 ∧ u.diskBusyPercent = 0.0 ∧ u.receivedPerSecond = 0.0 ∧
    u.sentPerSecond = 0.0

/-- What becomes of a station when its loop reads the settings again. If that fails, settings and
sampler stay. Good settings are taken over; the sampler stays if the root does, and else there is a
fresh one, whose first good sample shows no rates. -/
def Station.Reloads (s s' : Station) (l : Sampling) : Except SettingsFault ConditionSettings → Prop
  | .error _ =>
    s'.manager.settings = s.manager.settings ∧
    s'.manager.loop.map Sampling.sampler = some l.sampler
  | .ok new =>
    s'.manager.settings = new ∧
    if FileTree.normal new.procRoot = FileTree.normal l.sampler.root then
      s'.manager.loop.map Sampling.sampler = some l.sampler
    else
      s'.manager.loop.map Sampling.sampler = some (.fresh new.procRoot) ∧
      ∀ more u, firstGood? (s'.samples more) = some u → NoRates u

theorem reloads_turn {path : String} (hloop : s.manager.loop = some l) (hphase : l.phase = .loading)
    (hpath : s.manager.path = some path) :
    s.Reloads (s.move (.turn env now clock)) l (env.settings path) := by
  have hmove : s.move (.turn env now clock) = ⟨s.manager.reload env l, s.telemetry⟩ := by
    simp only [Station.move, Manager.step, hloop, hphase]
    rfl
  rw [hmove]
  cases hload : env.settings path with
  | error f =>
    have hreload : s.manager.reload env l =
        { s.manager with loop := some { l with phase := .sampling } } := by
      simp only [reload_eq, hpath, Option.map_some, hload]
    rw [hreload]
    exact ⟨rfl, rfl⟩
  | ok new =>
    have hreload : s.manager.reload env l =
        { s.manager with
          settings := new
          loop := some { l with sampler := samplerFor l new, phase := .sampling } } := by
      simp only [reload_eq, hpath, Option.map_some, hload]
    rw [hreload]
    refine ⟨rfl, ?_⟩
    by_cases hroot : FileTree.normal new.procRoot = FileTree.normal l.sampler.root
    · rw [if_pos hroot]
      simp [samplerFor, hroot]
    · have hfresh : samplerFor l new = .fresh new.procRoot := if_neg hroot
      rw [if_neg hroot, hfresh]
      refine ⟨rfl, fun more u hu => ?_⟩
      have hbare : Station.Bare ⟨{ s.manager with
          settings := new
          loop := some { l with sampler := .fresh new.procRoot, phase := .sampling } },
          s.telemetry⟩ := bare_of_loop rfl
      obtain ⟨memory, rfl⟩ := hbare.firstGood hu
      exact ⟨rfl, rfl, rfl, rfl⟩

/-- What holds of a started station after some moves, given the first sample. -/
structure Snapshot (first : Thresholds × Host.Usage) (start : Station) (moves : List Move) :
    Prop where
  /-- The manager publishes what the last good sample leaves available by the thresholds read for
  it. -/
  published : (start.run moves).manager.availability =
    (lastGood first (start.samples moves)).1.evaluate (lastGood first (start.samples moves)).2
  /-- The condition source counts the failures since, as far as 32 bits go, and is healthy if there
  are none. -/
  counted : ∃ entry,
    (start.run moves).telemetry.health.components.get? conditionPart = some entry ∧
    entry.failures = min (failures 0 (start.samples moves)) Number.max32 ∧
    entry.status = if failures 0 (start.samples moves) = 0 then .healthy else .degraded
  /-- What reading the settings again does. -/
  reloads : ∀ l path env now clock, (start.run moves).manager.loop = some l →
    l.phase = .loading → (start.run moves).manager.path = some path →
    (start.run moves).Reloads ((start.run moves).move (.turn env now clock)) l (env.settings path)

/-- **The snapshot is the last good sample.** When a call has started the manager, whatever its loop
meets with and whatever settings it is given, it publishes the last good sample; failures are
counted, a reload that fails changes nothing, and one that succeeds drops what samples are compared
with exactly if the root becomes another one. -/
theorem snapshot_is_last_good {notes : List Note} {m' : Manager} (telemetry : Telemetry)
    (clock : Int) (h : m.start env now = (m', .ok (), notes)) (moves : List Move) :
    ∃ u, ((Sampler.fresh m.settings.procRoot).sample env.files now).1 = .ok u ∧
      Snapshot (m.settings.thresholds, u) ⟨m', telemetry.takeAll clock notes⟩ moves := by
  obtain ⟨u, hsample, hpublished, rfl⟩ := start_ok h
  have hfirst : Shows ⟨m', telemetry.takeAll clock [.report conditionPart .healthy]⟩
      (m.settings.thresholds, u) 0 := .good telemetry clock hpublished
  have hshows := hfirst.run moves
  exact ⟨u, hsample, hshows.availability, hshows.entry, fun l path env now clock => reloads_turn⟩

/-- The second sample fails, since the host has lost its files; then the settings file turns up with
another root. -/
theorem failure_then_new_root :
    ∃ (m m' : Manager) (env env' : Surroundings) (notes : List Note) (moves : List Move)
      (l : Sampling) (new : ConditionSettings),
      let start : Station := ⟨m', (Telemetry.fresh "n").takeAll 0 notes⟩
      let s := start.run moves
      m.start env 0 = (m', .ok (), notes) ∧ failures 0 (start.samples moves) = 1 ∧
      (∃ entry, s.telemetry.health.components.get? conditionPart = some entry ∧
        entry.failures = 1 ∧ entry.status = .degraded) ∧
      s.manager.loop = some l ∧ env'.settings "a.json" = .ok new ∧
      (s.move (.turn env' (Span.seconds 10) 0)).manager.loop.map Sampling.sampler =
        some (.fresh new.procRoot) := by
  let m : Manager := .fresh .default (some "a.json")
  let env : Surroundings := ⟨Watched.bare, []⟩
  let lost : Surroundings := ⟨FileTree.empty, []⟩
  let env' : Surroundings :=
    ⟨Watched.bare.putText "a.json" "\x7b\"condition.proc_root\":\"/host\"\x7d" 1, []⟩
  let moves : List Move := [.turn env 0 0, .turn env (Span.seconds 5) 0,
    .turn env (Span.seconds 5) 0, .turn lost (Span.seconds 5) 0, .turn env' (Span.seconds 5) 0,
    .turn env' (Span.seconds 10) 0, .turn env' (Span.seconds 10) 0]
  have hstarted : ∃ m' notes, m.start env 0 = (m', .ok (), notes) ∧
      let start : Station := ⟨m', (Telemetry.fresh "n").takeAll 0 notes⟩
      failures 0 (start.samples moves) = 1 ∧ (start.run moves).manager.path = some "a.json" ∧
        (start.run moves).manager.loop.map (fun l => (l.phase, l.sampler.root)) =
          some (.loading, "/proc") := by
    refine ⟨(m.start env 0).1, (m.start env 0).2.2, ?_, by decide +kernel⟩
    have hresult : (m.start env 0).2.1.toOption = some () := by decide +kernel
    generalize m.start env 0 = started at hresult ⊢
    obtain ⟨m', f | u, notes⟩ := started
    · cases hresult
    · rfl
  have hfile : (env'.settings "a.json").toOption.map ConditionSettings.procRoot = some "/host" := by
    decide +kernel
  clear_value m env env' moves
  obtain ⟨m', notes, hok, hfailures, hpath, hloop⟩ := hstarted
  obtain ⟨l, hl, hphase⟩ := Option.map_eq_some_iff.mp hloop
  obtain ⟨hphase, hroot⟩ := Prod.mk.inj hphase
  obtain ⟨new, hnew, hother⟩ := Option.map_eq_some_iff.mp hfile
  have hload : env'.settings "a.json" = .ok new := by
    cases hload : env'.settings "a.json" with
    | error f => simp [hload, Except.toOption] at hnew
    | ok s => simpa [hload, Except.toOption] using hnew
  have hdiffers : ¬ FileTree.normal new.procRoot = FileTree.normal l.sampler.root := by
    rw [hother, hroot]
    decide +kernel
  obtain ⟨u, -, hsnapshot⟩ := snapshot_is_last_good (.fresh "n") 0 hok moves
  obtain ⟨entry, hentry, hcount, hstatus⟩ := hsnapshot.counted
  rw [hfailures, Nat.min_eq_left (by decide)] at hcount
  rw [hfailures, if_neg Nat.one_ne_zero] at hstatus
  have hreload := hsnapshot.reloads l "a.json" env' (Span.seconds 10) 0 hl hphase hpath
  rw [hload] at hreload
  have hfresh := hreload.2
  rw [if_neg hdiffers] at hfresh
  exact ⟨m, m', env, env', notes, moves, l, new, hok, hfailures, ⟨entry, hentry, hcount, hstatus⟩,
    hl, hload, hfresh.1⟩

end NodePressure.Condition
