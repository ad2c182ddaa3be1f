import NodePressure.Condition.Manager

/-!
# NodePressure.Proofs.Condition.Scene - a manager and the calls that start it

Any number of calls may start a manager, with their steps between one another and between those of
the loop: a `Deed` is one such step. It leaves the settings and the loop as they are, or it launches
the loop, or it is a turn of the loop (`Scene.effect_perform`). The flag of the manager counts the
calls under way and the loop (`Scene.Exclusive`), so a loop is launched only where there is none.
-/

namespace NodePressure

/-- The call has claimed the manager and has not ended. -/
def Attempt.isUnderway : Attempt → Bool
  | .claimed _ | .sampled .. => true
  | .fresh | .ended _ => false

/-- The loop is in none of the steps of an iteration that follow the look at the file. -/
def Sampling.IsBetween (l : Sampling) : Prop :=
  l.phase ≠ .loading ∧ l.phase ≠ .sampling

namespace Condition

/-! ## Turns of the loop -/

/-- What a turn of the loop does to the settings and to its own place. -/
inductive Turn (env : Surroundings) (path : String) :
    ConditionSettings → Sampling → ConditionSettings → Sampling → Prop
  /-- It stays where it is, or goes on outside of an iteration. -/
  | idle {s : ConditionSettings} {l l' : Sampling} (modified : l'.modified = l.modified)
      (phase : l'.phase = l.phase ∨ l.phase ≠ .loading ∧ l'.IsBetween) : Turn env path s l s l'
  /-- It looks when the file has changed. -/
  | check {s : ConditionSettings} {l l' : Sampling} (phase : l.phase = .checking)
      (modified : l'.modified = env.files.modified? path)
      (next : l'.phase = if env.files.modified? path = l.modified then .sampling else .loading) :
      Turn env path s l s l'
  /-- It reads the settings, which are taken over if they are good. -/
  | reload {s : ConditionSettings} {l l' : Sampling} (phase : l.phase = .loading)
      (modified : l'.modified = l.modified) (next : l'.phase = .sampling) :
      Turn env path s l ((env.settings path).toOption.getD s) l'

variable {env : Surroundings} {path : String} {m : Manager} {l : Sampling}

namespace Turn

variable {s s' : ConditionSettings} {l' : Sampling}

/-- A turn puts no time on record but the one that the file has. -/
theorem modified (turn : Turn env path s l s' l') :
    l'.modified = l.modified ∨ l'.modified = env.files.modified? path := by
  cases turn with
  | idle modified _ => exact .inl modified
  | check _ modified _ => exact .inr modified
  | reload _ modified _ => exact .inl modified

/-- Settings that are those of the file whenever its time is on record stay so. -/
theorem current (turn : Turn env path s l s' l')
    (h : l.phase ≠ .loading → l.modified = env.files.modified? path →
      ∀ x, env.settings path = .ok x → s = x)
    (hphase : l'.phase ≠ .loading) (hrecorded : l'.modified = env.files.modified? path) :
    ∀ x, env.settings path = .ok x → s' = x := by
  cases turn with
  | idle modified phase =>
    refine h ?_ (modified.symm.trans hrecorded)
    rcases phase with phase | ⟨phase, -⟩
    · rwa [← phase]
    · exact phase
  | check phase modified next =>
    by_cases hsame : env.files.modified? path = l.modified
    · exact h (by simp [phase]) hsame.symm
    · exact absurd (next.trans (if_neg hsame)) hphase
  | reload _ _ _ =>
    intro x hx
    rw [hx]
    rfl

/-- While the time on record is that of the file, the loop does not read the settings. -/
theorem upToDate (turn : Turn env path s l s' l')
    (hrecorded : l.modified = env.files.modified? path) (hphase : l.phase ≠ .loading) :
    l'.modified = env.files.modified? path ∧ l'.phase ≠ .loading ∧ s' = s := by
  cases turn with
  | idle modified phase =>
    refine ⟨modified.trans hrecorded, ?_, rfl⟩
    rcases phase with phase | ⟨-, between⟩
    · rwa [phase]
    · exact between.1
  | check _ modified next =>
    refine ⟨modified, ?_, rfl⟩
    rw [next, if_pos hrecorded.symm]
    decide
  | reload phase _ _ => exact absurd phase hphase

/-- A loop that goes into an iteration puts the time of the file on record. -/
theorem looked (turn : Turn env path s l s' l')
    (h : l.IsBetween ∨ l.modified = env.files.modified? path) :
    l'.IsBetween ∨ l'.modified = env.files.modified? path := by
  cases turn with
  | idle modified phase =>
    rw [modified]
    rcases phase with phase | ⟨-, between⟩
    · rwa [Sampling.IsBetween, phase]
    · exact .inl between
  | check _ modified _ => exact .inr modified
  | reload phase modified _ =>
    rw [modified]
    exact .inr (h.resolve_left fun between => between.1 phase)

end Turn

theorem turn_check (hpath : m.path = some path) (hphase : l.phase = .checking) :
    ∃ l', (m.check env l).loop = some l' ∧ Turn env path m.settings l m.settings l' := by
  have hmodified : m.modified env = env.files.modified? path := by simp [Manager.modified, hpath]
  by_cases h : env.files.modified? path = l.modified
  · have heq : m.check env l = { m with loop := some { l with phase := .sampling } } := by
      simp [Manager.check, hmodified, h]
    exact ⟨_, congrArg Manager.loop heq, .check hphase h.symm (if_pos h).symm⟩
  · have heq : m.check env l =
        { m with loop := some { l with modified := m.modified env, phase := .loading } } := by
      simp [Manager.check, hmodified, hpath, h]
    exact ⟨_, congrArg Manager.loop heq, .check hphase hmodified (if_neg h).symm⟩

theorem turn_reload (hpath : m.path = some path) (hphase : l.phase = .loading) :
    ∃ l', (m.reload env l).loop = some l' ∧
      Turn env path m.settings l (m.reload env l).settings l' := by
  cases hload : env.settings path with
  | error f =>
    have heq : m.reload env l = { m with loop := some { l with phase := .sampling } } := by
      simp [Manager.reload, hpath, hload]
    have turn : Turn env path m.settings l ((env.settings path).toOption.getD m.settings)
        { l with phase := .sampling } := .reload hphase rfl rfl
    rw [hload] at turn
    rw [heq]
    exact ⟨_, rfl, turn⟩
  | ok s =>
    obtain ⟨sampler, heq⟩ : ∃ sampler, m.reload env l =
        { m with settings := s, loop := some { l with sampler, phase := .sampling } } := by
      simp [Manager.reload, hpath, hload]
    have turn : Turn env path m.settings l ((env.settings path).toOption.getD m.settings)
        { l with sampler, phase := .sampling } := .reload hphase rfl rfl
    rw [hload] at turn
    rw [heq]
    exact ⟨_, rfl, turn⟩

/-- The loop of a manager goes on by a turn. -/
theorem turn_step (hpath : m.path = some path) (hloop : m.loop = some l) (now : Moment) :
    ∃ l', (m.step env now).1.loop = some l' ∧
      Turn env path m.settings l (m.step env now).1.settings l' := by
  cases hphase : l.phase with
  | resting =>
    simp only [Manager.step, hloop, hphase, Manager.rest]
    refine ⟨_, rfl, .idle rfl (.inr ⟨by simp [hphase], ?_⟩)⟩
    cases l.told <;> simp [Sampling.IsBetween]
  | sleeping wakes =>
    simp only [Manager.step, hloop, hphase]
    split
    · exact ⟨_, rfl, .idle rfl (.inr ⟨by simp [hphase], by simp [Sampling.IsBetween]⟩)⟩
    · exact ⟨l, hloop, .idle rfl (.inl rfl)⟩
  | checking =>
    simp only [Manager.step, hloop, hphase]
    have hsettings : (m.check env l).settings = m.settings := by
      unfold Manager.check
      split <;> rfl
    rw [hsettings]
    exact turn_check hpath hphase
  | loading =>
    simp only [Manager.step, hloop, hphase]
    exact turn_reload hpath hphase
  | sampling =>
    simp only [Manager.step, hloop, hphase, Manager.sample]
    have hidle : ∀ sampler, l.phase ≠ .loading ∧
        ({ l with sampler, phase := .resting } : Sampling).IsBetween := by
      simp [Sampling.IsBetween, hphase]
    split
    · exact ⟨_, rfl, .idle rfl (.inr (hidle _))⟩
    · exact ⟨_, rfl, .idle rfl (.inr (hidle _))⟩
  | ended =>
    simp only [Manager.step, hloop, hphase]
    exact ⟨l, rfl, .idle rfl (.inl rfl)⟩

/-- Steps of the loop keep the file of the settings, the flag of the manager, and a loop if there is
one. -/
theorem step_keeps (m : Manager) (env : Surroundings) (now : Moment) :
    (m.step env now).1.path = m.path ∧ (m.step env now).1.started = m.started ∧
      (m.step env now).1.loop.isSome = m.loop.isSome := by
  cases hloop : m.loop with
  | none => simp [Manager.step, hloop]
  | some l =>
    simp only [Manager.step, hloop, Manager.check, Manager.reload, Manager.rest, Manager.sample]
    repeat' split
    all_goals exact ⟨rfl, rfl, by simp [hloop]⟩

/-- A loop that is told to end ends, or goes on until it would sleep. -/
theorem turn_stop (hloop : m.loop = some l) :
    ∃ l', m.stop.loop = some l' ∧ Turn env path m.settings l m.stop.settings l' := by
  cases hphase : l.phase with
  | sleeping wakes =>
    simp only [Manager.stop, hloop, hphase]
    exact ⟨_, rfl, .idle rfl (.inr ⟨by simp [hphase], by simp [Sampling.IsBetween]⟩)⟩
  | _ =>
    simp only [Manager.stop, hloop, hphase]
    exact ⟨_, rfl, .idle rfl (.inl hphase.symm)⟩

theorem stop_keeps (m : Manager) :
    m.stop.path = m.path ∧ m.stop.started = m.started ∧ m.stop.loop.isSome = m.loop.isSome := by
  cases hloop : m.loop with
  | none => simp [Manager.stop, hloop]
  | some l =>
    simp only [Manager.stop, hloop]
    split
    all_goals exact ⟨rfl, rfl, rfl⟩

/-! ## Calls that start the manager -/

theorem attempt_path (m : Manager) (env : Surroundings) (now : Moment) (a : Attempt) :
    (m.attempt env now a).1.path = m.path := by
  cases a with
  | fresh =>
    simp only [Manager.attempt, Manager.claim]
    split <;> rfl
  | claimed settings => rfl
  | sampled settings usage sampler => cases usage <;> rfl
  | ended r => rfl

/-- A call that claims the manager raises the flag, one that fails lowers it, and one that succeeds
leaves its place to the loop. -/
theorem account_attempt {a : Attempt}
    (h : a.isUnderway = true → m.loop = none ∧ m.started = true) (env : Surroundings)
    (now : Moment) :
    (m.attempt env now a).2.1.isUnderway.toNat + (m.attempt env now a).1.loop.toList.length +
        m.started.toNat =
      a.isUnderway.toNat + m.loop.toList.length + (m.attempt env now a).1.started.toNat := by
  cases a with
  | fresh =>
    cases hstarted : m.started <;>
      simp [Manager.attempt, Manager.claim, Attempt.isUnderway, hstarted, Nat.add_comm]
  | claimed settings => rfl
  | sampled settings usage sampler =>
    obtain ⟨hloop, hstarted⟩ := h rfl
    cases usage <;>
      simp [Manager.attempt, Manager.conclude, Attempt.isUnderway, hloop, hstarted]
  | ended r => rfl

/-! ## Scenes -/

/-- A manager, the calls that start it in the order in which they were made, and what it can read.
-/
structure Scene where
  manager : Manager
  calls : List Attempt
  env : Surroundings

/-- Something that the manager or one of the calls does. -/
inductive Deed
  /-- Somebody calls. -/
  | call
  /-- A call goes on by one step. -/
  | attempt (i : Nat) (now : Moment)
  /-- The loop goes on by one step, if there is one. -/
  | round (now : Moment)
  | stop

namespace Scene

/-- The scene after a deed. -/
def perform (s : Scene) : Deed → Scene
  | .call => { s with calls := s.calls ++ [.fresh] }
  | .attempt i now =>
    match s.calls[i]? with
    | none => s
    | some a =>
      let r := s.manager.attempt s.env now a
      { s with manager := r.1, calls := s.calls.set i r.2.1 }
  | .round now => { s with manager := (s.manager.step s.env now).1 }
  | .stop => { s with manager := s.manager.stop }

/-- How many calls are under way. -/
def underway (s : Scene) : Nat := s.calls.countP Attempt.isUnderway

/-- One call is under way, or the loop was launched, if the manager counts as started; else neither
is so. -/
def Exclusive (s : Scene) : Prop :=
  s.underway + s.manager.loop.toList.length = s.manager.started.toNat

/-- What a deed does to the settings and to the loop. -/
inductive Effect (path : String) (s s' : Scene) : Prop
  | still (settings : s'.manager.settings = s.manager.settings)
      (loop : s'.manager.loop = s.manager.loop)
  | launch {l : Sampling} (call : 0 < s.underway)
      (settings : s'.manager.settings = s.manager.settings) (loop : s'.manager.loop = some l)
      (modified : l.modified = s.env.files.modified? path) (between : l.IsBetween)
  | turn {l l' : Sampling} (before : s.manager.loop = some l) (after : s'.manager.loop = some l')
      (turn : Turn s.env path s.manager.settings l s'.manager.settings l')

variable {s s' : Scene} {d : Deed}

theorem Exclusive.le_one (h : s.Exclusive) : s.underway + s.manager.loop.toList.length ≤ 1 := by
  rw [h]
  exact Bool.toNat_le _

/-- A call that goes on leaves settings and loop as they are, unless it launches the loop. -/
theorem effect_attempt (hpath : s.manager.path = some path) {a : Attempt} (ha : a ∈ s.calls)
    (now : Moment) (calls : List Attempt) :
    Effect path s { s with manager := (s.manager.attempt s.env now a).1, calls } := by
  cases a with
  | fresh =>
    simp only [Manager.attempt, Manager.claim]
    split
    · exact .still rfl rfl
    · exact .still rfl rfl
  | claimed settings => exact .still rfl rfl
  | ended r => exact .still rfl rfl
  | sampled settings usage sampler =>
    cases usage with
    | error f => exact .still rfl rfl
    | ok u =>
      have hunderway : 0 < s.underway := List.countP_pos_iff.mpr ⟨_, ha, rfl⟩
      refine .launch hunderway rfl rfl ?_ (by simp [Sampling.IsBetween])
      simp [Manager.modified, hpath]

/-- What any deed does. -/
theorem effect_perform (hpath : s.manager.path = some path) (d : Deed) :
    Effect path s (s.perform d) := by
  cases d with
  | call => exact .still rfl rfl
  | attempt i now =>
    cases hcall : s.calls[i]? with
    | none =>
      simp only [perform, hcall]
      exact .still rfl rfl
    | some a =>
      simp only [perform, hcall]
      exact effect_attempt hpath (List.mem_of_getElem? hcall) now _
  | round now =>
    cases hloop : s.manager.loop with
    | none =>
      have hstep : s.manager.step s.env now = (s.manager, []) := by simp [Manager.step, hloop]
      rw [perform, hstep]
      exact .still rfl rfl
    | some l =>
      obtain ⟨l', hloop', turn⟩ := turn_step hpath hloop now
      exact .turn hloop hloop' turn
  | stop =>
    cases hloop : s.manager.loop with
    | none =>
      have hstop : s.manager.stop = s.manager := by simp [Manager.stop, hloop]
      rw [perform, hstop]
      exact .still rfl rfl
    | some l =>
      obtain ⟨l', hloop', turn⟩ := turn_stop hloop
      exact .turn hloop hloop' turn

@[simp] theorem env_perform : (s.perform d).env = s.env := by
  cases d with
  | attempt i now =>
    simp only [perform]
    split <;> rfl
  | _ => rfl

@[simp] theorem path_perform : (s.perform d).manager.path = s.manager.path := by
  cases d with
  | call => rfl
  | attempt i now =>
    simp only [perform]
    split
    · rfl
    · exact attempt_path _ _ now _
  | round now => exact (step_keeps _ _ now).1
  | stop => exact (stop_keeps _).1

/-- The account of the calls when one of them has gone on. -/
theorem countP_set_add (p : Attempt → Bool) {i : Nat} {calls : List Attempt} {a : Attempt}
    (ha : calls[i]? = some a) (b : Attempt) :
    (calls.set i b).countP p + (p a).toNat = calls.countP p + (p b).toNat := by
  obtain ⟨hi, rfl⟩ := List.getElem?_eq_some_iff.mp ha
  have hset := List.countP_set (p := p) (a := b) hi
  have hle : (p calls[i]).toNat ≤ calls.countP p := by
    cases hp : p calls[i] with
    | false => exact Nat.zero_le _
    | true => exact List.countP_pos_iff.mpr ⟨_, List.getElem_mem hi, hp⟩
  have hif : ∀ b : Bool, (if b = true then 1 else 0) = b.toNat := by decide
  rw [hif, hif] at hset
  omega

/-- A call under way is the only one, and there is no loop yet. -/
theorem Exclusive.of_underway (h : s.Exclusive) {a : Attempt} (ha : a ∈ s.calls)
    (hunderway : a.isUnderway = true) : s.manager.loop = none ∧ s.manager.started = true := by
  have hpos : 0 < s.underway := List.countP_pos_iff.mpr ⟨_, ha, hunderway⟩
  have hone := h.le_one
  have hlength : s.manager.loop.toList = [] := List.length_eq_zero_iff.mp (by omega)
  refine ⟨Option.toList_eq_nil_iff.mp hlength, ?_⟩
  have hstarted := Bool.toNat_le s.manager.started
  rw [Exclusive] at h
  exact Bool.toNat_eq_one.mp (by omega)

/-- A turn of the loop keeps the account. -/
theorem Exclusive.turn (h : s.Exclusive) (hstarted : s'.manager.started = s.manager.started)
    (hcalls : s'.calls = s.calls)
    (hloop : s'.manager.loop.isSome = s.manager.loop.isSome) : s'.Exclusive := by
  have hlength : s'.manager.loop.toList.length = s.manager.loop.toList.length := by
    rw [Option.length_toList, Option.length_toList, hloop]
  rw [Exclusive, underway, hcalls, hstarted, hlength]
  exact h

/-- Every deed keeps the account. -/
theorem Exclusive.perform (h : s.Exclusive) (d : Deed) : (s.perform d).Exclusive := by
  cases d with
  | call => simpa [Exclusive, underway, Scene.perform, Attempt.isUnderway] using h
  | attempt i now =>
    cases hcall : s.calls[i]? with
    | none => simpa only [Scene.perform, hcall] using h
    | some a =>
      have hset :=
        countP_set_add Attempt.isUnderway hcall (s.manager.attempt s.env now a).2.1
      have haccount := account_attempt (h.of_underway (List.mem_of_getElem? hcall)) s.env now
      simp only [Exclusive, underway, Scene.perform, hcall] at h ⊢
      omega
  | round now =>
    obtain ⟨-, hstarted, hloop⟩ := step_keeps s.manager s.env now
    exact h.turn hstarted rfl hloop
  | stop =>
    obtain ⟨-, hstarted, hloop⟩ := stop_keeps s.manager
    exact h.turn hstarted rfl hloop

end Scene

end Condition

end NodePressure
