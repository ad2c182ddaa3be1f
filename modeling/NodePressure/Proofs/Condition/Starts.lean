import NodePressure.Proofs.Condition.Scene
import NodePressure.Proofs.Host.Samples

/-!
# NodePressure.Proofs.Condition.Starts - at most one loop

A call that starts the manager holds it from its first step on, until it fails, or for good if it
succeeds. The flag of the manager says whether some call holds it (`Sound.held`), so no two do, and
a call is refused exactly if another one does (`refused_iff`). Each success launches one loop, and
nothing else does (`launches_take`); a failure changes nothing that can be seen and lets the next
call start the manager (`at_most_one_loop`).
-/

namespace NodePressure

/-- The call has started the manager. -/
def Attempt.hasSucceeded : Attempt → Bool
  | .ended (.ok _) => true
  | _ => false

/-- The call came when the manager counted as started. -/
def Attempt.wasRefused : Attempt → Bool
  | .ended (.error .alreadyStarted) => true
  | _ => false

/-- The first sample of the call was bad. -/
def Attempt.hasFailed (a : Attempt) : Bool :=
  match a with
  | .ended (.error _) => !a.wasRefused
  | _ => false

/-- The call has the manager for itself. -/
def Attempt.holds (a : Attempt) : Bool :=
  a.isUnderway || a.hasSucceeded

namespace Condition

/-- What happens around a manager. -/
inductive Event
  | deed (d : Deed)
  /-- The settings are replaced. -/
  | update (settings : ConditionSettings)
  /-- Files or variables change. -/
  | drift (env : Surroundings)

/-- The call with the number `i` goes on. -/
def Event.IsOf (i : Nat) (e : Event) : Prop :=
  ∃ now, e = .deed (.attempt i now)

namespace Scene

/-- A manager that has just been made, and that nobody has called. -/
def opening (settings : ConditionSettings) (path : Option String) (env : Surroundings) : Scene :=
  ⟨.fresh settings path, [], env⟩

def take (s : Scene) : Event → Scene
  | .deed d => s.perform d
  | .update settings => { s with manager := s.manager.update settings }
  | .drift env => { s with env }

def run (s : Scene) (es : List Event) : Scene :=
  es.foldl take s

/-- The loops that an event launches: those that are there after it if there was none before. -/
def launches (s : Scene) (e : Event) : Nat :=
  (take { s with manager := { s.manager with loop := none } } e).manager.loop.toList.length

/-- The loops that are launched in a run. -/
def launched (s : Scene) : List Event → Nat
  | [] => 0
  | e :: es => s.launches e + (s.take e).launched es

/-- The calls that have started the manager. -/
def successes (s : Scene) : Nat :=
  s.calls.countP Attempt.hasSucceeded

/-- No call has the manager for itself. -/
def IsFree (s : Scene) : Prop :=
  ∀ a ∈ s.calls, a.holds = false

variable {s : Scene} {e : Event} {es : List Event} {i k : Nat} {a b : Attempt}

/-! ## Single calls -/

theorem perform_attempt (h : s.calls[i]? = some a) (now : Moment) :
    s.perform (.attempt i now) =
      { s with
        manager := (s.manager.attempt s.env now a).1
        calls := s.calls.set i (s.manager.attempt s.env now a).2.1 } := by
  simp only [perform, h]

/-- Only its own steps change a call. -/
theorem getElem?_take_of_not (h : s.calls[k]? = some a) (he : ¬ e.IsOf k) :
    (s.take e).calls[k]? = some a := by
  cases e with
  | update settings => exact h
  | drift env => exact h
  | deed d =>
    cases d with
    | call =>
      have hk : k < s.calls.length := (List.getElem?_eq_some_iff.mp h).1
      exact (List.getElem?_append_left hk).trans h
    | round now => exact h
    | stop => exact h
    | attempt i now =>
      have hne : i ≠ k := by
        rintro rfl
        exact he ⟨now, rfl⟩
      cases hcall : s.calls[i]? with
      | none => simpa only [take, perform, hcall] using h
      | some b =>
        rw [take, perform_attempt hcall]
        exact (List.getElem?_set_ne hne).trans h

theorem getElem?_run_of_not (h : s.calls[k]? = some a) (hes : ∀ e ∈ es, ¬ e.IsOf k) :
    (s.run es).calls[k]? = some a := by
  induction es generalizing s with
  | nil => exact h
  | cons e es ih =>
    obtain ⟨he, hes⟩ := List.forall_mem_cons.mp hes
    exact ih (getElem?_take_of_not h he) hes

theorem getElem?_take_self (h : s.calls[i]? = some a) (now : Moment) :
    (s.take (.deed (.attempt i now))).calls[i]? =
      some (s.manager.attempt s.env now a).2.1 := by
  rw [take, perform_attempt h]
  exact List.getElem?_set_self (List.getElem?_eq_some_iff.mp h).1

/-- A call that has ended stays as it is. -/
theorem getElem?_take_of_ended {r : Except ConditionFault Unit}
    (h : s.calls[i]? = some (.ended r)) (e : Event) :
    (s.take e).calls[i]? = some (.ended r) := by
  by_cases he : e.IsOf i
  · obtain ⟨now, rfl⟩ := he
    exact getElem?_take_self h now
  · exact getElem?_take_of_not h he

theorem getElem?_run_of_ended {r : Except ConditionFault Unit}
    (h : s.calls[i]? = some (.ended r)) (es : List Event) :
    (s.run es).calls[i]? = some (.ended r) := by
  induction es generalizing s with
  | nil => exact h
  | cons e es ih => exact ih (getElem?_take_of_ended h e)

/-- A call that was not there before is a fresh one. -/
theorem eq_fresh_of_new (hnone : s.calls[k]? = none) (h : (s.take e).calls[k]? = some a) :
    a = .fresh := by
  have hlength : s.calls.length ≤ k := List.getElem?_eq_none_iff.mp hnone
  cases e with
  | update settings => cases hnone.symm.trans h
  | drift env => cases hnone.symm.trans h
  | deed d =>
    cases d with
    | round now => cases hnone.symm.trans h
    | stop => cases hnone.symm.trans h
    | call =>
      have hlast : [Attempt.fresh][k - s.calls.length]? = some a := by
        rw [← List.getElem?_append_right hlength]
        exact h
      exact List.mem_singleton.mp (List.mem_of_getElem? hlast)
    | attempt i now =>
      cases hcall : s.calls[i]? with
      | none =>
        rw [take, perform, hcall] at h
        cases hnone.symm.trans h
      | some b =>
        rw [take, perform_attempt hcall] at h
        have hk : k < (s.calls.set i (s.manager.attempt s.env now b).2.1).length :=
          (List.getElem?_eq_some_iff.mp h).1
        rw [List.length_set] at hk
        omega

/-- A call becomes something in an event. -/
def Becomes (s : Scene) (e : Event) (i : Nat) (p : Attempt → Bool) : Prop :=
  (s.take e).calls[i]?.any p = true ∧ s.calls[i]?.any p = false

theorem becomes_iff {p : Attempt → Bool} (hp : p .fresh = false) : s.Becomes e i p ↔
    ∃ now a, e = .deed (.attempt i now) ∧ s.calls[i]? = some a ∧ p a = false ∧
      p (s.manager.attempt s.env now a).2.1 = true := by
  constructor
  · rintro ⟨hafter, hbefore⟩
    cases hcall : s.calls[i]? with
    | none =>
      obtain ⟨a, ha, hpa⟩ := (Option.any_eq_true p _).mp hafter
      rw [eq_fresh_of_new hcall ha, hp] at hpa
      cases hpa
    | some a =>
      have hpa : p a = false := by simpa [hcall] using hbefore
      by_cases he : e.IsOf i
      · obtain ⟨now, rfl⟩ := he
        rw [getElem?_take_self hcall now] at hafter
        exact ⟨now, a, rfl, rfl, hpa, by simpa using hafter⟩
      · rw [getElem?_take_of_not hcall he] at hafter
        simp [hpa] at hafter
  · rintro ⟨now, a, rfl, hcall, hpa, hafter⟩
    rw [Becomes, getElem?_take_self hcall now, hcall]
    exact ⟨by simpa using hafter, by simpa using hpa⟩

/-! ## What the steps of a call do to the manager -/

/-- A step of a call leaves the settings as they are, and also what is published, unless it makes
the call succeed. -/
theorem attempt_keeps (m : Manager) (env : Surroundings) (now : Moment) (a : Attempt) :
    (m.attempt env now a).1.settings = m.settings ∧
      ((m.attempt env now a).2.1.hasSucceeded = true ∨
        (m.attempt env now a).1.availability = m.availability) := by
  cases a with
  | fresh =>
    simp only [Manager.attempt, Manager.claim]
    split <;> exact ⟨rfl, .inr rfl⟩
  | claimed settings => exact ⟨rfl, .inr rfl⟩
  | sampled settings usage sampler =>
    cases usage with
    | ok u => exact ⟨rfl, .inl rfl⟩
    | error f => exact ⟨rfl, .inr rfl⟩
  | ended r => exact ⟨rfl, .inr rfl⟩

/-- A call succeeds in the step in which it launches a loop. -/
theorem succeeds_attempt (m : Manager) (env : Surroundings) (now : Moment) (a : Attempt) :
    (m.attempt env now a).2.1.hasSucceeded.toNat =
      a.hasSucceeded.toNat +
        (({ m with loop := none } : Manager).attempt env now a).1.loop.toList.length := by
  cases a with
  | fresh =>
    cases hstarted : m.started <;>
      simp [Manager.attempt, Manager.claim, hstarted, Attempt.hasSucceeded]
  | claimed settings => rfl
  | sampled settings usage sampler => cases usage <;> rfl
  | ended r => rfl

theorem launches_take (s : Scene) (e : Event) :
    (s.take e).successes = s.successes + s.launches e := by
  cases e with
  | update settings => rfl
  | drift env => rfl
  | deed d =>
    cases d with
    | call => simp [successes, launches, take, perform, Attempt.hasSucceeded]
    | round now => simp [successes, launches, take, perform, Manager.step]
    | stop => simp [successes, launches, take, perform, Manager.stop]
    | attempt i now =>
      cases hcall : s.calls[i]? with
      | none => simp [successes, launches, take, perform, hcall]
      | some a =>
        have hset := countP_set_add Attempt.hasSucceeded hcall (s.manager.attempt s.env now a).2.1
        have hsucceeds := succeeds_attempt s.manager s.env now a
        simp only [successes, launches, take, perform, hcall]
        omega

theorem launched_eq_successes (s : Scene) (es : List Event) :
    (s.run es).successes = s.successes + s.launched es := by
  induction es generalizing s with
  | nil => rfl
  | cons e es ih =>
    have hrest := ih (s.take e)
    have hfirst := launches_take s e
    simp only [run, List.foldl_cons, launched] at hrest ⊢
    omega

/-! ## What holds in every state -/

/-- The flag says whether a call has the manager, which has a loop if that call has succeeded; and
no first sample has failed because the manager was started. -/
structure Sound (s : Scene) : Prop where
  exclusive : s.Exclusive
  successes : s.successes = s.manager.loop.toList.length
  usable : ∀ settings sampler, .sampled settings (.error .alreadyStarted) sampler ∉ s.calls

theorem ne_error_bind {ε α β : Type} {x : Except ε α} {f : α → Except ε β} {e : ε}
    (hx : x ≠ .error e) (hf : ∀ a, f a ≠ .error e) : (x >>= f) ≠ .error e := by
  cases x with
  | error e' => simpa [bind, Except.bind] using hx
  | ok a => exact hf a

/-- Samples fail because of what they read. -/
theorem measure_ne_alreadyStarted (files : FileTree) (root : String) :
    Host.measure files root ≠ .error .alreadyStarted := by
  have hread (source : Host.Source) : source.read files root ≠ .error .alreadyStarted := by
    rw [Host.Source.read]
    cases files.readText (FileTree.join root source.path) <;> simp
  have hexamine {α : Type} (source : Host.Source) (read : List Char → Except Host.Malformed α)
      (text : String) : source.examine read text ≠ .error .alreadyStarted := by
    rw [Host.Source.examine]
    cases read text.toList <;> simp
  refine ne_error_bind (hread .stat) fun stat => ?_
  refine ne_error_bind (hread .meminfo) fun meminfo => ?_
  refine ne_error_bind (hread .diskstats) fun diskstats => ?_
  refine ne_error_bind (hread .netDev) fun netDev => ?_
  refine ne_error_bind (hexamine _ _ _) fun traffic => ?_
  refine ne_error_bind (hexamine _ _ _) fun cpu => ?_
  refine ne_error_bind (hexamine _ _ _) fun disks => ?_
  exact ne_error_bind (hexamine _ _ _) fun memory h => by cases h

theorem sampled_ne (m : Manager) (env : Surroundings) (now : Moment) {a : Attempt}
    (ha : ∀ settings sampler, a ≠ .sampled settings (.error .alreadyStarted) sampler)
    (settings : ConditionSettings) (sampler : Sampler) :
    (m.attempt env now a).2.1 ≠ .sampled settings (.error .alreadyStarted) sampler := by
  cases a with
  | fresh =>
    intro h
    simp only [Manager.attempt, Manager.claim] at h
    split at h <;> cases h
  | claimed settings' =>
    intro h
    have husage : ((Sampler.fresh settings'.procRoot).sample env.files now).1 =
        .error .alreadyStarted := (Attempt.sampled.inj h).2.1
    rw [Sampler.sample] at husage
    cases hmeasure : Host.measure env.files (Sampler.fresh settings'.procRoot).root with
    | ok measured =>
      rw [hmeasure] at husage
      cases husage
    | error f =>
      rw [hmeasure] at husage
      obtain rfl : f = .alreadyStarted := Except.error.inj husage
      exact measure_ne_alreadyStarted _ _ hmeasure
  | sampled settings' usage sampler' =>
    intro h
    cases usage <;> cases h
  | ended r =>
    intro h
    cases h

theorem Sound.opening (settings : ConditionSettings) (path : Option String) (env : Surroundings) :
    (opening settings path env).Sound :=
  ⟨rfl, rfl, nofun⟩

/-- What has a loop and gets no other one has as many loops as before. -/
theorem Sound.launch (h : s.Sound) (e : Event) :
    (s.take e).manager.loop.toList.length = s.manager.loop.toList.length + s.launches e := by
  cases e with
  | update settings => rfl
  | drift env => rfl
  | deed d =>
    cases d with
    | call => rfl
    | round now =>
      have hloop := (step_keeps s.manager s.env now).2.2
      have hnone : s.launches (.deed (.round now)) = 0 := by
        simp [launches, take, perform, Manager.step]
      rw [hnone, take, perform, Option.length_toList, Option.length_toList, hloop]
      rfl
    | stop =>
      have hloop := (stop_keeps s.manager).2.2
      have hnone : s.launches (.deed .stop) = 0 := by
        simp [launches, take, perform, Manager.stop]
      rw [hnone, take, perform, Option.length_toList, Option.length_toList, hloop]
      rfl
    | attempt i now =>
      cases hcall : s.calls[i]? with
      | none => simp [launches, take, perform, hcall]
      | some a =>
        simp only [launches, take, perform, hcall]
        cases a with
        | fresh =>
          simp only [Manager.attempt, Manager.claim]
          split <;> rfl
        | claimed settings => rfl
        | ended r => rfl
        | sampled settings usage sampler =>
          -- the call that comes to its last step is the only one, and there is no loop yet
          have hnone := (h.exclusive.of_underway (List.mem_of_getElem? hcall) rfl).1
          cases usage with
          | ok u => rw [hnone]; rfl
          | error f => rfl

theorem Sound.take (h : s.Sound) (e : Event) : (s.take e).Sound := by
  refine ⟨?_, ?_, ?_⟩
  · cases e with
    | update settings => exact h.exclusive
    | drift env => exact h.exclusive
    | deed d => exact h.exclusive.perform d
  · rw [launches_take, h.launch, h.successes]
  · intro settings sampler hmem
    obtain ⟨k, hk, hcall⟩ := List.getElem_of_mem hmem
    have hafter :
        (s.take e).calls[k]? = some (.sampled settings (.error .alreadyStarted) sampler) :=
      hcall ▸ List.getElem?_eq_getElem hk
    cases hbefore : s.calls[k]? with
    | none => cases eq_fresh_of_new hbefore hafter
    | some a =>
      have ha (settings sampler) : a ≠ .sampled settings (.error .alreadyStarted) sampler :=
        fun heq => h.usable settings sampler (heq ▸ List.mem_of_getElem? hbefore)
      by_cases he : e.IsOf k
      · obtain ⟨now, rfl⟩ := he
        rw [getElem?_take_self hbefore now] at hafter
        exact sampled_ne _ _ _ ha _ _ (Option.some_inj.mp hafter)
      · rw [getElem?_take_of_not hbefore he] at hafter
        exact ha _ _ (Option.some_inj.mp hafter)

theorem Sound.run (h : s.Sound) (es : List Event) : (s.run es).Sound := by
  induction es generalizing s with
  | nil => exact h
  | cons e es ih => exact ih (h.take e)

/-- The flag of the manager says whether a call has it. -/
theorem Sound.held (h : s.Sound) : s.calls.countP Attempt.holds = s.manager.started.toNat := by
  have hexclusive := h.exclusive
  have hsum (calls : List Attempt) : calls.countP Attempt.holds =
      calls.countP Attempt.isUnderway + calls.countP Attempt.hasSucceeded := by
    induction calls with
    | nil => rfl
    | cons a calls ih =>
      have hone : a.holds.toNat = a.isUnderway.toNat + a.hasSucceeded.toNat := by
        cases a with
        | ended r => cases r <;> rfl
        | _ => rfl
      have hif (b : Bool) : (if b = true then 1 else 0) = b.toNat := by cases b <;> rfl
      simp only [List.countP_cons, hif]
      omega
  rw [Exclusive, underway, ← h.successes] at hexclusive
  rw [hsum]
  exact hexclusive

theorem Sound.isFree_iff (h : s.Sound) : s.IsFree ↔ s.manager.started = false := by
  rw [← Bool.toNat_eq_zero, ← h.held, List.countP_eq_zero]
  simp only [IsFree, Bool.not_eq_true]

theorem Sound.successes_le_one (h : s.Sound) : s.successes ≤ 1 := by
  have hheld := h.exclusive.le_one
  have hsuccesses := h.successes
  omega

/-! ## How calls end -/

/-- A call is refused exactly if another one has the manager when it comes. -/
theorem Sound.refused_iff (h : s.Sound) : s.Becomes e i Attempt.wasRefused ↔
    s.calls[i]? = some .fresh ∧ e.IsOf i ∧
      ∃ j a, j ≠ i ∧ s.calls[j]? = some a ∧ a.holds = true := by
  have hother (hcall : s.calls[i]? = some .fresh) : s.manager.started = true ↔
      ∃ j a, j ≠ i ∧ s.calls[j]? = some a ∧ a.holds = true := by
    rw [← Bool.not_eq_false, ← h.isFree_iff, IsFree]
    constructor
    · intro hbusy
      by_contra hnone
      refine hbusy fun a ha => ?_
      obtain ⟨j, hj⟩ := List.mem_iff_getElem?.mp ha
      rw [← Bool.not_eq_true]
      intro hholds
      refine hnone ⟨j, a, ?_, hj, hholds⟩
      rintro rfl
      obtain rfl := Option.some_inj.mp (hcall.symm.trans hj)
      cases hholds
    · rintro ⟨j, a, -, hj, hholds⟩ hfree
      rw [hfree a (List.mem_of_getElem? hj)] at hholds
      cases hholds
  rw [becomes_iff rfl]
  constructor
  · rintro ⟨now, a, rfl, hcall, hbefore, hafter⟩
    cases a with
    | fresh =>
      refine ⟨hcall, ⟨now, rfl⟩, (hother hcall).mp ?_⟩
      cases hstarted : s.manager.started with
      | true => rfl
      | false => simp [Manager.attempt, Manager.claim, hstarted, Attempt.wasRefused] at hafter
    | claimed settings => cases hafter
    | ended r => cases hbefore.symm.trans hafter
    | sampled settings usage sampler =>
      cases usage with
      | ok u => cases hafter
      | error f =>
        cases f with
        | alreadyStarted => exact absurd (List.mem_of_getElem? hcall) (h.usable settings sampler)
        | _ => cases hafter
  · rintro ⟨hcall, ⟨now, rfl⟩, hholds⟩
    have hstarted := (hother hcall).mpr hholds
    refine ⟨now, .fresh, rfl, hcall, rfl, ?_⟩
    simp [Manager.attempt, Manager.claim, hstarted, Attempt.wasRefused]

/-- A call that fails leaves the manager free. -/
theorem Sound.isFree_of_failed (h : s.Sound) (hfailed : s.Becomes e i Attempt.hasFailed) :
    (s.take e).IsFree := by
  rw [(h.take e).isFree_iff]
  obtain ⟨now, a, rfl, hcall, hbefore, hafter⟩ := (becomes_iff rfl).mp hfailed
  rw [Scene.take, perform_attempt hcall]
  cases a with
  | fresh =>
    cases hstarted : s.manager.started <;>
      simp [Manager.attempt, Manager.claim, hstarted, Attempt.hasFailed, Attempt.wasRefused]
        at hafter
  | claimed settings => cases hafter
  | ended r => cases hbefore.symm.trans hafter
  | sampled settings usage sampler =>
    cases usage with
    | ok u => cases hafter
    | error f => rfl

/-- No step of a call that fails changes what can be seen of the manager. -/
theorem unseen_of_failed (he : e.IsOf i) (h : ((s.take e).run es).calls[i]? = some a)
    (hfailed : a.hasFailed = true) :
    (s.take e).manager.settings = s.manager.settings ∧
      (s.take e).manager.availability = s.manager.availability := by
  obtain ⟨now, rfl⟩ := he
  cases hcall : s.calls[i]? with
  | none =>
    rw [take, perform, hcall]
    exact ⟨rfl, rfl⟩
  | some b =>
    obtain ⟨hsettings, hshown⟩ := attempt_keeps s.manager s.env now b
    have hself := getElem?_take_self hcall now
    have hsame : s.take (.deed (.attempt i now)) = _ := perform_attempt hcall now
    rw [hsame]
    refine ⟨hsettings, hshown.resolve_left fun hsucceeds => ?_⟩
    -- a call that has succeeded would still have done so at the end of the run
    cases hlast : (s.manager.attempt s.env now b).2.1 with
    | ended r =>
      rw [hlast] at hself hsucceeds
      have hend := getElem?_run_of_ended hself es
      obtain rfl := Option.some_inj.mp (hend.symm.trans h)
      cases r with
      | ok u => cases hfailed
      | error f => cases hsucceeds
    | _ =>
      rw [hlast] at hsucceeds
      cases hsucceeds

variable {es₁ es₂ : List Event}

/-- A call that finds the manager free and takes a good sample succeeds, whatever else happens. -/
theorem Sound.succeeds (h : s.Sound) (hfree : s.IsFree) (hcall : s.calls[k]? = some .fresh)
    (hes : ∀ e ∈ es₁ ++ es₂, ¬ e.IsOf k) (t₁ t₂ t₃ : Moment)
    (hgood : (Host.measure ((s.take (.deed (.attempt k t₁))).run es₁).env.files
      s.manager.settings.procRoot).isOk = true) :
    ∃ a, (((((s.take (.deed (.attempt k t₁))).run es₁).take (.deed (.attempt k t₂))).run
      es₂).take (.deed (.attempt k t₃))).calls[k]? = some a ∧ a.hasSucceeded = true := by
  obtain ⟨hes₁, hes₂⟩ := List.forall_mem_append.mp hes
  have hstarted := h.isFree_iff.mp hfree
  have hclaimed : (s.take (.deed (.attempt k t₁))).calls[k]? =
      some (.claimed s.manager.settings) := by
    rw [getElem?_take_self hcall, Manager.attempt, Manager.claim, hstarted]
    rfl
  have hwaiting := getElem?_run_of_not hclaimed hes₁
  generalize (s.take (.deed (.attempt k t₁))).run es₁ = s₁ at hwaiting hgood ⊢
  obtain ⟨⟨c, memory⟩, hmeasure⟩ := exists_of_isOk hgood
  obtain ⟨u, sampler, hsampled⟩ : ∃ u sampler, (s₁.take (.deed (.attempt k t₂))).calls[k]? =
      some (.sampled s.manager.settings (.ok u) sampler) := by
    have hsample : (Sampler.fresh s.manager.settings.procRoot).sample s₁.env.files t₂ =
        (Sampler.fresh s.manager.settings.procRoot).take t₂ (.ok (c, memory)) :=
      congrArg _ hmeasure
    have hself := getElem?_take_self hwaiting t₂
    rw [Manager.attempt, Manager.firstSample, hsample] at hself
    exact ⟨_, _, hself⟩
  have hready := getElem?_run_of_not hsampled hes₂
  exact ⟨_, getElem?_take_self hready t₃, rfl⟩

/-- **At most one loop, whoever calls.** In any run from the making of a manager, with calls to
start it, their steps, those of the loop, new settings and changes of what can be read in any order:
at most one call succeeds, and as many loops are launched as calls succeed. A call is refused in
exactly those steps in which it comes while another call has succeeded or is on its way. A call that
fails has changed nothing that can be seen, and it leaves the manager free. Whenever it is free, the
next call that comes succeeds if its sample is good, whatever happens between its steps. -/
theorem at_most_one_loop (settings : ConditionSettings) (path : Option String)
    (env : Surroundings) (es : List Event) :
    let s := (opening settings path env).run es
    (s.successes ≤ 1 ∧ (opening settings path env).launched es = s.successes) ∧
    (∀ e i, s.Becomes e i Attempt.wasRefused ↔
      s.calls[i]? = some .fresh ∧ e.IsOf i ∧
        ∃ j a, j ≠ i ∧ s.calls[j]? = some a ∧ a.holds = true) ∧
    (∀ before e after i a, es = before ++ e :: after → e.IsOf i → s.calls[i]? = some a →
      a.hasFailed = true →
      let s' := (opening settings path env).run before
      (s'.take e).manager.settings = s'.manager.settings ∧
        (s'.take e).manager.availability = s'.manager.availability) ∧
    (∀ e i, s.Becomes e i Attempt.hasFailed → (s.take e).IsFree) ∧
    ∀ k es₁ es₂ t₁ t₂ t₃, s.IsFree → s.calls[k]? = some .fresh →
      (∀ e ∈ es₁ ++ es₂, ¬ e.IsOf k) →
      let s₁ := (s.take (.deed (.attempt k t₁))).run es₁
      (Host.measure s₁.env.files s.manager.settings.procRoot).isOk = true →
      ∃ a, (((s₁.take (.deed (.attempt k t₂))).run es₂).take
        (.deed (.attempt k t₃))).calls[k]? = some a ∧ a.hasSucceeded = true := by
  intro s
  have sound : s.Sound := (Sound.opening settings path env).run es
  have hlaunched : s.successes = 0 + (opening settings path env).launched es :=
    launched_eq_successes (opening settings path env) es
  refine ⟨⟨sound.successes_le_one, by omega⟩, fun e i => sound.refused_iff, ?_,
    fun e i => sound.isFree_of_failed, ?_⟩
  · intro before e after i a hes he hcall hfailed
    have hrun : s = (((opening settings path env).run before).take e).run after := by
      simp only [s, hes, run, List.foldl_append, List.foldl_cons]
    rw [hrun] at hcall
    exact unseen_of_failed he hcall hfailed
  · intro k es₁ es₂ t₁ t₂ t₃ hfree hcall hes s₁ hgood
    exact sound.succeeds hfree hcall hes t₁ t₂ t₃ hgood

/-- The host of a first sample that is good. -/
def readable : Surroundings where
  files := FileTree.empty.putText "/proc/stat" "cpu 1 2 3 4\n" 0
    |>.putText "/proc/meminfo" "MemTotal: 100\nMemAvailable: 5\n" 0
    |>.putText "/proc/diskstats" "" 0
    |>.putText "/proc/net/dev" "" 0
  vars := []

/-- There are three calls, and the first one comes to its last step. -/
def threeCalls : List Event :=
  [.deed .call, .deed .call, .deed .call, .deed (.attempt 0 0), .deed (.attempt 0 0)]

/-- The first of three calls fails, as there are no files. When there are, the second one starts the
manager, although the third one comes between its steps; that one is refused. -/
theorem second_call_starts :
    let failing := (opening default none ⟨FileTree.empty, []⟩).run threeCalls
    let free := (failing.take (.deed (.attempt 0 0))).take (.drift readable)
    let claimed := free.take (.deed (.attempt 1 0))
    failing.Becomes (.deed (.attempt 0 0)) 0 Attempt.hasFailed ∧ free.IsFree ∧
      claimed.Becomes (.deed (.attempt 2 0)) 2 Attempt.wasRefused ∧
      ∃ a, (((claimed.run [.deed (.attempt 2 0)]).take (.deed (.attempt 1 0))).take
        (.deed (.attempt 1 0))).calls[1]? = some a ∧ a.hasSucceeded = true := by
  intro failing free claimed
  have hfails : failing.Becomes (.deed (.attempt 0 0)) 0 Attempt.hasFailed := by
    constructor <;> decide +kernel
  obtain ⟨-, -, -, hleaves, -⟩ := at_most_one_loop default none ⟨FileTree.empty, []⟩ threeCalls
  have hfree : free.IsFree := hleaves _ 0 hfails
  obtain ⟨-, -, -, -, hstarts⟩ := at_most_one_loop default none ⟨FileTree.empty, []⟩
    (threeCalls ++ [.deed (.attempt 0 0), .drift readable])
  obtain ⟨-, hrefused, -⟩ := at_most_one_loop default none ⟨FileTree.empty, []⟩
    (threeCalls ++ [.deed (.attempt 0 0), .drift readable, .deed (.attempt 1 0)])
  have hfresh : free.calls[1]? = some .fresh := rfl
  have hthird : claimed.calls[2]? = some .fresh := rfl
  have hsecond : claimed.calls[1]? = some (.claimed default) := rfl
  refine ⟨hfails, hfree, ?_, ?_⟩
  · exact (hrefused _ 2).mpr ⟨hthird, ⟨0, rfl⟩, 1, _, by decide, hsecond, rfl⟩
  · exact hstarts 1 [.deed (.attempt 2 0)] [] 0 0 0 hfree hfresh (by simp [Event.IsOf])
      (by decide +kernel)

end Scene

end Condition

end NodePressure
