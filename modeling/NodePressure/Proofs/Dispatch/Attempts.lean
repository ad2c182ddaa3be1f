import NodePressure.Proofs.Dispatch.Escalation
import NodePressure.Proofs.Pressure.Accounts
import NodePressure.Proofs.Telemetry.Reports

/-!
# NodePressure.Proofs.Dispatch.Attempts - one attempt for each signal

`Attempt` lists what may be asked for a signal, and what has to come of it: the outcome and the one
counter that counts it. Handling a signal asks just that, counts that counter and reports once
(`accounted_of_handle`), whatever it is answered; so does each one of several signals, one after
the other (`accounted_of_handleAll`).
-/

namespace NodePressure

/-- What is asked among what happens, with the answers. -/
def exchangesOf : List (Happening world) → List (Σ q : Ask, q.Answer)
  | [] => []
  | .noted _ :: hs => exchangesOf hs
  | .answered q b :: hs => ⟨q, b⟩ :: exchangesOf hs

/-- Nothing was done to any workload. -/
def Outcome.isFailure : Outcome → Bool
  | .notChosen | .failed _ => true
  | .evicted _ | .labeled .. => false

/-- A signal that was handled. -/
structure Handled where
  signal : Resource
  happenings : List (Happening world)
  outcome : Outcome

namespace Dispatch

/-- One attempt for a signal: what is asked and answered, the outcome, and what is counted. -/
inductive Attempt (r : Resource) : List (Σ q : Ask, q.Answer) → Outcome → Counter → Prop
  /-- Without a choice nothing else is asked. -/
  | notChosen {fault : ConditionFault} :
      Attempt r [⟨.choose r, .error fault⟩] .notChosen (.dispatchErrors r "choose")
  | evicted {d : Decision} (hd : d.evictNow = true) :
      Attempt r [⟨.choose r, .ok d⟩, ⟨.evict d.workload, .ok ()⟩] (.evicted d.workload)
        (.actions r "evict")
  | notEvicted {d : Decision} {fault : ClusterFault} (hd : d.evictNow = true) :
      Attempt r [⟨.choose r, .ok d⟩, ⟨.evict d.workload, .error fault⟩] (.failed d.workload)
        (.dispatchErrors r "evict")
  | labeled {d : Decision} (hd : d.evictNow = false) :
      Attempt r [⟨.choose r, .ok d⟩, ⟨.label d.workload d.priority .add, .ok ()⟩]
        (.labeled d.workload d.priority) (.actions r "label")
  | notLabeled {d : Decision} {fault : ClusterFault} (hd : d.evictNow = false) :
      Attempt r [⟨.choose r, .ok d⟩, ⟨.label d.workload d.priority .add, .error fault⟩]
        (.failed d.workload) (.dispatchErrors r "label")

variable {σ : Type} {W : Replies world σ} {s s' : σ} {r : Resource} {rs : List Resource}
  {hs : List (Happening world)} {o : Outcome} {os : List Outcome}

/-- An attempt is counted as an action or as an error. -/
theorem Attempt.isVerdict {k : Counter} {xs : List (Σ q : Ask, q.Answer)} (h : Attempt r xs o k) :
    k.isVerdict = true := by
  cases h <;> rfl

/-- A signal was attempted once, and the notes say so: one counter and one report. -/
structure Accounted (p : Handled) (k : Counter) : Prop where
  attempt : Attempt p.signal (exchangesOf p.happenings) p.outcome k
  counted : (notesOf p.happenings).filterMap Note.counter? = [k]
  reported : ∃ fault, reportsOf dispatcherPart (notesOf p.happenings) = [.ofResult fault] ∧
    fault.isSome = p.outcome.isFailure

/-! ## One signal -/

theorem accounted_of_act {d : Decision} (h : Program.Exec W (act r d) s hs o s') :
    ∃ k, Accounted ⟨r, .answered (.choose r) (.ok d) :: hs, o⟩ k := by
  unfold act at h
  split_ifs at h with hd
  · obtain ⟨answer, s₁, hs₁, -, rfl, hnext⟩ := Program.exec_ask_iff.mp h
    obtain ⟨rfl, rfl, -⟩ := exec_conclude_iff.mp hnext
    rcases answer with fault | u
    · exact ⟨_, .notEvicted hd, rfl, _, rfl, rfl⟩
    · exact ⟨_, .evicted hd, rfl, _, rfl, rfl⟩
  · obtain ⟨answer, s₁, hs₁, -, rfl, hnext⟩ := Program.exec_ask_iff.mp h
    obtain ⟨rfl, rfl, -⟩ := exec_conclude_iff.mp hnext
    rcases answer with fault | u
    · exact ⟨_, .notLabeled (eq_false_of_ne_true hd), rfl, _, rfl, rfl⟩
    · exact ⟨_, .labeled (eq_false_of_ne_true hd), rfl, _, rfl, rfl⟩

theorem accounted_of_handle (h : Program.Exec W (handle r) s hs o s') :
    ∃ k, Accounted ⟨r, hs, o⟩ k := by
  obtain ⟨answer, s₁, hs₁, -, rfl, hnext⟩ := Program.exec_ask_iff.mp h
  rcases answer with fault | d
  · simp only [Program.exec_note_iff, Program.exec_done_iff] at hnext
    obtain ⟨-, rfl, -, rfl, rfl, rfl, -⟩ := hnext
    exact ⟨_, .notChosen, rfl, some _, rfl, rfl⟩
  · exact accounted_of_act hnext

/-! ## Several signals -/

/-- What a run over some signals did for each of them. -/
structure HandledAll (rs : List Resource) (os : List Outcome) (hs : List (Happening world))
    (parts : List Handled) : Prop where
  signals : parts.map Handled.signal = rs
  outcomes : parts.map Handled.outcome = os
  happenings : parts.flatMap Handled.happenings = hs
  accounted : ∀ p ∈ parts, ∃ k, Accounted p k

/-- Whatever came of a signal, the next one is handled. -/
theorem accounted_of_handleAll (h : Program.Exec W (handleAll rs) s hs os s') :
    ∃ parts, HandledAll rs os hs parts := by
  induction rs generalizing s hs os with
  | nil =>
    obtain ⟨rfl, rfl, -⟩ := Program.exec_done_iff.mp h
    exact ⟨[], rfl, rfl, rfl, by simp⟩
  | cons r rs ih =>
    obtain ⟨o, s₁, hs₁, hs₂, os, hfirst, hrest, rfl, rfl⟩ := exec_handleAll_cons_iff.mp h
    obtain ⟨parts, hparts⟩ := ih hrest
    refine ⟨⟨r, hs₁, o⟩ :: parts, ?_, ?_, ?_, ?_⟩
    · rw [List.map_cons, hparts.signals]
    · rw [List.map_cons, hparts.outcomes]
    · rw [List.flatMap_cons, hparts.happenings]
    · exact List.forall_mem_cons.mpr ⟨accounted_of_handle hfirst, hparts.accounted⟩

section Telemetry

variable {p : Handled} {k : Counter} {parts : List Handled} {t : Telemetry}
  {notes : List (Int × Note)}

/-- Handling a signal adds one to its counter and nothing to the others. -/
theorem Accounted.count_hear (h : Accounted p k)
    (hnotes : notes.map Prod.snd = notesOf p.happenings) (c : Counter) :
    (t.hear notes).metrics.count c = t.metrics.count c + if c = k then 1 else 0 := by
  have hsame : (k == c) = true ↔ c = k := by rw [beq_iff_eq, eq_comm]
  rw [Telemetry.count_hear, hnotes, countP_counts, h.counted, List.countP_singleton]
  simp only [hsame]

/-- Among the counters of actions and errors there is one count for each signal. -/
theorem countP_isVerdict (h : ∀ p ∈ parts, ∃ k, Accounted p k) :
    (notesOf (parts.flatMap Handled.happenings)).countP (Note.counts Counter.isVerdict) =
      parts.length := by
  induction parts with
  | nil => rfl
  | cons p parts ih =>
    obtain ⟨⟨k, hk⟩, hrest⟩ := List.forall_mem_cons.mp h
    rw [List.flatMap_cons, notesOf_append, List.countP_append, ih hrest, countP_counts, hk.counted,
      List.countP_singleton, if_pos hk.attempt.isVerdict, List.length_cons, Nat.add_comm]

end Telemetry

/-- **One attempt for each signal.** Whatever the questions are answered, each of some signals is
handled: it asks once for a choice, and no more if that fails; otherwise it asks once for the action
that was decided. The outcome names the action if that succeeded. One counter, of an action or an
error of that signal's resource, grows by one and no other one does, so among all of them as many
are counted as signals are handled. After every signal the dispatcher has failed in a row as often
as the signals that failed since the last one that did not, as far as 32 bits can count. -/
theorem one_attempt_for_each_signal (answer : σ → (q : Ask) → q.Answer × σ) (s : σ)
    (rs : List Resource) :
    ∃ parts : List Handled,
      parts.map Handled.signal = rs ∧
      parts.map Handled.outcome = ((handleAll rs).run answer s).1 ∧
      parts.flatMap Handled.happenings = ((handleAll rs).run answer s).2.2 ∧
      (∀ p ∈ parts, ∃ k, Attempt p.signal (exchangesOf p.happenings) p.outcome k ∧
        ∀ (t : Telemetry) (notes : List (Int × Note)),
          notes.map Prod.snd = notesOf p.happenings →
          ∀ c, (t.hear notes).metrics.count c = t.metrics.count c + if c = k then 1 else 0) ∧
      ∀ handled later, parts = handled ++ later →
        ∀ (t : Telemetry) (notes : List (Int × Note)),
          notes.map Prod.snd = notesOf (handled.flatMap Handled.happenings) →
          (t.hear notes).metrics.total Counter.isVerdict =
            t.metrics.total Counter.isVerdict + handled.length ∧
          (t.health.failuresOf dispatcherPart = 0 →
            (t.hear notes).health.failuresOf dispatcherPart =
              min (handled.rtakeWhile fun p => p.outcome.isFailure).length Number.max32) := by
  obtain ⟨parts, hparts⟩ := accounted_of_handleAll (W := Program.machine answer)
    (Program.exec_machine_iff.mpr (rfl : (handleAll rs).run answer s = _))
  refine ⟨parts, hparts.signals, hparts.outcomes, hparts.happenings, ?_, ?_⟩
  · intro p hp
    obtain ⟨k, hk⟩ := hparts.accounted p hp
    exact ⟨k, hk.attempt, fun t notes hnotes => hk.count_hear hnotes⟩
  · rintro handled later rfl t notes hnotes
    have haccounted : ∀ p ∈ handled, ∃ k, Accounted p k := fun p hp =>
      hparts.accounted p (List.mem_append_left _ hp)
    constructor
    · rw [Telemetry.total_hear, hnotes, countP_isVerdict haccounted]
    · intro hstart
      have honce : Telemetry.ReportsOnce
          (fun p => reportsOf dispatcherPart (notesOf (Handled.happenings p)))
          (fun p => p.outcome.isFailure) handled := fun p hp => by
        obtain ⟨k, hk⟩ := haccounted p hp
        exact hk.reported
      rw [notesOf_flatMap] at hnotes
      exact Telemetry.failuresOf_hear_stretches honce (hnotes ▸ reportsOf_flatMap) hstart

/-- The answers of a list, one after the other. -/
def listed : List (Σ q : Ask, q.Answer) → (q : Ask) → q.Answer × List (Σ q : Ask, q.Answer)
  | [], q => (q.silence, [])
  | ⟨r, b⟩ :: rest, q => (r.answers b q, rest)

/-- Of four signals the first one finds nobody, the second one cannot evict, the third one labels
and the fourth one cannot evict again: two failures in a row, and then one. -/
theorem success_ends_failures :
    ∃ (w : Workload) (first second third fourth : Handled),
      [first, second, third, fourth].map Handled.outcome =
        [.notChosen, .failed w, .labeled w 3, .failed w] ∧
      (∀ notes : List (Int × Note),
        notes.map Prod.snd = notesOf ([first, second].flatMap Handled.happenings) →
        ((Telemetry.fresh "n").hear notes).health.failuresOf dispatcherPart = 2) ∧
      ∀ notes : List (Int × Note),
        notes.map Prod.snd = notesOf ([first, second, third, fourth].flatMap Handled.happenings) →
        ((Telemetry.fresh "n").hear notes).health.failuresOf dispatcherPart = 1 ∧
        ((Telemetry.fresh "n").hear notes).metrics.total Counter.isVerdict = 4 := by
  let w : Workload := ⟨"a", "b", none⟩
  let answers : List (Σ q : Ask, q.Answer) :=
    [⟨.choose .cpu, .error .alreadyStarted⟩,
      ⟨.choose .memory, .ok ⟨w, true, 2⟩⟩, ⟨.evict w, .error (.other "timeout")⟩,
      ⟨.choose .cpu, .ok ⟨w, false, 3⟩⟩, ⟨.label w 3 .add, .ok ()⟩,
      ⟨.choose .memory, .ok ⟨w, true, 4⟩⟩, ⟨.evict w, .error (.other "timeout")⟩]
  obtain ⟨parts, -, houtcomes, -, -, hprefix⟩ :=
    one_attempt_for_each_signal listed answers [.cpu, .memory, .cpu, .memory]
  have hrun : ((handleAll [.cpu, .memory, .cpu, .memory]).run listed answers).1 =
      [.notChosen, .failed w, .labeled w 3, .failed w] := by decide +kernel
  rw [hrun] at houtcomes
  obtain ⟨first, rest, rfl, hfirst, h⟩ := List.map_eq_cons_iff.mp houtcomes
  obtain ⟨second, rest, rfl, hsecond, h⟩ := List.map_eq_cons_iff.mp h
  obtain ⟨third, rest, rfl, hthird, h⟩ := List.map_eq_cons_iff.mp h
  obtain ⟨fourth, rest, rfl, hfourth, h⟩ := List.map_eq_cons_iff.mp h
  obtain rfl := List.map_eq_nil_iff.mp h
  refine ⟨w, first, second, third, fourth, houtcomes, fun notes hnotes => ?_,
    fun notes hnotes => ?_⟩
  · obtain ⟨-, hfailures⟩ := hprefix [first, second] _ rfl (.fresh "n") notes hnotes
    rw [hfailures rfl]
    simp [List.rtakeWhile, hfirst, hsecond, Outcome.isFailure, Number.max32]
  · obtain ⟨htotal, hfailures⟩ := hprefix _ [] (List.append_nil _).symm (.fresh "n") notes hnotes
    refine ⟨?_, htotal⟩
    rw [hfailures rfl]
    simp [List.rtakeWhile, hthird, hfourth, Outcome.isFailure, Number.max32]

end Dispatch

end NodePressure
