import Mathlib.Data.List.Induction
import NodePressure.Proofs.Host.Samples

/-!
# NodePressure.Proofs.Host.History - samples that fail leave no trace

The *history* of a sampler lists its samples with their answers. A bad sample leaves the sampler as
it was, so what comes after it is the history without it (`history_of_thinned`). A good one keeps
its counters and its moment, so what the next one is compared with is the latest good sample before
it (`keeps_after`), whatever has failed since.
-/

namespace NodePressure

namespace Sampler

/-- Some samples with their answers, in order. -/
abbrev History := List (Visit × Except ConditionFault Host.Usage)

namespace History

/-- The samples that are good. -/
def good (h : History) : History := h.filter fun e => e.2.isOk

/-- The latest good sample. -/
def latest? (h : History) : Option Visit := h.good.getLast?.map Prod.fst

variable {h : History} {v : Visit} {u : Host.Usage} {f : ConditionFault}

theorem latest?_concat_ok : latest? (h ++ [(v, .ok u)]) = some v := by
  simp [latest?, good, Except.isOk, Except.toBool]

theorem latest?_concat_error : latest? (h ++ [(v, .error f)]) = h.latest? := by
  simp [latest?, good, Except.isOk, Except.toBool]

end History

/-- The history of a sampler that takes some samples. -/
def history (s : Sampler) : List Visit → History
  | [] => []
  | v :: vs => (v, (s.sample v.1 v.2).1) :: (s.sample v.1 v.2).2.history vs

variable {s : Sampler} {v : Visit} {vs ws : List Visit} {h : History}

theorem history_append : s.history (vs ++ ws) = s.history vs ++ (s.after vs).history ws := by
  induction vs generalizing s with
  | nil => rfl
  | cons v vs ih => exact congrArg (_ :: ·) ih

theorem after_concat : s.after (vs ++ [v]) = ((s.after vs).sample v.1 v.2).2 := by
  rw [after, List.foldl_append, List.foldl_cons, List.foldl_nil, ← after]

theorem root_after : (s.after vs).root = s.root := by
  induction vs generalizing s with
  | nil => rfl
  | cons v vs ih => exact ih.trans (root_sample s v)

/-! ## Without the bad ones -/

/-- The history of what is left when some bad samples are taken out is what is left of the
history. -/
theorem history_of_thinned {kept : History} (hsub : kept.Sublist (s.history vs))
    (hgood : History.good kept = (s.history vs).good) : s.history (kept.map Prod.fst) = kept := by
  induction vs generalizing s kept with
  | nil =>
    obtain rfl := List.sublist_nil.mp hsub
    rfl
  | cons v vs ih =>
    rw [history] at hsub hgood
    cases hsub with
    | cons _ hsub =>
      -- the first sample was taken out, so it is a bad one and the sampler is still the same
      cases hok : (s.sample v.1 v.2).1.isOk with
      | true =>
        have hshort : (History.good kept).length ≤ _ := (hsub.filter fun e => e.2.isOk).length_le
        rw [hgood, History.good, List.filter_cons_of_pos (by exact hok), List.length_cons] at hshort
        omega
      | false =>
        rw [sample_of_bad hok] at hsub hgood
        rw [History.good, History.good, List.filter_cons_of_neg (by simp [hok])] at hgood
        exact ih hsub hgood
    | @cons_cons kept _ _ hsub =>
      have hrest : History.good kept = ((s.sample v.1 v.2).2.history vs).good := by
        rw [History.good, History.good, List.filter_cons, List.filter_cons] at hgood
        split at hgood
        · exact (List.cons.inj hgood).2
        · exact hgood
      rw [List.map_cons, history, ih hsub hrest]

/-! ## What a sample is compared with -/

/-- What is kept after a history: the counters and the moment of the latest good sample. -/
def Keeps (root : String) (h : History) (previous : Option (Moment × Host.Counters)) : Prop :=
  match h.latest? with
  | none => previous = none
  | some w => ∃ c memory, Host.Legible w.1 root c memory ∧ previous = some (w.2, c)

/-- A good sample takes the place of what was kept, and a bad one does not. -/
theorem Keeps.sample (hkeeps : Keeps s.root h s.previous) (v : Visit) :
    Keeps s.root (h ++ [(v, (s.sample v.1 v.2).1)]) (s.sample v.1 v.2).2.previous := by
  cases hanswer : (s.sample v.1 v.2).1 with
  | error f =>
    have hbad : (s.sample v.1 v.2).1.isOk = false := by rw [hanswer]; rfl
    rw [sample_of_bad hbad, Keeps, History.latest?_concat_error]
    exact hkeeps
  | ok u =>
    obtain ⟨c, memory, hmeasure, -, hkept⟩ := sample_eq_ok hanswer
    rw [hkept, Keeps, History.latest?_concat_ok]
    exact ⟨c, memory, Host.measure_eq_ok_iff.mp hmeasure, rfl⟩

theorem keeps_after (root : String) (vs : List Visit) :
    Keeps root ((fresh root).history vs) ((fresh root).after vs).previous := by
  induction vs using List.reverseRecOn with
  | nil => rfl
  | append_singleton vs v ih =>
    have hroot : ((fresh root).after vs).root = root := root_after
    have hbefore : Keeps ((fresh root).after vs).root ((fresh root).history vs)
        ((fresh root).after vs).previous := by rwa [hroot]
    have hnext := hbefore.sample v
    rw [hroot] at hnext
    rw [history_append, after_concat]
    exact hnext

/-- A sample of a history is taken after the ones before it. -/
theorem exists_of_history_eq {earlier later : History} {answer : Except ConditionFault Host.Usage}
    (h : s.history vs = earlier ++ (v, answer) :: later) :
    ∃ ws, s.history ws = earlier ∧ ((s.after ws).sample v.1 v.2).1 = answer := by
  induction earlier generalizing s vs with
  | nil =>
    cases vs with
    | nil => simp [history] at h
    | cons w vs =>
      obtain ⟨hhead, -⟩ := List.cons.inj h
      obtain ⟨rfl, hanswer⟩ := Prod.mk.inj hhead
      exact ⟨[], rfl, hanswer⟩
  | cons e earlier ih =>
    cases vs with
    | nil => simp [history] at h
    | cons w vs =>
      obtain ⟨rfl, hrest⟩ := List.cons.inj h
      obtain ⟨ws, rfl, hanswer⟩ := ih hrest
      exact ⟨w :: ws, rfl, hanswer⟩

/-- **Samples that fail leave no trace.** Whatever the files hold at each of the samples, and
whenever they are taken: if some samples that fail are not taken at all, then all other ones are
answered as before. A sample is good if all texts below the root can be read and taken apart. It
shows the usage between the counters of the latest good sample before it and its own, in the time
from the one to the other; if there is none before it, it shows no usage but that of memory. -/
theorem failed_samples_leave_no_trace (root : String) (vs : List Visit) :
    (∀ kept : History, kept.Sublist ((fresh root).history vs) →
      kept.good = ((fresh root).history vs).good →
      (fresh root).history (kept.map Prod.fst) = kept) ∧
    ∀ earlier v answer later, (fresh root).history vs = earlier ++ (v, answer) :: later →
      (answer.isOk = true ↔ ∃ now memory, Host.Legible v.1 root now memory) ∧
      ∀ u, answer = .ok u → ∃ now memory, Host.Legible v.1 root now memory ∧
        match History.latest? earlier with
        | none => u = ⟨0.0, memory, 0.0, 0.0, 0.0⟩
        | some w => ∃ before memory', Host.Legible w.1 root before memory' ∧
            u = Host.Usage.between before now (Span.between w.2 v.2) memory := by
  refine ⟨fun kept => history_of_thinned, fun earlier v answer later hsplit => ?_⟩
  obtain ⟨ws, rfl, rfl⟩ := exists_of_history_eq hsplit
  have hroot : ((fresh root).after ws).root = root := root_after
  constructor
  · rw [isOk_sample, hroot]
    constructor
    · intro hok
      obtain ⟨⟨now, memory⟩, hmeasure⟩ := exists_of_isOk hok
      exact ⟨now, memory, Host.measure_eq_ok_iff.mp hmeasure⟩
    · rintro ⟨now, memory, hlegible⟩
      rw [Host.measure_eq_ok_iff.mpr hlegible]
      rfl
  · intro u hanswer
    obtain ⟨now, memory, hmeasure, husage, -⟩ := sample_eq_ok hanswer
    rw [hroot] at hmeasure
    refine ⟨now, memory, Host.measure_eq_ok_iff.mp hmeasure, ?_⟩
    have hkeeps := keeps_after root ws
    rw [Keeps] at hkeeps
    split at hkeeps
    · rw [husage, hkeeps]
      rfl
    · obtain ⟨before, memory', hlegible, hkept⟩ := hkeeps
      rw [husage, hkept]
      exact ⟨before, memory', hlegible, rfl⟩

/-! ## A text cut short -/

/-- The first of three samples. -/
def quiet : Visit :=
  ⟨Host.filesOf "cpu 30 0 0 900\n" "", 0⟩

/-- The second one finds the text on memory cut short, and the processor times as good as ever. -/
def garbled : Visit :=
  ⟨(Host.filesOf "cpu 40 0 0 950\n" "").putText "/proc/meminfo" "MemTotal: 100\n" 0,
    Span.seconds 5⟩

/-- The third one. -/
def busy : Visit :=
  ⟨Host.filesOf "cpu 70 0 0 960\n" "", Span.seconds 10⟩

/-- The third sample is answered as if the second had not been taken: it shows the usage since the
first. -/
theorem garbled_memory_leaves_no_trace :
    ∃ first fault u, ∃ before now memory memory',
      (fresh "/proc").history [quiet, garbled, busy] =
        [(quiet, first), (garbled, .error fault), (busy, .ok u)] ∧
      (fresh "/proc").history [quiet, busy] = [(quiet, first), (busy, .ok u)] ∧
      Host.Legible quiet.1 "/proc" before memory' ∧ Host.Legible busy.1 "/proc" now memory ∧
      u = Host.Usage.between before now (Span.seconds 10) memory := by
  obtain ⟨first, second, third, hall⟩ : ∃ first second third,
      (fresh "/proc").history [quiet, garbled, busy] =
        [(quiet, first), (garbled, second), (busy, third)] := ⟨_, _, _, rfl⟩
  have hverdicts : ((fresh "/proc").history [quiet, garbled, busy]).map (fun e => e.2.isOk) =
      [true, false, true] := by decide +kernel
  rw [hall] at hverdicts
  obtain ⟨hfirst, hsecond, hthird⟩ :
      first.isOk = true ∧ second.isOk = false ∧ third.isOk = true := by
    simpa using hverdicts
  obtain ⟨hthinned, hanswers⟩ := failed_samples_leave_no_trace "/proc" [quiet, garbled, busy]
  rw [hall] at hthinned hanswers
  cases second with
  | ok u => exact absurd hsecond.symm Bool.false_ne_true
  | error fault =>
    obtain ⟨u, rfl⟩ := exists_of_isOk hthird
    obtain ⟨now, memory, hnow, hlatest⟩ :=
      (hanswers [(quiet, first), (garbled, .error fault)] busy (.ok u) [] rfl).2 u rfl
    have hquiet : History.latest? [(quiet, first), (garbled, .error fault)] = some quiet := by
      simp [History.latest?, History.good, hfirst, hsecond]
    rw [hquiet] at hlatest
    obtain ⟨before, memory', hbefore, hu⟩ := hlatest
    refine ⟨first, fault, u, before, now, memory, memory', hall, ?_, hbefore, hnow, hu⟩
    refine hthinned [(quiet, first), (busy, .ok u)] ?_ ?_
    · exact .cons_cons _ (.cons _ (.refl _))
    · simp [History.good, hfirst, hsecond]

end Sampler

end NodePressure
