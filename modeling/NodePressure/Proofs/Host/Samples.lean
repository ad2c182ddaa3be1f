import NodePressure.Host.Sampler
import NodePressure.Proofs.Except

/-!
# NodePressure.Proofs.Host.Samples - good samples in a row

A sample is good if its texts are legible (`measure_eq_ok_iff`). It keeps the counters that they
show (`sample_eq_ok`), and a bad one leaves the sampler as it was (`sample_of_bad`). So of two good
samples in a row, whatever fails between them, the second one shows the usage between the counters
of the two (`Consecutive.usage`).
-/

namespace NodePressure

namespace Host

/-- What the texts below a root show to a sample. -/
structure Shown (files : FileTree) (root : String) (stat netDev : String) (c : Counters) :
    Prop where
  readStat : Source.stat.read files root = .ok stat
  cpu : readCpuTimes stat.toList = .ok c.cpu
  readNetDev : Source.netDev.read files root = .ok netDev
  traffic : readTraffic netDev.toList = .ok c.traffic

theorem examine_eq_ok_iff {α : Type} {s : Source} {read : List Char → Except Malformed α}
    {text : String} {a : α} : s.examine read text = .ok a ↔ read text.toList = .ok a := by
  rw [Source.examine]
  cases read text.toList <;> simp

/-- All texts below a root can be read and taken apart, and this is what they show. -/
structure Legible (files : FileTree) (root : String) (c : Counters) (memory : Float) : Prop where
  cpu : ∃ text, Source.stat.read files root = .ok text ∧ readCpuTimes text.toList = .ok c.cpu
  memory : ∃ text, Source.meminfo.read files root = .ok text ∧ readMemory text.toList = .ok memory
  disks : ∃ text, Source.diskstats.read files root = .ok text ∧ readDisks text.toList = .ok c.disks
  traffic : ∃ text, Source.netDev.read files root = .ok text ∧
    readTraffic text.toList = .ok c.traffic

/-- A sample is good if no text is missing, unreadable or malformed. -/
theorem measure_eq_ok_iff {files : FileTree} {root : String} {c : Counters} {memory : Float} :
    measure files root = .ok (c, memory) ↔ Legible files root c memory := by
  simp only [measure, bind_eq_ok_iff, examine_eq_ok_iff]
  constructor
  · rintro ⟨stat, hstat, meminfo, hmeminfo, diskstats, hdiskstats, netDev, hnetDev, traffic,
      htraffic, cpu, hcpu, disks, hdisks, memory, hmemory, hc⟩
    obtain ⟨rfl, rfl⟩ := Prod.mk.inj (Except.ok.inj hc)
    exact ⟨⟨stat, hstat, hcpu⟩, ⟨meminfo, hmeminfo, hmemory⟩, ⟨diskstats, hdiskstats, hdisks⟩,
      ⟨netDev, hnetDev, htraffic⟩⟩
  · rintro ⟨⟨stat, hstat, hcpu⟩, ⟨meminfo, hmeminfo, hmemory⟩, ⟨diskstats, hdiskstats, hdisks⟩,
      ⟨netDev, hnetDev, htraffic⟩⟩
    exact ⟨stat, hstat, meminfo, hmeminfo, diskstats, hdiskstats, netDev, hnetDev, _, htraffic, _,
      hcpu, _, hdisks, _, hmemory, rfl⟩

/-- Good counters come from readable texts. -/
theorem measure_eq_ok {files : FileTree} {root : String} {c : Counters} {memory : Float}
    (h : measure files root = .ok (c, memory)) : ∃ stat netDev, Shown files root stat netDev c := by
  obtain ⟨⟨stat, hstat, hcpu⟩, -, -, netDev, hnetDev, htraffic⟩ := measure_eq_ok_iff.mp h
  exact ⟨stat, netDev, hstat, hcpu, hnetDev, htraffic⟩

/-- The share of busy time does not ask how long the samples lie apart. -/
theorem cpuBusyPercent_between (before now : Counters) (elapsed : Span) (memory : Float) :
    (Usage.between before now elapsed memory).cpuBusyPercent =
      cpuPercent before.cpu now.cpu := by
  simp only [Usage.between]
  split <;> rfl

end Host

/-- The files and the moment that a sample is taken of. -/
abbrev Visit := FileTree × Moment

namespace Sampler

variable {s s' : Sampler} {v w : Visit} {vs : List Visit} {u : Host.Usage}

/-- What becomes of a sampler after some samples. -/
def after (s : Sampler) (vs : List Visit) : Sampler :=
  vs.foldl (fun s v => (s.sample v.1 v.2).2) s

/-- Every one of some samples fails. -/
def AllFail (s : Sampler) : List Visit → Prop
  | [] => True
  | v :: vs => (s.sample v.1 v.2).1.isOk = false ∧ AllFail (s.sample v.1 v.2).2 vs

/-- A sample is good if its counters can be read. -/
theorem isOk_sample (s : Sampler) (v : Visit) :
    (s.sample v.1 v.2).1.isOk = (Host.measure v.1 s.root).isOk := by
  rw [sample]
  cases Host.measure v.1 s.root <;> rfl

theorem root_sample (s : Sampler) (v : Visit) : (s.sample v.1 v.2).2.root = s.root := by
  rw [sample]
  cases Host.measure v.1 s.root <;> rfl

/-- A good sample is the usage of its counters, which are kept. -/
theorem sample_eq_ok (h : (s.sample v.1 v.2).1 = .ok u) :
    ∃ c memory, Host.measure v.1 s.root = .ok (c, memory) ∧
      u = usage s.previous v.2 c memory ∧ (s.sample v.1 v.2).2 = ⟨s.root, some (v.2, c)⟩ := by
  unfold sample at h ⊢
  cases hmeasure : Host.measure v.1 s.root with
  | error f => simp [hmeasure, take] at h
  | ok measured =>
    obtain ⟨c, memory⟩ := measured
    rw [hmeasure] at h
    exact ⟨c, memory, rfl, (Except.ok.inj h).symm, rfl⟩

/-- A bad sample leaves the sampler as it was. -/
theorem sample_of_bad (h : (s.sample v.1 v.2).1.isOk = false) : (s.sample v.1 v.2).2 = s := by
  rw [isOk_sample] at h
  rw [sample]
  cases hmeasure : Host.measure v.1 s.root with
  | error f => rfl
  | ok measured => simp [hmeasure, Except.isOk, Except.toBool] at h

theorem allFail_iff : s.AllFail vs ↔ ∀ v ∈ vs, (Host.measure v.1 s.root).isOk = false := by
  induction vs with
  | nil => simp [AllFail]
  | cons v vs ih =>
    rw [AllFail, isOk_sample, List.forall_mem_cons]
    refine and_congr_right fun hbad => ?_
    rw [sample_of_bad ((isOk_sample s v).trans hbad), ih]

theorem after_of_allFail (h : s.AllFail vs) : s.after vs = s := by
  induction vs generalizing s with
  | nil => rfl
  | cons v vs ih =>
    obtain ⟨hbad, hrest⟩ := h
    have hsame := sample_of_bad hbad
    rw [hsame] at hrest
    rw [after, List.foldl_cons, hsame]
    exact ih hrest

/-- Two good samples in a row, and any number of bad ones between them; the second shows `u`. -/
structure Consecutive (s : Sampler) (v : Visit) (between : List Visit) (w : Visit)
    (u : Host.Usage) : Prop where
  first : (s.sample v.1 v.2).1.isOk = true
  fail : (s.sample v.1 v.2).2.AllFail between
  second : (((s.sample v.1 v.2).2.after between).sample w.1 w.2).1 = .ok u

variable {between : List Visit}

/-- Samples are good and bad in a row as their counters can be read or not. -/
theorem exists_consecutive (first : (Host.measure v.1 s.root).isOk = true)
    (fail : ∀ x ∈ between, (Host.measure x.1 s.root).isOk = false)
    (second : (Host.measure w.1 s.root).isOk = true) : ∃ u, s.Consecutive v between w u := by
  have hfail : (s.sample v.1 v.2).2.AllFail between := by rwa [allFail_iff, root_sample]
  rw [← root_sample s v, ← isOk_sample _ w] at second
  obtain ⟨u, hu⟩ := exists_of_isOk second
  exact ⟨u, (isOk_sample s v).trans first, hfail, by rwa [after_of_allFail hfail]⟩

/-- The second sample shows the usage between the counters of the two. -/
theorem Consecutive.usage (h : s.Consecutive v between w u) :
    ∃ before now memory,
      (∃ stat netDev, Host.Shown v.1 s.root stat netDev before) ∧
      (∃ stat netDev, Host.Shown w.1 s.root stat netDev now) ∧
      u = Host.Usage.between before now (Span.between v.2 w.2) memory := by
  obtain ⟨u₀, hfirst⟩ := exists_of_isOk h.first
  obtain ⟨before, memory, hbefore, -, hkept⟩ := sample_eq_ok hfirst
  -- what fails in between leaves the counters of the first sample in place
  have hsecond := h.second
  rw [after_of_allFail h.fail, hkept] at hsecond
  obtain ⟨now, memory, hnow, rfl, -⟩ := sample_eq_ok hsecond
  exact ⟨before, now, memory, Host.measure_eq_ok hbefore, Host.measure_eq_ok hnow, rfl⟩

end Sampler

/-- A host with the given processor times and interfaces, and nothing else of note. -/
def Host.filesOf (stat netDev : String) : FileTree :=
  FileTree.empty.putText "/proc/stat" stat 0
    |>.putText "/proc/meminfo" "MemTotal: 100\nMemAvailable: 5\n" 0
    |>.putText "/proc/diskstats" "" 0
    |>.putText "/proc/net/dev" netDev 0

end NodePressure
