import NodePressure.Proofs.Host.Samples
import NodePressure.Proofs.Number.Sums

/-!
# NodePressure.Proofs.Host.ProcessorTime - busy time and the time that passes

Busy and idle time add up to the total, also where 64 bits end (`busy_add_idleTime`). So between two
samples busy time grows by what the total grows, less what idle time grows (`busy_growth`). The
share of busy time is a share of the whole exactly if idle time does not go back, which the kernel
does not rule out (`busy_within_total_iff`, `busy_beyond_total`).
-/

namespace NodePressure.Host

variable {text : List Char} {fields fields' : List Nat} {t : CpuTimes}

/-! ## The counters of a text -/

/-- The counters that a text shows for all processors together, of which there are enough. -/
structure Row (text : List Char) (fields : List Nat) : Prop where
  line : ∃ line, totalsLine? text = some line ∧
    (((Text.words line).drop 1).take 8).mapM counter = .ok fields
  enough : 4 ≤ fields.length

theorem Row.unique (h : Row text fields) (h' : Row text fields') : fields = fields' := by
  obtain ⟨line, hline, hfields⟩ := h.line
  obtain ⟨line', hline', hfields'⟩ := h'.line
  obtain rfl := Option.some_inj.mp (hline.symm.trans hline')
  exact Except.ok.inj (hfields.symm.trans hfields')

/-- Processor times are read of the counters of a text, if it has enough of them. -/
theorem readCpuTimes_eq_ok_iff :
    readCpuTimes text = .ok t ↔ ∃ fields, Row text fields ∧ t = CpuTimes.ofFields fields := by
  unfold readCpuTimes
  cases hline : totalsLine? text with
  | none =>
    refine iff_of_false nofun ?_
    rintro ⟨fields, ⟨⟨line, hsome, -⟩, -⟩, -⟩
    exact absurd (hline.symm.trans hsome) nofun
  | some line =>
    simp only [bind_eq_ok_iff]
    constructor
    · rintro ⟨fields, hfields, h⟩
      by_cases hshort : fields.length < 4
      · rw [if_pos hshort] at h
        cases h
      · rw [if_neg hshort] at h
        exact ⟨fields, ⟨⟨line, hline, hfields⟩, Nat.not_lt.mp hshort⟩, (Except.ok.inj h).symm⟩
    · rintro ⟨fields, ⟨⟨line', hsome, hfields⟩, henough⟩, rfl⟩
      obtain rfl := Option.some_inj.mp (hline.symm.trans hsome)
      exact ⟨fields, hfields, by rw [if_neg (Nat.not_lt.mpr henough)]; rfl⟩

/-! ## Busy and idle time -/

/-- The time of idling and of waiting for input and output, as far as 64 bits go. -/
def idleTime (fields : List Nat) : Nat :=
  min (fields.getD 3 0 + fields.getD 4 0) Number.max64

theorem total_ofFields : (CpuTimes.ofFields fields).total = min fields.sum Number.max64 := by
  rw [CpuTimes.ofFields, Number.foldl_capAdd (Nat.zero_le _), Nat.zero_add]

theorem idle_le_sum (fields : List Nat) : fields.getD 3 0 + fields.getD 4 0 ≤ fields.sum := by
  match fields with
  | [] | [_] | [_, _] | [_, _, _] => simp
  | [_, _, _, _] => simp; omega
  | _ :: _ :: _ :: _ :: _ :: _ => simp; omega

/-- Busy and idle time make up the total. -/
theorem busy_add_idleTime (fields : List Nat) :
    (CpuTimes.ofFields fields).busy + idleTime fields = (CpuTimes.ofFields fields).total := by
  have hbusy : (CpuTimes.ofFields fields).busy =
      (CpuTimes.ofFields fields).total - idleTime fields := rfl
  -- the cap is the same on both sides, so the subtraction above never stops at zero
  have hidle : idleTime fields ≤ (CpuTimes.ofFields fields).total := by
    have := idle_le_sum fields
    rw [total_ofFields, idleTime]
    omega
  omega

/-! ## Two samples -/

/-- What busy time grows by: where the total grows, by that less what idle time grows. -/
theorem busy_growth
    (h : (CpuTimes.ofFields fields).total ≤ (CpuTimes.ofFields fields').total) :
    (CpuTimes.ofFields fields').busy - (CpuTimes.ofFields fields).busy =
      (CpuTimes.ofFields fields').total - (CpuTimes.ofFields fields).total + idleTime fields -
        idleTime fields' := by
  have hbefore := busy_add_idleTime fields
  have hnow := busy_add_idleTime fields'
  omega

variable {s : Sampler} {v w : Visit} {between : List Visit} {u : Usage}

/-- **Busy time grows by at most what the total grows exactly if idle time does not go back.** The
second of two good samples in a row shows the share of busy time in what the total has grown by. If
it has grown, busy time has grown by that less what idle time has grown, or with what idle time has
gone back, whatever counters went back, began again or ended at 64 bits. -/
theorem busy_within_total_iff (h : s.Consecutive v between w u) :
    ∃ stat stat' fields fields',
      Source.stat.read v.1 s.root = .ok stat ∧ Row stat.toList fields ∧
      Source.stat.read w.1 s.root = .ok stat' ∧ Row stat'.toList fields' ∧
      let before := CpuTimes.ofFields fields
      let now := CpuTimes.ofFields fields'
      u.cpuBusyPercent = cpuPercent before now ∧
      (before.total < now.total →
        now.busy - before.busy =
          now.total - before.total + idleTime fields - idleTime fields' ∧
        (now.busy - before.busy ≤ now.total - before.total ↔
          idleTime fields ≤ idleTime fields')) := by
  obtain ⟨before, now, memory, ⟨stat, _, hbefore⟩, ⟨stat', _, hnow⟩, rfl⟩ := h.usage
  obtain ⟨fields, hrow, hfields⟩ := readCpuTimes_eq_ok_iff.mp hbefore.cpu
  obtain ⟨fields', hrow', hfields'⟩ := readCpuTimes_eq_ok_iff.mp hnow.cpu
  refine ⟨stat, stat', fields, fields', hbefore.readStat, hrow, hnow.readStat, hrow', ?_,
    fun hpassed => ?_⟩
  · rw [cpuBusyPercent_between, hfields, hfields']
  · have hgrowth := busy_growth (Nat.le_of_lt hpassed)
    refine ⟨hgrowth, ?_⟩
    omega

/-- The same counters after the texts were lost for a while: waiting has gone back, but idling has
grown by more, and of 60 ticks that have passed 20 were busy. -/
theorem waiting_goes_back :
    ∃ (u : Usage) (fields fields' : List Nat),
      (Sampler.fresh "/proc").Consecutive (filesOf "cpu 30 0 0 900 100\n" "", 0)
        [(FileTree.empty, Span.seconds 5)] (filesOf "cpu 50 0 0 960 80\n" "", Span.seconds 10) u ∧
      fields = [30, 0, 0, 900, 100] ∧ fields' = [50, 0, 0, 960, 80] ∧
      u.cpuBusyPercent = cpuPercent (.ofFields fields) (.ofFields fields') ∧
      (CpuTimes.ofFields fields').busy - (CpuTimes.ofFields fields).busy ≤
        (CpuTimes.ofFields fields').total - (CpuTimes.ofFields fields).total := by
  obtain ⟨u, h⟩ : ∃ u, (Sampler.fresh "/proc").Consecutive
      (filesOf "cpu 30 0 0 900 100\n" "", 0) [(FileTree.empty, Span.seconds 5)]
      (filesOf "cpu 50 0 0 960 80\n" "", Span.seconds 10) u :=
    Sampler.exists_consecutive (by decide +kernel) (by decide +kernel) (by decide +kernel)
  obtain ⟨stat, stat', fields, fields', hstat, hrow, hstat', hrow', hshare, hgrowth⟩ :=
    busy_within_total_iff h
  obtain rfl : stat = "cpu 30 0 0 900 100\n" := Except.ok.inj (hstat.symm.trans rfl)
  obtain rfl : stat' = "cpu 50 0 0 960 80\n" := Except.ok.inj (hstat'.symm.trans rfl)
  have hfields : fields = [30, 0, 0, 900, 100] := hrow.unique ⟨⟨_, rfl, rfl⟩, by decide⟩
  have hfields' : fields' = [50, 0, 0, 960, 80] := hrow'.unique ⟨⟨_, rfl, rfl⟩, by decide⟩
  refine ⟨u, fields, fields', h, hfields, hfields', hshare, (hgrowth ?_).2.mpr ?_⟩
  · rw [hfields, hfields']
    decide
  · rw [hfields, hfields']
    decide

/-- **The busy share can be more than the whole.** Idling goes back while the processor is busy: of
ten ticks that have passed, 60 were busy. -/
theorem busy_beyond_total :
    ∃ (u : Usage) (before now : CpuTimes),
      (Sampler.fresh "/proc").Consecutive (filesOf "cpu 0 0 0 100\n" "", 0) []
        (filesOf "cpu 60 0 0 50\n" "", Span.seconds 5) u ∧
      readCpuTimes "cpu 0 0 0 100\n".toList = .ok before ∧
      readCpuTimes "cpu 60 0 0 50\n".toList = .ok now ∧
      u.cpuBusyPercent = cpuPercent before now ∧
      now.total - before.total = 10 ∧ now.busy - before.busy = 60 := by
  obtain ⟨u, h⟩ : ∃ u, (Sampler.fresh "/proc").Consecutive (filesOf "cpu 0 0 0 100\n" "", 0) []
      (filesOf "cpu 60 0 0 50\n" "", Span.seconds 5) u :=
    Sampler.exists_consecutive (by decide +kernel) (by simp) (by decide +kernel)
  have hbefore : readCpuTimes "cpu 0 0 0 100\n".toList = .ok ⟨0, 100⟩ := rfl
  have hnow : readCpuTimes "cpu 60 0 0 50\n".toList = .ok ⟨60, 110⟩ := rfl
  obtain ⟨before, now, memory, ⟨stat, _, shown⟩, ⟨stat', _, shown'⟩, rfl⟩ := h.usage
  obtain rfl : stat = "cpu 0 0 0 100\n" := Except.ok.inj (shown.readStat.symm.trans rfl)
  obtain rfl : stat' = "cpu 60 0 0 50\n" := Except.ok.inj (shown'.readStat.symm.trans rfl)
  have hcpu : before.cpu = ⟨0, 100⟩ := Except.ok.inj (shown.cpu.symm.trans hbefore)
  have hcpu' : now.cpu = ⟨60, 110⟩ := Except.ok.inj (shown'.cpu.symm.trans hnow)
  refine ⟨_, _, _, h, hbefore, hnow, ?_, rfl, rfl⟩
  rw [cpuBusyPercent_between, hcpu, hcpu']

end NodePressure.Host
