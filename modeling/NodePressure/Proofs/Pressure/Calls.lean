import Mathlib.Data.List.Basic
import NodePressure.Proofs.Pressure.Ticks

/-!
# NodePressure.Proofs.Pressure.Calls - what a tick asks, in order

What a tick asks is settled once the taints have been read, if they are, with the grace period and
what the node can spare: `State.wants` says which change each dimension calls for. A sweep moves no
dimension but the one that it visits, and goes on when a call has failed, so it makes the calls that
were wanted when it began (`questions_of_sweep`). With the way of an idle node this gives all that a
tick asks (`calls_of_tick`).
-/

namespace NodePressure.Pressure

/-- The questions that were asked, in order. -/
def questions : List (Happening world) → List Ask
  | [] => []
  | .noted _ :: hs => questions hs
  | .answered q _ :: hs => q :: questions hs

/-- The change that a dimension calls for: a taint if it is short and not flagged, and an untaint if
it is available, flagged and quiet for longer than the grace period. -/
def State.wants (s : State) (a : Availability) (grace : Span) (now : Moment) (d : Dimension) :
    Option TaintChange :=
  if a.has d = false ∧ s.flags.get d = false then some .taint
  else if a.has d = true ∧ s.flags.get d = true ∧ ∃ m ∈ s.lastBusy d, m + grace < now then
    some .untaint
  else none

variable {σ : Type} {W : Replies world σ} {resync : Option Nat} {e e' : σ}
  {hs hs' : List (Happening world)} {s s' : State} {a : Availability} {grace : Span} {now : Moment}
  {d : Dimension}

theorem questions_append : questions (hs ++ hs') = questions hs ++ questions hs' := by
  fun_induction questions hs with
  | case1 => rfl
  | case2 n hs ih => exact ih
  | case3 q b hs ih => exact congrArg (q :: ·) ih

theorem questions_told {ns : List Note} : questions (told (I := world) ns) = [] := by
  induction ns with
  | nil => rfl
  | cons n ns ih => exact ih

/-! ## Visits and sweeps -/

/-- A visit asks for the change that is wanted. -/
theorem State.wants_eq : s.wants a grace now d = (s.watch d).change? (a.has d) grace now := by
  unfold wants Watch.change?
  cases ha : a.has d with
  | false => cases hf : s.flags.get d <;> simp [State.watch, hf]
  | true =>
    cases hf : s.flags.get d with
    | false => simp [State.watch, hf]
    | true =>
      rcases hl : s.lastBusy d with - | m
      · simp [State.watch, hf, hl, Span.between]
      · have hquiet : m + (grace : Int) < now ↔ grace < Span.between m now := by
          rw [Span.between, Int.lt_toNat]
          exact ⟨Int.lt_sub_left_of_add_lt, Int.add_lt_of_lt_sub_left⟩
        simp [State.watch, hf, hl, hquiet]

theorem questions_of_visit {r : Step} (h : Program.Exec W (visit a grace now d s) e hs r e') :
    questions hs = ((s.wants a grace now d).map (.changeTaint d)).toList := by
  rw [visit_eq, ← State.wants_eq] at h
  cases hc : s.wants a grace now d with
  | none =>
    rw [hc] at h
    obtain ⟨rfl, -, -⟩ := Program.exec_done_iff.mp h
    rfl
  | some c =>
    rw [hc] at h
    obtain ⟨answer, -, rfl, -⟩ := exec_transition_iff.mp h
    rfl

/-- A sweep asks for the changes that were wanted when it began, whichever of its calls fail. -/
theorem questions_of_sweep {ds : List Dimension} (hds : ds.Nodup) {f : Option ClusterFault}
    {r : Step} (h : Program.Exec W (sweep a grace now ds s f) e hs r e') :
    questions hs = ds.filterMap fun d => (s.wants a grace now d).map (.changeTaint d) := by
  induction ds generalizing s f e hs with
  | nil =>
    obtain ⟨rfl, -, -⟩ := Program.exec_done_iff.mp h
    rfl
  | cons d ds ih =>
    obtain ⟨hd, hds⟩ := List.nodup_cons.mp hds
    simp only [sweep, Program.exec_bind_iff] at h
    obtain ⟨⟨s₁, f₁⟩, e₁, hs₁, hs₂, hvisit, hsweep, rfl⟩ := h
    -- the visit leaves what is wanted for the dimensions still to come
    have hrest : ∀ x ∈ ds, (s₁.wants a grace now x).map (Ask.changeTaint x) =
        (s.wants a grace now x).map (Ask.changeTaint x) := by
      intro x hx
      have hne : d ≠ x := fun heq => hd (heq ▸ hx)
      have hkept := exec_visit hvisit x
      rw [if_neg hne] at hkept
      rw [State.wants_eq, State.wants_eq, hkept.2]
    rw [questions_append, questions_of_visit hvisit, ih hds hsweep, List.filterMap_congr hrest,
      List.filterMap_cons]
    cases s.wants a grace now d <;> rfl

/-! ## Ticks -/

/-- Nothing is short, and no dimension is flagged. -/
def State.Idle (s : State) (a : Availability) : Prop :=
  (∀ r, a.of r = true) ∧ ∀ d, s.flags.get d = false

theorem State.idle_iff : s.Idle a ↔ (a.isFull && !s.flags.any) = true := by
  rw [Idle, ← Availability.isFull_iff_of, ← TaintFlags.any_eq_false_iff]
  simp

/-- An idle node has its labels cleared and is left as it is; another one is swept. -/
theorem questions_of_evaluate {r : State × Option Resource}
    (h : Program.Exec W (evaluate a grace now s) e hs r e') :
    (s.Idle a → questions hs = [.clearLabels] ∧ r.1 = s) ∧
    (¬ s.Idle a → questions hs =
      Dimension.all.filterMap fun d => (s.wants a grace now d).map (.changeTaint d)) := by
  rw [State.idle_iff]
  unfold evaluate at h
  split at h
  · rename_i hidle
    refine ⟨fun _ => ?_, fun hbusy => absurd hidle hbusy⟩
    obtain ⟨rfl, answer, ns, -, rfl⟩ := exec_idle h
    exact ⟨congrArg (Ask.clearLabels :: ·) questions_told, rfl⟩
  · rename_i hbusy
    refine ⟨fun hidle => absurd hidle hbusy, fun _ => ?_⟩
    simp only [Program.exec_bind_iff, Program.exec_note_iff, Program.exec_done_iff] at h
    obtain ⟨⟨s₁, f⟩, e₁, hs₁, hs₂, hsweep, ⟨hs₃, rfl, rfl, -⟩, rfl⟩ := h
    rw [questions_append, questions_of_sweep (by decide) hsweep]
    exact List.append_nil _

/-- A visit moves a flag to where its call has taken the taint, and leaves it if no call has
succeeded. -/
theorem Watch.Visit.flag {available : Bool} {w w' : Watch} {calls : List TaintCall}
    (h : w.Visit available grace now calls w') :
    (∀ c, (c, .ok ()) ∈ calls → w'.flag = c.flag) ∧
    ((∀ c, (c, .ok ()) ∉ calls) → w'.flag = w.flag) := by
  unfold Visit at h
  split at h
  · obtain ⟨rfl, rfl⟩ := h
    exact ⟨by simp, fun _ => flag_touch⟩
  · rename_i c hc
    obtain ⟨r, rfl, rfl⟩ := h
    rcases r with f | u
    · exact ⟨by simp, fun _ => flag_touch⟩
    · refine ⟨fun c' hc' => ?_, fun hnone => absurd (List.mem_singleton.mpr rfl) (hnone c)⟩
      obtain rfl := (Prod.mk.inj (List.mem_singleton.mp hc')).1
      rfl

theorem isResyncDue_iff {number : Nat} :
    isResyncDue resync number = true ↔ ∃ n ∈ resync, 0 < n ∧ n ∣ number := by
  cases resync with
  | none => simp [isResyncDue]
  | some n => simp [isResyncDue, Nat.dvd_iff_mod_eq_zero]

theorem questions_readings (answers : List (Except ClusterFault TaintFlags)) :
    questions (readings answers) = List.replicate answers.length .readTaints := by
  induction answers with
  | nil => rfl
  | cons answer answers ih => exact congrArg (Ask.readTaints :: ·) ih

/-- A tick reads the taints if that is due, asks for the grace period and what the node can spare,
and goes on as the evaluation does. -/
theorem questions_of_tick {number : Nat} {r : State × Option Resource}
    (h : Program.Exec W (tick resync number now s) e hs r e') :
    ∃ answers grace a rest, answersTo .readTaints hs = answers ∧
      answersTo .grace hs = [grace] ∧ answersTo .availability hs = [a] ∧
      questions hs = (if isResyncDue resync number then [.readTaints] else []) ++
        [.grace, .availability] ++ rest ∧
      let start := answers.foldl (fun s answer => s.read now answer) s
      (start.Idle a → rest = [.clearLabels] ∧ r.1 = start) ∧
      (¬ start.Idle a → rest =
        Dimension.all.filterMap fun d => (start.wants a grace now d).map (.changeTaint d)) := by
  obtain ⟨answers, ns, grace, a, last, e₁, hlength, rfl, heval⟩ := exec_tick_parts h
  obtain ⟨r₁, r₂⟩ := r
  obtain ⟨-, hasks, -⟩ := exec_evaluate heval
  have hlast := hasks .availability (by simp) (by simp)
  refine ⟨answers, grace, a, questions last, ?_, ?_, ?_, ?_, questions_of_evaluate heval⟩
  · simp [answersTo_of_ne, hasks]
  · simp [answersTo_readings_of_ne, answersTo_of_ne, hasks]
  · simp [answersTo_readings_of_ne, answersTo_of_ne, hlast]
  · rw [questions_append, questions_append, questions_readings, questions_told, hlength]
    split <;> rfl

/-- **The calls of one tick.** In every run, the tick that comes after `earlier` ones asks this and
nothing else, in this order: it reads the taints if and only if there is a resync period, not zero,
that divides its number; it asks the condition source for the grace period and what the node can
spare; and then, if nothing is short and no dimension is flagged after that reading, it has the
labels cleared once and changes nothing. Otherwise it makes the call that each dimension calls for,
one after the other, whichever of them fail. A flag moves only by a call for its own dimension that
has succeeded, or by the reading. -/
theorem calls_of_tick {s₀ : State} {e₀ : σ} {earlier later : List Ticked} {t : Ticked}
    (run : Ticking W resync s₀ e₀ (earlier ++ t :: later) s e) :
    ∃ grace a rest, t.grace? = some grace ∧ t.availability? = some a ∧
      questions t.happenings =
        (if ∃ n ∈ resync, 0 < n ∧ n ∣ earlier.length + 1 then [.readTaints] else []) ++
          [.grace, .availability] ++ rest ∧
      (t.start.Idle a → rest = [.clearLabels] ∧ t.after = t.start) ∧
      (¬ t.start.Idle a → rest =
        Dimension.all.filterMap fun d => (t.start.wants a grace t.now d).map (.changeTaint d)) ∧
      (∀ live, t.reads = [.ok live] → t.start = t.before.adopt live t.now) ∧
      ((∀ live, t.reads ≠ [.ok live]) → t.start = t.before) ∧
      ∀ d, (∀ c, (c, .ok ()) ∈ t.calls d → t.after.flags.get d = c.flag) ∧
        ((∀ c, (c, .ok ()) ∉ t.calls d) → t.after.flags.get d = t.start.flags.get d) := by
  rw [List.append_cons] at run
  obtain ⟨s₁, e₁, run₁⟩ := run.take
  obtain ⟨grace, a, sound⟩ := run₁.sound
  obtain ⟨-, number, e₂, -, hexec⟩ := run₁.last
  obtain ⟨answers, grace', a', rest, hreads, hgrace, ha, hasked, hidle, hbusy⟩ :=
    questions_of_tick hexec
  have hstart : t.start = answers.foldl (fun s answer => s.read t.now answer) t.before := by
    rw [Ticked.start, Ticked.reads, hreads]
  rw [← hstart] at hidle hbusy
  refine ⟨grace', a', rest, by rw [Ticked.grace?, hgrace]; rfl,
    by rw [Ticked.availability?, ha]; rfl, ?_, hidle, hbusy, fun live hlive => by rw [Ticked.start, hlive]; rfl, fun hnone => ?_,
    fun d => (sound.visit d).flag⟩
  · simp only [hasked, isResyncDue_iff, number]
  · rcases sound.start_eq with heq | ⟨live, hlive, -⟩
    · exact heq
    · exact absurd hlive (hnone live)

/-- A node is short of memory and disk, and only the second taint succeeds. At the next tick, which
reads the taints, memory is still short, and the network is found tainted: the first taint is tried
again, the disk is untainted, and the network is held. -/
theorem second_tick_asks_five_questions :
    ∃ t u : Ticked, Ticking anyReply (some 2) .fresh () ([t] ++ u :: []) u.after () ∧
      t.calls .memory = [(.taint, .error (.other "refused"))] ∧
      questions u.happenings = [.readTaints, .grace, .availability,
        .changeTaint .memory .taint, .changeTaint .diskIo .untaint] ∧
      u.after.flags.get .memory = false ∧ u.after.flags.get .network = true := by
  let reply (busy : List Resource) : (q : Ask) → q.Answer
    | .readTaints => .ok (.ofList [.diskIo, .network])
    | .grace => Span.seconds 30
    | .availability => .without busy
    | .changeTaint .memory _ => .error (.other "refused")
    | .changeTaint .. => .ok ()
    | q => q.silence
  let s := ((State.fresh.setBusy .memory 0).setBusy .diskIo 0).setFlag .diskIo true
  let t : Ticked := .play (some 2) (reply [.memory, .diskIo]) 1 0 .fresh
  let u : Ticked := .play (some 2) (reply [.memory]) 2 (Span.seconds 40) s
  have first : Ticking anyReply (some 2) .fresh () [t] s () := Ticking.start.play _ 0
  have run : Ticking anyReply (some 2) .fresh () ([t] ++ u :: []) u.after () := first.play _ _
  obtain ⟨grace, a, rest, hgrace, ha, hasked, -, hbusy, -, -, hflags⟩ := calls_of_tick run
  obtain rfl : Span.seconds 30 = grace := Option.some_inj.mp hgrace
  obtain rfl : Availability.without [.memory] = a := Option.some_inj.mp ha
  have hrest := hbusy fun hidle => absurd (hidle.1 .memory) (by decide)
  have hnone : ∀ d, d ≠ .diskIo → ∀ c, (c, .ok ()) ∉ u.calls d := by
    intro d hd c
    cases d with
    | diskIo => exact absurd rfl hd
    | memory =>
      have hcalls : u.calls .memory = [(.taint, .error (.other "refused"))] := rfl
      simp [hcalls]
    | cpu => exact List.not_mem_nil
    | network => exact List.not_mem_nil
  refine ⟨t, u, run, rfl, ?_, ?_, ?_⟩
  · rw [hasked, hrest]
    decide
  · rw [(hflags .memory).2 (hnone _ (by decide))]
    rfl
  · rw [(hflags .network).2 (hnone _ (by decide))]
    rfl

end NodePressure.Pressure
