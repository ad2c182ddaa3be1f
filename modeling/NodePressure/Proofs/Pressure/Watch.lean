import Mathlib.Tactic.SplitIfs
import NodePressure.Pressure.Tick
import NodePressure.Proofs.Execution

/-!
# NodePressure.Proofs.Pressure.Watch - a tick as seen by one dimension

A `Watch` is what is remembered of one dimension. `Watch.Visit` says what evaluating the node does
to it and which calls are made. No dimension looks at another one, so the sweep is four visits side
by side (`exec_sweep`), and the way of a node that is idle is the visit that does nothing
(`exec_evaluate`). `exec_tick` puts the reading of taints, grace and availability before it.
-/

namespace NodePressure.Pressure

variable {σ : Type} {W : Replies world σ} {e e' : σ} {hs : List (Happening world)}

/-! ## The watch of a dimension -/

/-- What is remembered of one dimension. -/
structure Watch where
  flag : Bool
  last : Option Moment

/-- A call that changes a taint, with its outcome. -/
abbrev TaintCall := TaintChange × Except ClusterFault Unit

namespace Watch

/-- The watch when a visit has noted what it saw. -/
def touch (available : Bool) (now : Moment) (w : Watch) : Watch :=
  if available then
    if w.flag then { w with last := some (w.last.getD now) } else w
  else { w with last := some now }

/-- The change that a visit asks for, if any. -/
def change? (available : Bool) (grace : Span) (now : Moment) (w : Watch) : Option TaintChange :=
  if available then
    if w.flag && grace < Span.between (w.last.getD now) now then some .untaint else none
  else if w.flag then none else some .taint

/-- The watch after a call: its flag follows only if the call succeeded. -/
def follow (call : TaintCall) (w : Watch) : Watch :=
  match call.2 with
  | .ok _ => { w with flag := call.1.flag }
  | .error _ => w

/-- What a visit may do: the calls that are made, and the watch afterwards. -/
def Visit (available : Bool) (grace : Span) (now : Moment) (w : Watch) (calls : List TaintCall)
    (w' : Watch) : Prop :=
  match w.change? available grace now with
  | none => calls = [] ∧ w' = w.touch available now
  | some c => ∃ r, calls = [(c, r)] ∧ w' = (w.touch available now).follow (c, r)

variable {available : Bool} {grace : Span} {now : Moment} {w w' : Watch} {calls : List TaintCall}

theorem last_follow (call : TaintCall) : (w.follow call).last = w.last := by
  obtain ⟨c, r | r⟩ := call <;> rfl

/-- Only calls move the flag. -/
theorem flag_touch : (w.touch available now).flag = w.flag := by
  unfold touch
  split_ifs <;> rfl

/-- What a visit notes moves the record to the present, if at all. -/
theorem last_touch :
    (w.touch available now).last = w.last ∨ (w.touch available now).last = some now := by
  unfold touch
  split_ifs
  · cases hlast : w.last <;> simp
  · exact .inl rfl
  · exact .inr rfl

theorem Visit.last (h : w.Visit available grace now calls w') :
    w'.last = (w.touch available now).last := by
  unfold Visit at h
  split at h
  · rw [h.2]
  · obtain ⟨r, -, rfl⟩ := h
    exact last_follow _

/-- A call is made if the watch asks for its change, and only then. -/
theorem Visit.call_iff (h : w.Visit available grace now calls w') {c : TaintChange} :
    (∃ r, (c, r) ∈ calls) ↔ w.change? available grace now = some c := by
  unfold Visit at h
  split at h
  · rename_i hc
    simp [h.1, hc]
  · rename_i c' hc
    obtain ⟨r, rfl, -⟩ := h
    rw [hc, Option.some_inj]
    constructor
    · rintro ⟨r', hr⟩
      exact (congrArg Prod.fst (List.mem_singleton.mp hr)).symm
    · rintro rfl
      exact ⟨r, by simp⟩

theorem change?_eq_untaint_iff :
    w.change? available grace now = some .untaint ↔
      w.flag = true ∧ available = true ∧ grace < Span.between (w.last.getD now) now := by
  cases available <;> cases hw : w.flag <;> simp [change?, hw]

/-- A call that failed leaves the flag as it was. -/
theorem Visit.flag_of_failed (h : w.Visit available grace now calls w') {c : TaintChange}
    {f : ClusterFault} (hf : (c, .error f) ∈ calls) : w'.flag = w.flag := by
  unfold Visit at h
  split at h
  · simp [h.1] at hf
  · obtain ⟨r, rfl, rfl⟩ := h
    obtain ⟨rfl, rfl⟩ := Prod.mk.inj (List.mem_singleton.mp hf)
    exact flag_touch

/-- An available dimension is never tainted anew. -/
theorem Visit.flag_of_available (h : w.Visit true grace now calls w') (hflag : w'.flag = true) :
    w.flag = true := by
  cases hw : w.flag with
  | true => rfl
  | false =>
    have hidle : w.change? true grace now = none := by simp [change?, hw]
    rw [Visit, hidle] at h
    obtain ⟨-, rfl⟩ := h
    simp [touch, hw] at hflag

end Watch

namespace State

/-- What is remembered of a dimension. -/
def watch (s : State) (d : Dimension) : Watch :=
  ⟨s.flags.get d, s.lastBusy d⟩

/-- The state when a visit to a dimension has noted what it saw. -/
def touch (available : Bool) (now : Moment) (d : Dimension) (s : State) : State :=
  if available then
    if s.flags.get d && (s.lastBusy d).isNone then s.setBusy d now else s
  else s.setBusy d now

/-- The state after a call for a dimension. -/
def follow (d : Dimension) (call : TaintCall) (s : State) : State :=
  match call.2 with
  | .ok _ => s.setFlag d call.1.flag
  | .error _ => s

theorem watch_touch (available : Bool) (now : Moment) (d x : Dimension) (s : State) :
    (s.touch available now d).watch x =
      if d = x then (s.watch x).touch available now else s.watch x := by
  by_cases hx : d = x
  · subst hx
    rcases hl : s.lastBusy d with - | m <;> cases available <;> cases hf : s.flags.get d <;>
      simp [touch, watch, Watch.touch, hl, hf]
  · simp only [touch, watch, if_neg hx]
    split_ifs <;> simp [hx]

theorem watch_follow (d x : Dimension) (call : TaintCall) (s : State) :
    (s.follow d call).watch x = if d = x then (s.watch x).follow call else s.watch x := by
  obtain ⟨c, r | r⟩ := call
  · simp [follow, Watch.follow]
  · by_cases hx : d = x <;> simp [follow, Watch.follow, watch, hx]

end State

/-! ## Calls for one dimension -/

/-- The calls that change the taint of a dimension, in order. -/
def callsFor (d : Dimension) : List (Happening world) → List TaintCall
  | [] => []
  | .answered (.changeTaint x c) r :: hs =>
    if x = d then (c, r) :: callsFor d hs else callsFor d hs
  | _ :: hs => callsFor d hs

theorem callsFor_append (d : Dimension) (hs hs' : List (Happening world)) :
    callsFor d (hs ++ hs') = callsFor d hs ++ callsFor d hs' := by
  fun_induction callsFor d hs with
  | case1 => rfl
  | case2 c r hs ih => simp [callsFor, ih]
  | case3 x c r hs hx ih => simp [callsFor, ih, hx]
  | case4 h hs hx ih => simp [callsFor, ih]

/-- The fault of a call, if it failed. -/
def fault? : Except ClusterFault Unit → Option ClusterFault
  | .ok _ => none
  | .error f => some f

/-! ## Visits and sweeps -/

theorem exec_transition_iff {d : Dimension} {c : TaintChange} {s : State} {r : Step} :
    Program.Exec W (transition d c s) e hs r e' ↔
      ∃ answer, W e (.changeTaint d c) answer e' ∧
        hs = [.answered (.changeTaint d c) answer,
          .noted (.taintCall d c (faultText ClusterFault.message answer))] ∧
        r = (s.follow d (c, answer), fault? answer) := by
  have heq : transition d c s = .ask (.changeTaint d c) fun answer =>
      .note (.taintCall d c (faultText ClusterFault.message answer))
        (.done (s.follow d (c, answer), fault? answer)) := by
    unfold transition
    congr 1
    funext answer
    rcases answer with f | u <;> rfl
  rw [heq]
  simp only [Program.exec_ask_iff, Program.exec_note_iff, Program.exec_done_iff]
  constructor
  · rintro ⟨answer, e₁, hs₁, hW, rfl, hs₂, rfl, rfl, rfl, rfl⟩
    exact ⟨answer, hW, rfl, rfl⟩
  · rintro ⟨answer, hW, rfl, rfl⟩
    exact ⟨answer, e', _, hW, rfl, _, rfl, rfl, rfl, rfl⟩

/-- A visit notes what it saw and makes the call that the watch asks for. -/
theorem visit_eq (a : Availability) (grace : Span) (now : Moment) (d : Dimension) (s : State) :
    visit a grace now d s =
      match (s.watch d).change? (a.has d) grace now with
      | none => .done (s.touch (a.has d) now d, none)
      | some c => transition d c (s.touch (a.has d) now d) := by
  cases ha : a.has d with
  | false =>
    cases hf : s.flags.get d <;>
      simp [visit, press, State.watch, Watch.change?, State.touch, ha, hf]
  | true =>
    cases hf : s.flags.get d with
    | false => simp [visit, relieve, State.watch, Watch.change?, State.touch, ha, hf]
    | true =>
      by_cases hq : Span.between ((s.lastBusy d).getD now) now ≤ grace
      · have hq' : ¬ grace < Span.between ((s.lastBusy d).getD now) now := Nat.not_lt.mpr hq
        simp [visit, relieve, State.watch, Watch.change?, State.touch, ha, hf, hq, hq']
      · have hq' : grace < Span.between ((s.lastBusy d).getD now) now := Nat.lt_of_not_le hq
        simp [visit, relieve, State.watch, Watch.change?, State.touch, ha, hf, hq, hq']

/-- What a visit does to each dimension: its own is visited, the others stay as they are. -/
theorem exec_visit {a : Availability} {grace : Span} {now : Moment} {d : Dimension} {s s' : State}
    {f : Option ClusterFault} (h : Program.Exec W (visit a grace now d s) e hs (s', f) e')
    (x : Dimension) :
    if d = x then (s.watch x).Visit (a.has x) grace now (callsFor x hs) (s'.watch x)
    else callsFor x hs = [] ∧ s'.watch x = s.watch x := by
  rw [visit_eq] at h
  cases hc : (s.watch d).change? (a.has d) grace now with
  | none =>
    simp only [hc, Program.exec_done_iff, Prod.mk.injEq] at h
    obtain ⟨rfl, ⟨rfl, rfl⟩, rfl⟩ := h
    by_cases hx : d = x
    · subst hx
      simp [Watch.Visit, hc, callsFor, State.watch_touch]
    · simp [hx, callsFor, State.watch_touch]
  | some c =>
    simp only [hc, exec_transition_iff, Prod.mk.injEq] at h
    obtain ⟨answer, -, rfl, rfl, rfl⟩ := h
    by_cases hx : d = x
    · subst hx
      rw [if_pos rfl, State.watch_follow, if_pos rfl, State.watch_touch, if_pos rfl, Watch.Visit,
        hc]
      exact ⟨answer, by simp [callsFor], rfl⟩
    · simp [hx, callsFor, State.watch_touch, State.watch_follow]

/-- What a sweep does to each dimension: those of the list are visited, the others stay. -/
theorem exec_sweep {a : Availability} {grace : Span} {now : Moment} {ds : List Dimension}
    (hds : ds.Nodup) {s s' : State} {f f' : Option ClusterFault}
    (h : Program.Exec W (sweep a grace now ds s f) e hs (s', f') e') (x : Dimension) :
    if x ∈ ds then (s.watch x).Visit (a.has x) grace now (callsFor x hs) (s'.watch x)
    else callsFor x hs = [] ∧ s'.watch x = s.watch x := by
  induction ds generalizing s f e hs with
  | nil =>
    simp only [sweep, Program.exec_done_iff, Prod.mk.injEq] at h
    obtain ⟨rfl, ⟨rfl, rfl⟩, rfl⟩ := h
    simp [callsFor]
  | cons d ds ih =>
    obtain ⟨hd, hds⟩ := List.nodup_cons.mp hds
    simp only [sweep, Program.exec_bind_iff] at h
    obtain ⟨⟨s₁, f₁⟩, e₁, hs₁, hs₂, hvisit, hsweep, rfl⟩ := h
    have hv := exec_visit hvisit x
    have hr := ih hds hsweep
    rw [callsFor_append]
    by_cases hx : d = x
    · subst hx
      rw [if_pos rfl] at hv
      rw [if_neg hd] at hr
      simpa [hr.1, hr.2] using hv
    · rw [if_neg hx] at hv
      have hmem : x ∈ d :: ds ↔ x ∈ ds := by simp [Ne.symm hx]
      simpa only [hmem, hv.1, hv.2, List.nil_append] using hr

/-- A sweep asks nothing but to change taints. -/
theorem exec_sweep_asks {a : Availability} {grace : Span} {now : Moment} {ds : List Dimension}
    {s : State} {f : Option ClusterFault} {r : Step} {q : Ask} (hq : ∀ d c, Ask.changeTaint d c ≠ q)
    (h : Program.Exec W (sweep a grace now ds s f) e hs r e') : answersTo q hs = [] := by
  induction ds generalizing s f e hs with
  | nil =>
    obtain ⟨rfl, -, -⟩ := Program.exec_done_iff.mp h
    rfl
  | cons d ds ih =>
    simp only [sweep, Program.exec_bind_iff] at h
    obtain ⟨⟨s₁, f₁⟩, e₁, hs₁, hs₂, hvisit, hsweep, rfl⟩ := h
    rw [answersTo_append, ih hsweep, List.append_nil]
    rw [visit_eq] at hvisit
    split at hvisit
    · obtain ⟨rfl, -, -⟩ := Program.exec_done_iff.mp hvisit
      rfl
    · obtain ⟨answer, -, rfl, -⟩ := exec_transition_iff.mp hvisit
      exact answersTo_of_ne (hq d _)

/-! ## Ticks -/

/-- A watch that is low while its dimension is available asks for nothing. -/
theorem Watch.visit_idle {grace : Span} {now : Moment} {w : Watch} (hw : w.flag = false) :
    w.Visit true grace now [] w := by
  simp [Watch.Visit, Watch.change?, Watch.touch, hw]

theorem callsFor_told (d : Dimension) (ns : List Note) :
    callsFor d (told (I := world) ns) = [] := by
  induction ns with
  | nil => rfl
  | cons n ns ih => exact ih

/-- An idle node has its labels cleared, and nothing else happens. -/
theorem exec_idle {s : State} {r : State × Option Resource}
    (h : Program.Exec W (idle s) e hs r e') :
    r = (s, none) ∧ ∃ (answer : Except ClusterFault Unit) (ns : List Note),
      W e .clearLabels answer e' ∧
      hs = .noted (.count .idleTicks) :: .answered .clearLabels answer :: told (I := world) ns := by
  simp only [idle, Program.exec_note_iff, Program.exec_ask_iff] at h
  obtain ⟨hs₁, rfl, answer, e₁, hs₂, hW, rfl, h⟩ := h
  rcases answer with f | u
  · simp only [Program.exec_note_iff, Program.exec_done_iff] at h
    obtain ⟨hs₃, rfl, hs₄, rfl, rfl, rfl, rfl⟩ := h
    exact ⟨rfl, .error f, [_, _], hW, rfl⟩
  · simp only [Program.exec_note_iff, Program.exec_done_iff] at h
    obtain ⟨hs₃, rfl, rfl, rfl, rfl⟩ := h
    exact ⟨rfl, .ok u, [_], hW, rfl⟩

theorem signalOf_of_has {a : Availability} (h : ∀ d, a.has d = true) : signalOf a = none := by
  rw [signalOf, Option.map_eq_none_iff, List.find?_eq_none]
  intro d _
  simp [h d]

/-- What evaluating the node does to each dimension; the way of an idle node makes no difference. -/
theorem exec_evaluate {a : Availability} {grace : Span} {now : Moment} {s s' : State}
    {signal : Option Resource}
    (h : Program.Exec W (evaluate a grace now s) e hs (s', signal) e') :
    signal = signalOf a ∧ (∀ q, (∀ d c, Ask.changeTaint d c ≠ q) → Ask.clearLabels ≠ q →
      answersTo q hs = []) ∧
    ∀ d, (s.watch d).Visit (a.has d) grace now (callsFor d hs) (s'.watch d) := by
  unfold evaluate at h
  by_cases hidle : (a.isFull && !s.flags.any) = true
  · rw [if_pos hidle] at h
    simp only [Bool.and_eq_true, Bool.not_eq_true', Availability.isFull_iff,
      TaintFlags.any_eq_false_iff] at hidle
    obtain ⟨hr, answer, ns, -, rfl⟩ := exec_idle h
    obtain ⟨rfl, rfl⟩ := Prod.mk.inj hr
    refine ⟨(signalOf_of_has hidle.1).symm, fun q _ hq => ?_, fun d => ?_⟩
    · exact (answersTo_of_ne hq).trans answersTo_told
    · have hcalls : callsFor d (.noted (.count .idleTicks) :: .answered .clearLabels answer ::
          told (I := world) ns) = [] := callsFor_told d ns
      rw [hcalls, hidle.1 d]
      exact Watch.visit_idle (hidle.2 d)
  · rw [if_neg hidle] at h
    simp only [Program.exec_bind_iff, Program.exec_note_iff, Program.exec_done_iff,
      Prod.mk.injEq] at h
    obtain ⟨⟨s₁, f⟩, e₁, hs₁, hs₂, hsweep, ⟨hs₃, rfl, rfl, ⟨rfl, rfl⟩, rfl⟩, rfl⟩ := h
    refine ⟨rfl, fun q hq _ => ?_, fun d => ?_⟩
    · rw [answersTo_append, exec_sweep_asks hq hsweep]
      rfl
    · have hd := exec_sweep (by decide) hsweep d
      rw [if_pos (Dimension.mem_all d)] at hd
      simpa [callsFor_append, callsFor] using hd

/-- The state when the taints of the node have been read, or could not be. -/
def State.read (now : Moment) (answer : Except ClusterFault TaintFlags) (s : State) : State :=
  match answer with
  | .ok live => s.adopt live now
  | .error _ => s

theorem State.adopt_self (s : State) (now : Moment) : s.adopt s.flags now = s := by
  simp [State.adopt]

theorem exec_resyncWith {now : Moment} {s s' : State}
    (h : Program.Exec W (resyncWith now s) e hs s' e') :
    ∃ (answer : Except ClusterFault TaintFlags) (ns : List Note), W e .readTaints answer e' ∧
      s' = s.read now answer ∧
      hs = .answered .readTaints answer :: told (I := world) ns := by
  obtain ⟨answer, e₁, hs₁, hW, rfl, hnext⟩ := Program.exec_ask_iff.mp h
  rcases answer with f | live
  · obtain ⟨rfl, rfl, rfl⟩ := Program.exec_done_iff.mp hnext
    exact ⟨.error f, [], hW, rfl, rfl⟩
  · by_cases hl : live = s.flags
    · simp only [if_pos hl] at hnext
      obtain ⟨rfl, rfl, rfl⟩ := Program.exec_done_iff.mp hnext
      exact ⟨.ok live, [], hW, by rw [State.read, hl, State.adopt_self], rfl⟩
    · simp only [if_neg hl, Program.exec_bind_iff, Program.exec_tellAll_iff,
        Program.exec_done_iff] at hnext
      obtain ⟨u, e₂, hs₂, hs₃, ⟨rfl, rfl⟩, ⟨rfl, rfl, rfl⟩, rfl⟩ := hnext
      exact ⟨.ok live, _, hW, rfl, by rw [List.append_nil]⟩

end NodePressure.Pressure
