import Mathlib.Order.Bounds.Basic
import NodePressure.Proofs.Pressure.Ticks

/-!
# NodePressure.Proofs.Pressure.Hysteresis - when a node is untainted

A moment counts as *busy* for a dimension if a tick found it short then, or if its taint was found
on the node then. `Tracks` is the invariant of a run: a dimension that is flagged has its latest
busy moment on record. `untaint_iff_quiet` says that the node is untainted exactly when more than
the grace period has passed since.
-/

namespace NodePressure.Pressure

variable {σ : Type} {W : Replies world σ} {resync : Option Nat}

/-- How a run begins: with nothing known, or with the taints that were found on the node. -/
inductive Origin
  | fresh
  | found (live : TaintFlags) (now : Moment)

namespace Origin

/-- The state in which a run begins. -/
def state : Origin → State
  | fresh => .fresh
  | found live now => .reconciled live now

/-- When a run begins, if that is known. -/
def moments : Origin → List Moment
  | fresh => []
  | found _ now => [now]

end Origin

/-- The busy moments of a dimension in a run. -/
inductive Busy (o : Origin) (d : Dimension) (ts : List Ticked) : Moment → Prop
  | found {live : TaintFlags} {now : Moment} (ho : o = .found live now) (h : live.get d = true) :
      Busy o d ts now
  | short {t : Ticked} (ht : t ∈ ts) (h : t.Short d) : Busy o d ts t.now
  | adopted {t : Ticked} (ht : t ∈ ts) (h : t.Adopted d) : Busy o d ts t.now

/-- The busy moments that count at a tick: those before it, and the tick itself if it finds the
taint of the dimension on the node. -/
def busyAt (o : Origin) (d : Dimension) (earlier : List Ticked) (t : Ticked) : Set Moment :=
  {m | Busy o d earlier m ∨ t.Adopted d ∧ m = t.now}

/-- No tick begins before the one before it, or before the run. -/
def Ordered (o : Origin) (ts : List Ticked) : Prop :=
  (o.moments ++ ts.map Ticked.now).Pairwise (· ≤ ·)

variable {o : Origin} {d : Dimension} {ts : List Ticked} {t : Ticked} {m : Moment}

theorem busy_append_singleton :
    Busy o d (ts ++ [t]) m ↔ Busy o d ts m ∨ m = t.now ∧ (t.Short d ∨ t.Adopted d) := by
  constructor
  · rintro (⟨ho, h⟩ | ⟨ht, h⟩ | ⟨ht, h⟩)
    · exact .inl (.found ho h)
    · rcases List.mem_append.mp ht with ht | ht
      · exact .inl (.short ht h)
      · obtain rfl := List.mem_singleton.mp ht
        exact .inr ⟨rfl, .inl h⟩
    · rcases List.mem_append.mp ht with ht | ht
      · exact .inl (.adopted ht h)
      · obtain rfl := List.mem_singleton.mp ht
        exact .inr ⟨rfl, .inr h⟩
  · rintro ((⟨ho, h⟩ | ⟨ht, h⟩ | ⟨ht, h⟩) | ⟨rfl, h | h⟩)
    · exact .found ho h
    · exact .short (List.mem_append_left _ ht) h
    · exact .adopted (List.mem_append_left _ ht) h
    · exact .short (by simp) h
    · exact .adopted (by simp) h

theorem busyAt_of_not_adopted (h : ¬ t.Adopted d) : busyAt o d ts t = {m | Busy o d ts m} := by
  ext m
  simp [busyAt, h]

/-- A tick that does not find the dimension short adds no busy moment when it evaluates the node. -/
theorem busy_of_not_short (h : ¬ t.Short d) :
    {m | Busy o d (ts ++ [t]) m} = busyAt o d ts t := by
  ext m
  simp only [Set.mem_ofPred_eq, busyAt, busy_append_singleton, h, false_or, and_comm]

theorem Ordered.take {rest : List Ticked} (h : Ordered o (ts ++ rest)) : Ordered o ts := by
  rw [Ordered, List.map_append, ← List.append_assoc] at h
  exact (List.pairwise_append.mp h).1

/-- No moment of a run lies behind its next tick. -/
theorem Ordered.le_now (h : Ordered o (ts ++ [t])) (hm : m ∈ o.moments ++ ts.map Ticked.now) :
    m ≤ t.now := by
  rw [Ordered, List.map_append, ← List.append_assoc] at h
  exact (List.pairwise_append.mp h).2.2 m hm t.now (by simp)

/-- No busy moment lies behind the next tick. -/
theorem Ordered.busy_le (h : Ordered o (ts ++ [t])) (hm : Busy o d ts m) : m ≤ t.now := by
  refine h.le_now ?_
  cases hm with
  | found ho _ => simp [ho, Origin.moments]
  | short ht _ => exact List.mem_append_right _ (List.mem_map_of_mem ht)
  | adopted ht _ => exact List.mem_append_right _ (List.mem_map_of_mem ht)

theorem Ordered.now_le {u : Ticked} (h : Ordered o (ts ++ [t] ++ [u])) : t.now ≤ u.now := by
  rw [Ordered, List.map_append, ← List.append_assoc] at h
  exact (List.pairwise_append.mp h).2.2 t.now (by simp) u.now (by simp)

/-! ## The invariant of a run -/

/-- A watch that is flagged has the latest busy moment on record. -/
def Tracks (busy : Set Moment) (w : Watch) : Prop :=
  w.flag = true → ∃ m, w.last = some m ∧ IsGreatest busy m

theorem tracks_origin : Tracks {m | Busy o d [] m} (o.state.watch d) := by
  intro hflag
  cases o with
  | fresh => simp [Origin.state, State.fresh, State.watch] at hflag
  | found live now =>
    have hlive : live.get d = true := hflag
    refine ⟨now, by simp [Origin.state, State.reconciled, State.watch, hlive], .found rfl hlive, ?_⟩
    rintro m (⟨ho, h⟩ | ⟨ht, h⟩ | ⟨ht, h⟩)
    · injection ho with _ hnow
      exact le_of_eq hnow.symm
    · simp at ht
    · simp at ht

variable {grace : Span} {a : Availability}

theorem Ticked.Sound.not_short (sound : t.Sound resync grace a) (ha : a.has d = true) :
    ¬ t.Short d := by
  rw [sound.short_iff, ha]
  simp

/-- Reading the taints keeps the record: a flag that is new counts from now on. -/
theorem tracks_start (sound : t.Sound resync grace a) (order : Ordered o (ts ++ [t]))
    (h : Tracks {m | Busy o d ts m} (t.before.watch d)) :
    Tracks (busyAt o d ts t) (t.start.watch d) := by
  intro hflag
  by_cases hbefore : t.before.flags.get d = true
  · have hnot : ¬ t.Adopted d := fun h => by simp [h.2] at hbefore
    have hlast : (t.start.watch d).last = (t.before.watch d).last := by
      rcases sound.start_eq with heq | ⟨live, -, heq⟩
      · rw [heq]
      · simp [heq, State.watch, State.adopt, hbefore]
    rw [busyAt_of_not_adopted hnot, hlast]
    exact h hbefore
  · have hbefore' : t.before.flags.get d = false := by simpa using hbefore
    have hadopted : t.Adopted d := ⟨hflag, hbefore'⟩
    refine ⟨t.now, ?_, .inr ⟨hadopted, rfl⟩, ?_⟩
    · rcases sound.start_eq with heq | ⟨live, -, heq⟩
      · exact absurd (heq ▸ hflag) hbefore
      · have hlive : live.get d = true := by simpa [heq, State.watch, State.adopt] using hflag
        simp [heq, State.watch, State.adopt, hlive, hbefore']
    · rintro m (hm | ⟨-, rfl⟩)
      · exact order.busy_le hm
      · exact le_rfl

/-- A visit keeps the record: a dimension that is short counts from now on. -/
theorem tracks_after (sound : t.Sound resync grace a) (order : Ordered o (ts ++ [t]))
    (h : Tracks (busyAt o d ts t) (t.start.watch d)) :
    Tracks {m | Busy o d (ts ++ [t]) m} (t.after.watch d) := by
  intro hflag
  have hvisit := sound.visit d
  have hlast := hvisit.last
  cases ha : a.has d with
  | false =>
    have hshort : t.Short d := ⟨a, sound.availability?, ha⟩
    refine ⟨t.now, by simp [hlast, ha, Watch.touch], Busy.short (by simp) hshort, ?_⟩
    intro m hm
    rcases busy_append_singleton.mp hm with hm | ⟨rfl, -⟩
    · exact order.busy_le hm
    · exact le_rfl
  | true =>
    rw [ha] at hvisit hlast
    have hstart := hvisit.flag_of_available hflag
    obtain ⟨m, hm, hgreatest⟩ := h hstart
    rw [busy_of_not_short (sound.not_short ha)]
    exact ⟨m, by simp [hlast, Watch.touch, hstart, hm], hgreatest⟩

/-- Every flagged dimension has its latest busy moment on record, after each tick of a run. -/
theorem tracks_run {s : State} {e₀ e : σ} (run : Ticking W resync o.state e₀ ts s e)
    (order : Ordered o ts) : Tracks {m | Busy o d ts m} (s.watch d) := by
  induction run with
  | start => exact tracks_origin
  | tick run number before h ih =>
    obtain ⟨grace, a, sound⟩ := exec_tick h
    subst before
    exact tracks_after sound order (tracks_start sound order (ih order.take))

/-! ## The rule -/

/-- Given the record, a watch asks to untaint when more than the grace period has passed since the
latest busy moment. -/
theorem Tracks.untaint_iff {busy : Set Moment} {w : Watch} {available : Bool} {now : Moment}
    (h : Tracks busy w) :
    w.change? available grace now = some .untaint ↔
      w.flag = true ∧ available = true ∧ ∃ b, IsGreatest busy b ∧ (grace : Int) < now - b := by
  rw [Watch.change?_eq_untaint_iff]
  refine and_congr_right fun hflag => and_congr_right fun _ => ?_
  obtain ⟨m, hm, hgreatest⟩ := h hflag
  rw [hm, Option.getD_some, Span.between, Int.lt_toNat]
  constructor
  · intro hlt
    exact ⟨m, hgreatest, hlt⟩
  · rintro ⟨b, hb, hlt⟩
    rwa [hgreatest.unique hb]

/-- The call that untaints a dimension is made at a tick exactly when the record says so. -/
theorem Ticking.untaint_iff {s : State} {e₀ e : σ}
    (run : Ticking W resync o.state e₀ (ts ++ [t]) s e) (order : Ordered o (ts ++ [t]))
    (sound : t.Sound resync grace a) :
    (∃ r, (.untaint, r) ∈ t.calls d) ↔
      t.start.flags.get d = true ∧ a.has d = true ∧
        ∃ b, IsGreatest (busyAt o d ts t) b ∧ (grace : Int) < t.now - b := by
  obtain ⟨-, -, e', before, -⟩ := run.last
  have tracks := tracks_start sound order (tracks_run (d := d) before order.take)
  rw [(sound.visit d).call_iff]
  exact tracks.untaint_iff

/-- **Untaint hysteresis.** In every run, at every tick, the call that untaints a dimension is made
if and only if the dimension is flagged, available, and quiet for more than the grace period of the
tick: quiet since the latest busy moment. So no busy moment lies within the grace period, and a call
that failed is made again at the next tick, if the dimension is still flagged and available and the
grace period has not grown. -/
theorem untaint_iff_quiet {earlier later : List Ticked} {s : State} {e₀ e : σ}
    (run : Ticking W resync o.state e₀ (earlier ++ t :: later) s e)
    (order : Ordered o (earlier ++ t :: later)) (d : Dimension) :
    ∃ grace a, t.grace? = some grace ∧ t.availability? = some a ∧
      ((∃ r, (.untaint, r) ∈ t.calls d) ↔
        t.start.flags.get d = true ∧ a.has d = true ∧
          ∃ b, IsGreatest (busyAt o d earlier t) b ∧ (grace : Int) < t.now - b) ∧
      ((∃ r, (.untaint, r) ∈ t.calls d) → ∀ m ∈ busyAt o d earlier t, m + grace < t.now) ∧
      (∀ f u rest grace' a', (.untaint, .error f) ∈ t.calls d → later = u :: rest →
        u.start.flags.get d = true → u.availability? = some a' → a'.has d = true →
        u.grace? = some grace' → grace' ≤ grace → ∃ r, (.untaint, r) ∈ u.calls d) := by
  rw [List.append_cons] at run order
  obtain ⟨s₁, e₁, run₁⟩ := run.take
  obtain ⟨grace, a, sound⟩ := run₁.sound
  have rule := run₁.untaint_iff (d := d) order.take sound
  refine ⟨grace, a, sound.grace?, sound.availability?, rule, ?_, ?_⟩
  · intro hcall m hm
    obtain ⟨-, -, b, hb, hlt⟩ := rule.mp hcall
    have hle : m ≤ b := hb.2 hm
    exact lt_of_le_of_lt (Int.add_le_add_right hle _) (Int.add_lt_of_lt_sub_left hlt)
  · rintro f u rest grace' a' hcall rfl hflag ha' hhas hgrace' hle
    rw [List.append_cons] at run order
    obtain ⟨s₂, e₂, run₂⟩ := run.take
    obtain ⟨grace₂, a₂, sound₂⟩ := run₂.sound
    obtain rfl : a₂ = a' := Option.some_inj.mp (sound₂.availability?.symm.trans ha')
    obtain rfl : grace₂ = grace' := Option.some_inj.mp (sound₂.grace?.symm.trans hgrace')
    obtain ⟨hstart, havailable, b, hb, hlt⟩ := rule.mp ⟨_, hcall⟩
    have hkept : u.before.flags.get d = true := by
      rw [run₂.before_eq]
      exact ((sound.visit d).flag_of_failed hcall).trans hstart
    have hnot : ¬ u.Adopted d := fun h => by simp [h.2] at hkept
    refine (run₂.untaint_iff order.take sound₂).mpr ⟨hflag, hhas, b, ?_, ?_⟩
    · rwa [busyAt_of_not_adopted hnot, busy_of_not_short (sound.not_short havailable)]
    · calc (grace₂ : Int) ≤ grace := Int.ofNat_le.mpr hle
        _ < t.now - b := hlt
        _ ≤ u.now - b := Int.sub_le_sub_right order.take.now_le b

/-- A node that is short of its processor at 0 s and can spare everything at 40 s is untainted then,
given a grace period of 30 s: no busy moment lies in between. -/
theorem untaint_after_forty_seconds :
    ∃ t u : Ticked,
      Ticking anyReply none Origin.fresh.state () ([t] ++ u :: []) u.after () ∧
      t.now = 0 ∧ t.Short .cpu ∧ u.now = Span.seconds 40 ∧ u.grace? = some (Span.seconds 30) ∧
      (.untaint, .ok ()) ∈ u.calls .cpu ∧
      ∀ m ∈ busyAt .fresh .cpu [t] u, m + Span.seconds 30 < u.now := by
  let reply (a : Availability) (_ : Unit) : (q : Ask) → q.Answer × Unit
    | .grace => (Span.seconds 30, ())
    | .availability => (a, ())
    | .changeTaint .. => (.ok (), ())
    | q => (q.silence, ())
  let t : Ticked := ⟨1, 0, .fresh, [
    .answered .grace (Span.seconds 30), .answered .availability (.without [.cpu]),
    .answered (.changeTaint .cpu .taint) (.ok ()), .noted (.taintCall .cpu .taint none),
    .noted (report none)], (State.fresh.setBusy .cpu 0).setFlag .cpu true, some .cpu⟩
  let u : Ticked := ⟨2, Span.seconds 40, t.after, [
    .answered .grace (Span.seconds 30), .answered .availability .full,
    .answered (.changeTaint .cpu .untaint) (.ok ()), .noted (.taintCall .cpu .untaint none),
    .noted (report none)], t.after.setFlag .cpu false, none⟩
  have ht := Program.exec_run (reply (.without [.cpu])) (t := tick none t.number t.now t.before) ()
  have hu := Program.exec_run (reply .full) (t := tick none u.number u.now u.before) ()
  have run : Ticking anyReply none Origin.fresh.state () ([t] ++ u :: []) u.after () :=
    .tick (.tick .start rfl rfl ht) rfl rfl hu
  have order : Ordered .fresh ([t] ++ u :: []) := by
    simp [Ordered, Origin.moments, t, u]
  have hcall : (.untaint, .ok ()) ∈ u.calls .cpu := List.mem_singleton.mpr rfl
  obtain ⟨grace, a, hgrace, -, -, hquiet, -⟩ := untaint_iff_quiet run order .cpu
  obtain rfl : Span.seconds 30 = grace := Option.some_inj.mp hgrace
  exact ⟨t, u, run, rfl, ⟨_, rfl, rfl⟩, rfl, hgrace, hcall, hquiet ⟨_, hcall⟩⟩

end NodePressure.Pressure
