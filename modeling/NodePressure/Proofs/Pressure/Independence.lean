import Mathlib.Data.List.Forall2
import NodePressure.Proofs.Pressure.Ticks

/-!
# NodePressure.Proofs.Pressure.Independence - no dimension influences another

Two runs are compared that are `Alike` for one dimension, tick by tick: in what the node could spare
of it, in what was found of its taint and in how its calls ended. All else may differ: one node may
be idle while the other one is swept, and one reading of the taints may change what the other one
leaves. What becomes of the dimension is the same in both (`unmoved_by_others`).
-/

namespace NodePressure.Pressure

/-- What an answer to the reading of the taints shows of a dimension. -/
def shownOf (d : Dimension) : Except ClusterFault TaintFlags → Option Bool
  | .ok live => some (live.get d)
  | .error _ => none

namespace Watch

/-- The watch when the taint of its dimension has been read, or could not be. -/
def read (now : Moment) (shown : Option Bool) (w : Watch) : Watch :=
  match shown with
  | some b => ⟨b, if b && !w.flag then some now else w.last⟩
  | none => w

variable {available : Bool} {grace : Span} {now : Moment} {w w₁ w₂ : Watch}
  {calls₁ calls₂ : List TaintCall}

/-- Whether a call has failed is all that counts of its outcome. -/
theorem follow_congr {c : TaintChange} {r₁ r₂ : Except ClusterFault Unit}
    (h : r₁.isOk = r₂.isOk) : w.follow (c, r₁) = w.follow (c, r₂) := by
  rcases r₁ with f₁ | u₁ <;> rcases r₂ with f₂ | u₂
  · rfl
  · simp [Except.isOk, Except.toBool] at h
  · simp [Except.isOk, Except.toBool] at h
  · rfl

/-- Two visits to one watch do the same if the same call ends in the same way. -/
theorem Visit.unique (h₁ : w.Visit available grace now calls₁ w₁)
    (h₂ : w.Visit available grace now calls₂ w₂)
    (outcome : ∀ c r₁ r₂, (c, r₁) ∈ calls₁ → (c, r₂) ∈ calls₂ → r₁.isOk = r₂.isOk) :
    w₁ = w₂ ∧ calls₁.map Prod.fst = calls₂.map Prod.fst := by
  unfold Visit at h₁ h₂
  cases hc : w.change? available grace now with
  | none =>
    rw [hc] at h₁ h₂
    obtain ⟨rfl, rfl⟩ := h₁
    obtain ⟨rfl, rfl⟩ := h₂
    exact ⟨rfl, rfl⟩
  | some c =>
    rw [hc] at h₁ h₂
    obtain ⟨r₁, rfl, rfl⟩ := h₁
    obtain ⟨r₂, rfl, rfl⟩ := h₂
    have hsame : r₁.isOk = r₂.isOk := outcome c r₁ r₂ (by simp) (by simp)
    exact ⟨follow_congr hsame, rfl⟩

end Watch

theorem State.watch_read (now : Moment) (answer : Except ClusterFault TaintFlags) (s : State)
    (d : Dimension) : (s.read now answer).watch d = (s.watch d).read now (shownOf d answer) := by
  rcases answer with f | live <;> rfl

/-! ## Two ticks -/

/-- Two ticks at one moment and with one grace period that are alike for a dimension. -/
structure Alike (d : Dimension) (t u : Ticked) : Prop where
  now : t.now = u.now
  grace : t.grace? = u.grace?
  short : t.Short d ↔ u.Short d
  reads : ∀ x ∈ t.reads, ∀ y ∈ u.reads, shownOf d x = shownOf d y
  outcome : ∀ c x y, (c, x) ∈ t.calls d → (c, y) ∈ u.calls d → x.isOk = y.isOk

variable {resync : Option Nat} {d : Dimension} {t u : Ticked} {grace grace' : Span}
  {a a' : Availability}

/-- The watch of a dimension when the taints have been read, if they were. -/
theorem Ticked.watch_start (t : Ticked) (d : Dimension) :
    t.start.watch d = (t.reads.map (shownOf d)).foldl (fun w shown => w.read t.now shown)
      (t.before.watch d) := by
  rw [Ticked.start]
  generalize t.before = s
  induction t.reads generalizing s with
  | nil => rfl
  | cons x xs ih =>
    rw [List.foldl_cons, ih, State.watch_read]
    rfl

/-- Ticks with one number read the taints both or neither, and are shown the same. -/
theorem Alike.shown (h : Alike d t u) (ht : t.Sound resync grace a) (hu : u.Sound resync grace' a')
    (number : t.number = u.number) : t.reads.map (shownOf d) = u.reads.map (shownOf d) := by
  have hlt := ht.reads_length
  have hlu := hu.reads_length
  rw [← number] at hlu
  by_cases hdue : isResyncDue resync t.number = true
  · rw [if_pos hdue] at hlt hlu
    obtain ⟨x, hx⟩ := List.length_eq_one_iff.mp hlt
    obtain ⟨y, hy⟩ := List.length_eq_one_iff.mp hlu
    have hxy := h.reads x (by simp [hx]) y (by simp [hy])
    rw [hx, hy, List.map_singleton, List.map_singleton, hxy]
  · rw [if_neg hdue] at hlt hlu
    rw [List.length_eq_zero_iff.mp hlt, List.length_eq_zero_iff.mp hlu]

/-- Ticks that are alike for a dimension do the same for it. -/
theorem Alike.after (h : Alike d t u) (ht : t.Sound resync grace a) (hu : u.Sound resync grace' a')
    (number : t.number = u.number) (before : t.before.watch d = u.before.watch d) :
    t.after.watch d = u.after.watch d ∧ (t.calls d).map Prod.fst = (u.calls d).map Prod.fst := by
  have hstart : t.start.watch d = u.start.watch d := by
    rw [Ticked.watch_start, Ticked.watch_start, h.shown ht hu number, h.now, before]
  have hgrace : grace = grace' := by
    have := h.grace
    rwa [ht.grace?, hu.grace?, Option.some_inj] at this
  have havailable : a.has d = a'.has d := by
    have := h.short
    rw [ht.short_iff, hu.short_iff] at this
    cases ha : a.has d <;> cases ha' : a'.has d <;> simp_all
  have hvisit := ht.visit d
  rw [hstart, hgrace, havailable, h.now] at hvisit
  exact hvisit.unique (hu.visit d) h.outcome

/-! ## Two runs -/

theorem forall₂_append_singleton_iff {α β : Type} {R : α → β → Prop} {xs : List α} {ys : List β}
    {x : α} {y : β} :
    List.Forall₂ R (xs ++ [x]) (ys ++ [y]) ↔ List.Forall₂ R xs ys ∧ R x y := by
  rw [← List.forall₂_reverse_iff, List.reverse_append, List.reverse_append, List.reverse_singleton,
    List.reverse_singleton, List.singleton_append, List.singleton_append, List.forall₂_cons,
    List.forall₂_reverse_iff, and_comm]

section Runs

variable {σ₁ σ₂ : Type} {W₁ : Replies world σ₁} {W₂ : Replies world σ₂} {s₀ s u₀ v : State}
  {e₀ e : σ₁} {f₀ f : σ₂} {ts us : List Ticked}

/-- **No dimension influences another.** Two runs with the same instants, grace periods and resync
period begin with the same flag and the same busy moment for a dimension, and are alike for it tick
by tick. Then after every tick its flag and its busy moment are the same in both runs, and the same
calls were made for it, whatever the nodes can spare otherwise, whatever other taints are held or
found, and whatever calls for them fail. -/
theorem unmoved_by_others (run : Ticking W₁ resync s₀ e₀ ts s e)
    (run' : Ticking W₂ resync u₀ f₀ us v f) (hflag : s₀.flags.get d = u₀.flags.get d)
    (hbusy : s₀.lastBusy d = u₀.lastBusy d) (alike : List.Forall₂ (Alike d) ts us) :
    List.Forall₂ (fun t u => t.after.flags.get d = u.after.flags.get d ∧
      t.after.lastBusy d = u.after.lastBusy d ∧
      (t.calls d).map Prod.fst = (u.calls d).map Prod.fst) ts us := by
  have hstart : s₀.watch d = u₀.watch d := by rw [State.watch, State.watch, hflag, hbusy]
  suffices hruns : s.watch d = v.watch d ∧ List.Forall₂ (fun t u =>
      t.after.watch d = u.after.watch d ∧
        (t.calls d).map Prod.fst = (u.calls d).map Prod.fst) ts us by
    refine hruns.2.imp fun t u h => ?_
    have hafter := Watch.mk.inj h.1
    exact ⟨hafter.1, hafter.2, h.2⟩
  induction run generalizing us v f with
  | start =>
    obtain rfl := List.forall₂_nil_left_iff.mp alike
    have hv : v = u₀ := run'.eq_stateAfter
    rw [hv]
    exact ⟨hstart, .nil⟩
  | @tick ts s e e' t _ number before h ih =>
    cases run' with
    | start => simp at alike
    | @tick us v f f' u run' number' before' h' =>
      obtain ⟨alike, last⟩ := forall₂_append_singleton_iff.mp alike
      obtain ⟨hwatch, hticks⟩ := ih run' alike
      obtain ⟨grace, a, ht⟩ := exec_tick h
      obtain ⟨grace', a', hu⟩ := exec_tick h'
      have hnumber : t.number = u.number := by rw [number, number', alike.length_eq]
      rw [← before, ← before'] at hwatch
      have hlast := last.after ht hu hnumber hwatch
      exact ⟨hlast.1, forall₂_append_singleton_iff.mpr ⟨hticks, hlast⟩⟩

end Runs

/-- One node is idle, and another one is short of memory, found tainted for its disk and not let
taint; then both run short of their processors. For these, both do the same. -/
theorem busy_beside_idle :
    ∃ t₁ t₂ u₁ u₂ : Ticked, Ticking anyReply (some 1) .fresh () [t₁, t₂] t₂.after () ∧
      Ticking anyReply (some 1) .fresh () [u₁, u₂] u₂.after () ∧
      t₁.after.flags = .clear ∧ u₁.after.flags = TaintFlags.clear.set .diskIo true ∧
      u₁.calls .memory = [(.taint, .error (.other "no answer"))] ∧
      t₂.calls .cpu = [(.taint, .ok ())] ∧ t₂.after.flags.get .cpu = u₂.after.flags.get .cpu ∧
      t₂.after.lastBusy .cpu = u₂.after.lastBusy .cpu ∧
      (t₂.calls .cpu).map Prod.fst = (u₂.calls .cpu).map Prod.fst := by
  let idle : (q : Ask) → q.Answer
    | .readTaints => .ok .clear
    | q => q.silence
  let busy : (q : Ask) → q.Answer
    | .readTaints => .ok (TaintFlags.clear.set .diskIo true)
    | .availability => .without [.memory]
    | q => q.silence
  let short (live : TaintFlags) : (q : Ask) → q.Answer
    | .readTaints => .ok live
    | .availability => .without [.cpu]
    | .changeTaint .. => .ok ()
    | q => q.silence
  let s : State := (State.fresh.adopt (TaintFlags.clear.set .diskIo true) 0).setBusy .memory 0
  let t₁ : Ticked := .play (some 1) idle 1 0 .fresh
  let t₂ : Ticked := .play (some 1) (short .clear) 2 10 .fresh
  let u₁ : Ticked := .play (some 1) busy 1 0 .fresh
  let u₂ : Ticked := .play (some 1) (short s.flags) 2 10 s
  have run₁ : Ticking anyReply (some 1) .fresh () [t₁] .fresh () := Ticking.start.play idle 0
  have run₂ : Ticking anyReply (some 1) .fresh () [t₁, t₂] t₂.after () := run₁.play _ 10
  have run₁' : Ticking anyReply (some 1) .fresh () [u₁] s () := Ticking.start.play busy 0
  have run₂' : Ticking anyReply (some 1) .fresh () [u₁, u₂] u₂.after () := run₁'.play _ 10
  have ht₂ : t₂.calls .cpu = [(.taint, .ok ())] := rfl
  have hu₂ : u₂.calls .cpu = [(.taint, .ok ())] := rfl
  have first : Alike .cpu t₁ u₁ := by
    have ha : t₁.availability? = some .full := rfl
    have hb : u₁.availability? = some (.without [.memory]) := rfl
    have hr : t₁.reads = [.ok .clear] := rfl
    have hr' : u₁.reads = [.ok (TaintFlags.clear.set .diskIo true)] := rfl
    have hc : t₁.calls .cpu = [] := rfl
    refine ⟨rfl, rfl, ?_, ?_, ?_⟩
    · simp [Ticked.Short, ha, hb, Availability.has, Availability.full, Availability.without]
    · simp [hr, hr', shownOf]
    · simp [hc]
  have second : Alike .cpu t₂ u₂ := by
    have hr : t₂.reads = [.ok .clear] := rfl
    have hr' : u₂.reads = [.ok s.flags] := rfl
    refine ⟨rfl, rfl, Iff.rfl, ?_, ?_⟩
    · simp [hr, hr', shownOf, s, State.adopt]
    · intro c x y hx hy
      rw [ht₂] at hx
      rw [hu₂] at hy
      rw [(Prod.mk.inj (List.mem_singleton.mp hx)).2, (Prod.mk.inj (List.mem_singleton.mp hy)).2]
  have hboth := unmoved_by_others run₂ run₂' rfl rfl (.cons first (.cons second .nil))
  obtain ⟨-, hlast⟩ := List.forall₂_cons.mp hboth
  obtain ⟨⟨hflag, hbusy, hcalls⟩, -⟩ := List.forall₂_cons.mp hlast
  exact ⟨t₁, t₂, u₁, u₂, run₂, run₂', rfl, rfl, rfl, ht₂, hflag, hbusy, hcalls⟩

end NodePressure.Pressure
