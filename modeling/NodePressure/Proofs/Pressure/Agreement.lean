import NodePressure.Proofs.Cluster.NodeServer
import NodePressure.Proofs.Pressure.Ticks

/-!
# NodePressure.Proofs.Pressure.Agreement - the flags agree with the node

`Around` is the world of a loop whose node is changed by others, too, but never in the middle of a
call, and never in the agent's own taints once the agent has read them. `Agrees` is the invariant:
if the taints were ever read, the flags are those of the taints of the node. Every question of a
tick keeps it, so it holds after every tick (`flags_agree`).
-/

namespace NodePressure

/-- Whether a taint is one of the agent's own. -/
def Taint.isOwn (pre : String) (t : Taint) : Bool :=
  Dimension.all.any fun d => t.key == keyOf pre d

/-- The flags depend on the agent's own taints only. -/
theorem Taint.flagsOf_of_filter {pre : String} {ts ts' : List Taint}
    (h : ts.filter (isOwn pre) = ts'.filter (isOwn pre)) : flagsOf pre ts = flagsOf pre ts' := by
  have hown : ∀ (us : List Taint) d, us.any (·.key == keyOf pre d) =
      (us.filter (isOwn pre)).any (·.key == keyOf pre d) := fun us d => by
    rw [List.any_filter]
    congr 1
    funext t
    by_cases ht : t.key = keyOf pre d
    · have : isOwn pre t = true := List.any_eq_true.mpr ⟨d, Dimension.mem_all d, by simp [ht]⟩
      simp [this]
    · simp [ht]
  refine TaintFlags.ext_get fun d => ?_
  rw [get_flagsOf, get_flagsOf, hown, hown ts', h]

namespace Pressure

/-- The node, and whether the agent has read its taints. -/
structure Site where
  record : NodeRecord
  read : Bool

/-- What others may do to the node: they leave the agent's own taints once these were read. -/
structure Drift (pre : String) (n m : Site) : Prop where
  read : m.read = n.read
  patches : m.record.patches = n.record.patches
  own : n.read = true →
    m.record.taints.filter (Taint.isOwn pre) = n.record.taints.filter (Taint.isOwn pre)

theorem Drift.refl {pre : String} (n : Site) : Drift pre n n :=
  ⟨rfl, rfl, fun _ => rfl⟩

/-- The world of the loop: others may change the node before each call, and the calls for its taints
are those of the client. -/
inductive Around (c : Client) : Site → (q : Ask) → q.Answer → Site → Prop
  | readTaints {n m : Site} {hs : List (Happening web)} {answer : Except ClusterFault TaintFlags}
      {r : NodeRecord} (drift : Drift c.keyPrefix n m)
      (h : Program.Exec (NodeServes c.node) c.readFlags m.record hs answer r) :
      Around c n .readTaints answer ⟨r, m.read || answer.isOk⟩
  | changeTaint {n m : Site} {d : Dimension} {change : TaintChange} {hs : List (Happening web)}
      {answer : Except ClusterFault Unit} {r : NodeRecord} (drift : Drift c.keyPrefix n m)
      (h : Program.Exec (NodeServes c.node) (c.changeTaint d change) m.record hs answer r) :
      Around c n (.changeTaint d change) answer ⟨r, m.read⟩
  | other {n m : Site} {q : Ask} {answer : q.Answer} (drift : Drift c.keyPrefix n m)
      (hread : q ≠ .readTaints) (hchange : ∀ d change, q ≠ .changeTaint d change) :
      Around c n q answer m

/-- If the taints of the node were ever read, the flags are those of its taints. -/
def Agrees (pre : String) (s : State) (n : Site) : Prop :=
  n.read = true → s.flags = Taint.flagsOf pre n.record.taints

variable {c : Client} {n n' m : Site} {s s' : State} {d : Dimension} {now : Moment}
  {hs : List (Happening world)} {resync : Option Nat}

/-! ## What questions do -/

theorem Agrees.drift {pre : String} (h : Agrees pre s n) (drift : Drift pre n m) :
    Agrees pre s m := by
  intro hread
  rw [drift.read] at hread
  rw [h hread, Taint.flagsOf_of_filter (drift.own hread)]

/-- A read that succeeds shows the flags of the taints. -/
theorem Around.readTaints_ok {live : TaintFlags} (around : Around c n .readTaints (.ok live) n') :
    live = Taint.flagsOf c.keyPrefix n'.record.taints := by
  cases around with
  | other _ hread => exact absurd rfl hread
  | readTaints _ hexec =>
    obtain ⟨rfl, hlive⟩ := Client.exec_readFlags hexec
    exact hlive live rfl

theorem Agrees.readTaints {answer : Except ClusterFault TaintFlags} (h : Agrees c.keyPrefix s n)
    (around : Around c n .readTaints answer n') : Agrees c.keyPrefix (s.read now answer) n' := by
  rcases answer with f | live
  · cases around with
    | other drift => exact h.drift drift
    | readTaints drift hexec =>
      obtain ⟨rfl, -⟩ := Client.exec_readFlags hexec
      have hm := h.drift drift
      intro hread
      exact hm (by simpa [Except.isOk, Except.toBool] using hread)
  · exact fun _ => around.readTaints_ok

theorem Agrees.changeTaint {change : TaintChange} {answer : Except ClusterFault Unit}
    (h : Agrees c.keyPrefix s n) (around : Around c n (.changeTaint d change) answer n') :
    Agrees c.keyPrefix (s.follow d (change, answer)) n' := by
  cases around with
  | other _ _ hchange => exact absurd rfl (hchange d change)
  | changeTaint drift hexec =>
    obtain ⟨-, hfailed, hdone⟩ := Client.exec_changeTaint hexec
    intro hread
    have hm := h.drift drift hread
    rcases answer with f | u
    · rw [hfailed f rfl]
      exact hm
    · rw [hdone rfl, ← hm]
      rfl

theorem Agrees.other {q : Ask} {answer : q.Answer} (h : Agrees c.keyPrefix s n)
    (around : Around c n q answer n') (hread : q ≠ .readTaints)
    (hchange : ∀ d change, q ≠ .changeTaint d change) : Agrees c.keyPrefix s n' := by
  cases around with
  | readTaints => exact absurd rfl hread
  | changeTaint => exact absurd rfl (hchange _ _)
  | other drift => exact h.drift drift

/-! ## What a tick does -/

theorem flags_touch (available : Bool) (now : Moment) (d : Dimension) (s : State) :
    (s.touch available now d).flags = s.flags := by
  unfold State.touch
  split_ifs <;> rfl

theorem Agrees.visit {a : Availability} {grace : Span} {f : Option ClusterFault}
    (h : Agrees c.keyPrefix s n)
    (exec : Program.Exec (Around c) (visit a grace now d s) n hs (s', f) n') :
    Agrees c.keyPrefix s' n' := by
  have htouch : Agrees c.keyPrefix (s.touch (a.has d) now d) n := fun hread => by
    rw [flags_touch, h hread]
  rw [visit_eq] at exec
  split at exec
  · obtain ⟨-, hs', rfl⟩ := Program.exec_done_iff.mp exec
    obtain ⟨rfl, -⟩ := Prod.mk.inj hs'
    exact htouch
  · obtain ⟨answer, around, -, hs'⟩ := exec_transition_iff.mp exec
    obtain ⟨rfl, -⟩ := Prod.mk.inj hs'
    exact htouch.changeTaint around

theorem Agrees.sweep {a : Availability} {grace : Span} {ds : List Dimension}
    {f f' : Option ClusterFault} (h : Agrees c.keyPrefix s n)
    (exec : Program.Exec (Around c) (sweep a grace now ds s f) n hs (s', f') n') :
    Agrees c.keyPrefix s' n' := by
  induction ds generalizing s f n hs with
  | nil =>
    obtain ⟨-, hs', rfl⟩ := Program.exec_done_iff.mp exec
    obtain ⟨rfl, -⟩ := Prod.mk.inj hs'
    exact h
  | cons d ds ih =>
    simp only [Pressure.sweep, Program.exec_bind_iff] at exec
    obtain ⟨⟨s₁, f₁⟩, n₁, hs₁, hs₂, hvisit, hsweep, -⟩ := exec
    exact ih (h.visit hvisit) hsweep

theorem Agrees.evaluate {a : Availability} {grace : Span} {signal : Option Resource}
    (h : Agrees c.keyPrefix s n)
    (exec : Program.Exec (Around c) (evaluate a grace now s) n hs (s', signal) n') :
    Agrees c.keyPrefix s' n' := by
  unfold Pressure.evaluate at exec
  split at exec
  · obtain ⟨hs', answer, ns, around, -⟩ := exec_idle exec
    obtain ⟨rfl, -⟩ := Prod.mk.inj hs'
    exact h.other around (by simp) (by simp)
  · simp only [Program.exec_bind_iff, Program.exec_note_iff, Program.exec_done_iff,
      Prod.mk.injEq] at exec
    obtain ⟨⟨s₁, f⟩, n₁, hs₁, hs₂, hsweep, ⟨hs₃, -, -, ⟨rfl, -⟩, rfl⟩, -⟩ := exec
    exact h.sweep hsweep

/-- A tick keeps the agreement, whatever it is asked and answered. -/
theorem Agrees.tick {number : Nat} {signal : Option Resource} (h : Agrees c.keyPrefix s n)
    (exec : Program.Exec (Around c) (tick resync number now s) n hs (s', signal) n') :
    Agrees c.keyPrefix s' n' := by
  simp only [Pressure.tick, Program.exec_bind_iff, Program.exec_ask_iff] at exec
  obtain ⟨s₁, n₁, hs₁, hs₂, hread, ⟨grace, n₂, hs₃, hgrace, -, a, n₃, hs₄, ha, -, heval⟩, -⟩ := exec
  have h₁ : Agrees c.keyPrefix s₁ n₁ := by
    split at hread
    · obtain ⟨answer, ns, around, rfl, -⟩ := exec_resyncWith hread
      exact h.readTaints around
    · obtain ⟨-, rfl, rfl⟩ := Program.exec_done_iff.mp hread
      exact h
  exact ((h₁.other hgrace (by simp) (by simp)).other ha (by simp) (by simp)).evaluate heval

/-! ## What was read and what was sent -/

/-- The taints were read if a read has succeeded. -/
theorem read_iff {α : Type} {t : Task α} {a : α} (exec : Program.Exec (Around c) t n hs a n') :
    n'.read = true ↔ n.read = true ∨ ∃ live, .ok live ∈ answersTo .readTaints hs := by
  induction exec with
  | done => simp
  | note _ ih => exact ih
  | ask around _ ih =>
    rw [ih]
    cases around with
    | @readTaints _ _ answer _ drift _ =>
      rcases answer with f | live <;> simp [drift.read, Except.isOk, Except.toBool]
    | changeTaint drift => simp [drift.read, answersTo_of_ne]
    | other drift hread => simp [drift.read, answersTo_of_ne hread]

/-- A request replaces the taints in a merge patch and keeps every one but those for one dimension,
as they are and in their order. -/
def KeepsOthers (pre : String) (patch : List Taint × Request) : Prop :=
  ∃ d updated, patch.2.SetsTaints updated ∧
    updated.filter (·.key != Taint.keyOf pre d) = patch.1.filter (·.key != Taint.keyOf pre d)

theorem Around.keepsOthers {q : Ask} {answer : q.Answer} (around : Around c n q answer n')
    (h : ∀ p ∈ n.record.patches, KeepsOthers c.keyPrefix p) :
    ∀ p ∈ n'.record.patches, KeepsOthers c.keyPrefix p := by
  cases around with
  | readTaints drift hexec =>
    obtain ⟨rfl, -⟩ := Client.exec_readFlags hexec
    rwa [drift.patches]
  | changeTaint drift hexec =>
    obtain ⟨hsent, -, -⟩ := Client.exec_changeTaint hexec
    rw [drift.patches] at hsent
    rcases hsent with heq | ⟨q, updated, hsets, heq, hkeeps⟩
    · rwa [heq]
    · intro p hp
      rw [heq] at hp
      rcases List.mem_append.mp hp with hp | hp
      · exact h p hp
      · obtain rfl := List.mem_singleton.mp hp
        exact ⟨_, updated, hsets, hkeeps⟩
  | other drift => rwa [drift.patches]

/-! ## Runs -/

/-- How a loop begins: with any flags before the taints were read, or with the taints just read. -/
inductive Launched (c : Client) : State → Site → Prop
  | unread {s : State} {n : Site} (hread : n.read = false) (hpatches : n.record.patches = []) :
      Launched c s n
  | reconciled {n n' : Site} {live : TaintFlags} {now : Moment} (hpatches : n.record.patches = [])
      (around : Around c n .readTaints (.ok live) n') : Launched c (.reconciled live now) n'

theorem Launched.agrees (h : Launched c s n) : Agrees c.keyPrefix s n := by
  cases h with
  | unread hread =>
    intro h
    simp [hread] at h
  | reconciled _ around => exact fun _ => around.readTaints_ok

theorem Launched.keepsOthers (h : Launched c s n) :
    ∀ p ∈ n.record.patches, KeepsOthers c.keyPrefix p := by
  cases h with
  | unread _ hpatches => simp [hpatches]
  | reconciled hpatches around => exact around.keepsOthers (by simp [hpatches])

section Runs

variable {s₀ : State} {n₀ : Site} {ts : List Ticked}

/-- Agreement lasts, from tick to tick. -/
theorem Agrees.run (run : Ticking (Around c) resync s₀ n₀ ts s n) (h : Agrees c.keyPrefix s₀ n₀) :
    Agrees c.keyPrefix s n := by
  induction run with
  | start => exact h
  | tick _ _ before exec ih =>
    subst before
    exact ih.tick exec

/-- The taints were read if they were at first, or if the read of a tick has succeeded. -/
theorem Ticking.read_iff (run : Ticking (Around c) resync s₀ n₀ ts s n) :
    n.read = true ↔ n₀.read = true ∨ ∃ t ∈ ts, ∃ live, .ok live ∈ t.reads := by
  induction run with
  | start => simp
  | @tick ts s n n' t _ _ _ exec ih =>
    rw [Pressure.read_iff exec, ih, or_assoc]
    simp only [List.mem_append, List.mem_singleton, or_and_right, exists_or, exists_eq_left,
      Ticked.reads]

/-- **The flags agree with the node.** However far the flags and the taints of a node were apart at
first, and whatever calls fail: once its taints have been read, by the controller or in a tick, each
flag is raised after every tick exactly if the agent's taint for its dimension is on the node, also
when others have changed their own taints since. And every request that was sent to change the node
is a merge patch that keeps all taints with other keys, as they are and in their order. -/
theorem flags_agree (launch : Launched c s₀ n₀)
    (run : Ticking (Around c) resync s₀ n₀ ts s n) :
    ((n₀.read = true ∨ ∃ t ∈ ts, ∃ live, .ok live ∈ t.reads) → ∀ n', Drift c.keyPrefix n n' →
      ∀ d, s.flags.get d = (Taint.flagsOf c.keyPrefix n'.record.taints).get d) ∧
    ∀ p ∈ n.record.patches, ∃ d updated, p.2.SetsTaints updated ∧
      updated.filter (·.key != Taint.keyOf c.keyPrefix d) =
        p.1.filter (·.key != Taint.keyOf c.keyPrefix d) := by
  constructor
  · intro hread n' drift d
    have hn' : n'.read = true := drift.read.trans (run.read_iff.mpr hread)
    rw [(launch.agrees.run run).drift drift hn']
  · exact run.keeps (P := fun n => ∀ p ∈ n.record.patches, KeepsOthers c.keyPrefix p)
      (fun _ _ _ _ around h => around.keepsOthers h) launch.keepsOthers

end Runs

/-- The flags say memory at first, where the node carries a taint of somebody else only. The node
runs short of its processor, but cannot be read in the first tick. In the second one the taints are
read, somebody else adds another taint, and the node is tainted: then the flags agree, and the patch
has kept the other two taints. -/
theorem flags_agree_when_tainted :
    ∃ (c : Client) (x y : Taint) (t₁ t₂ : Ticked) (n₀ n : Site), Launched c t₁.before n₀ ∧
      t₁.before.flags = TaintFlags.clear.set .memory true ∧ n₀.record.taints = [x] ∧
      Ticking (Around c) (some 2) t₁.before n₀ [t₁, t₂] t₂.after n ∧
      (∃ f, t₁.calls .cpu = [(.taint, .error f)]) ∧
      n.record.taints = [x, y, Taint.own c.keyPrefix .cpu] ∧
      (∀ d, t₂.after.flags.get d = (Taint.flagsOf c.keyPrefix n.record.taints).get d) ∧
      n.record.patches.map Prod.fst = [[x, y]] ∧
      ∀ p ∈ n.record.patches, ∃ d updated, p.2.SetsTaints updated ∧
        updated.filter (·.key != Taint.keyOf c.keyPrefix d) =
          p.1.filter (·.key != Taint.keyOf c.keyPrefix d) := by
  let c : Client := ⟨"a", Taint.defaultPrefix⟩
  let noon : Utc := ⟨⟨2024, 5, 1⟩, 43200, 0, by decide, by decide, by decide⟩
  let x : Taint := ⟨"dedicated", "NoSchedule", some "batch", none⟩
  let y : Taint := ⟨"eviction-agent/gpu", "NoExecute", none, some noon⟩
  let ts : List Taint := [x, y, Taint.own c.keyPrefix .cpu]
  have hget : Address.ofText? (Address.node c.node) = some "/api/v1/nodes/a" := by decide +kernel
  have hpatch : Address.ofText? (Address.node c.node ++ "?") = some "/api/v1/nodes/a?" := by
    decide +kernel
  have hx : Node.ofJson? (nodeJson [x]) = some ⟨some [x]⟩ := by decide +kernel
  have hxy : Node.ofJson? (nodeJson [x, y]) = some ⟨some [x, y]⟩ := by decide +kernel
  have hts : Node.ofJson? (nodeJson ts) = some ⟨some ts⟩ := by decide +kernel
  -- Before the first tick, after it, and when the second one has found the processor short.
  let s₀ : State := State.fresh.setFlag .memory true
  let s₁ : State := (s₀.setBusy .cpu 0).setBusy .memory 0
  let s₂ : State := (s₁.adopt .clear 10).setBusy .cpu 10
  let n₀ : Site := ⟨⟨[x], []⟩, false⟩
  let n₁ : Site := ⟨⟨[x], []⟩, true⟩
  let n₂ : Site := ⟨⟨[x, y], []⟩, true⟩
  let n : Site := ⟨⟨ts, [([x, y], Client.taintRequest "/api/v1/nodes/a?" ts)]⟩, true⟩
  let lost : ClusterFault := .request (.unreachable "gone")
  let t₁ : Ticked := ⟨1, 0, s₀, [
    .answered .grace (Span.seconds 30), .answered .availability (.without [.cpu]),
    .answered (.changeTaint .cpu .taint) (.error lost),
    .noted (.taintCall .cpu .taint (some lost.message)), .noted (report (some lost))], s₁,
    some .cpu⟩
  let t₂ : Ticked := ⟨2, 10, s₁, [
    .answered .readTaints (.ok .clear), .noted (.found .cpu false), .noted (.found .memory false),
    .noted (.found .diskIo false), .noted (.found .network false),
    .answered .grace (Span.seconds 30), .answered .availability (.without [.cpu]),
    .answered (.changeTaint .cpu .taint) (.ok ()), .noted (.taintCall .cpu .taint none),
    .noted (report none)], s₂.setFlag .cpu true, some .cpu⟩
  have joined : Drift c.keyPrefix n₁ n₂ := ⟨rfl, rfl, fun _ => by decide +kernel⟩
  have unread : Around c n₀ (.changeTaint .cpu .taint) (.error lost) n₀ :=
    .changeTaint (.refl n₀) (Client.exec_changeTaint_of_unreachable "gone" hget)
  have read : Around c n₀ .readTaints (.ok .clear) n₁ := by
    have hflags : Taint.flagsOf c.keyPrefix [x] = .clear := by decide +kernel
    have hexec := Client.exec_readFlags_of_shown (c := c) (n := n₀.record) hget
      (showsTaints_nodeJson (by decide +kernel)) (content_nodeJson hx)
    rw [hflags] at hexec
    exact .readTaints (.refl n₀) hexec
  have tainted : Around c n₂ (.changeTaint .cpu .taint) (.ok ()) n :=
    .changeTaint (.refl n₂) (Client.exec_changeTaint_of_patched (n := n₂.record) hget hpatch
      (showsTaints_nodeJson (by decide +kernel)) (content_nodeJson hxy) rfl (by decide +kernel)
      (content_nodeJson hts))
  have first : Program.Exec (Around c) (tick (some 2) t₁.number t₁.now t₁.before) n₀ t₁.happenings
      (t₁.after, t₁.signal) n₀ := by
    refine Program.Exec.ask (.other (.refl n₀) (by simp) (by simp)) ?_
    refine Program.Exec.ask (.other (.refl n₀) (by simp) (by simp)) ?_
    exact Program.Exec.ask unread (.note (.note .done))
  have second : Program.Exec (Around c) (tick (some 2) t₂.number t₂.now t₂.before) n₀ t₂.happenings
      (t₂.after, t₂.signal) n := by
    have hdue : isResyncDue (some 2) 2 = true := rfl
    rw [tick, if_pos hdue]
    refine Program.Exec.ask read ?_
    refine Program.Exec.note (.note (.note (.note ?_)))
    refine Program.Exec.ask (.other joined (by simp) (by simp)) ?_
    refine Program.Exec.ask (.other (.refl n₂) (by simp) (by simp)) ?_
    exact Program.Exec.ask tainted (.note (.note .done))
  have launch : Launched c t₁.before n₀ := .unread rfl rfl
  have run : Ticking (Around c) (some 2) t₁.before n₀ [t₁, t₂] t₂.after n :=
    .tick (.tick .start rfl rfl first) rfl rfl second
  have hread : n₀.read = true ∨ ∃ t ∈ [t₁, t₂], ∃ live, .ok live ∈ t.reads :=
    .inr ⟨t₂, by simp, .clear, List.mem_singleton.mpr rfl⟩
  obtain ⟨hflags, hkept⟩ := flags_agree launch run
  exact ⟨c, x, y, t₁, t₂, n₀, n, launch, rfl, rfl, run, ⟨lost, rfl⟩, rfl,
    hflags hread n (.refl n), rfl, hkept⟩

end Pressure

end NodePressure
