import NodePressure.Proofs.Controller.Steps
import NodePressure.Proofs.Execution

/-!
# NodePressure.Proofs.Controller.Ledger - signals from the ticks to the dispatcher

The ledger of a run keeps the signals that ticks have returned and those that the dispatcher has
taken, with all that happened in each dispatch. `Balanced` says that the books agree with the
system: what was returned and not taken is in the channel or offered, and what was taken was
dispatched or is being dispatched. Every event keeps the balance, so it holds after any interleaving
(`signals_in_order`).
-/

namespace NodePressure.Controller

/-- A dispatch that is over. -/
structure Dispatched where
  signal : Resource
  happenings : List (Happening world)
  outcome : Outcome

/-- The books of a run. -/
structure Ledger where
  /-- The signals that ticks have returned. -/
  returned : List Resource
  /-- The signals that the dispatcher has taken from the channel. -/
  taken : List Resource
  /-- The dispatches that are over. -/
  finished : List Dispatched
  /-- The dispatch under way: its signal, and what has happened in it. -/
  underway : Option (Resource × List (Happening world))

/-- The signal that a tick returns if it goes on to its end without another question. -/
def returnedBy (t : Task (Pressure.State × Option Resource)) : List Resource :=
  match t.settle with
  | (_, .done (_, signal)) => signal.toList
  | (_, .waiting _ _) => []

namespace Ledger

/-- Nothing has happened. -/
def empty : Ledger := ⟨[], [], [], none⟩

/-- Enters how the dispatch of a signal goes on, up to its next question or its end. -/
def dispatch (l : Ledger) (r : Resource) (hs : List (Happening world)) (t : Task Outcome) :
    Ledger :=
  match t.settle with
  | (notes, .waiting _ _) => { l with underway := some (r, hs ++ told (I := world) notes) }
  | (notes, .done o) =>
    { l with underway := none, finished := l.finished ++ [⟨r, hs ++ told (I := world) notes, o⟩] }

/-- Enters an event of a system. -/
def enter (l : Ledger) (s : System) : Event → Ledger
  | .answerLoop f =>
    match s.loop.map Pressure.Loop.phase with
    | some (.ticking _ q next) => { l with returned := l.returned ++ returnedBy (next (f q)) }
    | _ => l
  | .wake =>
    match s.loop with
    | some loop => { l with
        returned := l.returned ++
          returnedBy (Pressure.tick loop.pace.resync (loop.ticks + 1) s.clock loop.state) }
    | none => l
  | .take =>
    match s.slot with
    | some r => { l with taken := l.taken ++ [r] }.dispatch r [] (Dispatch.handle r)
    | none => l
  | .answer f =>
    match s.phase, l.underway with
    | .handling q next, some (r, hs) => l.dispatch r (hs ++ [.answered q (f q)]) (next (f q))
    | _, _ => l
  | _ => l

end Ledger

/-- The books of a run of a system, given those at its beginning. -/
def System.ledger (s : System) (l : Ledger) : List Event → Ledger
  | [] => l
  | e :: es =>
    match s.step e with
    | some s' => s'.ledger (l.enter s e) es
    | none => l

/-! ## The loop -/

/-- The signals that the loop offers. -/
def System.offers (s : System) : List Resource :=
  (s.loop.bind Pressure.Loop.offered).toList

/-- How many signals the loop may still return when nobody takes them any more. -/
def mayReturn (l : Pressure.Loop) : Nat :=
  match l.phase with
  | .sleeping _ | .ticking .. => 1
  | .offering .. | .ended => 0

/-- How many signals the loop of a system may still return then. -/
def System.toCome (s : System) : Nat :=
  (s.loop.map mayReturn).getD 0

/-- Whether a shutdown has stopped the dispatcher. -/
def System.isStopped (s : System) : Bool :=
  s.isClosed && s.shutdown

/-- There is no loop yet, and nothing in the channel. -/
def System.Bare (s : System) : Prop :=
  s.loop = none ∧ s.slot = none

variable {loop : Pressure.Loop} {started now : Moment}
  {t : Task (Pressure.State × Option Resource)}

/-- A tick that goes on offers the signal that it returns, if it returns one. -/
theorem offered_proceed : ((loop.proceed started now t).1.offered).toList = returnedBy t := by
  unfold Pressure.Loop.proceed returnedBy
  rcases t.settle with ⟨notes, ⟨state, signal⟩ | ⟨q, next⟩⟩
  · cases signal <;> rfl
  · rfl

/-- A loop that returns a signal returns no other one before the signal is taken. -/
theorem mayReturn_proceed :
    (returnedBy t).length + mayReturn (loop.proceed started now t).1 = 1 := by
  unfold Pressure.Loop.proceed returnedBy
  rcases t.settle with ⟨notes, ⟨state, signal⟩ | ⟨q, next⟩⟩
  · cases signal <;> rfl
  · rfl

variable {s s' : System} {l : Ledger} {e : Event} {es : List Event}

/-- A loop that offers a signal returns no other one. -/
theorem offers_length_add_le (s : System) : s.offers.length + s.toCome ≤ 1 := by
  rw [System.offers, System.toCome]
  cases s.loop with
  | none => simp
  | some loop => cases hp : loop.phase <;> simp [Pressure.Loop.offered, mayReturn, hp]

/-! ## The channel -/

/-- The signals that were returned are those that were taken and those that are left: at most two
with those still to come, and until a shutdown stops the dispatcher they are in the channel and
offered. -/
structure Channel (s : System) (returned taken : List Resource) : Prop where
  early : (s.phase = .starting ∨ ∃ since, s.phase = .reading since) → s.Bare
  closed : s.isClosed = true → s.Bare ∨ s.shutdown = true
  account : ∃ left, returned = taken ++ left ∧ left.length + s.toCome ≤ 2 ∧
    (s.isStopped = false → left = s.slot.toList ++ s.offers)

variable {returned taken : List Resource}

/-- As long as the channel is open, the dispatcher was not stopped. -/
theorem isStopped_of_open (h : s.isClosed = false) : s.isStopped = false := by
  simp [System.isStopped, h]

/-- The channel holds one signal, and a loop that offers one returns no other. -/
theorem length_add_toCome_le (s : System) :
    (s.slot.toList ++ s.offers).length + s.toCome ≤ 2 := by
  have hslot : s.slot.toList.length ≤ 1 := by cases s.slot <;> simp
  have hoffers := offers_length_add_le s
  rw [List.length_append]
  omega

/-- While the channel is open it is enough to know what is in it. -/
theorem Channel.of_open (hc : s.isClosed = false)
    (hearly : (s.phase = .starting ∨ ∃ since, s.phase = .reading since) → s.Bare)
    (heq : returned = taken ++ (s.slot.toList ++ s.offers)) : Channel s returned taken := by
  refine ⟨hearly, fun hc' => ?_, _, heq, length_add_toCome_le s, fun _ => rfl⟩
  exact absurd (hc.symm.trans hc') (by decide)

/-- What is in an open channel. -/
theorem Channel.eq_of_open (h : Channel s returned taken) (hc : s.isClosed = false) :
    returned = taken ++ (s.slot.toList ++ s.offers) := by
  obtain ⟨left, heq, -, hserving⟩ := h.account
  rw [heq, hserving (isStopped_of_open hc)]

/-- When a loop finds the channel closed, it was a shutdown. -/
theorem Channel.isStopped (h : Channel s returned taken) (hc : s.isClosed = true)
    (hloop : s.loop = some loop) : s.isStopped = true := by
  rcases h.closed hc with hbare | hshutdown
  · simp [hbare.1] at hloop
  · simp [System.isStopped, hc, hshutdown]

/-- A tick that goes on enters what it returns, and offers it. -/
theorem Channel.tick (h : Channel s returned taken) (hloop : s.loop = some loop)
    (hmay : mayReturn loop = 1) {x : Pressure.Loop} :
    Channel (s.withLoop (x.proceed started now t)) (returned ++ returnedBy t) taken := by
  obtain ⟨left, heq, hle, hserving⟩ := h.account
  -- a loop that sleeps or ticks offers nothing, so what the tick returns comes last
  have hcome : s.toCome = 1 := by simp [System.toCome, hloop, hmay]
  have hoffers : s.offers = [] := by
    have := offers_length_add_le s
    exact List.length_eq_zero_iff.mp (by omega)
  refine ⟨fun hearly => ?_, fun hc => ?_, left ++ returnedBy t, ?_, ?_, fun hs => ?_⟩
  · simp [(h.early hearly).1] at hloop
  · exact .inr ((h.closed hc).resolve_left fun hbare => by simp [hbare.1] at hloop)
  · rw [heq, List.append_assoc]
  · have hone := @mayReturn_proceed x started now t
    have hcome' : (s.withLoop (x.proceed started now t)).toCome =
        mayReturn (x.proceed started now t).1 := rfl
    rw [hcome', List.length_append]
    omega
  · rw [hserving hs, hoffers, List.append_nil]
    simp [System.offers, offered_proceed]

/-- A loop that has ended offers nothing and has nothing to come. -/
theorem Channel.halt (h : Channel s returned taken) (hc : s.isClosed = true)
    (hloop : s.loop = some loop) {notes : List Note} :
    Channel (s.withLoop (loop.halt, notes)) returned taken := by
  have hs := h.isStopped hc hloop
  obtain ⟨left, heq, hle, -⟩ := h.account
  refine ⟨fun hearly => ?_, fun _ => ?_, left, heq, ?_, fun hs' => ?_⟩
  · simp [(h.early hearly).1] at hloop
  · exact .inr ((h.closed hc).resolve_left fun hbare => by simp [hbare.1] at hloop)
  · have hcome : (s.withLoop (loop.halt, notes)).toCome = 0 := rfl
    omega
  · exact absurd (hs.symm.trans hs') (by decide)

/-- A signal that is offered goes into the channel. -/
theorem Channel.accept (h : Channel s returned taken) {r : Resource} {since : Moment}
    (hloop : s.loop = some loop) (hphase : loop.phase = .offering r since) (hslot : s.slot = none)
    (hc : s.isClosed = false) :
    Channel ({ s with slot := some r }.withLoop (loop.accepted now)) returned taken := by
  have hrest : loop.accepted now = (loop.rest now, (loop.accepted now).2) := by
    simp [Pressure.Loop.accepted, hphase]
  refine .of_open hc (fun hearly => ?_) ?_
  · simp [(h.early hearly).1] at hloop
  · rw [h.eq_of_open hc, hslot, hrest]
    simp [System.offers, hloop, hphase, Pressure.Loop.offered, Pressure.Loop.rest]

/-- A dispatch that goes on leaves the channel alone. -/
theorem Channel.proceed (h : Channel s returned taken) (hc : s.isClosed = false)
    {d : Task Outcome} : Channel (s.proceed d) returned taken := by
  refine .of_open (by simp) (fun hearly => ?_) ?_
  · rcases System.phase_proceed s d with hp | ⟨q, next, hp⟩ <;> simp [hp] at hearly
  · simpa [System.offers] using h.eq_of_open hc

/-- The signal in the channel is the first one that is left. -/
theorem Channel.take (h : Channel s returned taken) {r : Resource} (hphase : s.phase = .idle)
    (hslot : s.slot = some r) {d : Task Outcome} :
    Channel ({ s with slot := none }.proceed d) returned (taken ++ [r]) := by
  have hc : s.isClosed = false := by simp [System.isClosed, hphase]
  have hemptied : Channel { s with slot := none } returned (taken ++ [r]) := by
    refine .of_open hc (fun hearly => ⟨(h.early hearly).1, rfl⟩) ?_
    rw [h.eq_of_open hc, hslot]
    simp [System.offers]
  exact hemptied.proceed hc

/-- When a shutdown stops the dispatcher, what is left stays so. -/
theorem Channel.stop (h : Channel s returned taken) (hloop : s'.loop = s.loop)
    (hs : s'.isStopped = true) : Channel s' returned taken := by
  obtain ⟨hc, hshutdown⟩ := Bool.and_eq_true_iff.mp hs
  obtain ⟨left, heq, hle, -⟩ := h.account
  refine ⟨fun hearly => ?_, fun _ => .inr hshutdown, left, heq, ?_, fun hs' => ?_⟩
  · rcases hearly with hp | ⟨since, hp⟩ <;> simp [System.isClosed, hp] at hc
  · rwa [System.toCome, hloop]
  · exact absurd (hs.symm.trans hs') (by decide)

/-- Before there is a loop, only the phase of the controller changes. -/
theorem Channel.begin (h : Channel s returned taken) (hphase : s.phase = .starting)
    {answer : Except ConditionFault Unit} : Channel (s.started answer) returned taken := by
  have hbare : s.Bare := h.early (.inl hphase)
  have heq := h.eq_of_open (by simp [System.isClosed, hphase])
  cases answer <;> exact
    ⟨fun _ => hbare, fun _ => .inl hbare, _, heq, length_add_toCome_le s, fun _ => rfl⟩

/-- The loop starts with nothing to offer. -/
theorem Channel.launch (h : Channel s returned taken) {since : Moment}
    (hphase : s.phase = .reading since) {answer : Except ClusterFault TaintFlags} :
    Channel (s.launch since answer) returned taken := by
  have hloop : s.loop = none := (h.early (.inr ⟨since, hphase⟩)).1
  have heq := h.eq_of_open (by simp [System.isClosed, hphase])
  rw [System.offers, hloop] at heq
  cases answer <;>
  · refine .of_open rfl (fun hearly => ?_) heq
    simp [System.launch] at hearly

@[simp] theorem returned_dispatch {r : Resource} {hs : List (Happening world)} {d : Task Outcome} :
    (l.dispatch r hs d).returned = l.returned := by
  unfold Ledger.dispatch
  rcases d.settle with ⟨notes, o | ⟨q, next⟩⟩ <;> rfl

@[simp] theorem taken_dispatch {r : Resource} {hs : List (Happening world)} {d : Task Outcome} :
    (l.dispatch r hs d).taken = l.taken := by
  unfold Ledger.dispatch
  rcases d.settle with ⟨notes, o | ⟨q, next⟩⟩ <;> rfl

/-- An answer to the dispatcher brings no signal and takes none. -/
theorem channel_enter_answer {f : (q : Ask) → q.Answer} :
    (l.enter s (.answer f)).returned = l.returned ∧ (l.enter s (.answer f)).taken = l.taken := by
  simp only [Ledger.enter]
  split <;> simp

/-- No event loses, doubles or reorders a signal. -/
theorem Channel.step (h : Channel s l.returned l.taken) (hstep : s.step e = some s') :
    Channel s' (l.enter s e).returned (l.enter s e).taken := by
  cases e with
  | pass span =>
    obtain rfl := System.step_pass_iff.mp hstep
    exact ⟨h.early, h.closed, h.account⟩
  | request =>
    obtain rfl := System.step_request_iff.mp hstep
    obtain ⟨left, heq, hle, hserving⟩ := h.account
    refine ⟨h.early, fun _ => .inr rfl, left, heq, hle, fun hs => hserving ?_⟩
    have hc : s.isClosed = false := by simpa [System.isStopped, System.isClosed] using hs
    exact isStopped_of_open hc
  | answerLoop f =>
    obtain ⟨loop, started, q, next, hloop, hphase, rfl⟩ := System.step_answerLoop_iff.mp hstep
    simp only [Ledger.enter, hloop, Option.map_some, hphase]
    exact h.tick hloop (by simp [mayReturn, hphase])
  | wake =>
    obtain ⟨loop, m, hloop, hphase, -, rfl⟩ := System.step_wake_iff.mp hstep
    simp only [Ledger.enter, hloop]
    exact h.tick hloop (by simp [mayReturn, hphase])
  | accept =>
    obtain ⟨loop, r, since, hloop, hphase, hslot, hc, rfl⟩ := System.step_accept_iff.mp hstep
    exact h.accept hloop hphase hslot hc
  | refuse =>
    obtain ⟨loop, r, since, hloop, -, hc, rfl⟩ := System.step_refuse_iff.mp hstep
    exact h.halt hc hloop
  | halt =>
    obtain ⟨loop, hloop, hphase, -, rfl⟩ := System.step_halt_iff.mp hstep
    exact h.halt (by simp [System.isClosed, hphase]) hloop
  | take =>
    obtain ⟨r, hphase, hslot, rfl⟩ := System.step_take_iff.mp hstep
    simp only [Ledger.enter, hslot, returned_dispatch, taken_dispatch]
    exact h.take hphase hslot
  | stop =>
    obtain ⟨hphase, hshutdown, rfl⟩ := System.step_stop_iff.mp hstep
    exact h.stop rfl (by simp [System.isStopped, System.isClosed, System.tell, hshutdown])
  | join =>
    obtain ⟨loop, hloop, hphase, -, rfl⟩ := System.step_join_iff.mp hstep
    have hs := h.isStopped (by simp [System.isClosed, hphase]) hloop
    exact h.stop rfl (by simpa [System.isStopped, System.isClosed, hphase] using hs)
  | answer f =>
    rw [channel_enter_answer.1, channel_enter_answer.2]
    rcases System.step_answer_iff.mp hstep with ⟨hp, rfl⟩ | ⟨since, hp, rfl⟩ | ⟨q, next, hp, rfl⟩
    · exact h.begin hp
    · exact h.launch hp
    · exact h.proceed (by simp [System.isClosed, hp])

/-! ## The dispatches -/

/-- What has happened in the dispatch of a signal goes on as a task does. -/
def Continues (r : Resource) (hs : List (Happening world)) (d : Task Outcome) : Prop :=
  ∀ hs' o, Program.Exec anyReply d () hs' o () →
    Program.Exec anyReply (Dispatch.handle r) () (hs ++ hs') o ()

/-- Each signal that was taken was dispatched to the end, in turn, except for the last one if the
dispatcher still handles it. -/
structure Dispatches (s : System) (l : Ledger) : Prop where
  taken : l.taken = l.finished.map Dispatched.signal ++ (l.underway.map Prod.fst).toList
  finished : ∀ d ∈ l.finished,
    Program.Exec anyReply (Dispatch.handle d.signal) () d.happenings d.outcome ()
  underway : ∀ q next, s.phase = .handling q next →
    ∃ r hs, l.underway = some (r, hs) ∧ Continues r hs (.ask q next)
  rest : (∀ q next, s.phase ≠ .handling q next) → l.underway = none

/-- What the ticks return does not matter to the dispatcher. -/
theorem Dispatches.keep (h : Dispatches s l) (hphase : s'.phase = s.phase) :
    Dispatches s' { l with returned := returned } :=
  ⟨h.taken, h.finished, hphase ▸ h.underway, hphase ▸ h.rest⟩

/-- Between two dispatches the controller may do something else. -/
theorem Dispatches.away (h : Dispatches s l) (hs : ∀ q next, s.phase ≠ .handling q next)
    (hs' : ∀ q next, s'.phase ≠ .handling q next) : Dispatches s' l :=
  ⟨h.taken, h.finished, fun q next hp => absurd hp (hs' q next), fun _ => h.rest hs⟩

/-- A dispatch goes on up to its next question, which is waited for, or to its end, and then it is
over. -/
theorem Dispatches.proceed {r : Resource} {hs : List (Happening world)} {d : Task Outcome}
    (htaken : l.taken = l.finished.map Dispatched.signal ++ [r])
    (hfinished : ∀ d ∈ l.finished,
      Program.Exec anyReply (Dispatch.handle d.signal) () d.happenings d.outcome ())
    (hcont : Continues r hs d) : Dispatches (s.proceed d) (l.dispatch r hs d) := by
  unfold System.proceed Ledger.dispatch
  cases hd : d.settle with
  | mk notes pending =>
    cases pending with
    | done o =>
      have hlast := hcont _ o (Program.exec_of_settle_done hd)
      refine ⟨by simpa using htaken, ?_, fun q next hp => by simp at hp, fun _ => rfl⟩
      intro d' hd'
      rcases List.mem_append.mp hd' with hd' | hd'
      · exact hfinished d' hd'
      · obtain rfl := List.mem_singleton.mp hd'
        exact hlast
    | waiting q next =>
      have hrest : Continues r (hs ++ told (I := world) notes) (.ask q next) := by
        intro hs' o exec
        rw [List.append_assoc]
        exact hcont _ o (Program.exec_of_settle_waiting hd exec)
      refine ⟨htaken, hfinished, fun q' next' hp => ?_, fun hp => absurd rfl (hp q next)⟩
      cases hp
      exact ⟨r, _, rfl, hrest⟩

/-- Every event keeps what was dispatched in step with what was taken. -/
theorem Dispatches.step (h : Dispatches s l) (hstep : s.step e = some s') :
    Dispatches s' (l.enter s e) := by
  cases e with
  | pass span =>
    obtain rfl := System.step_pass_iff.mp hstep
    exact h.keep rfl
  | request =>
    obtain rfl := System.step_request_iff.mp hstep
    exact h.keep rfl
  | answerLoop f =>
    obtain ⟨loop, started, q, next, hloop, hphase, rfl⟩ := System.step_answerLoop_iff.mp hstep
    simp only [Ledger.enter, hloop, Option.map_some, hphase]
    exact h.keep rfl
  | wake =>
    obtain ⟨loop, m, hloop, -, -, rfl⟩ := System.step_wake_iff.mp hstep
    simp only [Ledger.enter, hloop]
    exact h.keep rfl
  | accept =>
    obtain ⟨loop, r, since, -, -, -, -, rfl⟩ := System.step_accept_iff.mp hstep
    exact h.keep rfl
  | refuse =>
    obtain ⟨loop, r, since, -, -, -, rfl⟩ := System.step_refuse_iff.mp hstep
    exact h.keep rfl
  | halt =>
    obtain ⟨loop, -, -, -, rfl⟩ := System.step_halt_iff.mp hstep
    exact h.keep rfl
  | take =>
    obtain ⟨r, hphase, hslot, rfl⟩ := System.step_take_iff.mp hstep
    have hnone : l.underway = none := h.rest (by simp [hphase])
    simp only [Ledger.enter, hslot]
    refine .proceed ?_ h.finished fun hs' o exec => exec
    rw [h.taken, hnone]
    simp
  | stop =>
    obtain ⟨hphase, -, rfl⟩ := System.step_stop_iff.mp hstep
    exact h.away (by simp [hphase]) (by simp)
  | join =>
    obtain ⟨loop, -, hphase, -, rfl⟩ := System.step_join_iff.mp hstep
    exact h.away (by simp [hphase]) (by simp)
  | answer f =>
    rcases System.step_answer_iff.mp hstep with ⟨hp, rfl⟩ | ⟨since, hp, rfl⟩ | ⟨q, next, hp, rfl⟩
    · simp only [Ledger.enter, hp]
      refine h.away (by simp [hp]) ?_
      cases f .start <;> simp [System.started]
    · simp only [Ledger.enter, hp]
      refine h.away (by simp [hp]) ?_
      cases f .readTaints <;> simp [System.launch]
    · obtain ⟨r, hs, hunderway, hcont⟩ := h.underway q next hp
      simp only [Ledger.enter, hp, hunderway]
      refine .proceed ?_ h.finished fun hs' o exec => ?_
      · rw [h.taken, hunderway]
        simp
      · rw [List.append_assoc]
        exact hcont _ o (.ask trivial exec)

/-! ## Runs -/

/-- The books agree with the system. -/
structure Balanced (s : System) (l : Ledger) : Prop where
  channel : Channel s l.returned l.taken
  dispatches : Dispatches s l

/-- The books of a controller that begins to run. -/
theorem balanced_start {pace : Pace} {telemetry : Telemetry} :
    Balanced (System.start pace telemetry now) .empty where
  channel := .of_open rfl (fun _ => ⟨rfl, rfl⟩) rfl
  dispatches := ⟨rfl, by simp [Ledger.empty], fun q next hp => by simp [System.start] at hp,
    fun _ => rfl⟩

/-- The books of a run agree with what becomes of the system. -/
theorem Balanced.run (h : Balanced s l) (hrun : s.run es = some s') :
    Balanced s' (s.ledger l es) := by
  induction es generalizing s l with
  | nil =>
    obtain rfl : s = s' := by simpa [System.run] using hrun
    exact h
  | cons e es ih =>
    obtain ⟨s₁, hstep, hrest⟩ := Option.bind_eq_some_iff.mp hrun
    simp only [System.ledger, hstep]
    exact ih ⟨h.channel.step hstep, h.dispatches.step hstep⟩ hrest

/-- After any interleaving the dispatcher has taken the first of the signals that the ticks have
returned, in their order; at most two are left, and until a shutdown they are in the channel and
offered. Every signal taken was dispatched to the end, one after the other, except for the last one
while it is handled. When the dispatcher is over, all of those were, and only a shutdown leaves
signals behind. -/
theorem signals_in_order {pace : Pace} {telemetry : Telemetry}
    (h : (System.start pace telemetry now).run es = some s) :
    let l := (System.start pace telemetry now).ledger .empty es
    l.taken <+: l.returned ∧ l.returned.length ≤ l.taken.length + 2 ∧
    (s.isStopped = false → l.returned = l.taken ++ (s.slot.toList ++ s.offers)) ∧
    Dispatches s l ∧
    (s.isClosed = true → l.taken = l.finished.map Dispatched.signal ∧
      (s.isStopped = false → l.returned = l.taken)) := by
  intro l
  have hbalanced : Balanced s l := balanced_start.run h
  obtain ⟨left, heq, hle, hserving⟩ := hbalanced.channel.account
  refine ⟨⟨left, heq.symm⟩, ?_, fun hs => ?_, hbalanced.dispatches, fun hc => ⟨?_, fun hs => ?_⟩⟩
  · rw [heq, List.length_append]
    omega
  · rw [heq, hserving hs]
  · have hnone : l.underway = none := by
      refine hbalanced.dispatches.rest fun q next hp => ?_
      simp [System.isClosed, hp] at hc
    rw [hbalanced.dispatches.taken, hnone]
    simp
  · rcases hbalanced.channel.closed hc with ⟨hloop, hslot⟩ | hshutdown
    · rw [heq, hserving hs, System.offers, hloop, hslot]
      simp
    · simp [System.isStopped, hc, hshutdown] at hs

/-- The answers on a node of such availability, where all goes well and no pod is a victim. -/
def replying (a : Availability) : (q : Ask) → q.Answer
  | .start => .ok ()
  | .grace => Span.seconds 30
  | .availability => a
  | .changeTaint .. => .ok ()
  | q => q.silence

/-- A period of the loop and a tick that finds a dimension short for the first time. -/
def shortage (r : Resource) : List Event :=
  let f := replying (.without [r])
  [.pass (Span.seconds 10), .wake, .answerLoop f, .answerLoop f, .answerLoop f]

/-- A node is short of CPU in the first period and of disk in the second: the first signal is
dispatched, and a shutdown leaves the second one behind. -/
theorem shutdown_leaves_one_behind :
    ∃ (es : List Event) (s : System),
      let first := System.start .default (.fresh "n") 0
      let l := first.ledger .empty es
      first.run es = some s ∧ s.result? = some none ∧ l.returned = [.cpu, .diskIo] ∧
      l.taken = [.cpu] ∧ l.taken <+: l.returned ∧ l.taken = l.finished.map Dispatched.signal := by
  let quiet := replying .full
  let es : List Event :=
    [.answer quiet, .answer quiet] ++ shortage .cpu ++ [.accept, .take] ++ shortage .diskIo ++
      [.accept, .answer quiet, .request, .stop, .halt, .join]
  let first := System.start .default (.fresh "n") 0
  have hend : (first.run es).map (fun s => (s.result?, s.isClosed)) = some (some none, true) := by
    decide +kernel
  obtain ⟨s, hs, hresult⟩ := Option.map_eq_some_iff.mp hend
  obtain ⟨hresult, hclosed⟩ := Prod.mk.inj hresult
  have hreturned : (first.ledger .empty es).returned = [.cpu, .diskIo] := by decide +kernel
  have htaken : (first.ledger .empty es).taken = [.cpu] := by decide +kernel
  obtain ⟨hfirst, -, -, -, hfinished⟩ := signals_in_order hs
  exact ⟨es, s, hs, hresult, hreturned, htaken, hfirst, (hfinished hclosed).1⟩

end NodePressure.Controller
