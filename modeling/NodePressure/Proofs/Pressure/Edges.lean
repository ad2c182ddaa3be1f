import Mathlib.Data.List.Chain
import NodePressure.Proofs.Pressure.Ticks

/-!
# NodePressure.Proofs.Pressure.Edges - taints on the edges of pressure

Unless the taints of the node are read again, a flag moves only by a call that succeeds, and a call
is made only for the change that the flag lacks. So the changes that are made turn the flag back and
forth (`Turns`), and while a dimension stays short the node is tainted once: each tick tries until
one succeeds (`taint_on_edges`).
-/

namespace NodePressure.Pressure

/-! ## Turning a flag -/

/-- Changes that take a flag from one value to another, each away from where it stands. -/
inductive Turns : Bool → List TaintChange → Bool → Prop
  | nil {b : Bool} : Turns b [] b
  | cons {b b' : Bool} {c : TaintChange} {cs : List TaintChange} (hc : c.flag ≠ b)
      (h : Turns c.flag cs b') : Turns b (c :: cs) b'

namespace Turns

variable {b b' b'' : Bool} {cs cs' : List TaintChange}

theorem append (h : Turns b cs b') (h' : Turns b' cs' b'') : Turns b (cs ++ cs') b'' := by
  induction h with
  | nil => exact h'
  | cons hc _ ih => exact .cons hc (ih h')

/-- The first change is away from the flag at first. -/
theorem flag_head (h : Turns b cs b') : ∀ c ∈ cs.head?, c.flag ≠ b := by
  intro c hc
  cases h with
  | nil => simp at hc
  | cons hne _ =>
    obtain rfl := Option.some_inj.mp hc
    exact hne

/-- No change is made twice in a row. -/
theorem isChain (h : Turns b cs b') : cs.IsChain (· ≠ ·) := by
  induction h with
  | nil => exact .nil
  | @cons _ _ c cs _ h ih =>
    refine List.isChain_cons.mpr ⟨fun c' hc' => ?_, ih⟩
    rintro rfl
    exact h.flag_head _ hc' rfl

/-- There are as many taints more than untaints as the flag has risen. -/
theorem count_sub_count (h : Turns b cs b') :
    (cs.count .taint : Int) - cs.count .untaint = b'.toInt - b.toInt := by
  induction h with
  | nil => simp
  | @cons b b' c cs hc _ ih =>
    cases c with
    | taint =>
      obtain rfl : b = false := by simpa [TaintChange.flag] using hc
      have htaint : (TaintChange.taint :: cs).count .taint = cs.count .taint + 1 := by simp
      have huntaint : (TaintChange.taint :: cs).count .untaint = cs.count .untaint := by simp
      have hrise : Bool.toInt (TaintChange.taint.flag) = false.toInt + 1 := rfl
      omega
    | untaint =>
      obtain rfl : b = true := by simpa [TaintChange.flag] using hc
      have htaint : (TaintChange.untaint :: cs).count .taint = cs.count .taint := by simp
      have huntaint : (TaintChange.untaint :: cs).count .untaint = cs.count .untaint + 1 := by simp
      have hfall : Bool.toInt (TaintChange.untaint.flag) = true.toInt - 1 := rfl
      omega

end Turns

/-! ## One visit -/

/-- The changes that calls have made: those of the calls that succeeded. -/
def made (calls : List TaintCall) : List TaintChange :=
  calls.filterMap fun call =>
    match call.2 with
    | .ok _ => some call.1
    | .error _ => none

namespace Watch

variable {available : Bool} {grace : Span} {now : Moment} {w w' : Watch} {calls : List TaintCall}

/-- A visit asks only for the change that the flag lacks. -/
theorem flag_ne_of_change? {c : TaintChange} (h : w.change? available grace now = some c) :
    c.flag ≠ w.flag := by
  unfold change? at h
  split_ifs at h with ha hquiet hw
  · obtain rfl := Option.some_inj.mp h
    have hw : w.flag = true := (Bool.and_eq_true_iff.mp hquiet).1
    simp [TaintChange.flag, hw]
  · obtain rfl := Option.some_inj.mp h
    simp [TaintChange.flag, hw]

/-- What a visit changes turns the flag. -/
theorem Visit.turns (h : w.Visit available grace now calls w') :
    Turns w.flag (made calls) w'.flag := by
  unfold Visit at h
  split at h
  · obtain ⟨rfl, rfl⟩ := h
    rw [flag_touch]
    exact .nil
  · rename_i c hc
    obtain ⟨r, rfl, rfl⟩ := h
    rcases r with f | u
    · have hkept : ((w.touch available now).follow (c, .error f)).flag = w.flag := flag_touch
      rw [hkept]
      exact .nil
    · exact .cons (flag_ne_of_change? hc) .nil

/-- While a dimension is short, the node is tainted unless it is so already. -/
theorem Visit.short (h : w.Visit false grace now calls w') :
    (w.flag = true → calls = [] ∧ w'.flag = true) ∧
    (w.flag = false → ∃ r, calls = [(.taint, r)] ∧
      (w'.flag = true ↔ (.taint, .ok ()) ∈ calls)) := by
  cases hw : w.flag with
  | true =>
    have hidle : w.change? false grace now = none := by simp [change?, hw]
    rw [Visit, hidle] at h
    obtain ⟨rfl, rfl⟩ := h
    refine ⟨fun _ => ⟨rfl, ?_⟩, by simp⟩
    rw [flag_touch, hw]
  | false =>
    have hpress : w.change? false grace now = some .taint := by simp [change?, hw]
    rw [Visit, hpress] at h
    obtain ⟨r, rfl, rfl⟩ := h
    refine ⟨by simp, fun _ => ⟨r, rfl, ?_⟩⟩
    rcases r with f | u
    · simp [follow, flag_touch, hw]
    · simp [follow, TaintChange.flag]

end Watch

/-! ## Ticks that do not read the taints -/

variable {σ : Type} {W : Replies world σ} {resync : Option Nat} {d : Dimension}
  {s₀ s : State} {e₀ e : σ} {ts : List Ticked} {t : Ticked}

/-- A tick at which no reading is due goes on from where the one before has ended. -/
theorem Ticked.Sound.start_eq_before {grace : Span} {a : Availability}
    (sound : t.Sound resync grace a) (hdue : isResyncDue resync t.number = false) :
    t.start = t.before := by
  have hlength : t.reads.length = 0 := by simpa [hdue] using sound.reads_length
  rw [Ticked.start, List.length_eq_zero_iff.mp hlength]
  rfl

/-- The changes of a dimension that ticks have made, one after the other. -/
def changes (d : Dimension) (ts : List Ticked) : List TaintChange :=
  ts.flatMap fun t => made (t.calls d)

/-- The changes that a run makes turn the flag. -/
theorem Ticking.turns (run : Ticking W resync s₀ e₀ ts s e)
    (hdue : ∀ t ∈ ts, isResyncDue resync t.number = false) :
    Turns (s₀.flags.get d) (changes d ts) (s.flags.get d) := by
  induction run with
  | start => exact .nil
  | @tick ts s e e' t run number before h ih =>
    obtain ⟨grace, a, sound⟩ := exec_tick h
    subst before
    have hvisit := sound.visit d
    rw [sound.start_eq_before (hdue t (by simp))] at hvisit
    have hfirst := ih fun u hu => hdue u (List.mem_append_left _ hu)
    have hsplit : changes d (ts ++ [t]) = changes d ts ++ made (t.calls d) := by simp [changes]
    rw [hsplit]
    exact hfirst.append hvisit.turns

/-- In ticks that find a dimension short, its flag is up once it was so or was taken up. -/
theorem Ticking.flag_of_short {earlier block : List Ticked}
    (run : Ticking W resync s₀ e₀ (earlier ++ block) s e)
    (hdue : ∀ t ∈ earlier ++ block, isResyncDue resync t.number = false)
    (hshort : ∀ t ∈ block, t.Short d) :
    s.flags.get d = true ↔ (stateAfter s₀ earlier).flags.get d = true ∨
      ∃ u ∈ block, (.taint, .ok ()) ∈ u.calls d := by
  induction block using List.reverseRecOn generalizing s e with
  | nil =>
    rw [List.append_nil] at run
    simp [run.eq_stateAfter]
  | append_singleton block t ih =>
    rw [← List.append_assoc] at run hdue
    obtain ⟨grace, a, sound⟩ := run.sound
    obtain ⟨rfl, -, e₁, before, -⟩ := run.last
    have hbefore := ih before (fun u hu => hdue u (List.mem_append_left _ hu))
      fun u hu => hshort u (List.mem_append_left _ hu)
    have hvisit := sound.visit d
    rw [sound.start_eq_before (hdue t (by simp)),
      sound.short_iff.mp (hshort t (by simp))] at hvisit
    obtain ⟨hup, hdown⟩ := hvisit.short
    have hmem : (∃ u ∈ block ++ [t], (.taint, .ok ()) ∈ u.calls d) ↔
        (∃ u ∈ block, (.taint, .ok ()) ∈ u.calls d) ∨ (.taint, .ok ()) ∈ t.calls d := by
      simp [or_and_right, exists_or]
    rw [hmem, ← or_assoc, ← hbefore]
    cases hflag : t.before.flags.get d with
    | true =>
      have hkept : t.after.flags.get d = true := (hup hflag).2
      simp [hkept]
    | false =>
      obtain ⟨r, -, hiff⟩ := hdown hflag
      have hnow : t.after.flags.get d = true ↔ (.taint, .ok ()) ∈ t.calls d := hiff
      simpa using hnow

/-- **Taints on the edges.** In every run of ticks that do not read the taints again, the changes
that are made for a dimension turn back and forth, and begin with a taint exactly if the node was
not held to be tainted at first. In any block of ticks that find the dimension short, a maximal one
or a part of it, each tick makes one call, which taints, until one has succeeded, and none after it,
nor if the node was held to be tainted when the block began. At any time there are as many taints
more than untaints as the flag has risen. -/
theorem taint_on_edges (run : Ticking W resync s₀ e₀ ts s e)
    (hdue : ∀ t ∈ ts, isResyncDue resync t.number = false) (d : Dimension) :
    (changes d ts).IsChain (· ≠ ·) ∧
    (∀ c ∈ (changes d ts).head?, c = .taint ↔ s₀.flags.get d = false) ∧
    (∀ earlier block later, ts = earlier ++ block ++ later → (∀ t ∈ block, t.Short d) →
      ∀ before t after, block = before ++ t :: after →
        ((stateAfter s₀ earlier).flags.get d = true ∨
          (∃ u ∈ before, (.taint, .ok ()) ∈ u.calls d) → t.calls d = []) ∧
        ((stateAfter s₀ earlier).flags.get d = false ∧
          (∀ u ∈ before, (.taint, .ok ()) ∉ u.calls d) → ∃ r, t.calls d = [(.taint, r)])) ∧
    ∀ earlier later, ts = earlier ++ later →
      ((changes d earlier).count .taint : Int) - (changes d earlier).count .untaint =
        ((stateAfter s₀ earlier).flags.get d).toInt - (s₀.flags.get d).toInt := by
  have turns := run.turns (d := d) hdue
  refine ⟨turns.isChain, fun c hc => ?_, ?_, ?_⟩
  · have hne := turns.flag_head c hc
    cases c <;> cases hflag : s₀.flags.get d <;> simp_all [TaintChange.flag]
  · rintro earlier block later rfl hshort before t after rfl
    -- the run is cut behind the tick in question; the block before it gives the flag
    have hts : earlier ++ (before ++ t :: after) ++ later =
        (earlier ++ before ++ [t]) ++ (after ++ later) := by simp
    rw [hts] at run hdue
    obtain ⟨s₁, e₁, run₁⟩ := run.take
    obtain ⟨-, -, e₂, run₂, -⟩ := run₁.last
    obtain ⟨grace, a, sound⟩ := run₁.sound
    have hflag := run₂.flag_of_short (d := d) (fun u hu => hdue u (by simp at hu ⊢; tauto))
      fun u hu => hshort u (List.mem_append_left _ hu)
    have hvisit := sound.visit d
    rw [sound.start_eq_before (hdue t (by simp)),
      sound.short_iff.mp (hshort t (by simp))] at hvisit
    obtain ⟨hup, hdown⟩ := hvisit.short
    constructor
    · intro hbusy
      exact (hup (hflag.mpr hbusy)).1
    · rintro ⟨hstart, hnone⟩
      have hlow : t.before.flags.get d = false := by
        rw [Bool.eq_false_iff, Ne, hflag, not_or]
        exact ⟨by simp [hstart], fun ⟨u, hu, hcall⟩ => hnone u hu hcall⟩
      obtain ⟨r, hcalls, -⟩ := hdown hlow
      exact ⟨r, hcalls⟩
  · rintro earlier later rfl
    obtain ⟨s₁, e₁, run₁⟩ := run.take
    have hturns := run₁.turns (d := d) fun t ht => hdue t (List.mem_append_left _ ht)
    rw [← run₁.eq_stateAfter]
    exact hturns.count_sub_count

/-- A node that stays short of its disk is tainted at the second try, after a first one that failed,
and not again; it is untainted when it has time to spare. -/
theorem taint_at_second_try :
    ∃ t₁ t₂ t₃ t₄ : Ticked, Ticking anyReply none .fresh () [t₁, t₂, t₃, t₄] t₄.after () ∧
      (∀ t ∈ [t₁, t₂, t₃], t.Short .diskIo) ∧
      t₁.calls .diskIo = [(.taint, .error (.other "refused"))] ∧
      (∃ r, t₂.calls .diskIo = [(.taint, r)]) ∧ t₃.calls .diskIo = [] ∧
      changes .diskIo [t₁, t₂, t₃, t₄] = [.taint, .untaint] ∧
      (changes .diskIo [t₁, t₂, t₃, t₄]).IsChain (· ≠ ·) := by
  let reply (a : Availability) (outcome : Except ClusterFault Unit) : (q : Ask) → q.Answer
    | .availability => a
    | .changeTaint .. => outcome
    | q => q.silence
  let failing := reply (.without [.diskIo]) (.error (.other "refused"))
  let short := reply (.without [.diskIo]) (.ok ())
  let s₁ := State.fresh.setBusy .diskIo 0
  let s₂ := (s₁.setBusy .diskIo 10).setFlag .diskIo true
  let s₃ := s₂.setBusy .diskIo 20
  let t₁ : Ticked := .play none failing 1 0 .fresh
  let t₂ : Ticked := .play none short 2 10 s₁
  let t₃ : Ticked := .play none short 3 20 s₂
  let t₄ : Ticked := .play none (reply .full (.ok ())) 4 30 s₃
  have run₁ : Ticking anyReply none .fresh () [t₁] s₁ () := Ticking.start.play failing 0
  have run₂ : Ticking anyReply none .fresh () [t₁, t₂] s₂ () := run₁.play short 10
  have run₃ : Ticking anyReply none .fresh () [t₁, t₂, t₃] s₃ () := run₂.play short 20
  have run : Ticking anyReply none .fresh () [t₁, t₂, t₃, t₄] t₄.after () := run₃.play _ 30
  obtain ⟨hchain, -, hblock, -⟩ := taint_on_edges run (by simp [isResyncDue]) .diskIo
  have hfirst : t₁.calls .diskIo = [(.taint, .error (.other "refused"))] := rfl
  have hdone : t₂.calls .diskIo = [(.taint, .ok ())] := rfl
  have hchanges : changes .diskIo [t₁, t₂, t₃, t₄] = [.taint, .untaint] := rfl
  have hshort : ∀ t ∈ [t₁, t₂, t₃], t.Short .diskIo := by
    have h₁ : t₁.Short .diskIo := ⟨_, rfl, rfl⟩
    have h₂ : t₂.Short .diskIo := ⟨_, rfl, rfl⟩
    have h₃ : t₃.Short .diskIo := ⟨_, rfl, rfl⟩
    simp [h₁, h₂, h₃]
  have hsecond := (hblock [] [t₁, t₂, t₃] [t₄] rfl hshort [t₁] t₂ [t₃] rfl).2
  have hthird := (hblock [] [t₁, t₂, t₃] [t₄] rfl hshort [t₁, t₂] t₃ [] rfl).1
  exact ⟨t₁, t₂, t₃, t₄, run, hshort, hfirst, hsecond ⟨rfl, by simp [hfirst]⟩,
    hthird (.inr ⟨t₂, by simp [hdone]⟩), hchanges, hchain⟩

end NodePressure.Pressure
