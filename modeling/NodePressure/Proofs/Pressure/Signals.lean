import NodePressure.Proofs.Pressure.Ticks

/-!
# NodePressure.Proofs.Pressure.Signals - what a signal depends on

The signal of a tick says which resource is short, and nothing about the taints of the node: neither
what is held or found of them nor the calls that fail can hold it back or change it
(`signal_of_availability`). `signalOf_eq_some_iff` says which resource it is.
-/

namespace NodePressure

/-- A dimension is short, and none that is evaluated before it is. -/
def Availability.FirstShort (a : Availability) (d : Dimension) : Prop :=
  a.has d = false ∧ ∃ before after, Dimension.all = before ++ d :: after ∧
    ∀ x ∈ before, a.has x = true

namespace Pressure

variable {a : Availability}

/-- There is no signal exactly if every resource is available. -/
theorem signalOf_eq_none_iff : signalOf a = none ↔ ∀ r, a.of r = true := by
  rw [← Availability.isFull_iff_of, Availability.isFull_iff, signalOf, Option.map_eq_none_iff,
    List.find?_eq_none]
  simp [Dimension.mem_all]

/-- The signal for a dimension is one of its own; for the network it is the one for receiving if
that is short. -/
theorem signal_eq_iff {d : Dimension} {r : Resource} :
    a.signal d = r ↔ r.dimension = d ∧ (r = .networkRx → a.networkRx = false) ∧
      (r = .networkTx → a.networkRx = true) := by
  cases d <;> cases r <;> cases ha : a.networkRx <;>
    simp [Availability.signal, Resource.dimension, ha]

/-- The signal is the one for the first dimension that is short. -/
theorem signalOf_eq_some_iff {r : Resource} :
    signalOf a = some r ↔ a.FirstShort r.dimension ∧
      (r = .networkRx → a.networkRx = false) ∧
      (r = .networkTx → a.networkRx = true ∧ a.networkTx = false) := by
  have hfind (d : Dimension) :
      (Dimension.all.find? fun d => !a.has d) = some d ↔ a.FirstShort d := by
    rw [List.find?_eq_some_iff_append, Availability.FirstShort]
    simp
  simp only [signalOf, Option.map_eq_some_iff, hfind, signal_eq_iff]
  constructor
  · rintro ⟨d, hfirst, rfl, hrx, htx⟩
    refine ⟨hfirst, hrx, ?_⟩
    rintro rfl
    have havailable : a.networkRx = true := htx rfl
    have hshort : (a.networkRx && a.networkTx) = false := hfirst.1
    rw [havailable, Bool.true_and] at hshort
    exact ⟨havailable, hshort⟩
  · rintro ⟨hfirst, hrx, htx⟩
    exact ⟨r.dimension, hfirst, rfl, hrx, fun h => (htx h).1⟩

variable {σ₁ σ₂ : Type} {W₁ : Replies world σ₁} {W₂ : Replies world σ₂}
  {resync₁ resync₂ : Option Nat} {s₁ s₁' s₂ s₂' : State} {e₁ e₁' : σ₁} {e₂ e₂' : σ₂}
  {ts us : List Ticked} {t u : Ticked}

/-- **A signal depends on what the node can spare, and on nothing else.** Two ticks of any runs that
have read the same return the same signal, whatever is flagged, on record or found, and whatever
calls fail. There is none exactly if every resource is available, and otherwise it is the one for
the first dimension that is short: for the network that of receiving, unless only sending is short.
-/
theorem signal_of_availability (run₁ : Ticking W₁ resync₁ s₁ e₁ ts s₁' e₁')
    (run₂ : Ticking W₂ resync₂ s₂ e₂ us s₂' e₂') (ht : t ∈ ts) (hu : u ∈ us)
    (same : t.availability? = u.availability?) :
    t.signal = u.signal ∧ ∃ a, t.availability? = some a ∧
      (t.signal = none ↔ ∀ r, a.of r = true) ∧
      ∀ r, t.signal = some r ↔ a.FirstShort r.dimension ∧
        (r = .networkRx → a.networkRx = false) ∧
        (r = .networkTx → a.networkRx = true ∧ a.networkTx = false) := by
  obtain ⟨grace, a, sound⟩ := run₁.sound_of_mem ht
  obtain ⟨grace', a', sound'⟩ := run₂.sound_of_mem hu
  have heq : a = a' := by
    rwa [sound.availability?, sound'.availability?, Option.some_inj] at same
  refine ⟨by rw [sound.signal, sound'.signal, heq], a, sound.availability?, ?_, fun r => ?_⟩
  · rw [sound.signal, signalOf_eq_none_iff]
  · rw [sound.signal, signalOf_eq_some_iff]

/-- Two nodes are short of their networks in both directions. The first one cannot be tainted; the
second one was idle before, and is now found tainted for all dimensions. Both return the same
signal. -/
theorem receiving_signals_twice :
    ∃ t u₁ u₂ : Ticked, Ticking anyReply none .fresh () [t] t.after () ∧
      Ticking anyReply (some 2) .fresh () [u₁, u₂] u₂.after () ∧
      t.availability? = u₂.availability? ∧
      t.calls .network = [(.taint, .error (.other "no answer"))] ∧ u₁.signal = none ∧
      u₂.reads = [.ok (.ofList Dimension.all)] ∧ u₂.calls .network = [] ∧
      t.signal = u₂.signal ∧ t.signal = some .networkRx := by
  let reply (a : Availability) : (q : Ask) → q.Answer
    | .readTaints => .ok (.ofList Dimension.all)
    | .availability => a
    | q => q.silence
  let a : Availability := .without [.networkRx, .networkTx]
  let t : Ticked := .play none (reply a) 1 0 .fresh
  let u₁ : Ticked := .play (some 2) (reply .full) 1 0 .fresh
  let u₂ : Ticked := .play (some 2) (reply a) 2 10 .fresh
  have run₁ : Ticking anyReply none .fresh () [t] t.after () := Ticking.start.play _ 0
  have idle : Ticking anyReply (some 2) .fresh () [u₁] .fresh () := Ticking.start.play _ 0
  have run₂ : Ticking anyReply (some 2) .fresh () [u₁, u₂] u₂.after () := idle.play _ 10
  have same : t.availability? = u₂.availability? := rfl
  obtain ⟨hsignal, a', ha', -, hsome⟩ :=
    signal_of_availability run₁ run₂ (t := t) (u := u₂) (by simp) (by simp) same
  obtain rfl : a = a' := Option.some_inj.mp ha'
  have hfirst : a.FirstShort .network := ⟨rfl, [.cpu, .memory, .diskIo], [], rfl, by decide⟩
  exact ⟨t, u₁, u₂, run₁, run₂, same, rfl, rfl, rfl, rfl, hsignal,
    (hsome .networkRx).mpr ⟨hfirst, fun _ => rfl, by simp⟩⟩

end Pressure

end NodePressure
