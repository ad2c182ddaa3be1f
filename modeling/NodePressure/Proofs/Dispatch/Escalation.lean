import Mathlib.Data.List.Nodup
import NodePressure.Condition.Manager
import NodePressure.Dispatch.Basic
import NodePressure.Proofs.Cluster.PodServer
import NodePressure.Proofs.Workload.Rank

/-!
# NodePressure.Proofs.Dispatch.Escalation - signals escalate on one workload

`Dispatching` is the world of a dispatcher whose calls succeed and whose pods change by its own
labels only, until it evicts one. A candidate that `Tops` the others may be chosen; once it has been
labeled it `Leads` them, and then it is chosen whatever resource signals. So the priority of the
candidate that was chosen first counts up, to its eviction (`escalation_ends_in_eviction`).
-/

namespace NodePressure.Dispatch

/-- The world of a dispatcher whose calls succeed, none of which crashes. An eviction may do
anything to the pods. -/
inductive Dispatching (c : Client) (p : Policy) (evicts : Workload → List Pod → List Pod → Prop) :
    List Pod → (q : Ask) → q.Answer → List Pod → Prop
  | choose {m : Manager} {r : Resource} {cs : List Candidate} {ps ps' : List Pod}
      {hs : List (Happening web)} (hm : m.settings.policy = p)
      (h : Program.Exec (Lists c) c.candidates ps hs (.ok (.ok cs)) ps') :
      Dispatching c p evicts ps (.choose r) (m.choose r (.ok cs)) ps'
  | label {w : Workload} {n : Nat} {ps ps' : List Pod} {hs : List (Happening web)}
      (h : Program.Exec (Acts w (evicts w)) (c.label w n .add) ps hs (.ok ()) ps') :
      Dispatching c p evicts ps (.label w n .add) (.ok ()) ps'
  | evict {w : Workload} {ps ps' : List Pod} {hs : List (Happening web)}
      (h : Program.Exec (Acts w (evicts w)) (c.evict w) ps hs (.ok ()) ps') :
      Dispatching c p evicts ps (.evict w) (.ok ()) ps'

variable {c : Client} {p : Policy} {evicts : Workload → List Pod → List Pod → Prop}
  {ps ps' : List Pod} {hs : List (Happening world)} {r : Resource} {rs : List Resource}
  {o : Outcome} {os : List Outcome} {key : String} {x y : Candidate} {n q : Nat}

/-! ## One signal -/

/-- The end of an action makes no call. It tells how the action went, and counts it. -/
theorem exec_conclude_iff {σ : Type} {W : Replies world σ} {e e' : σ} {action : String}
    {entry : LogEvent} {fault : Option String} {ok bad : Outcome} :
    Program.Exec W (conclude r action entry fault ok bad) e hs o e' ↔
      hs = told (I := world) [.log entry, .report dispatcherPart (.ofResult fault),
        .count (if fault.isNone then .actions r action else .dispatchErrors r action)] ∧
      o = (if fault.isNone then ok else bad) ∧ e' = e := by
  cases fault <;> simp [conclude, told]

/-- What was decided is done. -/
theorem exec_act {d : Decision}
    (h : Program.Exec (Dispatching c p evicts) (act r d) ps hs o ps') :
    if d.evictNow then o = .evicted d.workload ∧ evicts d.workload ps ps'
    else o = .labeled d.workload d.priority ∧
      Relabeled d.workload c.priorityKey (Number.text d.priority) ps ps' := by
  unfold act at h
  split_ifs at h with hnow
  · rw [if_pos hnow]
    obtain ⟨answer, ps₁, hs₁, hW, -, hnext⟩ := Program.exec_ask_iff.mp h
    cases hW with
    | evict hexec =>
      obtain ⟨-, rfl, rfl⟩ := exec_conclude_iff.mp hnext
      exact ⟨rfl, Client.exec_evict hexec⟩
  · rw [if_neg hnow]
    obtain ⟨answer, ps₁, hs₁, hW, -, hnext⟩ := Program.exec_ask_iff.mp h
    cases hW with
    | label hexec =>
      obtain ⟨-, rfl, rfl⟩ := exec_conclude_iff.mp hnext
      exact ⟨rfl, Client.exec_label_add hexec⟩

/-- A signal for which a decision can be made is acted on accordingly. -/
theorem exec_handle (h : Program.Exec (Dispatching c p evicts) (handle r) ps hs o ps')
    (hsome : ∃ y ∈ candidatesOf c.priorityKey ps, p.isEligible y = true) :
    ∃ shown d hs', shown.Perm ps ∧ p.choose r (candidatesOf c.priorityKey shown) = some d ∧
      hs = .answered (.choose r) (.ok d) :: hs' ∧
      if d.evictNow then o = .evicted d.workload ∧ evicts d.workload ps ps'
      else o = .labeled d.workload d.priority ∧
        Relabeled d.workload c.priorityKey (Number.text d.priority) ps ps' := by
  obtain ⟨answer, ps₁, hs₁, hW, rfl, hnext⟩ := Program.exec_ask_iff.mp h
  cases hW with
  | @choose m _ _ _ _ _ hm hexec =>
    obtain ⟨rfl, shown, hperm, rfl⟩ := Client.exec_candidates hexec
    cases hd : p.choose r (candidatesOf c.priorityKey shown) with
    | none =>
      obtain ⟨y, hy, heligible⟩ := hsome
      have hy' := (mem_candidatesOf_of_perm hperm).mpr hy
      simp [Policy.choose_eq_none_iff.mp hd y hy'] at heligible
    | some d =>
      have hanswer : m.choose r (.ok (candidatesOf c.priorityKey shown)) = .ok d := by
        simp only [Manager.choose, hm, hd]
      rw [hanswer] at hnext ⊢
      exact ⟨shown, d, hs₁, hperm, hd, rfl, exec_act hnext⟩

/-- A signal whose calls succeed leads to what was decided. -/
theorem exec_handle_of {m : Manager} {cs : List Candidate} {d : Decision}
    {hs₁ hs₂ : List (Happening web)} (hm : m.settings.policy = p)
    (hlist : Program.Exec (Lists c) c.candidates ps hs₁ (.ok (.ok cs)) ps)
    (hd : p.choose r cs = some d)
    (hact : if d.evictNow then
        Program.Exec (Acts d.workload (evicts d.workload)) (c.evict d.workload) ps hs₂ (.ok ()) ps'
      else
        Program.Exec (Acts d.workload (evicts d.workload)) (c.label d.workload d.priority .add) ps
          hs₂ (.ok ()) ps') :
    ∃ hs, Program.Exec (Dispatching c p evicts) (handle r) ps hs
      (if d.evictNow then .evicted d.workload else .labeled d.workload d.priority) ps' := by
  have hanswer : m.choose r (.ok cs) = .ok d := by simp [Manager.choose, hm, hd]
  have hchoose : Dispatching c p evicts ps (.choose r) (.ok d) ps :=
    hanswer ▸ Dispatching.choose hm hlist
  have hdone : ∃ hs, Program.Exec (Dispatching c p evicts) (act r d) ps hs
      (if d.evictNow then .evicted d.workload else .labeled d.workload d.priority) ps' := by
    unfold act
    split_ifs at hact ⊢
    · exact ⟨_, .ask (.evict hact) (.note (.note (.note .done)))⟩
    · exact ⟨_, .ask (.label hact) (.note (.note (.note .done)))⟩
  obtain ⟨hs, hdone⟩ := hdone
  exact ⟨_, .ask hchoose hdone⟩

theorem exec_handleAll_cons_iff {σ : Type} {W : Replies world σ} {e e' : σ} :
    Program.Exec W (handleAll (r :: rs)) e hs os e' ↔
      ∃ o e₁ hs₁ hs₂ os', Program.Exec W (handle r) e hs₁ o e₁ ∧
        Program.Exec W (handleAll rs) e₁ hs₂ os' e' ∧ os = o :: os' ∧ hs = hs₁ ++ hs₂ := by
  simp only [handleAll, Program.exec_bind_iff, Program.exec_done_iff]
  constructor
  · rintro ⟨o, e₁, hs₁, hs₂, hfirst, ⟨os', e₂, hs₃, hs₄, hrest, ⟨rfl, rfl, rfl⟩, rfl⟩, rfl⟩
    exact ⟨o, e₁, hs₁, hs₃, os', hfirst, hrest, rfl, by rw [List.append_nil]⟩
  · rintro ⟨o, e₁, hs₁, hs₂, os', hfirst, hrest, rfl, rfl⟩
    exact ⟨o, e₁, hs₁, hs₂, hfirst, ⟨os', e', hs₂, [], hrest, ⟨rfl, rfl, rfl⟩, by simp⟩, rfl⟩

/-! ## Who is chosen -/

/-- A candidate may be chosen, and none that may be has a higher priority. -/
structure Tops (p : Policy) (key : String) (x : Candidate) (ps : List Pod) : Prop where
  mem : x ∈ candidatesOf key ps
  eligible : p.isEligible x = true
  top : ∀ y ∈ candidatesOf key ps, p.isEligible y = true → y.place ≤ x.place

/-- A candidate may be chosen, and has a higher priority than all others that may be. -/
structure Leads (p : Policy) (key : String) (x : Candidate) (ps : List Pod) : Prop where
  mem : x ∈ candidatesOf key ps
  eligible : p.isEligible x = true
  alone : ∀ y ∈ candidatesOf key ps, p.isEligible y = true → x.place ≤ y.place → y = x

theorem Leads.tops (h : Leads p key x ps) : Tops p key x ps := by
  refine ⟨h.mem, h.eligible, fun y hy heligible => ?_⟩
  by_cases hle : x.place ≤ y.place
  · exact Nat.le_of_eq (congrArg Candidate.place (h.alone y hy heligible hle))
  · omega

/-- Whoever is chosen tops the others. -/
theorem tops_of_choose {shown : List Pod} (hperm : shown.Perm ps) {d : Decision}
    (hd : p.choose r (candidatesOf key shown) = some d) :
    ∃ x, Tops p key x ps ∧ d = p.decide r x := by
  have hmem (y : Candidate) : y ∈ candidatesOf key shown ↔ y ∈ candidatesOf key ps :=
    mem_candidatesOf_of_perm hperm
  obtain ⟨x, hx, heligible, rfl, hfirst⟩ := Policy.choose_spec hd
  refine ⟨x, ⟨(hmem x).mp hx, heligible, fun y hy hy' => ?_⟩, rfl⟩
  exact Candidate.place_le_of_isLE (hfirst y ((hmem y).mpr hy) hy')

/-- Whoever leads is chosen, whatever resource signals. -/
theorem Leads.choose {shown : List Pod} {d : Decision} (h : Leads p key x ps)
    (hperm : shown.Perm ps) (hd : p.choose r (candidatesOf key shown) = some d) :
    d = p.decide r x := by
  obtain ⟨y, hy, rfl⟩ := tops_of_choose hperm hd
  rw [h.alone y hy.mem hy.eligible (hy.top x h.mem h.eligible)]

/-! ## What a label does -/

/-- Candidates with the same namespace and name are the same. -/
theorem eq_of_distinct (hps : DistinctPods ps) (hx : x ∈ candidatesOf key ps)
    (hy : y ∈ candidatesOf key ps) (hname : y.workload.name = x.workload.name)
    (hspace : y.workload.space = x.workload.space) : y = x := by
  rw [DistinctPods, ← map_workload_candidatesOf key, List.map_map] at hps
  exact List.inj_on_of_nodup_map hps hy hx (by simp [hname, hspace])

theorem workload_mark (w : Workload) (n : Nat) (x : Candidate) :
    (x.mark w n).workload = x.workload := by
  unfold Candidate.mark
  split_ifs <;> rfl

theorem distinct_of_relabeled {w : Workload} (hps : DistinctPods ps)
    (h : Relabeled w key (Number.text n) ps ps') (hn : n ≤ Number.max32) : DistinctPods ps' := by
  have hsame : ps'.filterMap Pod.workload? = ps.filterMap Pod.workload? := by
    rw [← map_workload_candidatesOf key, ← map_workload_candidatesOf key,
      candidates_of_relabeled h hn, List.map_map]
    congr 1
    funext x
    exact workload_mark w n x
  rwa [DistinctPods, hsame]

/-- Whoever tops the others leads them when labeled with a priority above its own. -/
theorem Tops.leads (h : Tops p key x ps) (hps : DistinctPods ps)
    (hlabel : Relabeled x.workload key (Number.text n) ps ps') (hn : n ≤ Number.max32)
    (hplace : x.place ≤ n) : Leads p key { x with priority := some n } ps' := by
  have hx : x.mark x.workload n = { x with priority := some n } := by simp [Candidate.mark]
  have hcs := candidates_of_relabeled hlabel hn
  refine ⟨?_, h.eligible, ?_⟩
  · rw [hcs, ← hx]
    exact List.mem_map_of_mem h.mem
  · intro z hz heligible hle
    rw [hcs] at hz
    obtain ⟨y, hy, rfl⟩ := List.mem_map.mp hz
    by_cases hyx : y.workload.name = x.workload.name ∧ y.workload.space = x.workload.space
    · rw [eq_of_distinct hps h.mem hy hyx.1 hyx.2, hx]
    · -- the others have stayed, so none of them has caught up
      have hy' : y.mark x.workload n = y := by simp [Candidate.mark, hyx]
      rw [hy'] at heligible hle
      have htop := h.top y hy heligible
      have hnew : ({ x with priority := some n } : Candidate).place = n + 1 := rfl
      omega

/-! ## Counting up -/

/-- The priority of a candidate, with zero for a missing one. -/
def priorityOf (x : Candidate) : Nat :=
  x.priority.getD 0

theorem evictNow_decide_iff (hlimit : p.evictAbove < Number.max32) :
    (p.decide r x).evictNow = true ↔ r ∈ p.evictFor ∨ p.evictAbove < priorityOf x + 1 := by
  have hnext : p.evictAbove < x.nextPriority ↔ p.evictAbove < priorityOf x + 1 := by
    rcases hx : x.priority with - | q
    · simp [Candidate.nextPriority, priorityOf, hx]
    · simp only [Candidate.nextPriority, priorityOf, hx, Option.getD_some, Number.next32]
      omega
  simp [Policy.decide, hnext]

theorem priority_decide (hlimit : p.evictAbove < Number.max32)
    (hq : ¬ p.evictAbove < priorityOf x + 1) : (p.decide r x).priority = priorityOf x + 1 := by
  rcases hx : x.priority with - | q
  · simp [Policy.decide, Candidate.nextPriority, priorityOf, hx]
  · simp only [Policy.decide, Candidate.nextPriority, priorityOf, hx, Option.getD_some,
      Number.next32] at hq ⊢
    omega

theorem place_le (x : Candidate) : x.place ≤ priorityOf x + 1 := by
  rcases hx : x.priority with - | q <;> simp [Candidate.place, priorityOf, hx]

/-- What becomes of signals while all of them act on one workload, which has a given priority at
first. What follows an eviction is told only if evictions leave the pods as they are. -/
inductive Escalates (p : Policy) (stays : Prop) (w : Workload) :
    Nat → List Resource → List Outcome → Prop
  | nil {q : Nat} : Escalates p stays w q [] []
  | evict {q : Nat} {r : Resource} {rs : List Resource} {os : List Outcome}
      (h : r ∈ p.evictFor ∨ p.evictAbove < q + 1) (rest : stays → Escalates p stays w q rs os) :
      Escalates p stays w q (r :: rs) (.evicted w :: os)
  | label {q : Nat} {r : Resource} {rs : List Resource} {os : List Outcome} (hr : r ∉ p.evictFor)
      (hq : q + 1 ≤ p.evictAbove) (rest : Escalates p stays w (q + 1) rs os) :
      Escalates p stays w q (r :: rs) (.labeled w (q + 1) :: os)

/-- A signal evicts the candidate that it chooses, or makes it lead with the next priority. -/
theorem Tops.step (h : Tops p c.priorityKey x ps) (hps : DistinctPods ps)
    (hlimit : p.evictAbove < Number.max32)
    (hdone : if (p.decide r x).evictNow then o = .evicted x.workload ∧ evicts x.workload ps ps'
      else o = .labeled x.workload (p.decide r x).priority ∧
        Relabeled x.workload c.priorityKey (Number.text (p.decide r x).priority) ps ps') :
    ((r ∈ p.evictFor ∨ p.evictAbove < priorityOf x + 1) ∧ o = .evicted x.workload ∧
      evicts x.workload ps ps') ∨
    (r ∉ p.evictFor ∧ priorityOf x + 1 ≤ p.evictAbove ∧
      o = .labeled x.workload (priorityOf x + 1) ∧ DistinctPods ps' ∧
      Leads p c.priorityKey { x with priority := some (priorityOf x + 1) } ps') := by
  by_cases hnow : r ∈ p.evictFor ∨ p.evictAbove < priorityOf x + 1
  · rw [if_pos ((evictNow_decide_iff hlimit).mpr hnow)] at hdone
    exact .inl ⟨hnow, hdone⟩
  · rw [if_neg (mt (evictNow_decide_iff hlimit).mp hnow),
      priority_decide hlimit (fun hq => hnow (.inr hq))] at hdone
    obtain ⟨hr, hq⟩ := not_or.mp hnow
    have hmax : priorityOf x + 1 ≤ Number.max32 := by omega
    exact .inr ⟨hr, by omega, hdone.1, distinct_of_relabeled hps hdone.2 hmax,
      h.leads hps hdone.2 hmax (place_le x)⟩

/-- Whoever leads is acted on by all signals. -/
theorem Leads.escalates (h : Leads p c.priorityKey x ps) (hps : DistinctPods ps)
    (hlimit : p.evictAbove < Number.max32)
    (exec : Program.Exec (Dispatching c p evicts) (handleAll rs) ps hs os ps') :
    Escalates p (∀ w ps ps', evicts w ps ps' → ps' = ps) x.workload (priorityOf x) rs os := by
  induction rs generalizing x ps hs os with
  | nil =>
    obtain ⟨-, rfl, -⟩ := Program.exec_done_iff.mp exec
    exact .nil
  | cons r rs ih =>
    obtain ⟨o, ps₁, hs₁, hs₂, os, hfirst, hrest, rfl, -⟩ := exec_handleAll_cons_iff.mp exec
    obtain ⟨shown, d, hs', hperm, hd, -, hdone⟩ := exec_handle hfirst ⟨x, h.mem, h.eligible⟩
    obtain rfl := h.choose hperm hd
    rcases h.tops.step hps hlimit hdone with ⟨hnow, rfl, hevicts⟩ | ⟨hr, hq, rfl, hps', hleads⟩
    · refine .evict hnow fun stays => ?_
      rw [stays _ _ _ hevicts] at hrest
      exact ih h hps hrest
    · exact .label hr hq (ih hleads hps' hrest)

namespace Escalates

variable {stays stays' : Prop} {w : Workload} {i : Nat}

theorem mono (hstays : stays' → stays) (h : Escalates p stays w q rs os) :
    Escalates p stays' w q rs os := by
  induction h with
  | nil => exact .nil
  | evict h _ ih => exact .evict h fun hs => ih (hstays hs)
  | label hr hq _ ih => exact .label hr hq ih

/-- The signals count up, and the one that would go beyond the threshold evicts, or an earlier one
whose resource always evicts. -/
theorem outcome (h : Escalates p stays w q rs os) (hr : rs[i]? = some r)
    (hsoft : ∀ s ∈ rs.take i, s ∉ p.evictFor) (hi : i < max 1 (p.evictAbove + 1 - q)) :
    if r ∈ p.evictFor ∨ i + 1 = max 1 (p.evictAbove + 1 - q) then os[i]? = some (.evicted w)
    else os[i]? = some (.labeled w (q + i + 1)) ∧ q + i + 1 ≤ p.evictAbove := by
  induction h generalizing i with
  | nil => simp at hr
  | evict h _ _ =>
    cases i with
    | zero =>
      obtain rfl := Option.some.inj hr
      rw [if_pos (h.imp_right fun h => by omega)]
      rfl
    | succ i =>
      have hq := h.resolve_left (hsoft _ (by simp))
      omega
  | @label q _ _ _ hs hq _ ih =>
    cases i with
    | zero =>
      obtain rfl := Option.some.inj hr
      rw [if_neg (not_or.mpr ⟨hs, by omega⟩)]
      exact ⟨rfl, hq⟩
    | succ i =>
      have hrest := ih hr (fun s hs => hsoft s (List.mem_cons_of_mem _ hs)) (by omega)
      have hlast : i + 1 = max 1 (p.evictAbove + 1 - (q + 1)) ↔
          i + 1 + 1 = max 1 (p.evictAbove + 1 - q) := by omega
      have hnext : q + 1 + i + 1 = q + (i + 1) + 1 := by omega
      simpa only [hlast, hnext, List.getElem?_cons_succ] using hrest

theorem acts (hstays : stays) (h : Escalates p stays w q rs os) :
    ∀ o ∈ os, o = .evicted w ∨ ∃ k ≤ p.evictAbove, o = .labeled w k := by
  induction h with
  | nil => simp
  | evict _ _ ih => exact List.forall_mem_cons.mpr ⟨.inl rfl, ih hstays⟩
  | label _ hq _ ih => exact List.forall_mem_cons.mpr ⟨.inr ⟨_, hq, rfl⟩, ih⟩

end Escalates

/-- **Escalation.** Signals are dispatched one after another on a node with an eligible pod, all
calls succeed, and only the dispatcher changes the pods. Then they act on the workload that the
first one chooses, whatever their resources: they label it with its priority plus one, plus two and
so on, never above the threshold of the policy, and the signal with the number `max 1 (threshold + 1
- priority)` evicts it, or an earlier one whose resource always evicts. What an eviction does to the
pods makes no difference; if it leaves them as they are and the workload was labeled first, all
later signals act on the same workload, too. -/
theorem escalation_ends_in_eviction (hlimit : p.evictAbove < Number.max32) (hps : DistinctPods ps)
    (heligible : ∃ y ∈ candidatesOf c.priorityKey ps, p.isEligible y = true)
    (exec : Program.Exec (Dispatching c p evicts) (handleAll (r :: rs)) ps hs os ps') :
    ∃ d hs' x, hs = .answered (.choose r) (.ok d) :: hs' ∧
      x ∈ candidatesOf c.priorityKey ps ∧ p.isEligible x = true ∧ x.workload = d.workload ∧
      (∀ i s, (r :: rs)[i]? = some s → (∀ t ∈ (r :: rs).take i, t ∉ p.evictFor) →
        i < max 1 (p.evictAbove + 1 - x.priority.getD 0) →
        if s ∈ p.evictFor ∨ i + 1 = max 1 (p.evictAbove + 1 - x.priority.getD 0) then
          os[i]? = some (.evicted d.workload)
        else os[i]? = some (.labeled d.workload (x.priority.getD 0 + i + 1)) ∧
          x.priority.getD 0 + i + 1 ≤ p.evictAbove) ∧
      ((∀ w ps ps', evicts w ps ps' → ps' = ps) → r ∉ p.evictFor →
        x.priority.getD 0 + 1 ≤ p.evictAbove →
        ∀ o ∈ os, o = .evicted d.workload ∨ ∃ k ≤ p.evictAbove, o = .labeled d.workload k) := by
  obtain ⟨o, ps₁, hs₁, hs₂, os, hfirst, hrest, rfl, rfl⟩ := exec_handleAll_cons_iff.mp exec
  obtain ⟨shown, d, hs', hperm, hd, rfl, hdone⟩ := exec_handle hfirst heligible
  obtain ⟨x, hx, rfl⟩ := tops_of_choose hperm hd
  have hescalates : Escalates p ((∀ w ps ps', evicts w ps ps' → ps' = ps) ∧ r ∉ p.evictFor ∧
      priorityOf x + 1 ≤ p.evictAbove) x.workload (priorityOf x) (r :: rs) (o :: os) := by
    rcases hx.step hps hlimit hdone with ⟨hnow, rfl, -⟩ | ⟨hr, hq, rfl, hps', hleads⟩
    · refine .evict hnow fun ⟨_, hr, hq⟩ => ?_
      rcases hnow with hnow | hnow
      · exact absurd hnow hr
      · omega
    · exact .label hr hq ((hleads.escalates hps' hlimit hrest).mono And.left)
  refine ⟨p.decide r x, _, x, rfl, hx.mem, hx.eligible, rfl, ?_, ?_⟩
  · exact fun i s hs hsoft hi => hescalates.outcome hs hsoft hi
  · exact fun hstays hr hq => hescalates.acts ⟨hstays, hr, hq⟩

/-- Two pods have the same priority. The one that requests more of the processor is labeled by the
first signal, and with a threshold of two it is evicted by the second one, although that is for the
memory, of which the other pod requests more. -/
theorem second_signal_evicts :
    ∃ (c : Client) (p : Policy) (evicts : Workload → List Pod → List Pod → Prop) (ps : List Pod)
      (hs : List (Happening world)) (os : List Outcome) (ps' : List Pod) (d : Decision),
      p.evictAbove = 2 ∧ ps.map (·.label? c.priorityKey) = [some "1", some "1"] ∧
      (p.choose .cpu (candidatesOf c.priorityKey ps)).map (·.workload.name) = some "a" ∧
      (p.choose .memory (candidatesOf c.priorityKey ps)).map (·.workload.name) = some "c" ∧
      Program.Exec (Dispatching c p evicts) (handleAll [.cpu, .memory]) ps hs os ps' ∧
      os[0]? = some (.labeled d.workload 2) ∧ os[1]? = some (.evicted d.workload) ∧
      ps'.map Pod.name = [some "c"] := by
  let c : Client := ⟨"n", ""⟩
  let p : Policy := ⟨2, [], []⟩
  let m : Manager := .fresh { ConditionSettings.default with policy := p } none
  let w : Workload := ⟨"a", "b", none⟩
  let busy (priority : String) : Pod :=
    { plainPod "a" [("/priority", priority)] with containers := [⟨some "200m", some "1Mi"⟩] }
  let large : Pod :=
    { plainPod "c" [("/priority", "1")] with containers := [⟨some "100m", some "1Gi"⟩] }
  let evicts : Workload → List Pod → List Pod → Prop := fun w ps ps' =>
    ps' = ps.filter fun x => ¬ x.Is w
  have hlist : Address.ofText? (Address.podsOn c.node none) =
      some "/api/v1/pods?&fieldSelector=spec.nodeName%3Dn" := by decide +kernel
  have hpatch : Address.ofText? (Address.pod w.space w.name ++ "?") =
      some "/api/v1/namespaces/b/pods/a?" := by decide +kernel
  have hpost : Address.ofText? (Address.pod w.space w.name ++ "/eviction?") =
      some "/api/v1/namespaces/b/pods/a/eviction?" := by decide +kernel
  have hshown (priority : String)
      (h : Pod.listOfJson? (Pod.listJson [busy priority, large]) = some [busy priority, large])
      (hfits : Pod.candidates c.priorityKey [busy priority, large] =
        .ok (candidatesOf c.priorityKey [busy priority, large])) :=
    Client.exec_candidates_of_listed hlist (Pod.content_listJson h) hfits
  have hpod : (Reply.holding (busy "2").toJson).content Pod.ofJson? = .ok (busy "2") :=
    Pod.content_toJson (by decide +kernel)
  have hverdict : (Reply.holding (.obj [])).content readVerdict = .ok () :=
    Reply.content_holding (.obj (by simp)) (by decide +kernel)
  have hwrote : Relabeled w c.priorityKey (Number.text 2) [busy "1", large] [busy "2", large] := by
    refine .cons ?_ (.cons ?_ .nil)
    · rw [if_pos ⟨rfl, rfl⟩]
      exact ⟨by decide +kernel, rfl⟩
    · rw [if_neg (by decide +kernel)]
  obtain ⟨_, hevict⟩ := Client.exec_evict_of_posted (c := c) (w := w) hpost hverdict
    (show evicts w [busy "2", large] [large] by decide +kernel)
  have first : ∃ hs, Program.Exec (Dispatching c p evicts) (handle .cpu) [busy "1", large] hs
      (.labeled w 2) [busy "2", large] :=
    exec_handle_of (m := m) rfl (hshown "1" (by decide +kernel) (by decide +kernel))
      (show p.choose .cpu _ = some ⟨w, false, 2⟩ by decide +kernel)
      (Client.exec_label_of_patched hpatch hpod hwrote)
  have second : ∃ hs, Program.Exec (Dispatching c p evicts) (handle .memory) [busy "2", large] hs
      (.evicted w) [large] :=
    exec_handle_of (m := m) rfl (hshown "2" (by decide +kernel) (by decide +kernel))
      (show p.choose .memory _ = some ⟨w, true, 3⟩ by decide +kernel) hevict
  obtain ⟨hs₁, first⟩ := first
  obtain ⟨hs₂, second⟩ := second
  have nothing : Program.Exec (Dispatching c p evicts) (handleAll []) [large] [] [] [large] := .done
  have exec := exec_handleAll_cons_iff.mpr ⟨_, _, _, _, _, first,
    exec_handleAll_cons_iff.mpr ⟨_, _, _, _, _, second, nothing, rfl, rfl⟩, rfl, rfl⟩
  have hdistinct : DistinctPods [busy "1", large] := by
    rw [DistinctPods]
    decide +kernel
  have hpriority : ∀ x ∈ candidatesOf c.priorityKey [busy "1", large], x.priority = some 1 := by
    decide +kernel
  obtain ⟨d, hs', x, -, hx, -, -, houtcome, -⟩ := escalation_ends_in_eviction (by decide)
    hdistinct (by decide +kernel) exec
  rw [hpriority x hx] at houtcome
  exact ⟨c, p, evicts, _, _, _, _, d, rfl, by decide +kernel, by decide +kernel, by decide +kernel,
    exec, (houtcome 0 .cpu rfl (by simp) (by decide)).1,
    houtcome 1 .memory rfl (by decide) (by decide), rfl⟩

end NodePressure.Dispatch
