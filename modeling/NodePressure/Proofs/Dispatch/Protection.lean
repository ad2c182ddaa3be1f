import NodePressure.Proofs.Dispatch.Escalation

/-!
# NodePressure.Proofs.Dispatch.Protection - who is never acted on

`Pod.Unprotected` says in the terms of the API which pods a policy leaves to the dispatcher: these
are the pods whose candidates are eligible (`Pod.unprotected_iff`). `Served` is the world of a
dispatcher whose server shows any pods, or none, for each signal, under any policy, and answers its
calls as it likes; it keeps in a `Round` for each signal what was shown and which calls were made.
Every call is about a pod that was shown in its round and is not protected
(`protected_pods_are_spared`).
-/

namespace NodePressure

/-- A policy leaves a pod to the dispatcher. -/
structure Pod.Unprotected (p : Policy) (x : Pod) : Prop where
  /-- The pod has a name. -/
  name : ∃ name, x.name = some name
  /-- It is in a namespace, and in none that is protected. -/
  space : ∃ space, x.space = some space ∧ space ∉ p.protectedSpaces
  /-- No daemon set owns it. -/
  daemon : "DaemonSet" ∉ x.owners
  /-- It is no static pod. -/
  mirror : "kubernetes.io/config.mirror" ∉ x.annotations
  /-- Its priority class, if it has one, is none of the system. -/
  critical : ∀ c, x.priorityClass = some c → ¬ "system-".toList <+: c.toList
  /-- It has not ended. -/
  phase : x.phase ≠ some "Succeeded" ∧ x.phase ≠ some "Failed"

variable {p : Policy} {x : Pod}

namespace Pod

/-! ## What is read of a pod -/

theorem terminated_eq_false_iff :
    (x.phase.map fun s => s == "Succeeded" || s == "Failed").getD false = false ↔
      x.phase ≠ some "Succeeded" ∧ x.phase ≠ some "Failed" := by
  cases x.phase <;> simp

theorem critical_eq_false_iff :
    (x.priorityClass.map fun c => Text.startsWith "system-".toList c.toList).getD false = false ↔
      ∀ c, x.priorityClass = some c → ¬ "system-".toList <+: c.toList := by
  cases x.priorityClass with
  | none => simp
  | some c =>
    rw [Option.map_some, Option.getD_some, ← Bool.not_eq_true, Text.startsWith_iff]
    simp

/-- The pods that a policy leaves to the dispatcher are those whose candidates are eligible. -/
theorem unprotected_iff (key : String) :
    x.Unprotected p ↔ ∃ y, x.weighed? key = some y ∧ p.isEligible y = true := by
  constructor
  · rintro ⟨⟨name, hname⟩, ⟨space, hspace, hopen⟩, hdaemon, hmirror, hcritical, hphase⟩
    have hw : x.workload? = some ⟨name, space, x.uid⟩ := by simp [workload?, hname, hspace]
    refine ⟨_, by rw [weighed?, hw]; rfl, Policy.isEligible_iff.mpr ⟨?_, ?_, ?_, ?_, hopen⟩⟩
    · exact terminated_eq_false_iff.mpr hphase
    · simpa [asCandidate] using hdaemon
    · simpa [asCandidate, mirrorAnnotation] using hmirror
    · exact critical_eq_false_iff.mpr hcritical
  · rintro ⟨y, hy, heligible⟩
    obtain ⟨hterminated, hdaemon, hmirror, hcritical, hopen⟩ := Policy.isEligible_iff.mp heligible
    obtain ⟨w, hw, rfl⟩ := Option.map_eq_some_iff.mp hy
    have his : x.Is w := (is_iff_of_workload? hw).mpr ⟨rfl, rfl⟩
    refine ⟨⟨_, his.1⟩, ⟨_, his.2, hopen⟩, ?_, ?_, critical_eq_false_iff.mp hcritical,
      terminated_eq_false_iff.mp hterminated⟩
    · simpa [asCandidate] using hdaemon
    · simpa [asCandidate, mirrorAnnotation] using hmirror

end Pod

namespace Dispatch

/-! ## One round for each signal -/

/-- What is kept of the dispatch of a signal: the pods that were shown, the policy that chose among
them, and the calls that were made. -/
structure Round where
  shown : List Pod
  policy : Policy
  calls : List Ask

/-- A server shows pods, or none if the request for them fails. -/
def Shows : Replies web (List Pod) := fun _ _ reply shown =>
  shown = (reply.content Pod.listOfJson?).toOption.getD []

/-- Notes a call in the last round. -/
def enterCall (q : Ask) : List Round → List Round
  | [] => [⟨[], .default, [q]⟩]
  | r :: rs => { r with calls := r.calls ++ [q] } :: rs

/-- The world of a dispatcher: workloads are chosen among the pods that the server shows, by a
manager with any settings, and calls are answered in any way. A list that crashes gets no answer.
The last round comes first. -/
inductive Served (c : Client) : List Round → (q : Ask) → q.Answer → List Round → Prop
  | choose (m : Manager) {r : Resource} {listed : Except ClusterFault (List Candidate)}
      {shown : List Pod} {hs : List (Happening web)} {rounds : List Round}
      (h : Program.Exec Shows c.candidates [] hs (listed.map .ok) shown) :
      Served c rounds (.choose r) (m.choose r listed) (⟨shown, m.settings.policy, []⟩ :: rounds)
  | call {q : Ask} {answer : q.Answer} {rounds : List Round} (h : q.isClusterCall = true) :
      Served c rounds q answer (enterCall q rounds)

/-- The calls of a round are about pods that were shown and are not protected; there is one call if
there is such a pod, and else there is none. -/
structure Round.Safe (round : Round) : Prop where
  calls : ∀ q ∈ round.calls, ∃ x ∈ round.shown, x.Unprotected round.policy ∧
    ∃ w, x.Is w ∧ (q = .evict w ∨ ∃ n, q = .label w n .add)
  spared : round.calls = [] ↔ ∀ x ∈ round.shown, ¬ x.Unprotected round.policy
  single : round.calls.length ≤ 1

variable {c : Client} {shown : List Pod} {rounds rounds' : List Round} {r : Resource}
  {rs : List Resource} {o : Outcome} {os : List Outcome} {hs : List (Happening world)}

/-- The candidates are those of the pods that were shown. -/
theorem exec_candidates_shown {hs : List (Happening web)}
    {listed : Except ClusterFault (List Candidate)}
    (h : Program.Exec Shows c.candidates [] hs (listed.map .ok) shown) :
    ((∃ f, listed = .error f) ∧ shown = []) ∨ listed = .ok (candidatesOf c.priorityKey shown) := by
  rcases listed with f | cs
  · obtain ⟨listing, hpods, hlisting⟩ := Client.exec_candidates_iff.mp h
    obtain rfl : listing = .error f := by
      cases listing with
      | error f' => exact congrArg Except.error (Except.error.inj hlisting).symm
      | ok ps => cases hlisting
    refine .inl ⟨⟨f, rfl⟩, ?_⟩
    rcases Call.exec_send_iff.mp hpods with ⟨-, -, -, rfl⟩ | ⟨a, reply, -, hshows, -, hr⟩
    · rfl
    · rw [Shows, ← hr] at hshows
      exact hshows
  · obtain ⟨ps, hpods, rfl⟩ := Client.exec_candidates_ok h
    rcases Call.exec_send_iff.mp hpods with ⟨-, -, hr, -⟩ | ⟨a, reply, -, hshows, -, hr⟩
    · cases hr
    · rw [Shows, ← hr] at hshows
      exact .inr (by rw [hshows]; rfl)

/-- A round without a call is safe if there was nobody to act on. -/
theorem Round.safe_of_none {policy : Policy} (h : ∀ x ∈ shown, ¬ x.Unprotected policy) :
    (⟨shown, policy, []⟩ : Round).Safe :=
  ⟨by simp, by simpa using h, by simp⟩

/-- A round with a call for an eligible candidate is safe. -/
theorem Round.safe_of_one {policy : Policy} {y : Candidate} {q : Ask}
    (hy : y ∈ candidatesOf c.priorityKey shown) (heligible : policy.isEligible y = true)
    (hq : q = .evict y.workload ∨ ∃ n, q = .label y.workload n .add) :
    (⟨shown, policy, [q]⟩ : Round).Safe := by
  obtain ⟨x, hx, hxy⟩ := List.mem_filterMap.mp hy
  have hopen : x.Unprotected policy := (Pod.unprotected_iff c.priorityKey).mpr ⟨y, hxy, heligible⟩
  have his : x.Is y.workload :=
    (Pod.is_iff_of_workload? (Pod.workload?_of_weighed? hxy)).mpr ⟨rfl, rfl⟩
  refine ⟨fun q' hq' => ?_, ?_, by simp⟩
  · obtain rfl := List.mem_singleton.mp hq'
    exact ⟨x, hx, hopen, y.workload, his, hq⟩
  · have hnot : ¬ ∀ x ∈ shown, ¬ x.Unprotected policy := fun h => h x hx hopen
    simp [hnot]

/-- What was decided is called for, once. -/
theorem exec_act_served {d : Decision} {round : Round}
    (h : Program.Exec (Served c) (act r d) (round :: rounds) hs o rounds') :
    ∃ q, (q = .evict d.workload ∨ ∃ n, q = .label d.workload n .add) ∧
      rounds' = { round with calls := round.calls ++ [q] } :: rounds := by
  unfold act at h
  split_ifs at h
  · obtain ⟨answer, rounds₁, hs₁, hW, -, hnext⟩ := Program.exec_ask_iff.mp h
    cases hW with
    | call => exact ⟨_, .inl rfl, (exec_conclude_iff.mp hnext).2.2⟩
  · obtain ⟨answer, rounds₁, hs₁, hW, -, hnext⟩ := Program.exec_ask_iff.mp h
    cases hW with
    | call => exact ⟨_, .inr ⟨_, rfl⟩, (exec_conclude_iff.mp hnext).2.2⟩

/-- The dispatch of a signal is one round, and a safe one. -/
theorem exec_handle_served (h : Program.Exec (Served c) (handle r) rounds hs o rounds') :
    ∃ round : Round, rounds' = round :: rounds ∧ round.Safe := by
  obtain ⟨answer, rounds₁, hs₁, hW, -, hnext⟩ := Program.exec_ask_iff.mp h
  cases hW with
  | call hcall => cases hcall
  | @choose m _ listed shown _ _ hexec =>
    cases hchoice : m.choose r listed with
    | error f =>
      rw [hchoice] at hnext
      obtain ⟨hs₂, -, hnext⟩ := Program.exec_note_iff.mp hnext
      obtain ⟨hs₃, -, hnext⟩ := Program.exec_note_iff.mp hnext
      obtain ⟨-, -, rfl⟩ := Program.exec_done_iff.mp hnext
      refine ⟨_, rfl, Round.safe_of_none fun x hx hopen => ?_⟩
      -- whoever may be acted on would have been chosen
      rcases exec_candidates_shown hexec with ⟨-, rfl⟩ | rfl
      · cases hx
      · obtain ⟨y, hy, heligible⟩ := (Pod.unprotected_iff c.priorityKey).mp hopen
        have hmem : y ∈ candidatesOf c.priorityKey shown := List.mem_filterMap.mpr ⟨x, hx, hy⟩
        cases hd : m.settings.policy.choose r (candidatesOf c.priorityKey shown) with
        | some d => simp [Manager.choose, hd] at hchoice
        | none => simp [Policy.choose_eq_none_iff.mp hd y hmem] at heligible
    | ok d =>
      rw [hchoice] at hnext
      obtain ⟨q, hq, rfl⟩ := exec_act_served hnext
      refine ⟨_, rfl, ?_⟩
      rcases exec_candidates_shown hexec with ⟨⟨f, rfl⟩, -⟩ | rfl
      · simp [Manager.choose] at hchoice
      · cases hd : m.settings.policy.choose r (candidatesOf c.priorityKey shown) with
        | none => simp [Manager.choose, hd] at hchoice
        | some d' =>
          obtain rfl : d' = d := by simpa [Manager.choose, hd] using hchoice
          obtain ⟨y, hy, heligible, rfl, -⟩ := Policy.choose_spec hd
          exact Round.safe_of_one hy heligible hq

/-- Signals are dispatched one after the other, each in a round of its own. -/
theorem exec_handleAll_served (exec : Program.Exec (Served c) (handleAll rs) rounds hs os rounds')
    (hrounds : ∀ round ∈ rounds, round.Safe) :
    rounds'.length = rs.length + rounds.length ∧ ∀ round ∈ rounds', round.Safe := by
  induction rs generalizing rounds hs os with
  | nil =>
    obtain ⟨-, -, rfl⟩ := Program.exec_done_iff.mp exec
    exact ⟨by simp, hrounds⟩
  | cons r rs ih =>
    obtain ⟨o, rounds₁, hs₁, hs₂, os', hfirst, hrest, -, -⟩ := exec_handleAll_cons_iff.mp exec
    obtain ⟨round, rfl, hsafe⟩ := exec_handle_served hfirst
    obtain ⟨hlength, hall⟩ := ih hrest (List.forall_mem_cons.mpr ⟨hsafe, hrounds⟩)
    refine ⟨?_, hall⟩
    rw [hlength, List.length_cons, List.length_cons]
    omega

/-- A call that is noted in some round. -/
def Called (q : Ask) (rounds : List Round) : Prop :=
  ∃ round ∈ rounds, q ∈ round.calls

theorem called_enterCall_iff {q q' : Ask} :
    Called q (enterCall q' rounds) ↔ q = q' ∨ Called q rounds := by
  cases rounds with
  | nil => simp [Called, enterCall]
  | cons round rounds => simp [Called, enterCall, or_assoc, or_left_comm]

/-- No call goes unnoticed. -/
theorem called_of_exec {α : Type} {t : Task α} {a : α}
    (exec : Program.Exec (Served c) t rounds hs a rounds') {q : Ask} :
    (Called q rounds → Called q rounds') ∧
    ∀ b, .answered q b ∈ hs → q.isClusterCall = true → Called q rounds' := by
  induction exec with
  | done => exact ⟨id, by simp⟩
  | note _ ih => exact ⟨ih.1, fun b hb => ih.2 b (by simpa using hb)⟩
  | ask hW _ ih =>
    cases hW with
    | choose m h =>
      refine ⟨fun ⟨round, hround, hq⟩ => ih.1 ⟨round, List.mem_cons_of_mem _ hround, hq⟩,
        fun b hb hcall => ?_⟩
      rcases List.mem_cons.mp hb with heq | hb
      · cases heq
        cases hcall
      · exact ih.2 b hb hcall
    | call h =>
      refine ⟨fun hq => ih.1 (called_enterCall_iff.mpr (.inr hq)), fun b hb hcall => ?_⟩
      rcases List.mem_cons.mp hb with heq | hb
      · cases heq
        exact ih.1 (called_enterCall_iff.mpr (.inl rfl))
      · exact ih.2 b hb hcall

/-- **Protected pods are spared.** Whatever pods the server shows for each signal, whatever policy
chooses among them and whatever becomes of the calls: each signal has its round, in which every call
of the dispatcher is noted. It is about a pod that was shown in this round and is not protected;
without such a pod there is none. -/
theorem protected_pods_are_spared
    (exec : Program.Exec (Served c) (handleAll rs) [] hs os rounds) :
    rounds.length = rs.length ∧ (∀ round ∈ rounds, round.Safe) ∧
    ∀ q b, .answered q b ∈ hs → q.isClusterCall = true → ∃ round ∈ rounds, q ∈ round.calls := by
  obtain ⟨hlength, hsafe⟩ := exec_handleAll_served exec (by simp)
  exact ⟨hlength, hsafe, fun q b => (called_of_exec exec).2 b⟩

/-- A server shows pods that it lists. -/
theorem exec_candidates_of_shown {a : String} {reply : Reply}
    (ha : Address.ofText? (Address.podsOn c.node none) = some a)
    (hreply : reply.content Pod.listOfJson? = .ok shown)
    (hfits : Pod.candidates c.priorityKey shown = .ok (candidatesOf c.priorityKey shown)) :
    Program.Exec Shows c.candidates [] [.answered ⟨.get, a, none, none⟩ reply]
      (.ok (.ok (candidatesOf c.priorityKey shown))) shown := by
  have hshows : Shows [] ⟨.get, a, none, none⟩ reply shown := by
    rw [Shows, hreply]
    rfl
  exact Client.exec_candidates_iff.mpr ⟨.ok shown,
    Call.exec_send_iff.mpr (.inr ⟨a, reply, ha, hshows, rfl, hreply.symm⟩), by rw [← hfits]; rfl⟩

/-- Of four pods the first one belongs to a daemon set and has a high priority, the second one is
static, and the third one is critical. So the fourth one is labeled under a policy that protects no
namespace, and nothing happens under one that protects its own. -/
theorem labeled_then_spared :
    ∃ (c : Client) (hs : List (Happening world)) (os : List Outcome) (first second : Round),
      Program.Exec (Served c) (handleAll [.cpu, .cpu]) [] hs os [second, first] ∧
      first.shown.map Pod.name = [some "d", some "m", some "s", some "a"] ∧
      first.calls = [.label ⟨"a", "b", none⟩ 1 .add] ∧ first.Safe ∧
      second.shown = first.shown ∧ second.calls = [] ∧
      ∀ x ∈ second.shown, ¬ x.Unprotected second.policy := by
  let c : Client := ⟨"n", ""⟩
  let w : Workload := ⟨"a", "b", none⟩
  let manager (p : Policy) : Manager := .fresh { ConditionSettings.default with policy := p } none
  let free : Policy := ⟨1, [], []⟩
  let strict : Policy := ⟨1, [], ["b"]⟩
  let ps : List Pod := [{ plainPod "d" [("/priority", "9")] with owners := ["DaemonSet"] },
    { plainPod "m" [] with annotations := ["kubernetes.io/config.mirror"] },
    { plainPod "s" [] with priorityClass := some "system-node-critical" }, plainPod "a" []]
  have hlist : Address.ofText? (Address.podsOn c.node none) =
      some "/api/v1/pods?&fieldSelector=spec.nodeName%3Dn" := by decide +kernel
  have hread : Pod.listOfJson? (Pod.listJson ps) = some ps := by decide +kernel
  have hfits : Pod.candidates c.priorityKey ps = .ok (candidatesOf c.priorityKey ps) := by
    decide +kernel
  have hshown := exec_candidates_of_shown hlist (Pod.content_listJson hread) hfits
  have hlabel : (manager free).choose .cpu (.ok (candidatesOf c.priorityKey ps)) =
      .ok ⟨w, false, 1⟩ := by
    have hd : free.choose .cpu (candidatesOf c.priorityKey ps) = some ⟨w, false, 1⟩ := by
      decide +kernel
    simp only [Manager.choose, manager, Manager.fresh, hd]
  have hspare : (manager strict).choose .cpu (.ok (candidatesOf c.priorityKey ps)) =
      .error (.noCandidate .cpu) := by
    have hd : strict.choose .cpu (candidatesOf c.priorityKey ps) = none := by
      decide +kernel
    simp only [Manager.choose, manager, Manager.fresh, hd]
  have hfirst : Served c [] (.choose .cpu) (.ok ⟨w, false, 1⟩) [⟨ps, free, []⟩] :=
    hlabel ▸ .choose (manager free) hshown
  have hcall : Served c [⟨ps, free, []⟩] (.label w 1 .add) (.ok ())
      [⟨ps, free, [.label w 1 .add]⟩] := .call rfl
  have hsecond (rounds : List Round) : Served c rounds (.choose .cpu) (.error (.noCandidate .cpu))
      (⟨ps, strict, []⟩ :: rounds) := hspare ▸ .choose (manager strict) hshown
  have nothing (rounds : List Round) : Program.Exec (Served c) (handleAll []) rounds [] [] rounds :=
    .done
  have exec := exec_handleAll_cons_iff.mpr ⟨_, _, _, _, _,
    .ask hfirst (.ask hcall (.note (.note (.note .done)))),
    exec_handleAll_cons_iff.mpr ⟨_, _, _, _, _, .ask (hsecond _) (.note (.note .done)), nothing _,
      rfl, rfl⟩, rfl, rfl⟩
  obtain ⟨-, hsafe, -⟩ := protected_pods_are_spared exec
  exact ⟨c, _, _, _, _, exec, rfl, rfl, hsafe _ (by simp), rfl, rfl,
    (hsafe _ (by simp)).spared.mp rfl⟩

end Dispatch

end NodePressure
