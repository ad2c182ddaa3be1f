import NodePressure.Proofs.Workload.Choice

/-!
# NodePressure.Proofs.Workload.Ties - the choice from a list in any order

Candidates tie exactly when they have all keys in common (`rank_eq_eq_iff`), and the choices from
one list in different orders tie (`rank_total_preorder`). So the decisions about it agree but for
the workload, and the workloads have one path (`Policy.choose_perm`).
-/

namespace NodePressure

open Std (OrientedCmp TransCmp)

namespace Candidate

/-- **The order of candidates is a total preorder, whatever resource signals.** Exchanging two
candidates reverses their comparison. If a first one does not come behind a second one, nor that
one behind a third, then the first one does not come behind the third. Candidates tie exactly when
they have the same label, the same class, the same request or start and the same path. So the
choice from a list leads, up to ties, to the same candidate for every order of the list, and in
whatever order its candidates are compared. -/
theorem rank_total_preorder (r : Resource) :
    (∀ a b, rank r a b = (rank r b a).swap) ∧
    (∀ a b c, rank r a b ≠ .gt → rank r b c ≠ .gt → rank r a c ≠ .gt) ∧
    (∀ a b, rank r a b = .eq ↔
      a.priority = b.priority ∧ a.qos = b.qos ∧ AsHeavy r a b ∧
        a.workload.path = b.workload.path) ∧
    ∀ cs cs' : List Candidate, cs'.Perm cs →
      Option.Rel (fun m m' => rank r m m' = .eq) (leastBy (rank r) cs) (leastBy (rank r) cs') ∧
      ∀ m', Contest (rank r) cs' m' →
        ∃ m, leastBy (rank r) cs = some m ∧ rank r m m' = .eq := by
  refine ⟨fun a b => OrientedCmp.eq_swap, fun a b c hab hbc => ?_, fun a b => rank_eq_eq_iff,
    fun cs cs' hperm => ⟨leastBy_perm hperm, fun m' hcontest => hcontest.tie_leastBy hperm⟩⟩
  have hfirst : (rank r a b).isLE = true := Ordering.ne_gt_iff_isLE.mp hab
  have hsecond : (rank r b c).isLE = true := Ordering.ne_gt_iff_isLE.mp hbc
  exact Ordering.ne_gt_iff_isLE.mpr (TransCmp.isLE_trans hfirst hsecond)

/-- A pod that asks for some of the processor. -/
def busyPod (name uid : String) (cpuMillis : Nat) : Candidate :=
  ⟨⟨name, "web", some uid⟩, .burstable, cpuMillis, 0, none, none, false, false, false, false⟩

/-- Two pods of one path that ask for the same, and a modest one between them. -/
def twins : List Candidate :=
  [busyPod "twin" "1" 500, busyPod "meek" "2" 100, busyPod "twin" "3" 500]

/-- Which twin is chosen depends on the order of the list, but they tie, also if the two pods at the
end of the reversed list are compared first. -/
theorem twins_tie :
    leastBy (rank .cpu) twins = some (busyPod "twin" "1" 500) ∧
    leastBy (rank .cpu) twins.reverse = some (busyPod "twin" "3" 500) ∧
    Contest (rank .cpu) twins.reverse (busyPod "twin" "3" 500) ∧
    rank .cpu (busyPod "twin" "1" 500) (busyPod "twin" "3" 500) = .eq ∧
    rank .cpu (busyPod "twin" "3" 500) (busyPod "meek" "2" 100) ≠ .gt ∧
    rank .cpu (busyPod "twin" "1" 500) (busyPod "meek" "2" 100) ≠ .gt := by
  obtain ⟨-, htrans, -, hany⟩ := rank_total_preorder .cpu
  have hleast : leastBy (rank .cpu) twins = some (busyPod "twin" "1" 500) := by decide +kernel
  have hlast : leastBy (rank .cpu) twins.reverse = some (busyPod "twin" "3" 500) := by
    decide +kernel
  have hmeek : rank .cpu (busyPod "twin" "3" 500) (busyPod "meek" "2" 100) ≠ .gt := by
    decide +kernel
  have hrest : Contest (rank .cpu) [busyPod "meek" "2" 100, busyPod "twin" "1" 500]
      (busyPod "twin" "1" 500) := .second (.alone _) (.alone _) (by decide +kernel)
  have hcontest : Contest (rank .cpu) twins.reverse (busyPod "twin" "3" 500) :=
    .first (.alone _) hrest (by decide +kernel)
  obtain ⟨m, hm, htie⟩ := (hany twins _ twins.reverse_perm).2 _ hcontest
  obtain rfl : busyPod "twin" "1" 500 = m := Option.some_inj.mp (hleast.symm.trans hm)
  exact ⟨hleast, hlast, hcontest, htie, hmeek, htrans _ _ _ (by simp [htie]) hmeek⟩

end Candidate

/-- The decisions about lists of the same candidates agree but for the workload, and these have one
path. -/
theorem Policy.choose_perm {p : Policy} {r : Resource} {cs cs' : List Candidate}
    (hperm : cs'.Perm cs) :
    Option.Rel (fun d d' : Decision => d.workload.path = d'.workload.path ∧
      d.evictNow = d'.evictNow ∧ d.priority = d'.priority) (p.choose r cs) (p.choose r cs') := by
  have hties := Candidate.leastBy_perm (f := Candidate.rank r) (hperm.filter p.isEligible)
  unfold choose
  generalize Candidate.leastBy (Candidate.rank r) (cs.filter p.isEligible) = least at hties ⊢
  generalize Candidate.leastBy (Candidate.rank r) (cs'.filter p.isEligible) = least' at hties ⊢
  cases hties with
  | none => exact .none
  | some htie =>
    obtain ⟨hlabel, hpath⟩ := Candidate.tie_of_rank_eq_eq htie
    have hnext := Candidate.nextPriority_congr hlabel
    exact .some ⟨hpath, by simp only [Policy.decide, hnext], hnext⟩

end NodePressure
