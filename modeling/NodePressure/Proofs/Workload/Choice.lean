import Mathlib.Data.List.Nodup
import NodePressure.Proofs.Text.Utf8
import NodePressure.Proofs.Workload.Rank

/-!
# NodePressure.Proofs.Workload.Choice - the candidate that is chosen

`Candidate.Precedes` says in words of the candidates which one is evicted first, and `rank` decides
it (`rank_eq_lt_iff`). Candidates that differ in their paths never tie, so among eligible ones with
distinct paths one precedes all others (`Policy.exists_best`), and a decision about it survives
whatever is done to the list as long as it stays the first one (`choose_eq_of_best`).
-/

namespace NodePressure

open Std (LawfulEqCmp OrientedCmp)

/-! ## Values that may be missing -/

section

variable {α : Type} {f : α → α → Ordering}

/-- The first value is there, and lies above the second one, if that one is there, too. -/
def Above (lt : α → α → Prop) (a b : Option α) : Prop :=
  ∃ x, a = some x ∧ ∀ y, b = some y → lt y x

theorem compareOption_eq_lt_iff {a b : Option α} :
    compareOption f b a = .lt ↔ Above (fun y x => f y x = .lt) a b := by
  rcases a with - | x <;> rcases b with - | y <;> simp [compareOption, Above]

theorem compareOption_eq_eq_iff [LawfulEqCmp f] {a b : Option α} :
    compareOption f a b = .eq ↔ a = b := by
  rcases a with - | x <;> rcases b with - | y <;>
    simp [compareOption, LawfulEqCmp.compare_eq_iff_eq]

end

/-! ## Instants -/

namespace Utc

/-- The first instant is the earlier one. -/
def Before (a b : Utc) : Prop :=
  a.date.year < b.date.year ∨ a.date.year = b.date.year ∧
    (a.date.month < b.date.month ∨ a.date.month = b.date.month ∧
      (a.date.day < b.date.day ∨ a.date.day = b.date.day ∧
        (a.second < b.second ∨ a.second = b.second ∧ a.nanos < b.nanos)))

theorem order_eq_lt_iff {a b : Utc} : a.order b = .lt ↔ a.Before b := by
  simp only [order, Before, Ordering.then_eq_lt, compare_lt_iff_lt, compare_eq_iff_eq]

theorem order_eq_eq_iff {a b : Utc} : a.order b = .eq ↔ a = b := by
  obtain ⟨⟨ya, ma, da⟩, sa, na, -, -, -⟩ := a
  obtain ⟨⟨yb, mb, db⟩, sb, nb, -, -, -⟩ := b
  simp [order, Ordering.then_eq_eq, and_assoc]

instance : LawfulEqCmp order where
  eq_of_compare := order_eq_eq_iff.mp
  compare_self := order_eq_eq_iff.mpr rfl

end Utc

theorem Qos.place_inj {a b : Qos} : a.place = b.place ↔ a = b := by
  cases a <;> cases b <;> decide

/-! ## Who comes first -/

namespace Candidate

variable {r : Resource} {a b c x : Candidate}

/-- The larger request for the CPU or the memory, for the other resources the later start; a
candidate with no known start comes last. -/
def Heavier (r : Resource) (a b : Candidate) : Prop :=
  match r with
  | .cpu => b.cpuMillis < a.cpuMillis
  | .memory => b.memoryBytes < a.memoryBytes
  | .diskIo | .networkRx | .networkTx => Above Utc.Before a.started b.started

/-- The same request, or the same start. -/
def AsHeavy (r : Resource) (a b : Candidate) : Prop :=
  match r with
  | .cpu => a.cpuMillis = b.cpuMillis
  | .memory => a.memoryBytes = b.memoryBytes
  | .diskIo | .networkRx | .networkTx => a.started = b.started

/-- The first candidate is evicted before the second one: for its label, then for its class, then
for what the resource asks for, and last for the bytes of its path. -/
inductive Precedes (r : Resource) (a b : Candidate) : Prop
  | label (h : Above (· < ·) a.priority b.priority)
  | qos (hlabel : a.priority = b.priority) (h : a.qos.place < b.qos.place)
  | heavier (hlabel : a.priority = b.priority) (hqos : a.qos = b.qos) (h : Heavier r a b)
  | path (hlabel : a.priority = b.priority) (hqos : a.qos = b.qos) (hheavy : AsHeavy r a b)
      (h : Text.encode a.workload.path.toList < Text.encode b.workload.path.toList)

theorem rankFor_eq_lt_iff : rankFor r a b = .lt ↔ Heavier r a b := by
  cases r <;>
    simp only [rankFor, Heavier, compare_lt_iff_lt, compareOption_eq_lt_iff, Utc.order_eq_lt_iff]

theorem rankFor_eq_eq_iff : rankFor r a b = .eq ↔ AsHeavy r a b := by
  cases r <;> simp only [rankFor, AsHeavy, compare_eq_iff_eq, compareOption_eq_eq_iff] <;>
    exact eq_comm

/-- The order of candidates is that of their keys, one after the other. -/
theorem rank_eq_lt_iff : rank r a b = .lt ↔ Precedes r a b := by
  simp only [rank, Ordering.then_eq_lt, compareOption_eq_lt_iff, compareOption_eq_eq_iff,
    rankFor_eq_lt_iff, rankFor_eq_eq_iff, compare_lt_iff_lt, compare_eq_iff_eq, Qos.place_inj]
  constructor
  · rintro (h | ⟨hlabel, h | ⟨hqos, h | ⟨hheavy, h⟩⟩⟩)
    · exact .label h
    · exact .qos hlabel.symm h
    · exact .heavier hlabel.symm hqos h
    · exact .path hlabel.symm hqos hheavy (Text.lt_iff_encode_lt.mp h)
  · rintro (h | ⟨hlabel, h⟩ | ⟨hlabel, hqos, h⟩ | ⟨hlabel, hqos, hheavy, h⟩)
    · exact .inl h
    · exact .inr ⟨hlabel.symm, .inl h⟩
    · exact .inr ⟨hlabel.symm, .inr ⟨hqos, .inl h⟩⟩
    · exact .inr ⟨hlabel.symm, .inr ⟨hqos, .inr ⟨hheavy, Text.lt_iff_encode_lt.mpr h⟩⟩⟩

/-- Candidates tie exactly when they have all keys in common. -/
theorem rank_eq_eq_iff : rank r a b = .eq ↔
    a.priority = b.priority ∧ a.qos = b.qos ∧ AsHeavy r a b ∧
      a.workload.path = b.workload.path := by
  simp only [rank, Ordering.then_eq_eq, compareOption_eq_eq_iff, rankFor_eq_eq_iff,
    compare_eq_iff_eq, Qos.place_inj]
  exact and_congr_left' eq_comm

/-- Candidates that tie have the same label and the same path. -/
theorem tie_of_rank_eq_eq (h : rank r a b = .eq) :
    a.priority = b.priority ∧ a.workload.path = b.workload.path := by
  obtain ⟨hlabel, -, -, hpath⟩ := rank_eq_eq_iff.mp h
  exact ⟨hlabel, hpath⟩

theorem nextPriority_congr (h : a.priority = b.priority) : a.nextPriority = b.nextPriority := by
  rw [nextPriority, nextPriority, h]

theorem Precedes.isLE_eq_false (h : Precedes r a b) : (rank r b a).isLE = false := by
  rw [OrientedCmp.gt_of_lt (rank_eq_lt_iff.mpr h)]
  rfl

end Candidate

/-! ## The choice -/

namespace Policy

open Candidate

variable {p : Policy} {r : Resource} {cs cs' : List Candidate} {c x : Candidate}

/-- No two of the eligible candidates have the same path. -/
def Distinct (p : Policy) (cs : List Candidate) : Prop :=
  ((cs.filter p.isEligible).map (·.workload.path)).Nodup

instance (p : Policy) (cs : List Candidate) : Decidable (p.Distinct cs) :=
  inferInstanceAs (Decidable (List.Nodup _))

/-- An eligible candidate that precedes every other one. -/
structure Best (p : Policy) (r : Resource) (cs : List Candidate) (c : Candidate) : Prop where
  mem : c ∈ cs
  eligible : p.isEligible c = true
  precedes : ∀ x ∈ cs, p.isEligible x = true → x ≠ c → Precedes r c x

theorem Distinct.eq_of_path (h : p.Distinct cs) (hc : c ∈ cs) (hce : p.isEligible c = true)
    (hx : x ∈ cs) (hxe : p.isEligible x = true) (hpath : x.workload.path = c.workload.path) :
    x = c :=
  List.inj_on_of_nodup_map h (List.mem_filter.mpr ⟨hx, hxe⟩) (List.mem_filter.mpr ⟨hc, hce⟩) hpath

theorem Best.unique (hc : p.Best r cs c) (hx : p.Best r cs x) : x = c := by
  by_contra hne
  have h := (hc.precedes x hx.mem hx.eligible hne).isLE_eq_false
  rw [rank_eq_lt_iff.mpr (hx.precedes c hc.mem hc.eligible (Ne.symm hne))] at h
  exact Bool.noConfusion h

/-- What is chosen from candidates with distinct paths precedes all others. -/
theorem exists_best (h : p.Distinct cs) (hsome : ∃ c ∈ cs, p.isEligible c = true) :
    ∃ c, p.Best r cs c := by
  obtain ⟨d, hd⟩ : ∃ d, p.choose r cs = some d := by
    refine Option.ne_none_iff_exists'.mp fun hnone => ?_
    obtain ⟨c, hc, heligible⟩ := hsome
    exact Bool.false_ne_true ((choose_eq_none_iff.mp hnone c hc).symm.trans heligible)
  obtain ⟨c, hmem, heligible, -, hle⟩ := choose_spec hd
  refine ⟨c, hmem, heligible, fun x hx hxe hne => ?_⟩
  rcases Ordering.isLE_iff_eq_lt_or_eq_eq.mp (hle x hx hxe) with hlt | heq
  · exact rank_eq_lt_iff.mp hlt
  · exact absurd (h.eq_of_path hmem heligible hx hxe (tie_of_rank_eq_eq heq).2.symm) hne

/-- Nothing but a candidate that precedes the best one, or passes for it by its path, keeps the
decision from being about the best one. -/
theorem choose_eq_of_best (h : p.Best r cs c) (hc : c ∈ cs')
    (hothers : ∀ x ∈ cs', p.isEligible x = true → x ∈ cs ∨ ¬ Precedes r x c ∧
      (x.workload.path = c.workload.path → x.workload = c.workload)) :
    p.choose r cs' = some (p.decide r c) := by
  rcases hchoice : p.choose r cs' with - | d
  · have := choose_eq_none_iff.mp hchoice c hc
    exact absurd (this.symm.trans h.eligible) Bool.false_ne_true
  · obtain ⟨x, hx, hxe, rfl, hle⟩ := choose_spec hchoice
    have hxc := hle c hc h.eligible
    congr 1
    by_cases hne : x = c
    · rw [hne]
    · rcases hothers x hx hxe with hmem | ⟨hnot, hsame⟩
      · have hgt := (h.precedes x hmem hxe hne).isLE_eq_false
        exact absurd (hgt.symm.trans hxc) Bool.false_ne_true
      · rcases Ordering.isLE_iff_eq_lt_or_eq_eq.mp hxc with hlt | heq
        · exact absurd (rank_eq_lt_iff.mp hlt) hnot
        · obtain ⟨hlabel, hpath⟩ := tie_of_rank_eq_eq heq
          rw [Policy.decide, Policy.decide, nextPriority_congr hlabel, hsame hpath]

/-- What the decision says besides the workload. -/
theorem decide_spec (p : Policy) (r : Resource) (c : Candidate) :
    (∀ n, c.priority = some n → (p.decide r c).priority = min (n + 1) 4294967295) ∧
    (c.priority = none → (p.decide r c).priority = 1) ∧
    ((p.decide r c).evictNow = true ↔
      r ∈ p.evictFor ∨ p.evictAbove < (p.decide r c).priority) := by
  refine ⟨fun n hn => ?_, fun hnone => ?_, by simp [Policy.decide]⟩
  · simp [Policy.decide, nextPriority, hn, Number.next32, Number.max32]
  · simp [Policy.decide, nextPriority, hnone]

/-- **The choice is the one candidate that precedes all other eligible ones, however they are
listed.** There is none exactly when no candidate is eligible. Its priority is the next one behind
its label, and it is evicted for what the signal or the priority says. The decision stays the same
for every list that holds the chosen candidate, and beside it only candidates of the first list,
ineligible ones and ones that do not precede it: in a list with distinct paths none of them has
the path of the chosen one. -/
theorem choose_of_distinct (p : Policy) (r : Resource) (cs : List Candidate)
    (h : p.Distinct cs) :
    (p.choose r cs = none ↔ ∀ c ∈ cs, p.isEligible c = false) ∧
    ((∃ c ∈ cs, p.isEligible c = true) →
      ∃ c d, p.Best r cs c ∧ (∀ x, p.Best r cs x → x = c) ∧ p.choose r cs = some d ∧
        d.workload = c.workload ∧
        (∀ n, c.priority = some n → d.priority = min (n + 1) 4294967295) ∧
        (c.priority = none → d.priority = 1) ∧
        (d.evictNow = true ↔ r ∈ p.evictFor ∨ p.evictAbove < d.priority) ∧
        ∀ cs', c ∈ cs' →
          (∀ x ∈ cs', p.isEligible x = true → x ∈ cs ∨ ¬ Precedes r x c ∧
            (x.workload.path = c.workload.path → x.workload = c.workload)) →
          p.choose r cs' = some d) ∧
    ∀ cs', cs.Perm cs' → p.choose r cs' = p.choose r cs := by
  refine ⟨choose_eq_none_iff, fun hsome => ?_, fun cs' hperm => ?_⟩
  · obtain ⟨c, hbest⟩ := exists_best (r := r) h hsome
    obtain ⟨hlabeled, hunlabeled, hevict⟩ := decide_spec p r c
    exact ⟨c, p.decide r c, hbest, fun x => hbest.unique,
      choose_eq_of_best hbest hbest.mem fun x hx _ => .inl hx, rfl, hlabeled, hunlabeled, hevict,
      fun cs' => choose_eq_of_best hbest⟩
  · by_cases hsome : ∃ c ∈ cs, p.isEligible c = true
    · obtain ⟨c, hbest⟩ := exists_best (r := r) h hsome
      rw [choose_eq_of_best hbest hbest.mem fun x hx _ => .inl hx,
        choose_eq_of_best hbest (hperm.mem_iff.mp hbest.mem) fun x hx _ =>
          .inl (hperm.mem_iff.mpr hx)]
    · have hnone : ∀ c ∈ cs, p.isEligible c = false := fun c hc =>
        Bool.eq_false_iff.mpr fun heligible => hsome ⟨c, hc, heligible⟩
      rw [choose_eq_none_iff.mpr hnone,
        choose_eq_none_iff.mpr fun c hc => hnone c (hperm.mem_iff.mpr hc)]

/-- Three pods of a namespace: an idle one, one with a label at its limit and a loud one. -/
def rivals : List Candidate :=
  let rival (name : String) (qos : Qos) (label : Option Nat) (cpuMillis : Nat) : Candidate :=
    ⟨⟨name, "web", none⟩, qos, cpuMillis, 0, label, none, false, false, false, false⟩
  [rival "idle" .bestEffort none 900, rival "known" .guaranteed (some 4294967295) 0,
    rival "loud" .burstable (some 7) 500]

/-- The higher label outweighs class and request, in either order of the list. -/
theorem labeled_rival_is_chosen :
    default.Distinct rivals ∧
    default.choose .cpu rivals = some ⟨⟨"known", "web", none⟩, true, 4294967295⟩ ∧
    default.choose .cpu rivals.reverse = default.choose .cpu rivals := by
  have hdistinct : default.Distinct rivals := by decide +kernel
  exact ⟨hdistinct, by decide +kernel,
    (choose_of_distinct default .cpu rivals hdistinct).2.2 _ rivals.reverse_perm.symm⟩

end Policy

end NodePressure
