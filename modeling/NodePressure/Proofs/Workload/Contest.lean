import NodePressure.Workload.Policy

/-!
# NodePressure.Proofs.Workload.Contest - comparisons in any order

A `Contest` compares the values of a list two at a time, in any order, and goes on with the one that
comes first of the two. Going through the list from its beginning, as `leastBy` does, is one of them
(`contest_of_leastBy`). If the comparison is a total preorder, what is left at the end comes before
all others (`Contest.foremost`). So whatever the order of the list and of the comparisons is, the
ends tie (`Contest.tie_leastBy`, `leastBy_perm`).
-/

namespace NodePressure

open Std (OrientedCmp ReflCmp TransCmp)

namespace Candidate

variable {α : Type} {f : α → α → Ordering} {l l' xs ys : List α} {m m' x y : α}

/-- The values of a list, compared two at a time, lead to one of them: of two values one goes on
that does not come behind the other. -/
inductive Contest (f : α → α → Ordering) : List α → α → Prop
  | alone (x : α) : Contest f [x] x
  | first {xs ys : List α} {x y : α} (hx : Contest f xs x) (hy : Contest f ys y)
      (h : f x y ≠ .gt) : Contest f (xs ++ ys) x
  | second {xs ys : List α} {x y : α} (hx : Contest f xs x) (hy : Contest f ys y)
      (h : f x y ≠ .lt) : Contest f (xs ++ ys) y

/-- A value of the list that comes behind none of them. -/
structure Foremost (f : α → α → Ordering) (l : List α) (m : α) : Prop where
  mem : m ∈ l
  isLE : ∀ x ∈ l, (f m x).isLE = true

theorem leastBy_eq_none_iff : leastBy f l = none ↔ l = [] := by
  cases l <;> simp [leastBy]

theorem exists_leastBy (h : x ∈ l) : ∃ m, leastBy f l = some m := by
  refine Option.ne_none_iff_exists'.mp fun hnone => ?_
  rw [leastBy_eq_none_iff.mp hnone] at h
  exact absurd h List.not_mem_nil

/-- A contest goes on with a list that is compared value by value. -/
theorem Contest.foldl (h : Contest f xs x) (l : List α) :
    Contest f (xs ++ l) (l.foldl (fun m y => if f m y == .gt then y else m) x) := by
  induction l generalizing xs x with
  | nil => rwa [List.append_nil]
  | cons y l ih =>
    rw [List.append_cons, List.foldl_cons]
    by_cases hgt : f x y = .gt
    · rw [if_pos (beq_iff_eq.mpr hgt)]
      exact ih (.second h (.alone y) (by simp [hgt]))
    · rw [if_neg (fun hbeq => hgt (beq_iff_eq.mp hbeq))]
      exact ih (.first h (.alone y) hgt)

/-- The choice of the least value is a contest. -/
theorem contest_of_leastBy (h : leastBy f l = some m) : Contest f l m := by
  cases l with
  | nil => simp [leastBy] at h
  | cons x l =>
    obtain rfl := Option.some_inj.mp h
    exact (Contest.alone x).foldl l

namespace Foremost

theorem append_left [TransCmp f] (hx : Foremost f xs x) (hy : Foremost f ys y)
    (h : (f x y).isLE = true) : Foremost f (xs ++ ys) x := by
  refine ⟨List.mem_append_left ys hx.mem, fun z hz => ?_⟩
  rcases List.mem_append.mp hz with hz | hz
  · exact hx.isLE z hz
  · exact TransCmp.isLE_trans h (hy.isLE z hz)

theorem of_perm (h : Foremost f l' m) (hperm : l'.Perm l) : Foremost f l m :=
  ⟨hperm.mem_iff.mp h.mem, fun x hx => h.isLE x (hperm.mem_iff.mpr hx)⟩

/-- Values that come behind none of the others tie. -/
theorem tie [OrientedCmp f] (h : Foremost f l m) (h' : Foremost f l m') : f m m' = .eq :=
  OrientedCmp.isLE_antisymm (h.isLE m' h'.mem) (h'.isLE m h.mem)

end Foremost

/-- Whatever the order of the comparisons is, they lead to a value that comes behind none. -/
theorem Contest.foremost [TransCmp f] (h : Contest f l m) : Foremost f l m := by
  induction h with
  | alone x =>
    refine ⟨List.mem_singleton_self x, fun y hy => ?_⟩
    obtain rfl := List.mem_singleton.mp hy
    exact ReflCmp.isLE_rfl
  | first _ _ hle ihx ihy => exact ihx.append_left ihy (Ordering.ne_gt_iff_isLE.mp hle)
  | second _ _ hge ihx ihy =>
    have hle := OrientedCmp.isGE_iff_isLE.mp (Ordering.ne_lt_iff_isGE.mp hge)
    exact (ihy.append_left ihx hle).of_perm List.perm_append_comm

/-- Two contests over the same values end with values that tie. -/
theorem Contest.tie [TransCmp f] (h : Contest f l m) (h' : Contest f l' m')
    (hperm : l'.Perm l) : f m m' = .eq :=
  h.foremost.tie (h'.foremost.of_perm hperm)

/-- A contest over the values of a list ends with one that ties with its least value. -/
theorem Contest.tie_leastBy [TransCmp f] (h : Contest f l' m') (hperm : l'.Perm l) :
    ∃ m, leastBy f l = some m ∧ f m m' = .eq := by
  obtain ⟨m, hm⟩ := exists_leastBy (f := f) (hperm.mem_iff.mp h.foremost.mem)
  exact ⟨m, hm, (contest_of_leastBy hm).tie h hperm⟩

/-- The least values of two lists of the same values tie. -/
theorem leastBy_perm [TransCmp f] (hperm : l'.Perm l) :
    Option.Rel (fun m m' => f m m' = .eq) (leastBy f l) (leastBy f l') := by
  rcases h : leastBy f l' with - | m'
  · obtain rfl := leastBy_eq_none_iff.mp h
    obtain rfl := List.nil_perm.mp hperm
    exact .none
  · obtain ⟨m, hm, htie⟩ := (contest_of_leastBy h).tie_leastBy hperm
    rw [hm]
    exact .some htie

end Candidate

end NodePressure
