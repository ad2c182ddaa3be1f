import Mathlib.Data.List.Nodup
import NodePressure.NameMap

/-!
# NodePressure.Proofs.NameMap - maps from names by their entries

Names differ from entry to entry (`nodup_names`), so what a name is taken to is the value beside it
in the one entry that it has (`get?_eq_some_iff`). The order in which entries come to a map leaves
no trace in it (`ofList_perm`).
-/

namespace NodePressure.NameMap

variable {α : Type} {m : NameMap α} {name : String} {a : α} {es : List (String × α)}

theorem lookup_eq_some_iff (h : es.Pairwise fun x y => x.1 < y.1) :
    lookup name es = some a ↔ (name, a) ∈ es := by
  induction es with
  | nil => simp [lookup]
  | cons e es ih =>
    obtain ⟨k, b⟩ := e
    obtain ⟨hfirst, hrest⟩ := List.pairwise_cons.mp h
    by_cases hk : k = name
    · subst hk
      have hnot : (k, a) ∉ es := fun hmem => String.lt_irrefl k (hfirst _ hmem)
      simp [lookup, hnot, eq_comm]
    · simp [lookup, hk, ih hrest, Ne.symm hk]

/-- A name is taken to the value of its entry. -/
theorem get?_eq_some_iff : m.get? name = some a ↔ (name, a) ∈ m.entries :=
  lookup_eq_some_iff m.sorted

theorem mem_names_iff : name ∈ m.names ↔ ∃ a, m.get? name = some a := by
  simp [names, get?_eq_some_iff]

theorem pairwise_ne (m : NameMap α) : m.entries.Pairwise fun x y => x.1 ≠ y.1 := by
  have hdiffer {x y : String × α} (h : x.1 < y.1) : x.1 ≠ y.1 :=
    fun heq => String.lt_irrefl y.1 (heq ▸ h)
  exact m.sorted.imp hdiffer

theorem nodup_names (m : NameMap α) : m.names.Nodup :=
  List.pairwise_map.mpr m.pairwise_ne

/-! ## Entries in any order -/

theorem mem_of_mem_foldl_insert {e : String × α}
    (h : e ∈ (es.foldl (fun m e => m.insert e.1 e.2) m).entries) : e ∈ es ∨ e ∈ m.entries := by
  induction es generalizing m with
  | nil => exact .inr h
  | cons x es ih =>
    rcases ih h with hmem | hmem
    · exact .inl (List.mem_cons_of_mem x hmem)
    · rcases mem_insertEntry hmem with rfl | hmem
      · exact .inl List.mem_cons_self
      · exact .inr hmem

theorem mem_of_mem_ofList {e : String × α} (h : e ∈ (ofList es).entries) : e ∈ es :=
  (mem_of_mem_foldl_insert h).resolve_right List.not_mem_nil

theorem insertEntry_perm (h : ∀ e ∈ es, e.1 ≠ name) :
    (insertEntry name a es).Perm ((name, a) :: es) := by
  induction es with
  | nil => exact .refl _
  | cons e es ih =>
    obtain ⟨other, b⟩ := e
    have hne : ¬ name = other := fun heq => h (other, b) List.mem_cons_self heq.symm
    rw [insertEntry, if_neg hne]
    split
    · exact .refl _
    · have hrest := ih fun e he => h e (List.mem_cons_of_mem _ he)
      exact (hrest.cons (other, b)).trans (.swap (name, a) (other, b) es)

theorem foldl_insert_perm (h : (es ++ m.entries).Pairwise fun x y => x.1 ≠ y.1) :
    (es.foldl (fun m e => m.insert e.1 e.2) m).entries.Perm (es ++ m.entries) := by
  induction es generalizing m with
  | nil => exact .refl _
  | cons e es ih =>
    obtain ⟨hfirst, hrest⟩ := List.pairwise_cons.mp h
    have hnew : (m.insert e.1 e.2).entries.Perm (e :: m.entries) :=
      insertEntry_perm fun x hx => (hfirst x (List.mem_append_right es hx)).symm
    have hmoved : (es ++ (m.insert e.1 e.2).entries).Perm (e :: (es ++ m.entries)) :=
      (hnew.append_left es).trans List.perm_middle
    exact (ih ((hmoved.pairwise_iff Ne.symm).mpr h)).trans hmoved

theorem eq_of_perm {m' : NameMap α} (h : m.entries.Perm m'.entries) : m = m' := by
  have hanti (x y : String × α) (hxy : x.1 < y.1) (hyx : y.1 < x.1) : x = y :=
    absurd (String.lt_trans hxy hyx) (String.lt_irrefl x.1)
  have hentries : m.entries = m'.entries :=
    h.eq_of_pairwise (fun x y _ _ => hanti x y) m.sorted m'.sorted
  cases m
  cases m'
  cases hentries
  rfl

/-- A map is made from its entries, in whatever order they come. -/
theorem ofList_perm (h : es.Perm m.entries) : ofList es = m := by
  have hdiffer : (es ++ []).Pairwise fun (x y : String × α) => x.1 ≠ y.1 := by
    rw [List.append_nil]
    exact (h.pairwise_iff Ne.symm).mpr m.pairwise_ne
  have hperm : (ofList es).entries.Perm (es ++ []) :=
    foldl_insert_perm (m := empty) hdiffer
  exact eq_of_perm ((hperm.trans (.of_eq (List.append_nil es))).trans h)

end NodePressure.NameMap
