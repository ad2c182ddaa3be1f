/-!
# NodePressure.NameMap - finite maps from names

A map lists its entries by strictly increasing name, so maps with the same entries are equal. The
view is `get?`: `get?_insert` says what an insertion does to it.
-/

namespace NodePressure

variable {α : Type}

/-- A finite map from names to values, in the order of the names. -/
structure NameMap (α : Type) where
  entries : List (String × α)
  sorted : entries.Pairwise (fun a b => a.1 < b.1)

namespace NameMap

/-- The empty map. -/
def empty : NameMap α :=
  ⟨[], .nil⟩

/-- Puts an entry among entries in order, in place of one of the same name. -/
def insertEntry (name : String) (a : α) : List (String × α) → List (String × α)
  | [] => [(name, a)]
  | (other, b) :: r =>
    if name < other then (name, a) :: (other, b) :: r
    else if name = other then (name, a) :: r
    else (other, b) :: insertEntry name a r

theorem mem_insertEntry {name : String} {a : α} {es : List (String × α)} {e : String × α}
    (h : e ∈ insertEntry name a es) : e = (name, a) ∨ e ∈ es := by
  induction es with
  | nil => simpa [insertEntry] using h
  | cons x r ih =>
    obtain ⟨other, b⟩ := x
    rw [insertEntry] at h
    split at h
    · simpa using h
    · split at h
      · rcases List.mem_cons.1 h with h | h
        · exact .inl h
        · exact .inr (List.mem_cons_of_mem _ h)
      · rcases List.mem_cons.1 h with h | h
        · exact .inr (h ▸ List.mem_cons_self)
        · rcases ih h with h | h
          · exact .inl h
          · exact .inr (List.mem_cons_of_mem _ h)

theorem sorted_insertEntry {name : String} {a : α} {es : List (String × α)}
    (h : es.Pairwise (fun x y => x.1 < y.1)) :
    (insertEntry name a es).Pairwise (fun x y => x.1 < y.1) := by
  induction es with
  | nil => simp [insertEntry]
  | cons x r ih =>
    obtain ⟨other, b⟩ := x
    obtain ⟨hx, hr⟩ := List.pairwise_cons.1 h
    rw [insertEntry]
    split
    · rename_i hlt
      refine List.pairwise_cons.2 ⟨fun e he => ?_, h⟩
      rcases List.mem_cons.1 he with he | he
      · exact he ▸ hlt
      · exact String.lt_trans hlt (hx e he)
    · split
      · rename_i heq
        exact List.pairwise_cons.2 ⟨fun e he => heq ▸ hx e he, hr⟩
      · rename_i hlt hne
        refine List.pairwise_cons.2 ⟨fun e he => ?_, ih hr⟩
        rcases mem_insertEntry he with he | he
        · have : other < name := by grind
          exact he ▸ this
        · exact hx e he

/-- The map with the name taken to the value. -/
def insert (m : NameMap α) (name : String) (a : α) : NameMap α :=
  ⟨insertEntry name a m.entries, sorted_insertEntry m.sorted⟩

/-- The value of the first entry of a name. -/
def lookup (name : String) : List (String × α) → Option α
  | [] => none
  | (k, a) :: r => if k = name then some a else lookup name r

/-- The value of a name. -/
def get? (m : NameMap α) (name : String) : Option α :=
  lookup name m.entries

/-- The map with the given entries; of entries of one name the last one counts. -/
def ofList (es : List (String × α)) : NameMap α :=
  es.foldl (fun m e => m.insert e.1 e.2) empty

/-- The names, in order. -/
def names (m : NameMap α) : List String :=
  m.entries.map (·.1)

/-- The values, in the order of their names. -/
def values (m : NameMap α) : List α :=
  m.entries.map (·.2)

instance : Inhabited (NameMap α) := ⟨empty⟩

theorem lookup_insertEntry (name other : String) (a : α) (es : List (String × α)) :
    lookup other (insertEntry name a es) = if name = other then some a else lookup other es := by
  induction es with
  | nil => rfl
  | cons x r ih =>
    obtain ⟨k, b⟩ := x
    rw [insertEntry]
    split
    · rfl
    · split
      · rename_i heq
        subst heq
        by_cases h : name = other <;> simp [lookup, h]
      · rename_i hne
        simp only [lookup, ih]
        by_cases hk : k = other
        · have h : ¬name = other := fun h => hne (h.trans hk.symm)
          rw [if_pos hk, if_neg h, if_pos hk]
        · rw [if_neg hk, if_neg hk]

@[simp] theorem get?_insert (m : NameMap α) (name other : String) (a : α) :
    (m.insert name a).get? other = if name = other then some a else m.get? other :=
  lookup_insertEntry name other a m.entries

@[simp] theorem get?_empty (name : String) : (empty : NameMap α).get? name = none := rfl

end NameMap

end NodePressure
