import Mathlib.Data.List.Nodup
import NodePressure.Json.Decode
import NodePressure.Proofs.Json.RoundTrip

/-!
# NodePressure.Proofs.Json.Codec - writers and the decoders that undo them

A JSON value stands for a typed one if it is written without loss and decodes to it (`Stands`). A
type's codec says that what is written for a value in range stands for it, and that nothing out of
range is decoded (`Codec`). The codecs of texts, numbers, names, options and lists are what those of
records are put together from; over texts, a codec makes a type faithful (`Codec.faithful`).
-/

namespace NodePressure.Json

variable {α : Type} {toJson : α → Json} {ofJson? : Decoder α} {InRange : α → Prop}

/-- Reads a text as a value of a type. -/
def decode (ofJson? : Decoder α) (text : String) : Option α :=
  (parse text.toList).bind ofJson?

/-- A JSON value that is written without loss and decodes to a typed one. -/
structure Stands (ofJson? : Decoder α) (j : Json) (a : α) : Prop where
  plain : j.Plain
  decodes : ofJson? j = some a

theorem Stands.decode_render {j : Json} {a : α} (h : Stands ofJson? j a) :
    decode ofJson? (render j) = some a := by
  rw [decode, parse_render h.plain, Option.bind_some, h.decodes]

/-- A writer of the values in range and the decoder that undoes it. -/
structure Codec (toJson : α → Json) (ofJson? : Decoder α) (InRange : α → Prop) : Prop where
  stands : ∀ {a}, InRange a → Stands ofJson? (toJson a) a
  lands : ∀ {j a}, ofJson? j = some a → InRange a

/-- Every value in range is decoded from its text, and so is every value that any text decodes
to. -/
structure Faithful (toJson : α → Json) (ofJson? : Decoder α) (InRange : α → Prop) : Prop where
  undoes : ∀ a, InRange a → decode ofJson? (render (toJson a)) = some a
  again : ∀ text a, decode ofJson? text = some a → decode ofJson? (render (toJson a)) = some a

/-- **Decoding undoes encoding.** -/
theorem Codec.faithful (h : Codec toJson ofJson? InRange) : Faithful toJson ofJson? InRange := by
  refine ⟨fun a ha => (h.stands ha).decode_render, fun text a hdecode => ?_⟩
  obtain ⟨j, -, hj⟩ := Option.bind_eq_some_iff.mp hdecode
  exact (h.stands (h.lands hj)).decode_render

/-! ## Texts and numbers -/

/-- Any value at all. -/
def Any (_ : α) : Prop :=
  True

theorem Codec.string : Codec .str asString Any where
  stands _ := ⟨.str _, rfl⟩
  lands _ := trivial

/-- Natural numbers up to a limit of at most 64 bits. -/
theorem Codec.nat {limit : Nat} (h : limit ≤ Number.max64) :
    Codec .nat (asNat limit) (· ≤ limit) where
  stands {n} hn := by
    have hword : n ≤ Number.max64 := Nat.le_trans hn h
    refine ⟨.num ?_, ?_⟩
    · simp [Numeral.isWord, Numeral.isWhole, Numeral.ofNat, hword]
    · simp [asNat, Json.nat, Numeral.toNat?, Numeral.isWhole, Numeral.ofNat, hn]
  lands {j n} hread := by
    cases j with
    | num m =>
      simp only [asNat, Numeral.toNat?, Option.ite_none_right_eq_some, Bool.and_eq_true,
        decide_eq_true_eq] at hread
      obtain ⟨⟨-, hle⟩, hn⟩ := hread
      exact Option.some.inj hn ▸ hle
    | _ => cases hread

theorem codec_nat32 : Codec .nat (asNat Number.max32) (· ≤ Number.max32) :=
  .nat (by decide)

theorem codec_nat64 : Codec .nat (asNat Number.max64) (· ≤ Number.max64) :=
  .nat (Nat.le_refl _)

/-- An integer of 64 bits. -/
def IsInt64 (n : Int) : Prop :=
  -(Number.maxSigned64 : Int) - 1 ≤ n ∧ n ≤ Number.maxSigned64

theorem Codec.int : Codec .int asInt IsInt64 where
  stands {n} hn := by
    obtain ⟨hlow, hhigh⟩ := hn
    cases n with
    | ofNat n =>
      have hsigned : n ≤ Number.maxSigned64 := Int.ofNat_le.mp hhigh
      have hword : n ≤ Number.max64 := Nat.le_trans hsigned (by decide)
      refine ⟨.num ?_, ?_⟩
      · simp [Numeral.isWord, Numeral.isWhole, Numeral.ofInt, hword]
      · simp [asInt, Json.int, Numeral.toInt?, Numeral.isWhole, Numeral.ofInt, hsigned]
    | negSucc n =>
      have hsigned : n ≤ Number.maxSigned64 := by omega
      refine ⟨.num ?_, ?_⟩
      · simp [Numeral.isWord, Numeral.isWhole, Numeral.ofInt, hsigned]
      · simp [asInt, Json.int, Numeral.toInt?, Numeral.isWhole, Numeral.ofInt, hsigned]
        omega
  lands {j n} hread := by
    cases j with
    | num m =>
      simp only [asInt, Numeral.toInt?] at hread
      unfold IsInt64
      split at hread
      · cases hread
      split at hread
      · split at hread
        · rename_i hword
          obtain rfl := Option.some.inj hread
          have hle : m.whole ≤ Number.maxSigned64 + 1 :=
            of_decide_eq_true (Bool.and_eq_true_iff.mp hword).2
          omega
        · cases hread
      · split at hread
        · obtain rfl := Option.some.inj hread
          omega
        · cases hread
    | _ => cases hread

/-! ## Names, options and lists -/

/-- Values that stand under names of their own. -/
theorem Codec.name {names : List (String × α)} {name : α → String}
    (h : ∀ a, names.find? (·.1 == name a) = some (name a, a)) :
    Codec (fun a => .str (name a)) (asName names) Any where
  stands _ := ⟨.str _, by rw [asName, h]; rfl⟩
  lands _ := trivial

/-- A value that may be missing. -/
theorem Codec.option (h : Codec toJson ofJson? InRange) (hnull : ∀ a, toJson a ≠ .null) :
    Codec (ofOption toJson) (asOption ofJson?) (fun o => ∀ a ∈ o, InRange a) where
  stands {o} ho := by
    cases o with
    | none => exact ⟨.null, rfl⟩
    | some a =>
      obtain ⟨hplain, hread⟩ := h.stands (ho a rfl)
      -- written as `null`, the value would be read as missing
      have hwritten := hnull a
      refine ⟨hplain, ?_⟩
      rw [ofOption]
      cases hj : toJson a with
      | null => exact absurd hj hwritten
      | _ => simp [asOption, ← hj, hread]
  lands {j o} hread := by
    rintro a rfl
    unfold asOption at hread
    split at hread
    · cases hread
    · obtain ⟨b, hb, hsome⟩ := Option.map_eq_some_iff.mp hread
      obtain rfl := Option.some.inj hsome
      exact h.lands hb

/-- A text or `null`. -/
theorem codec_text : Codec (ofOption .str) (asOption asString) (fun o => ∀ s ∈ o, Any s) :=
  Codec.string.option fun _ => nofun

theorem exists_of_mapM_eq_some {β : Type} {f : β → Option α} {bs : List β} {as : List α} {a : α}
    (h : bs.mapM f = some as) (ha : a ∈ as) : ∃ b ∈ bs, f b = some a := by
  induction bs generalizing as with
  | nil =>
    obtain rfl : [] = as := Option.some.inj h
    cases ha
  | cons b bs ih =>
    simp only [List.mapM_cons, Option.bind_eq_bind, Option.bind_eq_some_iff] at h
    obtain ⟨x, hx, xs, hxs, hcons⟩ := h
    obtain rfl : x :: xs = as := Option.some.inj hcons
    rcases List.mem_cons.mp ha with rfl | ha
    · exact ⟨b, List.mem_cons_self, hx⟩
    · obtain ⟨b', hb', hread⟩ := ih hxs ha
      exact ⟨b', List.mem_cons_of_mem b hb', hread⟩

theorem mapM_map_eq_some {β : Type} {g : α → β} {f : β → Option α} {as : List α}
    (h : ∀ a ∈ as, f (g a) = some a) : (as.map g).mapM f = some as := by
  induction as with
  | nil => rfl
  | cons a as ih =>
    obtain ⟨hfirst, hrest⟩ := List.forall_mem_cons.mp h
    rw [List.map_cons, List.mapM_cons, hfirst, ih hrest]
    rfl

theorem Codec.list (h : Codec toJson ofJson? InRange) :
    Codec (fun as => .arr (as.map toJson)) (asList ofJson?) (fun as => ∀ a ∈ as, InRange a) where
  stands {as} has :=
    ⟨.arr (List.forall_mem_map.mpr fun a ha => (h.stands (has a ha)).plain),
      mapM_map_eq_some fun a ha => (h.stands (has a ha)).decodes⟩
  lands {j as} hread a ha := by
    cases j with
    | arr items =>
      obtain ⟨item, -, hitem⟩ := exists_of_mapM_eq_some hread ha
      exact h.lands hitem
    | _ => cases hread

/-! ## Fields of records -/

theorem eraseDups_of_nodup {names : List String} (h : names.Nodup) : names.eraseDups = names := by
  induction names with
  | nil => rfl
  | cons name names ih =>
    obtain ⟨hnew, hrest⟩ := List.nodup_cons.mp h
    have hothers : names.filter (fun other => !other == name) = names := by
      refine List.filter_eq_self.mpr fun other hother => ?_
      have hne : other ≠ name := fun heq => hnew (heq ▸ hother)
      simp [hne]
    rw [List.eraseDups_cons, hothers, ih hrest]

/-- An object whose names differ has the fields that its members give. -/
theorem fields_obj {members : List (String × Json)} (h : (members.map (·.1)).Nodup)
    (names : List String) :
    fields names (.obj members) =
      some ⟨fun _ name => (members.find? (·.1 == name)).map (·.2), false⟩ := by
  have hknown := eraseDups_of_nodup (h.filter names.contains)
  simp only [fields, hknown, beq_self_eq_true, if_true]

namespace Fields

variable {r : Fields} {i : Nat} {name : String} {f : Decoder α} {a : α}

theorem exists_of_required (h : r.required i name f = some a) : ∃ j, f j = some a := by
  obtain ⟨j, -, hj⟩ := Option.bind_eq_some_iff.mp h
  exact ⟨j, hj⟩

theorem exists_of_optional {o : Option α} (h : r.optional i name f = some o) :
    o = none ∨ ∃ j, asOption f j = some o := by
  unfold optional at h
  split at h
  · exact .inr ⟨_, h⟩
  · split at h
    · cases h
    · exact .inl (Option.some.inj h).symm

theorem exists_of_orElse {default : α} (h : r.orElse i name default f = some a) :
    a = default ∨ ∃ j, f j = some a := by
  unfold orElse at h
  split at h
  · exact .inr ⟨_, h⟩
  · exact .inl (Option.some.inj h).symm

end Fields

end NodePressure.Json
