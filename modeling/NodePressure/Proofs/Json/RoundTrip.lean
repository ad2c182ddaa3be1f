import NodePressure.Json.Reader
import NodePressure.Json.Writer
import NodePressure.Proofs.Number.Digits

/-!
# NodePressure.Proofs.Json.RoundTrip - values are read as they are written

The writer and the reader are written apart from each other, and what joins them is `Reads`: a value
is read from the front of a text that begins with it, whatever stands behind it, as long as that
cannot be taken for more of the value (`Ends`). Every plain value is so (`reads_of_plain`), one case
for each kind of value; lists and objects are in turn inductions over what they hold, with fuel for
every character twice. From this a whole text gives back the value it was written for
(`parse_render`).
-/

namespace NodePressure.Json

variable {j : Json} {c : Char} {r : List Char}

/-! ## Texts -/

theorem hexDigit?_hexChar : ∀ n < 16, Number.hexDigit? (hexChar n) = some n := by decide

/-- A control character is read from its four hexadecimal digits. -/
theorem readEscapedUnit_control (h : c.toNat < 0x20) :
    readEscapedUnit ('0' :: '0' :: hexChar (c.toNat / 16) :: hexChar (c.toNat % 16) :: r) =
      some (some c, r) := by
  have hhigh := hexDigit?_hexChar (c.toNat / 16) (by omega)
  have hlow := hexDigit?_hexChar (c.toNat % 16) (by omega)
  have hzero : Number.hexDigit? '0' = some 0 := rfl
  have hsum : c.toNat / 16 * 16 + c.toNat % 16 = c.toNat := Nat.div_add_mod' c.toNat 16
  have hread : readHex ('0' :: '0' :: hexChar (c.toNat / 16) :: hexChar (c.toNat % 16) :: r) =
      some (c.toNat, r) := by
    simp [readHex, hhigh, hlow, hzero, hsum]
  have hfirst : ¬ (0xD800 ≤ c.toNat ∧ c.toNat ≤ 0xDBFF) := by omega
  have hsecond : ¬ (0xDC00 ≤ c.toNat ∧ c.toNat ≤ 0xDFFF) := by omega
  simp [readEscapedUnit, hread, hfirst, hsecond]

/-- A character stands for itself, or an escape behind a backslash does for it. -/
theorem escape_cases (c : Char) :
    (∃ s, escape c = '\\' :: s ∧ ∀ r, readEscape (s ++ r) = some (some c, r)) ∨
      escape c = [c] ∧ c ≠ '"' ∧ c ≠ '\\' ∧ 0x20 ≤ c.toNat := by
  by_cases hspecial : c ∈ ['"', '\\', '\x08', '\x0c', '\n', '\r', '\t']
  · simp only [List.mem_cons, List.not_mem_nil, or_false] at hspecial
    rcases hspecial with rfl | rfl | rfl | rfl | rfl | rfl | rfl <;>
      exact .inl ⟨_, rfl, fun _ => rfl⟩
  · simp only [List.mem_cons, List.not_mem_nil, or_false, not_or] at hspecial
    obtain ⟨hquote, hslash, hback, hfeed, hline, hreturn, htab⟩ := hspecial
    have hescape : escape c = if c.toNat < 0x20 then
        ['\\', 'u', '0', '0', hexChar (c.toNat / 16), hexChar (c.toNat % 16)] else [c] := by
      simp [escape, hquote, hslash, hback, hfeed, hline, hreturn, htab]
    by_cases hcontrol : c.toNat < 0x20
    · rw [if_pos hcontrol] at hescape
      exact .inl ⟨_, hescape, fun r => readEscapedUnit_control hcontrol⟩
    · rw [if_neg hcontrol] at hescape
      exact .inr ⟨hescape, hquote, hslash, Nat.not_lt.mp hcontrol⟩

theorem readChars_escape (c : Char) (fuel : Nat) (r : List Char) :
    readChars (fuel + 1) (escape c ++ r) =
      (readChars fuel r).map fun p => (p.1.map (c :: ·), p.2) := by
  rcases escape_cases c with ⟨s, hescape, hread⟩ | ⟨hescape, hquote, hslash, hprint⟩
  · rw [hescape, List.cons_append, readChars, if_neg (by decide), if_pos (by decide), hread,
      Option.bind_eq_bind, Option.bind_some]
    dsimp only
    cases readChars fuel r <;> rfl
  · have hprint : ¬ c.toNat < 0x20 := Nat.not_lt.mpr hprint
    rw [hescape, List.singleton_append, readChars, if_neg (by simpa using hquote),
      if_neg (by simpa using hslash), if_neg hprint]
    cases readChars fuel r <;> rfl

theorem length_le_length_flatMap (cs : List Char) : cs.length ≤ (cs.flatMap escape).length := by
  induction cs with
  | nil => exact Nat.le_refl 0
  | cons c cs ih =>
    have hone : 0 < (escape c).length := by
      rcases escape_cases c with ⟨s, hescape, -⟩ | ⟨hescape, -⟩ <;> simp [hescape]
    rw [List.flatMap_cons, List.length_append, List.length_cons]
    omega

/-- A text is read as it is written, up to its closing quotation mark. -/
theorem readChars_flatMap (cs : List Char) (r : List Char) {fuel : Nat} (h : cs.length < fuel) :
    readChars fuel (cs.flatMap escape ++ '"' :: r) = some (some cs, r) := by
  obtain ⟨fuel, rfl⟩ := Nat.exists_eq_succ_of_ne_zero (Nat.ne_of_gt (Nat.zero_lt_of_lt h))
  induction cs generalizing fuel with
  | nil => rfl
  | cons c cs ih =>
    obtain ⟨fuel, rfl⟩ := Nat.exists_eq_succ_of_ne_zero (n := fuel) (by simp at h; omega)
    rw [List.flatMap_cons, List.append_assoc, readChars_escape, ih fuel (by simp at h; omega)]
    rfl

/-! ## Numbers -/

/-- What may stand behind a value: nothing, a comma or a closing bracket. -/
def Ends (r : List Char) : Prop :=
  ∀ c ∈ r.head?, c = ',' ∨ c = ']' ∨ c = '}'

theorem ends_nil : Ends [] :=
  nofun

theorem ends_of_mem (h : c ∈ [',', ']', '}']) : Ends (c :: r) := by
  rintro d ⟨⟩
  simpa using h

theorem Ends.not_digit (h : Ends r) : ∀ c ∈ r.head?, Number.isDigit c = false := by
  intro c hc
  rcases h c hc with rfl | rfl | rfl <;> rfl

theorem readFraction_of_ends (h : Ends r) : readFraction r = some ([], r) := by
  cases r with
  | nil => rfl
  | cons c r => rcases h c rfl with rfl | rfl | rfl <;> rfl

theorem readExponent_of_ends (h : Ends r) : readExponent r = some (none, r) := by
  cases r with
  | nil => rfl
  | cons c r => rcases h c rfl with rfl | rfl | rfl <;> rfl

theorem readMagnitude_digits (negative : Bool) (n : Nat) (h : Ends r) :
    readMagnitude negative (Number.digits n ++ r) = some (⟨negative, n, [], none⟩, r) := by
  have hdigits : ∀ c ∈ Number.digits n, Number.isDigit c = true :=
    fun c => Number.isDigit_of_mem_digits
  have hspan : spanDigits (Number.digits n ++ r) = (Number.digits n, r) := by
    rw [spanDigits, Number.takeWhile_digits_append hdigits h.not_digit,
      Number.dropWhile_digits_append hdigits h.not_digit]
  have hvalue := Number.ofDigits_digits n
  simp only [readMagnitude, hspan]
  split
  · rename_i hnil
    exact absurd hnil (Number.digits_ne_nil n)
  · rename_i hzero
    exact absurd (Number.eq_nil_of_digits hzero) (List.cons_ne_nil _ _)
  · simp [readFraction_of_ends h, readExponent_of_ends h, hvalue]

/-- A whole number of 64 bits is read as it is written. -/
theorem readNumeral_write {n : Numeral} (hn : n.isWord = true) (h : Ends r) :
    readNumeral (writeNumeral n ++ r) = some (n, r) := by
  obtain ⟨negative, whole, fraction, exponent⟩ := n
  obtain ⟨rfl, rfl⟩ : fraction = [] ∧ exponent = none := by
    have hwhole := (Bool.and_eq_true_iff.mp hn).1
    simpa [Numeral.isWhole] using hwhole
  rw [writeNumeral, if_pos hn]
  cases negative with
  | true => exact readMagnitude_digits true whole h
  | false =>
    have hread := readMagnitude_digits false whole h
    obtain ⟨c, ds, hds⟩ := List.exists_cons_of_ne_nil (Number.digits_ne_nil whole)
    have hdigit : Number.isDigit c = true :=
      Number.isDigit_of_mem_digits (n := whole) (hds ▸ List.mem_cons_self)
    simp only [Bool.false_eq_true, if_false, hds, List.cons_append] at hread ⊢
    unfold readNumeral
    split
    · rename_i heq
      obtain ⟨rfl, -⟩ := List.cons.inj heq
      cases hdigit
    · exact hread

/-! ## Values -/

/-- A value that is written without loss: its numbers are whole ones of 64 bits and its texts are
texts. -/
inductive Plain : Json → Prop
  | null : Plain .null
  | bool (b : Bool) : Plain (.bool b)
  | num {n : Numeral} (h : n.isWord = true) : Plain (.num n)
  | str (s : String) : Plain (.str s)
  | arr {items : List Json} (h : ∀ j ∈ items, Plain j) : Plain (.arr items)
  | obj {members : List (String × Json)} (h : ∀ m ∈ members, Plain m.2) : Plain (.obj members)

/-- A value is read as it is written, whatever may stand behind it, with fuel for twice its text. -/
def Reads (j : Json) : Prop :=
  ∀ fuel r, Ends r → 2 * (write j).length ≤ fuel → readValue fuel (write j ++ r) = some (j, r)

/-- A text begins with what is neither a blank nor a closing bracket. -/
def Begins (s : List Char) : Prop :=
  ∃ c t, s = c :: t ∧ isSpace c = false ∧ c ∉ [']', '}']

theorem Begins.append {s : List Char} (h : Begins s) (r : List Char) : Begins (s ++ r) := by
  obtain ⟨c, t, rfl, hspace, hclose⟩ := h
  exact ⟨c, t ++ r, rfl, hspace, hclose⟩

theorem Begins.skipSpace_eq {s : List Char} (h : Begins s) : skipSpace s = s := by
  obtain ⟨c, t, rfl, hspace, -⟩ := h
  simp [skipSpace, hspace]

/-- The characters that a number may begin with. -/
def numberStarts : List Char :=
  ['-', '0', '1', '2', '3', '4', '5', '6', '7', '8', '9']

theorem exists_writeNumeral_eq {n : Numeral} (h : n.isWord = true) :
    ∃ c s, writeNumeral n = c :: s ∧ c ∈ numberStarts := by
  rw [writeNumeral, if_pos h]
  split
  · exact ⟨'-', _, rfl, by decide⟩
  · obtain ⟨c, s, hdigits⟩ := List.exists_cons_of_ne_nil (Number.digits_ne_nil n.whole)
    have hdigit : Number.isDigit c = true :=
      Number.isDigit_of_mem_digits (n := n.whole) (hdigits ▸ List.mem_cons_self)
    obtain ⟨d, hd, rfl⟩ := Number.exists_digitChar hdigit
    have hall : ∀ d < 10, Number.digitChar d ∈ numberStarts := by decide
    exact ⟨_, s, hdigits, hall d hd⟩

theorem begins_write (h : Plain j) : Begins (write j) := by
  cases h with
  | null => exact ⟨'n', _, rfl, rfl, by decide⟩
  | bool b => cases b <;> exact ⟨_, _, rfl, rfl, by decide⟩
  | str s => exact ⟨'"', _, rfl, rfl, by decide⟩
  | arr h => exact ⟨'[', _, by rw [write], rfl, by decide⟩
  | obj h => exact ⟨'{', _, by rw [write], rfl, by decide⟩
  | @num n h =>
    have hall : ∀ c ∈ numberStarts, isSpace c = false ∧ c ∉ [']', '}'] := by
      simp [numberStarts, isSpace]
    obtain ⟨c, s, hwrite, hstart⟩ := exists_writeNumeral_eq h
    exact ⟨c, s, by rw [write, hwrite], hall c hstart⟩

theorem writeItems_cons_cons (j k : Json) (items : List Json) :
    writeItems (j :: k :: items) = write j ++ ',' :: writeItems (k :: items) := by
  rw [writeItems]
  exact nofun

theorem begins_writeItems {items : List Json} (h : Plain j) : Begins (writeItems (j :: items)) := by
  cases items with
  | nil =>
    rw [writeItems]
    exact begins_write h
  | cons k items =>
    rw [writeItems_cons_cons]
    exact (begins_write h).append _

/-! ## Lists -/

theorem readItems_last {fuel : Nat} {s : List Char} (h : readValue fuel s = some (j, ']' :: r)) :
    readItems (fuel + 1) s = some ([j], r) := by
  rw [readItems, h]
  rfl

theorem readItems_more {fuel : Nat} {s : List Char} (h : readValue fuel s = some (j, ',' :: r)) :
    readItems (fuel + 1) s = (readItems fuel (skipSpace r)).map fun p => (j :: p.1, p.2) := by
  have hcomma : skipSpace (',' :: r) = ',' :: r := rfl
  rw [readItems, h, Option.bind_eq_bind, Option.bind_some]
  simp only [hcomma]
  cases readItems fuel (skipSpace r) <;> rfl

theorem readItems_write {items : List Json} (hplain : ∀ j ∈ items, Plain j)
    (hreads : ∀ j ∈ items, Reads j) (hne : items ≠ []) (r : List Char) {fuel : Nat}
    (hfuel : 2 * (writeItems items).length < fuel) :
    readItems fuel (writeItems items ++ ']' :: r) = some (items, r) := by
  induction items generalizing fuel with
  | nil => exact absurd rfl hne
  | cons j items ih =>
    have hj := hreads j List.mem_cons_self
    -- one unit of fuel goes to this item; its own text and the comma leave enough for the others
    obtain ⟨fuel, rfl⟩ := Nat.exists_eq_succ_of_ne_zero (Nat.ne_of_gt (Nat.zero_lt_of_lt hfuel))
    cases items with
    | nil =>
      rw [writeItems] at hfuel ⊢
      exact readItems_last (hj fuel _ (ends_of_mem (by simp)) (by omega))
    | cons k items =>
      rw [writeItems_cons_cons, List.length_append, List.length_cons] at hfuel
      have hbegins : Begins (writeItems (k :: items)) := begins_writeItems (hplain k (by simp))
      have hshort : 2 * (writeItems (k :: items)).length < fuel := by omega
      have hrest := ih (fun x hx => hplain x (List.mem_cons_of_mem j hx))
        (fun x hx => hreads x (List.mem_cons_of_mem j hx)) (List.cons_ne_nil k items) hshort
      rw [writeItems_cons_cons, List.append_assoc, List.cons_append,
        readItems_more (hj fuel _ (ends_of_mem (by simp)) (by omega)),
        (hbegins.append _).skipSpace_eq, hrest]
      rfl

/-! ## Objects -/

theorem readChars_writeString (name : String) (r : List Char) :
    ∃ s, writeString name ++ r = '"' :: s ∧
      readChars (s.length + 1) s = some (some name.toList, r) := by
  refine ⟨name.toList.flatMap escape ++ '"' :: r, by simp [writeString], ?_⟩
  have hlength : name.toList.length ≤ (name.toList.flatMap escape).length :=
    length_le_length_flatMap _
  refine readChars_flatMap _ _ ?_
  rw [List.length_append]
  omega

theorem readMembers_last {fuel : Nat} {s : List Char} (name : String) (hs : Begins s)
    (h : readValue fuel s = some (j, '}' :: r)) :
    readMembers (fuel + 1) (writeString name ++ ':' :: s) = some (some [(name, j)], r) := by
  have hcolon : skipSpace (':' :: s) = ':' :: s := rfl
  have hclose : skipSpace ('}' :: r) = '}' :: r := rfl
  obtain ⟨t, hwritten, hchars⟩ := readChars_writeString name (':' :: s)
  rw [hwritten, readMembers, hchars, Option.bind_eq_bind, Option.bind_some]
  simp only [hcolon, hs.skipSpace_eq, h, Option.bind_eq_bind, Option.bind_some, hclose]
  simp

theorem readMembers_more {fuel : Nat} {s : List Char} (name : String) (hs : Begins s)
    (h : readValue fuel s = some (j, ',' :: r)) :
    readMembers (fuel + 1) (writeString name ++ ':' :: s) =
      (readMembers fuel (skipSpace r)).map fun p => (p.1.map ((name, j) :: ·), p.2) := by
  have hcolon : skipSpace (':' :: s) = ':' :: s := rfl
  have hcomma : skipSpace (',' :: r) = ',' :: r := rfl
  obtain ⟨t, hwritten, hchars⟩ := readChars_writeString name (':' :: s)
  rw [hwritten, readMembers, hchars, Option.bind_eq_bind, Option.bind_some]
  simp only [hcolon, hs.skipSpace_eq, h, Option.bind_eq_bind, Option.bind_some, hcomma]
  cases readMembers fuel (skipSpace r) <;> simp

theorem writeMembers_cons_cons (name : String) (j : Json) (m : String × Json)
    (members : List (String × Json)) :
    writeMembers ((name, j) :: m :: members) =
      writeString name ++ ':' :: (write j ++ ',' :: writeMembers (m :: members)) := by
  rw [writeMembers]
  exact nofun

theorem begins_writeMembers (m : String × Json) (members : List (String × Json)) :
    Begins (writeMembers (m :: members)) := by
  obtain ⟨name, j⟩ := m
  have hname : Begins (writeString name) := ⟨'"', _, rfl, rfl, by decide⟩
  cases members with
  | nil =>
    rw [writeMembers]
    exact hname.append _
  | cons m members =>
    rw [writeMembers_cons_cons]
    exact hname.append _

theorem readMembers_write {members : List (String × Json)} (hplain : ∀ m ∈ members, Plain m.2)
    (hreads : ∀ m ∈ members, Reads m.2) (hne : members ≠ []) (r : List Char) {fuel : Nat}
    (hfuel : 2 * (writeMembers members).length < fuel) :
    readMembers fuel (writeMembers members ++ '}' :: r) = some (some members, r) := by
  induction members generalizing fuel with
  | nil => exact absurd rfl hne
  | cons m members ih =>
    obtain ⟨name, j⟩ := m
    have hj : Reads j := hreads (name, j) List.mem_cons_self
    have hbegins : Begins (write j) := begins_write (hplain (name, j) List.mem_cons_self)
    obtain ⟨fuel, rfl⟩ := Nat.exists_eq_succ_of_ne_zero (Nat.ne_of_gt (Nat.zero_lt_of_lt hfuel))
    cases members with
    | nil =>
      rw [writeMembers, List.length_append, List.length_cons] at hfuel
      rw [writeMembers, List.append_assoc, List.cons_append]
      exact readMembers_last name (hbegins.append _) (hj fuel _ (ends_of_mem (by simp)) (by omega))
    | cons m members =>
      rw [writeMembers_cons_cons, List.length_append, List.length_cons, List.length_append,
        List.length_cons] at hfuel
      have hshort : 2 * (writeMembers (m :: members)).length < fuel := by omega
      have hrest := ih (fun x hx => hplain x (List.mem_cons_of_mem _ hx))
        (fun x hx => hreads x (List.mem_cons_of_mem _ hx)) (List.cons_ne_nil m members) hshort
      rw [writeMembers_cons_cons, List.append_assoc, List.cons_append, List.append_assoc,
        List.cons_append, readMembers_more name (hbegins.append _)
          (hj fuel _ (ends_of_mem (by simp)) (by omega)),
        ((begins_writeMembers m members).append _).skipSpace_eq, hrest]
      rfl

/-! ## Values -/

theorem readValue_number {fuel : Nat} {s : List Char} (hc : c ∈ numberStarts) :
    readValue (fuel + 1) (c :: s) = (readNumeral (c :: s)).map fun p => (.num p.1, p.2) := by
  have hother : ∀ c ∈ numberStarts, c ∉ ['n', 't', 'f', '"', '[', '{'] := by
    simp [numberStarts]
  have hne (d : Char) (t : List Char) (hd : d ∈ ['n', 't', 'f', '"', '[', '{']) :
      c :: s ≠ d :: t := by
    intro heq
    exact hother c hc ((List.cons.inj heq).1 ▸ hd)
  unfold readValue
  -- only the last case is left, since a number begins like no other value
  split
  case h_7 => cases readNumeral (c :: s) <;> rfl
  all_goals
    rename_i heq
    exact absurd heq (hne _ _ (by decide))

theorem reads_num {n : Numeral} (h : n.isWord = true) : Reads (.num n) := by
  intro fuel r hr hfuel
  obtain ⟨c, s, hwrite, hstart⟩ := exists_writeNumeral_eq h
  have hread := readNumeral_write h hr
  rw [write, hwrite, List.length_cons] at hfuel
  obtain ⟨fuel, rfl⟩ := Nat.exists_eq_succ_of_ne_zero (n := fuel) (by omega)
  rw [hwrite, List.cons_append] at hread
  rw [write, hwrite, List.cons_append, readValue_number hstart, hread]
  rfl

theorem reads_str (s : String) : Reads (.str s) := by
  intro fuel r hr hfuel
  rw [write, writeString, List.length_cons] at hfuel
  obtain ⟨fuel, rfl⟩ := Nat.exists_eq_succ_of_ne_zero (n := fuel) (by omega)
  obtain ⟨t, hwritten, hchars⟩ := readChars_writeString s r
  rw [write, hwritten, readValue, hchars]
  simp

theorem reads_arr {items : List Json} (hplain : ∀ j ∈ items, Plain j)
    (hreads : ∀ j ∈ items, Reads j) : Reads (.arr items) := by
  intro fuel r hr hfuel
  rw [write, List.length_cons, List.length_append, List.length_singleton] at hfuel
  obtain ⟨fuel, rfl⟩ := Nat.exists_eq_succ_of_ne_zero (n := fuel) (by omega)
  rw [write, List.cons_append, List.append_assoc, List.singleton_append]
  cases items with
  | nil => rfl
  | cons j items =>
    have hitems := readItems_write hplain hreads (List.cons_ne_nil j items) r
      (by omega : 2 * (writeItems (j :: items)).length < fuel)
    have hbegins : Begins (writeItems (j :: items) ++ ']' :: r) :=
      (begins_writeItems (hplain j List.mem_cons_self)).append _
    rw [readValue, hbegins.skipSpace_eq]
    -- no item begins with the bracket that ends an empty list
    obtain ⟨c, t, hstart, -, hclose⟩ := hbegins
    rw [hstart] at hitems ⊢
    split
    · rename_i heq
      obtain ⟨rfl, -⟩ := List.cons.inj heq
      exact absurd List.mem_cons_self hclose
    · rw [hitems]
      rfl

theorem reads_obj {members : List (String × Json)} (hplain : ∀ m ∈ members, Plain m.2)
    (hreads : ∀ m ∈ members, Reads m.2) : Reads (.obj members) := by
  intro fuel r hr hfuel
  rw [write, List.length_cons, List.length_append, List.length_singleton] at hfuel
  obtain ⟨fuel, rfl⟩ := Nat.exists_eq_succ_of_ne_zero (n := fuel) (by omega)
  rw [write, List.cons_append, List.append_assoc, List.singleton_append]
  cases members with
  | nil => rfl
  | cons m members =>
    have hmembers := readMembers_write hplain hreads (List.cons_ne_nil m members) r
      (by omega : 2 * (writeMembers (m :: members)).length < fuel)
    have hbegins : Begins (writeMembers (m :: members) ++ '}' :: r) :=
      (begins_writeMembers m members).append _
    rw [readValue, hbegins.skipSpace_eq]
    obtain ⟨c, t, hstart, -, hclose⟩ := hbegins
    rw [hstart] at hmembers ⊢
    split
    · rename_i heq
      obtain ⟨rfl, -⟩ := List.cons.inj heq
      exact absurd (List.mem_cons_of_mem _ List.mem_cons_self) hclose
    · rw [hmembers]
      rfl

theorem reads_of_plain (h : Plain j) : Reads j := by
  induction h with
  | null =>
    rintro (- | fuel) r hr hfuel
    · cases hfuel
    · rfl
  | bool b =>
    rintro (- | fuel) r hr hfuel
    · cases b <;> cases hfuel
    · cases b <;> rfl
  | num h => exact reads_num h
  | str s => exact reads_str s
  | arr h ih => exact reads_arr h ih
  | obj h ih => exact reads_obj h ih

/-- **A value is read as it is written.** -/
theorem parse_write (h : Plain j) : parse (write j) = some j := by
  have hread := reads_of_plain h (2 * (write j).length + 1) [] ends_nil (by omega)
  rw [List.append_nil] at hread
  rw [parse, (begins_write h).skipSpace_eq, hread]
  rfl

theorem parse_render (h : Plain j) : parse (render j).toList = some j := by
  rw [render, String.toList_ofList]
  exact parse_write h

end NodePressure.Json
