import NodePressure.Proofs.Host.Interfaces
import NodePressure.Proofs.Number.Digits

/-!
# NodePressure.Proofs.Host.Traffic - the interfaces that a text adds up

The lines of interfaces are those with a colon, but for the loopback (`dataLine?_eq_some_iff`). Each
of them shows one interface, or is broken (`not_broken_iff`), and the text can be read exactly if
none is broken. Then it shows the sums over all its interfaces, as far as 64 bits go, whatever their
order and whatever stands between them (`each_interface_counts_once`).
-/

namespace NodePressure.Host

open Number (Spells max64)

variable {line name counters text text' : List Char} {l : List Char × List Char} {t : Traffic}
  {i : Interface} {is is' : List Interface} {x : Direction}

/-! ## Lines -/

/-- The line of an interface other than the loopback: its name stands before the first colon, and
its counters behind it. -/
structure DataLine (line name counters : List Char) : Prop where
  eq : line = name ++ ':' :: counters
  first : ':' ∉ name
  real : Text.trim name ≠ "lo".toList

theorem dataLine?_eq_some_iff : dataLine? line = some l ↔ DataLine line l.1 l.2 := by
  obtain ⟨name, counters⟩ := l
  have hcut : DataLine line name counters ↔
      Text.splitOnce ':' line = some (name, counters) ∧ Text.trim name ≠ ['l', 'o'] := by
    rw [Text.splitOnce_eq_some_iff]
    exact ⟨fun h => ⟨⟨h.eq, h.first⟩, h.real⟩, fun h => ⟨h.1.1, h.1.2, h.2⟩⟩
  rw [hcut, dataLine?]
  cases Text.splitOnce ':' line with
  | none => simp
  | some cut =>
    obtain ⟨name', counters'⟩ := cut
    by_cases hlo : Text.trim name' = ['l', 'o']
    · refine iff_of_false (by simp [hlo]) ?_
      rintro ⟨h, hreal⟩
      cases h
      exact hreal hlo
    · simp only [beq_iff_eq, if_neg hlo]
      refine ⟨fun h => ⟨h, ?_⟩, And.left⟩
      cases h
      exact hlo

/-- The lines of the interfaces of a text, but for the loopback, each cut into a name and
counters. -/
def dataLines (text : List Char) : List (List Char × List Char) :=
  ((Text.lines text).drop 2).filterMap dataLine?

/-! ## Counters -/

/-- The counters of an interface, of which there are at least nine: the first one is what it has
received, and the ninth one what it has sent. -/
structure Carries (counters : List Char) (t : Traffic) : Prop where
  received : ∃ w, (Text.words counters)[0]? = some w ∧ Spells max64 w t.received
  sent : ∃ w, (Text.words counters)[8]? = some w ∧ Spells max64 w t.sent

/-- Counters that cannot be read: they are fewer than nine, or the first or the ninth one is no
number of 64 bits. -/
def Broken (counters : List Char) : Prop :=
  (Text.words counters).length < 9 ∨
    ∃ w, ((Text.words counters)[0]? = some w ∨ (Text.words counters)[8]? = some w) ∧
      ∀ n, ¬ Spells max64 w n

theorem not_broken_iff : ¬ Broken counters ↔ ∃ t, Carries counters t := by
  constructor
  · intro h
    obtain ⟨hlength, hspelled⟩ := not_or.mp h
    have hread (k : Nat) (hk : k = 0 ∨ k = 8) :
        ∃ n w, (Text.words counters)[k]? = some w ∧ Spells max64 w n := by
      have hlt : k < (Text.words counters).length := by omega
      have hw := List.getElem?_eq_getElem hlt
      by_contra hnone
      refine hspelled ⟨_, ?_, fun n hn => hnone ⟨n, _, hw, hn⟩⟩
      rcases hk with rfl | rfl
      · exact .inl hw
      · exact .inr hw
    obtain ⟨received, hreceived⟩ := hread 0 (.inl rfl)
    obtain ⟨sent, hsent⟩ := hread 8 (.inr rfl)
    exact ⟨⟨received, sent⟩, hreceived, hsent⟩
  · rintro ⟨t, ⟨w, hw, hreceived⟩, w', hw', hsent⟩ (hshort | ⟨v, hv | hv, hnone⟩)
    · obtain ⟨hlength, -⟩ := List.getElem?_eq_some_iff.mp hw'
      omega
    · obtain rfl := Option.some.inj (hw.symm.trans hv)
      exact hnone _ hreceived
    · obtain rfl := Option.some.inj (hw'.symm.trans hv)
      exact hnone _ hsent

theorem counter_eq_ok_iff {w : List Char} {n : Nat} : counter w = .ok n ↔ Spells max64 w n := by
  rw [← Number.readUnsigned_eq_ok_iff, counter]
  cases Number.readUnsigned max64 w <;> simp

theorem interfaceTraffic_eq_ok_iff :
    interfaceTraffic name counters = .ok t ↔ Carries counters t := by
  have hcarries : Carries counters t ↔
      (∃ w, (Text.words counters)[0]? = some w ∧ counter w = .ok t.received) ∧
        ∃ w, (Text.words counters)[8]? = some w ∧ counter w = .ok t.sent := by
    simp only [counter_eq_ok_iff]
    exact ⟨fun h => ⟨h.received, h.sent⟩, fun h => ⟨h.1, h.2⟩⟩
  rw [hcarries, interfaceTraffic]
  split
  · rename_i rx _ _ _ _ _ _ _ tx _ hwords
    obtain ⟨received, sent⟩ := t
    simp only [bind_eq_ok_iff, hwords]
    constructor
    · rintro ⟨a, ha, b, hb, h⟩
      cases h
      exact ⟨⟨rx, rfl, ha⟩, tx, rfl, hb⟩
    · rintro ⟨⟨w, hw, ha⟩, w', hw', hb⟩
      cases hw
      cases hw'
      exact ⟨_, ha, _, hb, rfl⟩
  · rename_i hshort
    refine iff_of_false nofun ?_
    rintro ⟨-, w, hw, -⟩
    obtain ⟨hlength, -⟩ := List.getElem?_eq_some_iff.mp hw
    generalize Text.words counters = ws at hshort hlength
    match ws, hlength with
    | _ :: _ :: _ :: _ :: _ :: _ :: _ :: _ :: _ :: _, _ => exact hshort _ _ _ _ _ _ _ _ _ _ rfl

/-- A line shows an interface. -/
structure Shows (l : List Char × List Char) (i : Interface) : Prop where
  name : i.name = Text.trim l.1
  traffic : Carries l.2 i.traffic

theorem readInterface_eq_ok_iff : readInterface l = .ok i ↔ Shows l i := by
  obtain ⟨name, counters⟩ := l
  simp only [readInterface, map_eq_ok_iff, interfaceTraffic_eq_ok_iff]
  constructor
  · rintro ⟨t, ht, rfl⟩
    exact ⟨rfl, ht⟩
  · rintro ⟨hname, htraffic⟩
    exact ⟨i.traffic, htraffic, by rw [← hname]⟩

theorem readInterfaces_eq_ok_iff :
    readInterfaces text = .ok is ↔ List.Forall₂ Shows (dataLines text) is := by
  simp only [readInterfaces, mapM_eq_ok_iff, readInterface_eq_ok_iff]
  rfl

/-! ## Sums -/

theorem readTraffic_eq_ok_iff : readTraffic text = .ok t ↔
    ∃ is, List.Forall₂ Shows (dataLines text) is ∧ ∀ x, t.of x = min (totalBytes x is) max64 := by
  simp only [readTraffic_eq, map_eq_ok_iff, readInterfaces_eq_ok_iff]
  refine exists_congr fun is => and_congr_right fun _ => ⟨?_, fun h => ?_⟩
  · rintro rfl x
    cases x <;> rfl
  · rw [← h .received, ← h .sent]
    rfl

theorem exists_sum (is : List Interface) :
    ∃ t : Traffic, ∀ x, t.of x = min (totalBytes x is) max64 :=
  ⟨⟨min (totalBytes .received is) max64, min (totalBytes .sent is) max64⟩, fun x => by
    cases x <;> rfl⟩

theorem exists_shown_iff {ls : List (List Char × List Char)} :
    (∃ is, List.Forall₂ Shows ls is) ↔ ∀ l ∈ ls, ¬ Broken l.2 := by
  have hline (l : List Char × List Char) : ¬ Broken l.2 ↔ ∃ i, Shows l i := by
    rw [not_broken_iff]
    exact ⟨fun ⟨t, ht⟩ => ⟨⟨_, t⟩, rfl, ht⟩, fun ⟨i, hi⟩ => ⟨i.traffic, hi.traffic⟩⟩
  induction ls with
  | nil => simp
  | cons l ls ih =>
    rw [List.forall_mem_cons]
    refine Iff.trans ?_ (and_congr (hline l).symm ih)
    constructor
    · rintro ⟨is, h⟩
      obtain ⟨i, is, hi, his, -⟩ := List.forall₂_cons_left_iff.mp h
      exact ⟨⟨i, hi⟩, is, his⟩
    · rintro ⟨⟨i, hi⟩, is, his⟩
      exact ⟨i :: is, .cons hi his⟩

theorem exists_readTraffic_eq_error_iff :
    (∃ f, readTraffic text = .error f) ↔ ∃ l ∈ dataLines text, Broken l.2 := by
  have hok : (∃ f, readTraffic text = .error f) ↔ ¬ ∃ t, readTraffic text = .ok t := by
    cases readTraffic text <;> simp
  rw [hok, not_iff_comm]
  simp only [not_exists, not_and, ← exists_shown_iff, readTraffic_eq_ok_iff]
  constructor
  · rintro ⟨is, his⟩
    obtain ⟨t, ht⟩ := exists_sum is
    exact ⟨t, is, his, ht⟩
  · rintro ⟨t, is, his, -⟩
    exact ⟨is, his⟩

theorem totalBytes_perm (h : is.Perm is') : totalBytes x is = totalBytes x is' :=
  (h.map _).sum_eq

/-- The order of the lines does not matter, nor does what stands between them. -/
theorem readTraffic_of_perm (h : (dataLines text').Perm (dataLines text))
    (ht : readTraffic text = .ok t) : readTraffic text' = .ok t := by
  obtain ⟨is, his, hsum⟩ := readTraffic_eq_ok_iff.mp ht
  obtain ⟨is', his', hperm⟩ := List.perm_comp_forall₂ h his
  refine readTraffic_eq_ok_iff.mpr ⟨is', his', fun x => ?_⟩
  rw [hsum, totalBytes_perm hperm]

/-- Without one of its lines a text can still be read, and shows no more than with it. -/
theorem readTraffic_without (h : (dataLines text').Perm (l :: dataLines text))
    (ht : readTraffic text' = .ok t) :
    ∃ t', readTraffic text = .ok t' ∧ ∀ x, t'.of x ≤ t.of x := by
  obtain ⟨is, his, hsum⟩ := readTraffic_eq_ok_iff.mp ht
  obtain ⟨is', his', hperm⟩ := List.perm_comp_forall₂ h.symm his
  obtain ⟨i, is', hi, hrest, rfl⟩ := List.forall₂_cons_left_iff.mp his'
  obtain ⟨t', ht'⟩ := exists_sum is'
  refine ⟨t', readTraffic_eq_ok_iff.mpr ⟨is', hrest, ht'⟩, fun x => ?_⟩
  have hmore : totalBytes x is' ≤ totalBytes x is := by
    rw [← totalBytes_perm hperm, totalBytes, totalBytes, List.map_cons, List.sum_cons]
    exact Nat.le_add_left _ _
  rw [ht', hsum]
  omega

/-- A line that is not one of an interface changes nothing. -/
theorem readTraffic_of_stray {above below : List (List Char)}
    (h : (Text.lines text).drop 2 = above ++ below)
    (h' : (Text.lines text').drop 2 = above ++ line :: below)
    (hline : ∀ name counters, ¬ DataLine line name counters) :
    readTraffic text' = readTraffic text := by
  have hnone : dataLine? line = none :=
    Option.eq_none_iff_forall_ne_some.mpr fun l hl => hline _ _ (dataLine?_eq_some_iff.mp hl)
  have hsame : readInterfaces text' = readInterfaces text := by
    rw [readInterfaces, readInterfaces, h, h', List.filterMap_append, List.filterMap_append,
      List.filterMap_cons_none hnone]
  rw [readTraffic_eq, readTraffic_eq, hsame]

/-- **A text adds up each of its interfaces once.** It cannot be read exactly if a line of an
interface is broken, and shows the sums over all such lines otherwise, as far as 64 bits go. So the
sums hang neither on the order of the lines nor on lines of other kinds, and one more interface
never lowers them. -/
theorem each_interface_counts_once (text : List Char) :
    (∀ l, l ∈ dataLines text ↔ ∃ line ∈ (Text.lines text).drop 2, DataLine line l.1 l.2) ∧
    ((∃ f, readTraffic text = .error f) ↔ ∃ l ∈ dataLines text, Broken l.2) ∧
    (∀ t, readTraffic text = .ok t ↔
      ∃ is, List.Forall₂ Shows (dataLines text) is ∧
        ∀ x, t.of x = min (totalBytes x is) max64) ∧
    (∀ text' t, (dataLines text').Perm (dataLines text) →
      (readTraffic text' = .ok t ↔ readTraffic text = .ok t)) ∧
    (∀ text' above line below, (Text.lines text).drop 2 = above ++ below →
      (Text.lines text').drop 2 = above ++ line :: below →
      (∀ name counters, ¬ DataLine line name counters) →
      readTraffic text' = readTraffic text) ∧
    ∀ text' l t', (dataLines text').Perm (l :: dataLines text) → readTraffic text' = .ok t' →
      ∃ t, readTraffic text = .ok t ∧ ∀ x, t.of x ≤ t'.of x := by
  refine ⟨fun l => ?_, exists_readTraffic_eq_error_iff, fun t => readTraffic_eq_ok_iff,
    fun text' t h => ⟨readTraffic_of_perm h.symm, readTraffic_of_perm h⟩,
    fun _ _ _ _ => readTraffic_of_stray, fun _ _ _ => readTraffic_without⟩
  simp only [dataLines, List.mem_filterMap, dataLine?_eq_some_iff]

/-- A text of some lines below two lines of titles. -/
def titled (ls : List String) : List Char :=
  ("-\n-\n" ++ "\n".intercalate ls).toList

/-- An interface that has received all that 64 bits hold. -/
def fullLine : String := "eth0: 18446744073709551615 0 0 0 0 0 0 0 2"

/-- Another interface. -/
def otherLine : String := " eth1: +1 0 0 0 0 0 0 0 3"

/-- What the two interfaces have received does not fit into 64 bits. It is the same the other way
round, with the loopback, and with a line of another kind; one of them alone shows less. -/
theorem full_text_is_capped :
    ∃ t, readTraffic (titled [fullLine, otherLine]) = .ok t ∧ t.received = max64 ∧ t.sent = 5 ∧
      readTraffic (titled [" lo: 9 0 0 0 0 0 0 0 9", otherLine, fullLine]) = .ok t ∧
      readTraffic (titled [fullLine, "no colon", otherLine]) = .ok t ∧
      ∃ t', readTraffic (titled [otherLine]) = .ok t' ∧ ∀ x, t'.of x ≤ t.of x := by
  have hread : readTraffic (titled [fullLine, otherLine]) = .ok ⟨max64, 5⟩ := rfl
  have hturned : (dataLines (titled [" lo: 9 0 0 0 0 0 0 0 9", otherLine, fullLine])).Perm
      (dataLines (titled [fullLine, otherLine])) := by decide +kernel
  have hmore : (dataLines (titled [fullLine, otherLine])).Perm
      (("eth0".toList, (fullLine.toList).drop 5) :: dataLines (titled [otherLine])) := by
    decide +kernel
  have hstray (name counters : List Char) : ¬ DataLine "no colon".toList name counters := by
    rintro ⟨heq, -, -⟩
    have hcolon : ':' ∈ "no colon".toList := heq ▸ by simp
    revert hcolon
    decide
  obtain ⟨-, -, -, horder, hskip, -⟩ := each_interface_counts_once (titled [fullLine, otherLine])
  obtain ⟨-, -, -, -, -, hless⟩ := each_interface_counts_once (titled [otherLine])
  exact ⟨_, hread, rfl, rfl, (horder _ _ hturned).mpr hread,
    (hskip _ [fullLine.toList] _ [otherLine.toList] rfl rfl hstray).trans hread,
    hless _ _ _ hmore hread⟩

end NodePressure.Host
