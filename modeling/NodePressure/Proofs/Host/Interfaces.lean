import Mathlib.Algebra.BigOperators.Group.Finset.Piecewise
import Mathlib.Algebra.Order.BigOperators.Group.Finset
import NodePressure.Proofs.Host.Samples
import NodePressure.Proofs.Number.Sums

/-!
# NodePressure.Proofs.Host.Interfaces - the traffic of single interfaces

A text lists interfaces, and its traffic is the sum over those other than the loopback
(`readTraffic_eq`). Rates come from the difference of two such sums, which is what the interfaces in
both texts have grown by, with what has appeared and without what is gone (`totalBytes_sub`). So the
growth of an interface is seen but for what is gone (`interface_growth_le_add_missing`), and an
interface that goes can hide what another one has carried (`gone_interface_hides_traffic`).
-/

namespace NodePressure.Host

/-- Where traffic goes. -/
inductive Direction
  | received
  | sent
  deriving DecidableEq

/-- The bytes of one direction. -/
def Traffic.of (t : Traffic) : Direction → Nat
  | .received => t.received
  | .sent => t.sent

/-- An interface other than the loopback. -/
structure Interface where
  name : List Char
  traffic : Traffic
  deriving DecidableEq

variable {x : Direction} {is is' : List Interface} {p : List Char → Bool}

/-! ## The interfaces of a text -/

/-- The name and the counters of a line, if it is one of an interface other than the loopback. -/
def dataLine? (line : List Char) : Option (List Char × List Char) :=
  match Text.splitOnce ':' line with
  | none => none
  | some (name, counters) => if Text.trim name == ['l', 'o'] then none else some (name, counters)

/-- Reads an interface. -/
def readInterface : List Char × List Char → Except Malformed Interface
  | (name, counters) => (interfaceTraffic name counters).map (⟨Text.trim name, ·⟩)

/-- Reads the interfaces of a text, but for the loopback; two lines of headings precede them. -/
def readInterfaces (text : List Char) : Except Malformed (List Interface) :=
  (((Text.lines text).drop 2).filterMap dataLine?).mapM readInterface

/-- The bytes of the interfaces whose names satisfy `p`. -/
def bytes (x : Direction) (p : List Char → Bool) (is : List Interface) : Nat :=
  ((is.filter fun i => p i.name).map (·.traffic.of x)).sum

/-- The bytes of all interfaces. -/
def totalBytes (x : Direction) (is : List Interface) : Nat :=
  (is.map (·.traffic.of x)).sum

/-- What a line adds to a sum. -/
def addLine (sum : Traffic) (line : List Char) : Except Malformed Traffic :=
  match dataLine? line with
  | none => .ok sum
  | some l => (readInterface l).map fun i => sum.add i.traffic

theorem readTraffic_eq_foldlM (text : List Char) :
    readTraffic text = ((Text.lines text).drop 2).foldlM addLine ⟨0, 0⟩ := by
  rw [readTraffic]
  congr 1
  funext sum line
  rw [lineTraffic?, addLine, dataLine?]
  cases Text.splitOnce ':' line with
  | none => rfl
  | some l =>
    obtain ⟨name, counters⟩ := l
    by_cases hlo : (Text.trim name == ['l', 'o']) = true
    · simp only [hlo, if_true]
      rfl
    · simp only [if_neg hlo, readInterface]
      cases interfaceTraffic name counters <;> rfl

/-- Adding up line by line is reading the interfaces and adding them up. -/
theorem foldlM_addLine (a : Traffic) (lines : List (List Char)) :
    lines.foldlM addLine a = ((lines.filterMap dataLine?).mapM readInterface).map fun is =>
      is.foldl (fun sum i => sum.add i.traffic) a := by
  induction lines generalizing a with
  | nil => rfl
  | cons line lines ih =>
    rw [List.foldlM_cons, addLine, List.filterMap_cons]
    cases dataLine? line with
    | none => exact ih a
    | some l =>
      simp only [List.mapM_cons]
      cases readInterface l with
      | error f => rfl
      | ok i =>
        refine (ih (a.add i.traffic)).trans ?_
        cases (lines.filterMap dataLine?).mapM readInterface <;> rfl

theorem foldl_add {a : Traffic} (ha : ∀ x, a.of x ≤ Number.max64) (is : List Interface) (x) :
    (is.foldl (fun sum i => sum.add i.traffic) a).of x =
      min (a.of x + totalBytes x is) Number.max64 := by
  induction is generalizing a with
  | nil => simp [totalBytes, ha x]
  | cons i is ih =>
    have hof (x) : (a.add i.traffic).of x = Number.capAdd (a.of x) (i.traffic.of x) := by
      cases x <;> rfl
    rw [List.foldl_cons, ih fun x => hof x ▸ Number.capAdd_le_max64 _ _, hof, totalBytes,
      totalBytes, List.map_cons, List.sum_cons, Number.capAdd]
    omega

/-- The traffic of a text is the sum over its interfaces, as far as 64 bits go. -/
theorem readTraffic_eq (text : List Char) :
    readTraffic text = (readInterfaces text).map fun is =>
      ⟨min (totalBytes .received is) Number.max64, min (totalBytes .sent is) Number.max64⟩ := by
  rw [readTraffic_eq_foldlM, foldlM_addLine, readInterfaces]
  congr 1
  funext is
  have hzero (x : Direction) : (⟨0, 0⟩ : Traffic).of x = 0 := by cases x <;> rfl
  have hsum := foldl_add (a := ⟨0, 0⟩) (fun x => (hzero x).le.trans (Nat.zero_le _)) is
  simp only [hzero, Nat.zero_add] at hsum
  rw [← hsum, ← hsum]
  rfl

/-! ## The interfaces of two texts -/

/-- The names of interfaces. -/
def names (is : List Interface) : Finset (List Char) :=
  (is.map Interface.name).toFinset

/-- The names of the interfaces that are in both lists. -/
def kept (is is' : List Interface) : Finset (List Char) :=
  names is ∩ names is'

/-- The bytes of the interfaces of one name. -/
def bytesOf (x : Direction) (name : List Char) (is : List Interface) : Nat :=
  bytes x (· == name) is

/-- The bytes of the interfaces of the first list that the second one lacks. -/
def missingBytes (x : Direction) (is is' : List Interface) : Nat :=
  bytes x (fun name => name ∉ names is') is

/-- What the interfaces in both lists grow by from the first list to the second one. -/
def grownBytes (x : Direction) (is is' : List Interface) : Nat :=
  ∑ name ∈ kept is is', (bytesOf x name is' - bytesOf x name is)

theorem bytes_cons (i : Interface) :
    bytes x p (i :: is) = (if p i.name then i.traffic.of x else 0) + bytes x p is := by
  cases h : p i.name <;> simp [bytes, h]

theorem bytes_congr {q : List Char → Bool} (h : ∀ name ∈ names is, p name = q name) :
    bytes x p is = bytes x q is := by
  rw [bytes, bytes, List.filter_congr fun i hi =>
    h i.name (List.mem_toFinset.mpr (List.mem_map_of_mem hi))]

theorem sum_bytesOf (s : Finset (List Char)) (is : List Interface) :
    ∑ name ∈ s, bytesOf x name is = bytes x (· ∈ s) is := by
  induction is with
  | nil => simp [bytesOf, bytes]
  | cons i is ih =>
    -- the first interface counts at its own name, and only there
    simp only [bytesOf, bytes_cons, Finset.sum_add_distrib, beq_iff_eq, decide_eq_true_eq,
      Finset.sum_ite_eq]
    rw [← ih]
    rfl

theorem totalBytes_eq_add (x : Direction) (p : List Char → Bool) (is : List Interface) :
    totalBytes x is = bytes x p is + bytes x (fun name => !p name) is := by
  induction is with
  | nil => rfl
  | cons i is ih =>
    rw [bytes_cons, bytes_cons, totalBytes, List.map_cons, List.sum_cons, ← totalBytes, ih]
    cases p i.name <;> simp <;> omega

/-- All bytes are those of the interfaces that are kept and of those that are not. -/
theorem totalBytes_eq_kept (x : Direction) (is is' : List Interface) :
    totalBytes x is = ∑ name ∈ kept is is', bytesOf x name is + missingBytes x is is' := by
  rw [totalBytes_eq_add x (· ∈ kept is is'), sum_bytesOf, missingBytes]
  congr 1
  refine bytes_congr fun name hname => ?_
  simp [kept, hname]

theorem grownBytes_add (h : ∀ name ∈ kept is is', bytesOf x name is ≤ bytesOf x name is') :
    grownBytes x is is' + ∑ name ∈ kept is is', bytesOf x name is =
      ∑ name ∈ kept is is', bytesOf x name is' := by
  rw [grownBytes, ← Finset.sum_add_distrib]
  exact Finset.sum_congr rfl fun name hname => Nat.sub_add_cancel (h name hname)

/-- What all bytes grow by is what the interfaces in both lists grow by, with what appears and
without what is gone. -/
theorem totalBytes_sub (h : ∀ name ∈ kept is is', bytesOf x name is ≤ bytesOf x name is') :
    totalBytes x is' - totalBytes x is =
      grownBytes x is is' + missingBytes x is' is - missingBytes x is is' := by
  have hgrown := grownBytes_add h
  have hbefore := totalBytes_eq_kept x is is'
  have hnow := totalBytes_eq_kept x is' is
  rw [kept, Finset.inter_comm, ← kept] at hnow
  omega

/-- Nothing is missing if the second list has all names of the first. -/
theorem missingBytes_eq_zero (h : names is ⊆ names is') : missingBytes x is is' = 0 := by
  rw [missingBytes, bytes_congr (q := fun _ => false) fun name hname => by simp [h hname]]
  simp [bytes]

theorem le_grownBytes {name : List Char} (h : name ∈ kept is is') :
    bytesOf x name is' - bytesOf x name is ≤ grownBytes x is is' :=
  Finset.single_le_sum (f := fun name => bytesOf x name is' - bytesOf x name is)
    (fun _ _ => Nat.zero_le _) h

/-! ## Two samples -/

/-- The interfaces that a host lists, and its traffic. -/
def Listed (files : FileTree) (root : String) (is : List Interface) (t : Traffic) : Prop :=
  ∃ netDev, Source.netDev.read files root = .ok netDev ∧
    readInterfaces netDev.toList = .ok is ∧ readTraffic netDev.toList = .ok t

/-- What the texts show lists interfaces. -/
theorem Shown.listed {files : FileTree} {root stat netDev : String} {c : Counters}
    (h : Shown files root stat netDev c) : ∃ is, Listed files root is c.traffic := by
  have htraffic := h.traffic
  rw [readTraffic_eq, map_eq_ok_iff] at htraffic
  obtain ⟨is, his, -⟩ := htraffic
  exact ⟨is, netDev, h.readNetDev, his, h.traffic⟩

theorem Listed.of_eq {files : FileTree} {root : String} {t : Traffic}
    (h : Listed files root is t) (x : Direction) :
    t.of x = min (totalBytes x is) Number.max64 := by
  obtain ⟨netDev, -, his, ht⟩ := h
  rw [readTraffic_eq, his] at ht
  obtain rfl := Except.ok.inj ht
  cases x <;> rfl

theorem Listed.unique {files : FileTree} {root : String} {t t' : Traffic}
    (h : Listed files root is t) (h' : Listed files root is' t') : is = is' ∧ t = t' := by
  obtain ⟨netDev, hread, his, ht⟩ := h
  obtain ⟨netDev', hread', his', ht'⟩ := h'
  obtain rfl := Except.ok.inj (hread.symm.trans hread')
  exact ⟨Except.ok.inj (his.symm.trans his'), Except.ok.inj (ht.symm.trans ht')⟩

/-- What one direction carries in a second. -/
def Usage.perSecond (u : Usage) : Direction → Float
  | .received => u.receivedPerSecond
  | .sent => u.sentPerSecond

/-- Bytes by the second; none if no time has passed. -/
def rate (bytes : Nat) (elapsed : Span) : Float :=
  if seconds elapsed ≤ 0.0 then 0.0 else Number.ofNat bytes / seconds elapsed

theorem perSecond_between (before now : Counters) (elapsed : Span) (memory : Float) :
    (Usage.between before now elapsed memory).perSecond x =
      rate (now.traffic.of x - before.traffic.of x) elapsed := by
  simp only [Usage.between, rate]
  cases x <;> split <;> rfl

variable {s : Sampler} {v w : Visit} {between : List Visit} {u : Usage}

/-- **The growth of an interface is seen, but for the bytes of those that are gone.** The second of
two good samples in a row shows the rate of what the sums over the interfaces grow by. With sums of
at most 64 bits and no interface counting backwards, this is the growth of the interfaces in both
samples, with what appears and without what is gone. So it falls short of the growth of a single
interface by no more than what is gone, and not at all if no interface of the first sample is. -/
theorem interface_growth_le_add_missing (h : s.Consecutive v between w u) :
    ∃ is is' before now, Listed v.1 s.root is before ∧ Listed w.1 s.root is' now ∧
      ∀ x, u.perSecond x = rate (now.of x - before.of x) (Span.between v.2 w.2) ∧
        (totalBytes x is ≤ Number.max64 → totalBytes x is' ≤ Number.max64 →
          (∀ name ∈ kept is is', bytesOf x name is ≤ bytesOf x name is') →
          now.of x - before.of x =
            grownBytes x is is' + missingBytes x is' is - missingBytes x is is' ∧
          ∀ name ∈ kept is is',
            bytesOf x name is' - bytesOf x name is ≤
              now.of x - before.of x + missingBytes x is is' ∧
            (names is ⊆ names is' →
              bytesOf x name is' - bytesOf x name is ≤ now.of x - before.of x)) := by
  obtain ⟨before, now, memory, ⟨_, _, shown⟩, ⟨_, _, shown'⟩, rfl⟩ := h.usage
  obtain ⟨is, listed⟩ := shown.listed
  obtain ⟨is', listed'⟩ := shown'.listed
  refine ⟨is, is', before.traffic, now.traffic, listed, listed', fun x =>
    ⟨perSecond_between before now _ memory, fun fits fits' grows => ?_⟩⟩
  have hgrowth : now.traffic.of x - before.traffic.of x =
      grownBytes x is is' + missingBytes x is' is - missingBytes x is is' := by
    rw [listed.of_eq, listed'.of_eq, Nat.min_eq_left fits, Nat.min_eq_left fits']
    exact totalBytes_sub grows
  refine ⟨hgrowth, fun name hname => ?_⟩
  have hle := le_grownBytes (x := x) hname
  refine ⟨by omega, fun hsub => ?_⟩
  rw [missingBytes_eq_zero hsub] at hgrowth
  omega

/-! ## A pod that comes and goes -/

/-- A host with one interface. -/
def hostAlone : FileTree :=
  filesOf "cpu 1 2 3 4\n" "-\n-\neth0: 600 0 0 0 0 0 0 0 50\n"

/-- The same host with a pod, which has an interface of its own. -/
def hostWithPod : FileTree :=
  filesOf "cpu 1 2 3 4\n" "-\n-\neth0: 1000 0 0 0 0 0 0 0 70\nveth1: 5000 0 0 0 0 0 0 0 60\n"

/-- The same host after the pod has gone. -/
def hostWithoutPod : FileTree :=
  filesOf "cpu 1 2 3 4\n" "-\n-\neth0: 2000 0 0 0 0 0 0 0 95\n"

/-- The interface of the host. -/
def eth0 (received sent : Nat) : Interface :=
  ⟨"eth0".toList, ⟨received, sent⟩⟩

theorem listed_hostAlone : Listed hostAlone "/proc" [eth0 600 50] ⟨600, 50⟩ :=
  ⟨_, rfl, rfl, rfl⟩

theorem listed_hostWithPod : Listed hostWithPod "/proc"
    [eth0 1000 70, ⟨"veth1".toList, ⟨5000, 60⟩⟩] ⟨6000, 130⟩ :=
  ⟨_, rfl, rfl, rfl⟩

theorem listed_hostWithoutPod : Listed hostWithoutPod "/proc" [eth0 2000 95] ⟨2000, 95⟩ :=
  ⟨_, rfl, rfl, rfl⟩

theorem measure_hostWithPod : (measure hostWithPod "/proc").isOk = true := by
  decide +kernel

/-- When the pod comes, the host has received 400 bytes, and the rate is that of 5400: what appears
counts in full. -/
theorem pod_comes :
    ∃ (u : Usage) (before now : Traffic) (is is' : List Interface),
      (Sampler.fresh "/proc").Consecutive (hostAlone, 0) [] (hostWithPod, Span.seconds 5) u ∧
      Listed hostAlone "/proc" is before ∧ Listed hostWithPod "/proc" is' now ∧
      is = [eth0 600 50] ∧ is' = [eth0 1000 70, ⟨"veth1".toList, ⟨5000, 60⟩⟩] ∧
      u.perSecond .received = rate 5400 (Span.seconds 5) ∧
      now.of .received - before.of .received = 400 + 5000 - 0 ∧
      400 ≤ now.of .received - before.of .received := by
  obtain ⟨u, h⟩ : ∃ u, (Sampler.fresh "/proc").Consecutive (hostAlone, 0) []
      (hostWithPod, Span.seconds 5) u :=
    Sampler.exists_consecutive (by decide +kernel) (by simp) measure_hostWithPod
  obtain ⟨is, is', before, now, listed, listed', hgrowth⟩ := interface_growth_le_add_missing h
  obtain ⟨rfl, rfl⟩ := listed.unique listed_hostAlone
  obtain ⟨rfl, rfl⟩ := listed'.unique listed_hostWithPod
  obtain ⟨hrate, hgrowth⟩ := hgrowth .received
  obtain ⟨hall, heach⟩ := hgrowth (by decide) (by decide) (by decide +kernel)
  have hmem : "eth0".toList ∈ kept [eth0 600 50] [eth0 1000 70, ⟨"veth1".toList, ⟨5000, 60⟩⟩] := by
    decide +kernel
  exact ⟨u, _, _, _, _, h, listed, listed', rfl, rfl, hrate, hall,
    (heach _ hmem).2 (by decide +kernel)⟩

/-- **An interface that goes hides the traffic of another one.** With the pod's interface 5000 bytes
are gone, so nothing is seen of the 1000 bytes that the host has received. -/
theorem gone_interface_hides_traffic :
    ∃ (u : Usage) (before now : Traffic) (is is' : List Interface),
      (Sampler.fresh "/proc").Consecutive (hostWithPod, 0) [] (hostWithoutPod, Span.seconds 5) u ∧
      Listed hostWithPod "/proc" is before ∧ Listed hostWithoutPod "/proc" is' now ∧
      totalBytes .received is ≤ Number.max64 ∧ totalBytes .received is' ≤ Number.max64 ∧
      (∀ name ∈ kept is is', bytesOf .received name is ≤ bytesOf .received name is') ∧
      "eth0".toList ∈ kept is is' ∧
      bytesOf .received "eth0".toList is' - bytesOf .received "eth0".toList is = 1000 ∧
      now.of .received - before.of .received = 0 ∧
      u.perSecond .received = rate 0 (Span.seconds 5) := by
  obtain ⟨u, h⟩ : ∃ u, (Sampler.fresh "/proc").Consecutive (hostWithPod, 0) []
      (hostWithoutPod, Span.seconds 5) u :=
    Sampler.exists_consecutive measure_hostWithPod (by simp) (by decide +kernel)
  obtain ⟨before, now, memory, ⟨_, _, shown⟩, ⟨_, _, shown'⟩, rfl⟩ := h.usage
  obtain ⟨is, listed⟩ := shown.listed
  obtain ⟨is', listed'⟩ := shown'.listed
  obtain ⟨rfl, hbefore⟩ := listed.unique listed_hostWithPod
  obtain ⟨rfl, hnow⟩ := listed'.unique listed_hostWithoutPod
  refine ⟨_, _, _, _, _, h, listed, listed', by decide, by decide, by decide +kernel,
    by decide +kernel, by decide +kernel, ?_, ?_⟩
  · rw [hbefore, hnow]
    rfl
  · rw [perSecond_between, hbefore, hnow]
    rfl

end NodePressure.Host
