import NodePressure.Condition.Fault
import NodePressure.Host.Usage

/-!
# NodePressure.Host.Sampler - taking samples of the host

A sample reads the four texts below the root and compares their counters with those of the last
sample that succeeded. A sample that fails leaves the sampler as it was.
-/

namespace NodePressure

namespace Host

/-- Reads one of the texts below a root. -/
def Source.read (files : FileTree) (root : String) (s : Source) : Except ConditionFault String :=
  let path := FileTree.join root s.path
  match files.readText path with
  | .ok text => .ok text
  | .error f => .error (.unread path f)

/-- Takes a text apart, naming the text if it is malformed. -/
def Source.examine (s : Source) (read : List Char → Except Malformed α) (text : String) :
    Except ConditionFault α :=
  match read text.toList with
  | .ok a => .ok a
  | .error f => .error (.malformed s.path f.message)

/-- The counters below a root, and the share of memory that is available. All texts are read before
the first one is taken apart. -/
def measure (files : FileTree) (root : String) : Except ConditionFault (Counters × Float) := do
  let stat ← Source.stat.read files root
  let meminfo ← Source.meminfo.read files root
  let diskstats ← Source.diskstats.read files root
  let netDev ← Source.netDev.read files root
  let traffic ← Source.netDev.examine readTraffic netDev
  let cpu ← Source.stat.examine readCpuTimes stat
  let disks ← Source.diskstats.examine readDisks diskstats
  let memory ← Source.meminfo.examine readMemory meminfo
  return (⟨cpu, disks, traffic⟩, memory)

end Host

/-- Where samples are taken, and the last one that succeeded. -/
structure Sampler where
  root : String
  previous : Option (Moment × Host.Counters)

namespace Sampler

/-- A sampler that has taken no sample. -/
def fresh (root : String) : Sampler := ⟨root, none⟩

/-- The usage that counters show against those of an earlier moment, if there are such. -/
def usage (previous : Option (Moment × Host.Counters)) (moment : Moment) (now : Host.Counters)
    (memory : Float) : Host.Usage :=
  match previous with
  | some (earlier, before) => Host.Usage.between before now (Span.between earlier moment) memory
  | none => Host.Usage.first memory

/-- Takes a sample, given what the texts show. -/
def take (s : Sampler) (moment : Moment) :
    Except ConditionFault (Host.Counters × Float) → Except ConditionFault Host.Usage × Sampler
  | .ok (now, memory) =>
    (.ok (usage s.previous moment now memory), { s with previous := some (moment, now) })
  | .error f => (.error f, s)

/-- Takes a sample of the files at a moment. -/
def sample (s : Sampler) (files : FileTree) (moment : Moment) :
    Except ConditionFault Host.Usage × Sampler :=
  s.take moment (Host.measure files s.root)

end Sampler

end NodePressure
