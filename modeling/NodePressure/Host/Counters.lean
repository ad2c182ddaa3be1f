import NodePressure.Number.Decimal
import NodePressure.NameMap

/-!
# NodePressure.Host.Counters - the counters of the host

The kernel publishes its counters in four texts: processor times, memory, block devices and
network interfaces. Each reader takes what sampling needs from one of them and says what is wrong
with a text that lacks it.
-/

namespace NodePressure.Host

/-- The texts that counters are read from. -/
inductive Source
  | stat
  | meminfo
  | diskstats
  | netDev
  deriving DecidableEq, Repr

/-- The path of a text below the root. -/
def Source.path : Source → String
  | .stat => "stat"
  | .meminfo => "meminfo"
  | .diskstats => "diskstats"
  | .netDev => "net/dev"

/-- What is wrong with a text. -/
inductive Malformed
  | noTotals
  | tooFewTimes
  | noMemory
  | number (f : Number.Fault)
  | deviceNumber (device : String) (f : Number.Fault)
  | shortInterface (name : String)
  deriving DecidableEq, Repr

/-- The wording of a fault. -/
def Malformed.message : Malformed → String
  | .noTotals => "missing aggregate cpu line"
  | .tooFewTimes => "too few cpu fields"
  | .noMemory => "missing MemTotal or MemAvailable"
  | .number f => f.message
  | .deviceNumber device f => device ++ ": " ++ f.message
  | .shortInterface name => "interface " ++ name ++ " has too few fields"

/-- A counter of 64 bits. -/
def counter (s : List Char) : Except Malformed Nat :=
  match Number.readUnsigned Number.max64 s with
  | .ok n => .ok n
  | .error f => .error (.number f)

/-- Processor time, in all and without idle time. -/
structure CpuTimes where
  busy : Nat
  total : Nat
  deriving DecidableEq, Repr

/-- The times of a row of counters: the total of all, of which those of idling and of waiting for
input and output do not count as busy. -/
def CpuTimes.ofFields (fields : List Nat) : CpuTimes :=
  let total := fields.foldl Number.capAdd 0
  let idle := Number.capAdd (fields.getD 3 0) (fields.getD 4 0)
  ⟨total - idle, total⟩

/-- The line with the times of all processors together. -/
def totalsLine? (s : List Char) : Option (List Char) :=
  (Text.lines s).find? (Text.startsWith ['c', 'p', 'u', ' '])

/-- Reads the processor times: of the first line for all processors the first eight counters, of
which four have to be there. -/
def readCpuTimes (s : List Char) : Except Malformed CpuTimes := do
  match totalsLine? s with
  | none => throw .noTotals
  | some line =>
    let fields ← (((Text.words line).drop 1).take 8).mapM counter
    if fields.length < 4 then throw .tooFewTimes
    return CpuTimes.ofFields fields

/-- Total and available memory as far as the lines read so far give them. -/
abbrev Memory := Option Nat × Option Nat

/-- Takes up one line; the last line of a name counts, also if its number cannot be read. -/
def Memory.line (m : Memory) (line : List Char) : Memory :=
  let value (r : List (List Char)) : Option Nat := do
    (Number.readUnsigned Number.max64 (← r.head?)).toOption
  match Text.words line with
  | name :: r =>
    if name == "MemTotal:".toList then (value r, m.2)
    else if name == "MemAvailable:".toList then (m.1, value r)
    else m
  | [] => m

/-- Reads the percentage of memory that is available. -/
def readMemory (s : List Char) : Except Malformed Float :=
  match (Text.lines s).foldl Memory.line (none, none) with
  | (some total, some available) =>
    if 0 < total then .ok (Number.ofNat available / Number.ofNat total * 100.0)
    else .error .noMemory
  | _ => .error .noMemory

/-- The beginnings of the names of devices that are no disks. -/
def ignoredDevices : List String := ["loop", "ram", "zram", "fd", "sr"]

/-- Takes the milliseconds that a device spent on input and output from its line, if the line is
one of a disk. -/
def deviceTicks? (line : List Char) : Except Malformed (Option (String × Nat)) :=
  match Text.words line with
  | _ :: _ :: device :: _ :: _ :: _ :: _ :: _ :: _ :: _ :: _ :: _ :: ticks :: _ =>
    if ignoredDevices.any fun p => Text.startsWith p.toList device then .ok none
    else
      match Number.readUnsigned Number.max64 ticks with
      | .ok n => .ok (some (String.ofList device, n))
      | .error f => .error (.deviceNumber (String.ofList device) f)
  | _ => .ok none

/-- Reads the milliseconds that each disk spent on input and output. -/
def readDisks (s : List Char) : Except Malformed (NameMap Nat) :=
  (Text.lines s).foldlM
    (fun m line => do
      match ← deviceTicks? line with
      | some (device, n) => return m.insert device n
      | none => return m)
    NameMap.empty

/-- Bytes received and sent. -/
structure Traffic where
  received : Nat
  sent : Nat
  deriving DecidableEq, Repr

/-- The sum of two amounts of traffic, each direction as far as 64 bits go. -/
def Traffic.add (a b : Traffic) : Traffic :=
  ⟨Number.capAdd a.received b.received, Number.capAdd a.sent b.sent⟩

/-- The traffic of an interface from the counters behind its name. -/
def interfaceTraffic (name counters : List Char) : Except Malformed Traffic := do
  match Text.words counters with
  | rx :: _ :: _ :: _ :: _ :: _ :: _ :: _ :: tx :: _ => return ⟨← counter rx, ← counter tx⟩
  | _ => throw (.shortInterface (String.ofList (Text.trim name)))

/-- The traffic of a line, if it is one of an interface other than the loopback. -/
def lineTraffic? (line : List Char) : Except Malformed (Option Traffic) :=
  match Text.splitOnce ':' line with
  | none => .ok none
  | some (name, counters) =>
    if Text.trim name == ['l', 'o'] then .ok none else (interfaceTraffic name counters).map some

/-- Reads the traffic of all interfaces together; two lines of headings precede them. -/
def readTraffic (s : List Char) : Except Malformed Traffic :=
  ((Text.lines s).drop 2).foldlM
    (fun sum line => do
      match ← lineTraffic? line with
      | some t => return sum.add t
      | none => return sum)
    ⟨0, 0⟩

/-- What a sample keeps to compute rates from later. -/
structure Counters where
  cpu : CpuTimes
  disks : NameMap Nat
  traffic : Traffic

end NodePressure.Host
