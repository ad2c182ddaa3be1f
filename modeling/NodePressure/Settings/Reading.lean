import NodePressure.Settings.Basic
import NodePressure.Settings.Fault
import NodePressure.Settings.Tree

/-!
# NodePressure.Settings.Reading - typing settings

Values are taken generously: texts may hold numbers, numbers may stand for texts, and records may
come as lists of their fields. What cannot be taken is refused with its kind, the wanted kind and
its origin.
-/

namespace NodePressure.Settings

/-- Reads a typed value of a section. -/
abbrev Reader (α : Type) := String → Tree → Except SettingsFault α

namespace Tree

/-- What a value is, for a message about its kind. -/
def kind : Tree → String
  | leaf _ .nil => "unit value"
  | leaf _ (.bool b) => "boolean \x60" ++ (if b then "true" else "false") ++ "\x60"
  | leaf _ (.int n) => "64-bit integer \x60" ++ Number.signedText n ++ "\x60"
  | leaf _ (.float x) => "floating point \x60" ++ Number.floatText x ++ "\x60"
  | leaf _ (.text s) => "string " ++ Text.quoted s
  | list .. => "sequence"
  | table .. => "map"

/-- What a value is, for a message about its shape. -/
def shape : Tree → String
  | leaf _ (.int n) => "integer \x60" ++ Number.signedText n ++ "\x60"
  | leaf _ (.float x) => "floating point \x60" ++ Number.floatTextPoint x ++ "\x60"
  | t => t.kind

/-- The fault of a value of another kind than wanted. -/
def wrongKind (t : Tree) (area wanted : String) : SettingsFault :=
  .wrongKind t.kind wanted area t.origin

/-- The fault of a value of another shape than wanted. -/
def misshapen (t : Tree) (wanted : String) : SettingsFault :=
  .misshapen ("invalid type: " ++ t.shape ++ ", expected " ++ wanted)

end Tree

/-- The truth value that a word stands for. -/
def truthOf? (s : String) : Option Bool :=
  let word := String.ofList (Text.lower s.toList)
  if ["true", "on", "yes"].contains word then some true
  else if ["false", "off", "no"].contains word then some false
  else none

/-- A natural number of 64 bits. Floats are rounded, and texts may hold a number or a truth
value. -/
def readWord : Reader Nat := fun area t =>
  match t with
  | .leaf _ (.int n) =>
    if 0 ≤ n then .ok n.toNat else .error (t.wrongKind area "an unsigned 64 bit or less integer")
  | .leaf _ (.float x) => .ok (Number.roundToWord x)
  | .leaf _ (.bool b) => .ok (if b then 1 else 0)
  | .leaf _ (.text s) =>
    match truthOf? s with
    | some b => .ok (if b then 1 else 0)
    | none =>
      match Number.readUnsigned Number.max64 s.toList with
      | .ok n => .ok n
      | .error _ => .error (t.wrongKind area "an integer")
  | t => .error (t.wrongKind area "an integer")

/-- A natural number of fewer than 64 bits. -/
def readNarrow (bits : String) (limit : Nat) : Reader Nat := fun area t => do
  let n ← readWord area t
  if n ≤ limit then return n
  else
    throw (.wrongKind ("64-bit unsigned integer \x60" ++ Number.text n ++ "\x60")
      ("an unsigned " ++ bits ++ " bit integer") area none)

/-- A float. -/
def readFloat : Reader Float := fun area t =>
  match t with
  | .leaf _ (.float x) => .ok x
  | .leaf _ (.int n) => .ok (Number.ofInt n)
  | .leaf _ (.bool b) => .ok (if b then 1.0 else 0.0)
  | .leaf _ (.text s) =>
    match truthOf? s with
    | some b => .ok (if b then 1.0 else 0.0)
    | none =>
      match Number.readFloat s.toList with
      | some x => .ok x
      | none => .error (t.wrongKind area "a floating point")
  | t => .error (t.wrongKind area "a floating point")

/-- A text; numbers and truth values are written out. -/
def readText : Reader String := fun area t =>
  match t with
  | .leaf _ (.text s) => .ok s
  | .leaf _ (.bool b) => .ok (if b then "true" else "false")
  | .leaf _ (.int n) => .ok (Number.signedText n)
  | .leaf _ (.float x) => .ok (Number.floatText x)
  | t => .error (t.wrongKind area "a string")

/-- A value, or nothing. -/
def readOption (f : Reader α) : Reader (Option α) := fun area t =>
  match t with
  | .leaf _ .nil => .ok none
  | t => (f area t).map some

/-- A list of values. -/
def readList (f : Reader α) : Reader (List α) := fun area t =>
  match t with
  | .list _ items => items.mapM (f area)
  | t => .error (t.misshapen "a sequence")

/-- One of the named values: its name in any case, as a text or as the only key of a table. -/
def readName (type : String) (names : List (String × α)) : Reader α := fun _ t =>
  let find (s : String) : Except SettingsFault α :=
    match names.find? (fun n => Text.lower n.1.toList == Text.lower s.toList) with
    | some (_, a) => .ok a
    | none => .error (.misshapen ("enum " ++ type ++ " does not have variant constructor " ++ s))
  match t with
  | .leaf _ (.text s) => find s
  | .table _ [(s, _)] => find s
  | _ => .error (.misshapen ("value of enum " ++ type ++
      " should be represented by either string or table with exactly one key"))

/-- The fields of a record of a given name: the members of a table, or the items of a list in the
order of the fields. -/
def fields (name : String) : Tree → Except SettingsFault (Nat → String → Option Tree)
  | t@(.table ..) => .ok fun _ field => t.member? field
  | .list _ items => .ok fun i _ => items[i]?
  | t => .error (t.misshapen ("struct " ++ name))

/-- A field, or its default if it is missing. -/
def field (area : String) (r : Nat → String → Option Tree) (i : Nat) (name : String) (default : α)
    (f : Reader α) : Except SettingsFault α :=
  match r i name with
  | some t => f area t
  | none => .ok default

end NodePressure.Settings

namespace NodePressure

open Settings

/-- Reads thresholds. -/
def Thresholds.read : Reader Thresholds := fun area t => do
  let r ← fields "ConditionThresholds" t
  let d := Thresholds.default
  return {
    cpuBusyPercent := ← field area r 0 "cpu_busy_percent" d.cpuBusyPercent readFloat
    memoryMinPercent := ← field area r 1 "memory_min_available_percent" d.memoryMinPercent readFloat
    diskBusyPercent := ← field area r 2 "disk_io_busy_percent" d.diskBusyPercent readFloat
    receivedPerSecond := ← field area r 3 "network_rx_bytes_per_sec" d.receivedPerSecond readWord
    sentPerSecond := ← field area r 4 "network_tx_bytes_per_sec" d.sentPerSecond readWord }

/-- Reads a policy. -/
def Policy.read : Reader Policy := fun area t => do
  let r ← fields "VictimPolicy" t
  let d := Policy.default
  return {
    evictAbove := ← field area r 0 "hard_evict_priority" d.evictAbove (readNarrow "32" Number.max32)
    evictFor := ← field area r 1 "hard_evict_kinds" d.evictFor
      (readList (readName "ResourceKind" (Resource.all.map fun k => (k.name, k))))
    protectedSpaces :=
      ← field area r 2 "protected_namespaces" d.protectedSpaces (readList readText) }

/-- Reads the settings of the condition source. -/
def ConditionSettings.read : Reader ConditionSettings := fun area t => do
  let r ← fields "ConditionConfig" t
  let d := ConditionSettings.default
  return {
    graceSeconds := ← field area r 0 "untaint_grace_period_secs" d.graceSeconds readWord
    sampleSeconds := ← field area r 1 "sample_interval_secs" d.sampleSeconds readWord
    procRoot := ← field area r 2 "proc_root" d.procRoot readText
    thresholds := ← field area r 3 "thresholds" d.thresholds Thresholds.read
    policy := ← field area r 4 "victim" d.policy Policy.read }

/-- Reads the settings of the agent. -/
def AgentSettings.read : Reader AgentSettings := fun area t => do
  let r ← fields "AgentConfig" t
  let d := AgentSettings.default
  return {
    tickSeconds := ← field area r 0 "taint_update_period_secs" d.tickSeconds readWord
    resyncTicks := ← field area r 1 "taint_resync_ticks" none
      (readOption (readNarrow "32" Number.max32))
    metricsPort := ← field area r 2 "metrics_port" none (readOption (readNarrow "16" Number.max16))
    keyPrefix := ← field area r 3 "taint_key_prefix" d.keyPrefix readText }

end NodePressure
