import NodePressure.Proofs.Json.Codec
import NodePressure.Proofs.NameMap
import NodePressure.Proofs.Time.Utc
import NodePressure.Telemetry.Form
import NodePressure.Workload.Form

/-!
# NodePressure.Proofs.Json.Forms - decoding undoes encoding

Each type of the model that has a JSON form without floats has a codec, put together from those of
its fields. So a value is decoded from the text that is written for it, and what any text decodes
to can be written and decoded again (`faithful_forms`). Components have no order of their own: a
checkup is decoded from its text whatever the order of its components in it.
-/

namespace NodePressure

open Json

/-! ## Snapshots, flags and names -/

theorem Availability.codec : Codec toJson ofJson? Any where
  stands _ := by
    constructor
    · exact .obj (by simp [Plain.bool])
    · simp [ofJson?, toJson, fields_obj, Fields.required, asBool]
  lands _ := trivial

theorem TaintFlags.codec : Codec toJson ofJson? Any where
  stands {f} _ := by
    have hflags : ofList? (.arr (Dimension.all.map fun d => .bool (f.get d))) = some f := rfl
    constructor
    · exact .obj (by simp [Plain.arr, Plain.bool])
    · simp [ofJson?, toJson, fields_obj, Fields.required, hflags]
  lands _ := trivial

theorem Resource.codec : Codec toJson ofJson? Any :=
  .name fun r => by cases r <;> rfl

theorem Qos.codec : Codec toJson ofJson? Any :=
  .name fun q => by cases q <;> rfl

theorem Status.codec : Codec toJson ofJson? Any :=
  .name fun s => by cases s <;> rfl

/-! ## Workloads and decisions -/

theorem Workload.codec : Codec toJson ofJson? Any where
  stands {w} _ := by
    obtain ⟨puid, huid⟩ := codec_text.stands (a := w.uid) fun _ _ => trivial
    constructor
    · exact .obj (by simp [Plain.str, puid])
    · simp [ofJson?, toJson, fields_obj, Fields.required, Fields.optional, asString, huid]
  lands _ := trivial

/-- The priority has 32 bits. -/
def Decision.InRange (d : Decision) : Prop :=
  d.priority ≤ Number.max32

theorem Decision.codec : Codec toJson ofJson? InRange where
  stands {d} hd := by
    obtain ⟨pworkload, hworkload⟩ := Workload.codec.stands (a := d.workload) trivial
    obtain ⟨ppriority, hpriority⟩ := codec_nat32.stands hd
    constructor
    · exact .obj (by simp [Plain.bool, pworkload, ppriority])
    · simp [ofJson?, toJson, fields_obj, Fields.required, asBool, hworkload, hpriority]
  lands {j d} hread := by
    simp only [ofJson?, Option.bind_eq_bind, Option.bind_eq_some_iff] at hread
    obtain ⟨r, -, w, -, b, -, n, hn, h⟩ := hread
    obtain rfl := Option.some.inj h
    obtain ⟨_, hn⟩ := Fields.exists_of_required hn
    exact codec_nat32.lands hn

/-! ## Candidates -/

theorem Utc.codec : Codec toJson ofJson? Regular where
  stands ht := ⟨.str _, parse?_text ht⟩
  lands {j t} hread := by
    obtain ⟨s, -, hs⟩ := Option.bind_eq_some_iff.mp hread
    exact regular_of_parse? hs

/-- The requests have 64 bits and the priority has 32, and the start can be written. -/
structure Candidate.InRange (c : Candidate) : Prop where
  cpu : c.cpuMillis ≤ Number.max64
  memory : c.memoryBytes ≤ Number.max64
  priority : ∀ n ∈ c.priority, n ≤ Number.max32
  started : ∀ t ∈ c.started, t.Regular

theorem codec_priority :
    Codec (ofOption .nat) (asOption (asNat Number.max32)) (fun o => ∀ n ∈ o, n ≤ Number.max32) :=
  codec_nat32.option fun _ => nofun

theorem codec_started :
    Codec (ofOption Utc.toJson) (asOption Utc.ofJson?) (fun o => ∀ t ∈ o, t.Regular) :=
  Utc.codec.option fun _ => nofun

theorem Candidate.codec : Codec toJson ofJson? InRange where
  stands {c} hc := by
    obtain ⟨pworkload, hworkload⟩ := Workload.codec.stands (a := c.workload) trivial
    obtain ⟨pqos, hqos⟩ := Qos.codec.stands (a := c.qos) trivial
    obtain ⟨pcpu, hcpu⟩ := codec_nat64.stands hc.cpu
    obtain ⟨pmemory, hmemory⟩ := codec_nat64.stands hc.memory
    obtain ⟨ppriority, hpriority⟩ := codec_priority.stands hc.priority
    obtain ⟨pstarted, hstarted⟩ := codec_started.stands hc.started
    constructor
    · exact .obj (by simp [Plain.bool, pworkload, pqos, pcpu, pmemory, ppriority, pstarted])
    · simp [ofJson?, toJson, fields_obj, Fields.required, Fields.optional, asBool, hworkload, hqos,
        hcpu, hmemory, hpriority, hstarted]
  lands {j c} hread := by
    simp only [ofJson?, Option.bind_eq_bind, Option.bind_eq_some_iff] at hread
    obtain ⟨r, -, w, -, q, -, cpu, hcpu, memory, hmemory, p, hp, s, hs, hread⟩ := hread
    obtain ⟨daemon, -, mirror, -, critical, -, terminated, -, h⟩ := hread
    obtain rfl := Option.some.inj h
    obtain ⟨_, hcpu⟩ := Fields.exists_of_required hcpu
    obtain ⟨_, hmemory⟩ := Fields.exists_of_required hmemory
    refine ⟨codec_nat64.lands hcpu, codec_nat64.lands hmemory, ?_, ?_⟩
    · rcases Fields.exists_of_optional hp with rfl | ⟨_, hp⟩
      · exact nofun
      · exact codec_priority.lands hp
    · rcases Fields.exists_of_optional hs with rfl | ⟨_, hs⟩
      · exact nofun
      · exact codec_started.lands hs

/-! ## Policies -/

/-- The threshold has 32 bits. -/
def Policy.InRange (p : Policy) : Prop :=
  p.evictAbove ≤ Number.max32

theorem Policy.codec : Codec toJson ofJson? InRange where
  stands {p} hp := by
    obtain ⟨pabove, habove⟩ := codec_nat32.stands hp
    obtain ⟨pfor, hfor⟩ := Resource.codec.list.stands (a := p.evictFor) fun _ _ => trivial
    obtain ⟨pspaces, hspaces⟩ :=
      Codec.string.list.stands (a := p.protectedSpaces) fun _ _ => trivial
    constructor
    · exact .obj (by simp [pabove, pfor, pspaces])
    · simp [ofJson?, toJson, fields_obj, Fields.orElse, habove, hfor, hspaces]
  lands {j p} hread := by
    simp only [ofJson?, Option.bind_eq_bind, Option.bind_eq_some_iff] at hread
    obtain ⟨r, -, n, hn, kinds, -, spaces, -, h⟩ := hread
    obtain rfl := Option.some.inj h
    rcases Fields.exists_of_orElse hn with rfl | ⟨_, hn⟩
    · show Policy.default.evictAbove ≤ Number.max32
      decide
    · exact codec_nat32.lands hn

/-! ## Health -/

/-- The count of failures has 32 bits and the time of the report has 64. -/
structure Health.InRange (h : Health) : Prop where
  failures : h.failures ≤ Number.max32
  checked : IsInt64 h.checked

theorem Health.codec : Codec toJson ofJson? InRange where
  stands {h} hh := by
    obtain ⟨pstatus, hstatus⟩ := Status.codec.stands (a := h.status) trivial
    obtain ⟨pfailures, hfailures⟩ := codec_nat32.stands hh.failures
    obtain ⟨pchecked, hchecked⟩ := Codec.int.stands hh.checked
    obtain ⟨status, message, failures, checked⟩ := h
    -- a message is either a member of its own or not there at all
    cases message <;> constructor
    case none.plain | some.plain =>
      exact .obj (by simp [optionalMember, Plain.str, pstatus, pfailures, pchecked])
    case none.decodes | some.decodes =>
      simp [ofJson?, toJson, optionalMember, fields_obj, Fields.required, Fields.optional, asOption,
        asString, hstatus, hfailures, hchecked]
  lands {j h} hread := by
    simp only [ofJson?, Option.bind_eq_bind, Option.bind_eq_some_iff] at hread
    obtain ⟨r, -, status, -, message, -, n, hn, t, ht, h⟩ := hread
    obtain rfl := Option.some.inj h
    obtain ⟨_, hn⟩ := Fields.exists_of_required hn
    obtain ⟨_, ht⟩ := Fields.exists_of_required ht
    exact ⟨codec_nat32.lands hn, Codec.int.lands ht⟩

theorem Readiness.codec : Codec toJson ofJson? Any where
  stands {r} _ := by
    obtain ⟨ready, reason⟩ := r
    cases reason <;> constructor
    case none.plain | some.plain =>
      exact .obj (by simp [optionalMember, Plain.str, Plain.bool])
    case none.decodes | some.decodes =>
      simp [ofJson?, toJson, optionalMember, fields_obj, Fields.required, Fields.optional, asOption,
        asString, asBool]
  lands _ := trivial

/-! ## Checkups -/

/-- The last reports are in range. -/
def Checkup.InRange (c : Checkup) : Prop :=
  ∀ e ∈ c.components.entries, e.2.InRange

/-- A checkup with its components in some order. -/
def Checkup.toJsonWith (es : List (String × Health)) (c : Checkup) : Json :=
  .obj [("status", c.status.toJson), ("components", .obj (es.map fun e => (e.1, e.2.toJson)))]

/-- Reads the last report of a component beside its name. -/
def Health.named? : String × Json → Option (String × Health) := fun (name, j) => do
  let h ← ofJson? j
  return (name, h)

theorem Health.mapOfJson?_obj (members : List (String × Json)) :
    mapOfJson? (.obj members) = (members.mapM named?).map NameMap.ofList := by
  show (members.mapM named?).bind _ = _
  cases members.mapM named? <;> rfl

theorem Health.named?_eq_some_iff {name : String} {j : Json} {e : String × Health} :
    named? (name, j) = some e ↔ ∃ h, ofJson? j = some h ∧ (name, h) = e := by
  simp [named?, Option.bind_eq_some_iff]

theorem Checkup.stands_toJsonWith {c : Checkup} {es : List (String × Health)} (hc : c.InRange)
    (hes : es.Perm c.components.entries) : Stands ofJson? (c.toJsonWith es) c := by
  have hentry {e : String × Health} (he : e ∈ es) : Stands Health.ofJson? e.2.toJson e.2 :=
    Health.codec.stands (hc e (hes.subset he))
  obtain ⟨pstatus, hstatus⟩ := Status.codec.stands (a := c.status) trivial
  have pcomponents : (Json.obj (es.map fun e => (e.1, e.2.toJson))).Plain :=
    .obj (List.forall_mem_map.mpr fun e he => (hentry he).plain)
  have hcomponents : Health.mapOfJson? (.obj (es.map fun e => (e.1, e.2.toJson))) =
      some c.components := by
    have hread : ∀ e ∈ es, Health.named? (e.1, e.2.toJson) = some e := fun e he =>
      Health.named?_eq_some_iff.mpr ⟨e.2, (hentry he).decodes, rfl⟩
    rw [Health.mapOfJson?_obj, mapM_map_eq_some hread, Option.map_some, NameMap.ofList_perm hes]
  constructor
  · exact .obj (by simp [pstatus, pcomponents])
  · simp [ofJson?, toJsonWith, fields_obj, Fields.required, hstatus, hcomponents]

theorem Checkup.codec : Codec toJson ofJson? InRange where
  stands {c} hc := stands_toJsonWith hc (.refl _)
  lands {j c} hread := by
    simp only [ofJson?, Option.bind_eq_bind, Option.bind_eq_some_iff] at hread
    obtain ⟨r, -, status, -, m, hm, h⟩ := hread
    obtain rfl := Option.some.inj h
    obtain ⟨j, hj⟩ := Fields.exists_of_required hm
    cases j with
    | obj members =>
      rw [Health.mapOfJson?_obj] at hj
      obtain ⟨es, hes, rfl⟩ := Option.map_eq_some_iff.mp hj
      intro e he
      obtain ⟨member, -, hmember⟩ := exists_of_mapM_eq_some hes (NameMap.mem_of_mem_ofList he)
      obtain ⟨h, hx, rfl⟩ := Health.named?_eq_some_iff.mp hmember
      exact Health.codec.lands hx
    | _ => cases hj

/-! ## All forms -/

/-- **Decoding undoes encoding.** Every value in range is decoded from the text that is written for
it, with the components of a checkup in any order, and what any text decodes to is decoded again
from what is written for it. -/
theorem faithful_forms :
    Faithful Availability.toJson Availability.ofJson? Any ∧
      Faithful TaintFlags.toJson TaintFlags.ofJson? Any ∧
      Faithful Workload.toJson Workload.ofJson? Any ∧
      Faithful Decision.toJson Decision.ofJson? Decision.InRange ∧
      Faithful Candidate.toJson Candidate.ofJson? Candidate.InRange ∧
      Faithful Policy.toJson Policy.ofJson? Policy.InRange ∧
      Faithful Health.toJson Health.ofJson? Health.InRange ∧
      (∀ es : Checkup → List (String × Health), (∀ c, (es c).Perm c.components.entries) →
        Faithful (fun c => c.toJsonWith (es c)) Checkup.ofJson? Checkup.InRange) ∧
      Faithful Readiness.toJson Readiness.ofJson? Any := by
  refine ⟨Availability.codec.faithful, TaintFlags.codec.faithful, Workload.codec.faithful,
    Decision.codec.faithful, Candidate.codec.faithful, Policy.codec.faithful,
    Health.codec.faithful, fun es hes => ?_, Readiness.codec.faithful⟩
  have hcodec : Codec (fun c => c.toJsonWith (es c)) Checkup.ofJson? Checkup.InRange :=
    ⟨fun hc => Checkup.stands_toJsonWith hc (hes _), Checkup.codec.lands⟩
  exact hcodec.faithful

/-- Escapes, the greatest numbers and six digits of a fraction in the leap year 0. -/
theorem faithful_at_limits :
    let t : Utc := ⟨⟨0, 2, 29⟩, 86399, 120000, by decide, by decide, by decide⟩
    let w : Workload := ⟨"\"\\\n\x01é😀", "", none⟩
    let c : Candidate := ⟨w, .bestEffort, Number.max64, 0, some Number.max32, some t, true, false,
      true, false⟩
    decode Candidate.ofJson? (render c.toJson) = some c := by
  obtain ⟨-, -, -, -, hcandidate, -⟩ := faithful_forms
  refine hcandidate.undoes _ ⟨Nat.le_refl _, Nat.zero_le _, ?_, ?_⟩
  · rintro n ⟨⟩
    exact Nat.le_refl _
  · rintro t ⟨⟩
    exact Utc.regular_of_year (by decide) (by decide) (by decide)

end NodePressure
