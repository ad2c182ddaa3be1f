import Mathlib.Data.List.Forall2
import Mathlib.Tactic.SplitIfs
import NodePressure.Cluster.Client
import NodePressure.Proofs.Cluster.Calls
import NodePressure.Proofs.Cluster.Requests
import NodePressure.Proofs.Number.Digits
import NodePressure.Telemetry.Form

/-!
# NodePressure.Proofs.Cluster.PodServer - a server of the pods

A server lists the pods of the node, in any order, and does what is asked of one pod. `Relabeled`
says that one pod has got a label and the others have stayed; a label that the client writes is read
as the priority it was (`candidates_of_relabeled`). `Pod.listJson` is a list of pods as a server
writes it.
-/

namespace NodePressure

/-- A pod is the given workload: it has its name and its namespace. -/
def Pod.Is (w : Workload) (p : Pod) : Prop :=
  p.name = some w.name ∧ p.space = some w.space

instance (w : Workload) (p : Pod) : Decidable (p.Is w) :=
  inferInstanceAs (Decidable (_ ∧ _))

/-- A pod has got a label, and nothing but labels has changed. -/
def Pod.Wrote (key text : String) (p q : Pod) : Prop :=
  q.label? key = some text ∧ q = { p with labels := q.labels }

/-- One pod has got a label, and the others have stayed as they were. -/
def Relabeled (w : Workload) (key text : String) (ps ps' : List Pod) : Prop :=
  List.Forall₂ (fun p q => if p.Is w then p.Wrote key text q else q = p) ps ps'

/-- No two pods have the same namespace and name. -/
def DistinctPods (ps : List Pod) : Prop :=
  ((ps.filterMap Pod.workload?).map fun w => (w.space, w.name)).Nodup

/-- A list of the pods on the node that succeeds shows them all, in any order. -/
def Lists (c : Client) : Replies web (List Pod) := fun ps q reply ps' =>
  ps' = ps ∧ q.method = .get ∧ Address.ofText? (Address.podsOn c.node none) = some q.address ∧
    ∀ shown, reply.content Pod.listOfJson? = .ok shown → shown.Perm ps

/-- What a server may do with a request for one pod: a merge patch writes the label that it has, and
an eviction does whatever evictions do. -/
inductive Acts (w : Workload) (evicts : List Pod → List Pod → Prop) :
    List Pod → Request → Reply → List Pod → Prop
  | labeled {ps ps' : List Pod} {q : Request} {reply : Reply} {key text : String}
      (hmethod : q.method = .patch)
      (haddress : Address.ofText? (Address.pod w.space w.name ++ "?") = some q.address)
      (hbody : q.body = some (.obj [("metadata", .obj [("labels", .obj [(key, .str text)])])]))
      (h : Relabeled w key text ps ps') : Acts w evicts ps q reply ps'
  | evicted {ps ps' : List Pod} {q : Request} {reply : Reply} (hmethod : q.method = .post)
      (haddress : Address.ofText? (Address.pod w.space w.name ++ "/eviction?") = some q.address)
      (h : evicts ps ps') : Acts w evicts ps q reply ps'
  | refused {ps : List Pod} {q : Request} {reply : Reply} {f : RequestFault}
      (hreply : reply.text = .error f) : Acts w evicts ps q reply ps

variable {c : Client} {w : Workload} {evicts : List Pod → List Pod → Prop} {ps ps' : List Pod}
  {hs : List (Happening web)} {key : String} {n : Nat}

namespace Client

/-- A list of the pods either fails or is converted. -/
theorem exec_candidates_iff {σ : Type} {W : Replies web σ} {s s' : σ}
    {r : Except ClusterFault (Except Crash (List Candidate))} :
    Program.Exec W c.candidates s hs r s' ↔ ∃ listed,
      Program.Exec W (c.pods none) s hs listed s' ∧
      r = listed.map (Pod.candidates c.priorityKey) := by
  rw [candidates, Call.exec_andThen_iff]
  constructor
  · rintro (⟨f, hpods, rfl⟩ | ⟨shown, s₁, hs₁, hs₂, hpods, hnext, rfl⟩)
    · exact ⟨.error f, hpods, rfl⟩
    · obtain ⟨rfl, rfl, rfl⟩ := Program.exec_done_iff.mp hnext
      exact ⟨.ok shown, by simpa using hpods, rfl⟩
  · rintro ⟨f | shown, hpods, rfl⟩
    · exact .inl ⟨f, hpods, rfl⟩
    · exact .inr ⟨shown, s', hs, [], hpods, .done, (List.append_nil hs).symm⟩

/-- Candidates come from pods that were shown. -/
theorem exec_candidates_ok {σ : Type} {W : Replies web σ} {s s' : σ} {cs : List Candidate}
    (h : Program.Exec W c.candidates s hs (.ok (.ok cs)) s') :
    ∃ shown, Program.Exec W (c.pods none) s hs (.ok shown) s' ∧
      cs = candidatesOf c.priorityKey shown := by
  obtain ⟨f | shown, hpods, hcs⟩ := exec_candidates_iff.mp h
  · cases hcs
  · exact ⟨shown, hpods, Pod.eq_candidatesOf (Except.ok.inj hcs).symm⟩

theorem exec_candidates {cs : List Candidate}
    (h : Program.Exec (Lists c) c.candidates ps hs (.ok (.ok cs)) ps') :
    ps' = ps ∧ ∃ shown : List Pod, shown.Perm ps ∧ cs = candidatesOf c.priorityKey shown := by
  obtain ⟨shown, hsend, rfl⟩ := exec_candidates_ok h
  rcases Call.exec_send_iff.mp hsend with ⟨-, -, hr, -⟩ | ⟨a, reply, -, hlists, -, hr⟩
  · simp at hr
  · obtain ⟨rfl, -, -, hperm⟩ := hlists
    exact ⟨rfl, shown, hperm shown hr.symm, rfl⟩

theorem exec_label_add (h : Program.Exec (Acts w evicts) (c.label w n .add) ps hs (.ok ()) ps') :
    Relabeled w c.priorityKey (Number.text n) ps ps' := by
  rcases Call.exec_andThen_iff.mp h with ⟨e, -, hr⟩ | ⟨pod, ps₁, hs₁, hs₂, hsend, hnext, -⟩
  · simp at hr
  · obtain ⟨-, -, rfl⟩ := Program.exec_done_iff.mp hnext
    rcases Call.exec_send_iff.mp hsend with ⟨-, -, hr, -⟩ | ⟨a, reply, -, hacts, -, hr⟩
    · simp at hr
    · cases hacts with
      | labeled _ _ hbody h =>
        simp only [labelPatch, Option.some.injEq, Json.obj.injEq, List.cons.injEq, Prod.mk.injEq,
          Json.str.injEq, true_and, and_true] at hbody
        obtain ⟨rfl, rfl⟩ := hbody
        exact h
      | evicted hmethod => simp at hmethod
      | refused hreply => simp [Reply.content, hreply] at hr

theorem exec_evict (h : Program.Exec (Acts w evicts) (c.evict w) ps hs (.ok ()) ps') :
    evicts ps ps' := by
  rcases Call.exec_send_iff.mp h with ⟨-, -, hr, -⟩ | ⟨a, reply, -, hacts, -, hr⟩
  · simp at hr
  · cases hacts with
    | labeled hmethod => simp at hmethod
    | evicted _ _ h => exact h
    | refused hreply => simp [Reply.content, hreply] at hr

/-! ## Calls that succeed -/

variable {a : String} {reply : Reply}

theorem exec_candidates_of_listed (ha : Address.ofText? (Address.podsOn c.node none) = some a)
    (hreply : reply.content Pod.listOfJson? = .ok ps)
    (hfits : Pod.candidates c.priorityKey ps = .ok (candidatesOf c.priorityKey ps)) :
    Program.Exec (Lists c) c.candidates ps [.answered ⟨.get, a, none, none⟩ reply]
      (.ok (.ok (candidatesOf c.priorityKey ps))) ps := by
  have hlists : Lists c ps ⟨.get, a, none, none⟩ reply ps := by
    refine ⟨rfl, rfl, ha, fun shown hshown => ?_⟩
    rw [Except.ok.inj (hreply.symm.trans hshown)]
  exact exec_candidates_iff.mpr ⟨.ok ps,
    Call.exec_send_iff.mpr (.inr ⟨a, reply, ha, hlists, rfl, hreply.symm⟩), by rw [← hfits]; rfl⟩

theorem exec_label_of_patched {p : Pod}
    (ha : Address.ofText? (Address.pod w.space w.name ++ "?") = some a)
    (hreply : reply.content Pod.ofJson? = .ok p)
    (h : Relabeled w c.priorityKey (Number.text n) ps ps') :
    Program.Exec (Acts w evicts) (c.label w n .add) ps
      [.answered ⟨.patch, a, some "application/merge-patch+json",
        some (labelPatch c.priorityKey n .add)⟩ reply] (.ok ()) ps' := by
  refine Call.exec_andThen_iff.mpr (.inr ⟨p, ps', _, [], ?_, .done, (List.append_nil _).symm⟩)
  exact Call.exec_send_iff.mpr (.inr ⟨a, reply, ha, .labeled rfl ha rfl h, rfl, hreply.symm⟩)

theorem exec_evict_of_posted
    (ha : Address.ofText? (Address.pod w.space w.name ++ "/eviction?") = some a)
    (hreply : reply.content readVerdict = .ok ()) (h : evicts ps ps') :
    ∃ hs, Program.Exec (Acts w evicts) (c.evict w) ps hs (.ok ()) ps' :=
  ⟨_, Call.exec_send_iff.mpr (.inr ⟨a, reply, ha, .evicted rfl ha h, rfl, hreply.symm⟩)⟩

end Client

/-! ## Candidates -/

theorem mem_candidatesOf_of_perm (h : ps'.Perm ps) {x : Candidate} :
    x ∈ candidatesOf key ps' ↔ x ∈ candidatesOf key ps :=
  (h.filterMap (Pod.weighed? key)).mem_iff

/-- The candidate with its priority replaced if it is the given workload. -/
def Candidate.mark (w : Workload) (n : Nat) (x : Candidate) : Candidate :=
  if x.workload.name = w.name ∧ x.workload.space = w.space then { x with priority := some n } else x

/-- A label that is written is read as the priority that it was. -/
theorem Pod.weighed?_of_wrote {p q : Pod} (h : p.Wrote key (Number.text n) q)
    (hn : n ≤ Number.max32) :
    q.weighed? key = (p.weighed? key).map fun x => { x with priority := some n } := by
  obtain ⟨hlabel, hq⟩ := h
  have hread : (Number.readUnsigned Number.max32 (Number.text n).toList).toOption = some n := by
    rw [Number.text, String.toList_ofList, Number.readUnsigned_digits hn]
    rfl
  rw [hq] at hlabel
  rw [hq, Pod.weighed?, Pod.weighed?, Option.map_map]
  simp [Pod.asCandidate, Pod.workload?, Pod.requests, hlabel, hread, Function.comp_def]

theorem Pod.workload?_of_weighed? {p : Pod} {x : Candidate} (h : p.weighed? key = some x) :
    p.workload? = some x.workload := by
  obtain ⟨v, hv, rfl⟩ := Option.map_eq_some_iff.mp h
  exact hv

theorem Pod.is_iff_of_workload? {p : Pod} {v : Workload} (h : p.workload? = some v) :
    p.Is w ↔ v.name = w.name ∧ v.space = w.space := by
  unfold Pod.workload? at h
  split at h
  · rename_i name space hname hspace
    obtain rfl := Option.some.inj h
    simp [Pod.Is, hname, hspace]
  · simp at h

theorem map_workload_candidatesOf (key : String) :
    (candidatesOf key ps).map Candidate.workload = ps.filterMap Pod.workload? := by
  rw [candidatesOf, List.map_filterMap]
  congr 1
  funext pod
  simp [Pod.weighed?, Pod.asCandidate, Function.comp_def]

/-- If each pod changes in a way that its candidate can tell, so do the candidates. -/
theorem candidatesOf_eq_map {R : Pod → Pod → Prop} {f : Candidate → Candidate}
    (h : List.Forall₂ R ps ps')
    (hR : ∀ p q, R p q → q.weighed? key = (p.weighed? key).map f) :
    candidatesOf key ps' = (candidatesOf key ps).map f := by
  induction h with
  | nil => rfl
  | @cons p q ps ps' hpq _ ih =>
    rw [candidatesOf_cons, candidatesOf_cons, hR p q hpq, ih, List.map_append]
    cases p.weighed? key <;> rfl

/-- A label that is written changes the priority of its candidate, and nothing else. -/
theorem candidates_of_relabeled (h : Relabeled w key (Number.text n) ps ps')
    (hn : n ≤ Number.max32) : candidatesOf key ps' = (candidatesOf key ps).map (·.mark w n) := by
  refine candidatesOf_eq_map h fun p q hpq => ?_
  cases hp : p.weighed? key with
  | none =>
    split_ifs at hpq
    · rw [Pod.weighed?_of_wrote hpq hn, hp]
      rfl
    · rw [hpq, hp]
      rfl
  | some x =>
    have his := Pod.is_iff_of_workload? (w := w) (Pod.workload?_of_weighed? hp)
    split_ifs at hpq with hw
    · rw [Pod.weighed?_of_wrote hpq hn, hp]
      simp [Candidate.mark, his.mp hw]
    · rw [hpq, hp]
      simp [Candidate.mark, mt his.mpr hw]

/-! ## Pods as a server shows them -/

section Shown

open Json

/-- A container as a server writes it. -/
def Requests.toJson (c : Requests) : Json :=
  .obj [("resources", .obj [("requests",
    .obj (optionalMember "cpu" c.cpu ++ optionalMember "memory" c.memory))])]

namespace Pod

/-- The members of a pod that tell what it is, as a server writes them. -/
def metadata (p : Pod) : List (String × Json) :=
  optionalMember "name" p.name ++ optionalMember "namespace" p.space ++
    optionalMember "uid" p.uid ++ [("labels", .obj (p.labels.map fun (k, v) => (k, .str v))),
      ("annotations", .obj (p.annotations.map fun k => (k, .str ""))),
      ("ownerReferences", .arr (p.owners.map fun kind => .obj [("kind", .str kind)]))]

/-- A pod as a server writes it, the time of its start left out. -/
def toJson (p : Pod) : Json :=
  .obj [("metadata", .obj p.metadata),
    ("spec", .obj (optionalMember "priorityClassName" p.priorityClass ++
      [("containers", .arr (p.containers.map Requests.toJson))])),
    ("status", .obj (optionalMember "qosClass" p.qos ++ optionalMember "phase" p.phase))]

/-- A list of pods as a server writes it. -/
def listJson (ps : List Pod) : Json :=
  .obj [("metadata", .obj []), ("items", .arr (ps.map toJson))]

theorem plain_optionalMember (name : String) (text? : Option String) :
    ∀ m ∈ optionalMember name text?, m.2.Plain := by
  cases text? <;> simp [optionalMember, Plain.str]

theorem plain_metadata (p : Pod) : ∀ m ∈ p.metadata, m.2.Plain := by
  have hlabels : (Json.obj (p.labels.map fun (k, v) => (k, .str v))).Plain :=
    .obj (List.forall_mem_map.mpr fun _ _ => .str _)
  have hannotations : (Json.obj (p.annotations.map fun k => (k, .str ""))).Plain :=
    .obj (List.forall_mem_map.mpr fun _ _ => .str _)
  have howners : (Json.arr (p.owners.map fun kind => .obj [("kind", .str kind)])).Plain :=
    .arr (List.forall_mem_map.mpr fun _ _ => .obj (by simp [Plain.str]))
  simp only [metadata, List.forall_mem_append, List.forall_mem_cons]
  exact ⟨⟨⟨plain_optionalMember _ _, plain_optionalMember _ _⟩, plain_optionalMember _ _⟩, hlabels,
    hannotations, howners, by simp⟩

theorem plain_toJson (p : Pod) : p.toJson.Plain := by
  have hrequests (c : Requests) : c.toJson.Plain :=
    .obj (by simpa using .obj (by simpa using .obj (List.forall_mem_append.mpr
      ⟨plain_optionalMember _ _, plain_optionalMember _ _⟩)))
  have hcontainers : (Json.arr (p.containers.map Requests.toJson)).Plain :=
    .arr (List.forall_mem_map.mpr fun c _ => hrequests c)
  refine .obj ?_
  simp only [List.forall_mem_cons]
  refine ⟨.obj p.plain_metadata, .obj ?_, .obj ?_, by simp⟩
  · exact List.forall_mem_append.mpr ⟨plain_optionalMember _ _, by simpa using hcontainers⟩
  · exact List.forall_mem_append.mpr ⟨plain_optionalMember _ _, plain_optionalMember _ _⟩

theorem plain_listJson (ps : List Pod) : (listJson ps).Plain := by
  have hitems : (Json.arr (ps.map toJson)).Plain :=
    .arr (List.forall_mem_map.mpr fun p _ => p.plain_toJson)
  exact .obj (by simpa [hitems] using Plain.obj (by simp))

theorem content_toJson {p : Pod} (h : ofJson? p.toJson = some p) :
    (Reply.holding p.toJson).content ofJson? = .ok p :=
  Reply.content_holding p.plain_toJson h

theorem content_listJson (h : listOfJson? (listJson ps) = some ps) :
    (Reply.holding (listJson ps)).content listOfJson? = .ok ps :=
  Reply.content_holding (plain_listJson ps) h

end Pod

end Shown

/-- A pod of which nothing is known but its name, its namespace and its labels. -/
def plainPod (name : String) (labels : List (String × String)) : Pod where
  name := some name
  space := some "b"
  uid := none
  labels := labels
  annotations := []
  owners := []
  priorityClass := none
  containers := []
  qos := none
  phase := none
  started := none

end NodePressure
