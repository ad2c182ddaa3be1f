import NodePressure.Cluster.Client
import NodePressure.Proofs.Cluster.Calls
import NodePressure.Proofs.Taint.Edits
import NodePressure.Proofs.Taint.Form

/-!
# NodePressure.Proofs.Cluster.NodeServer - a server of the node

`NodeServes` is what a server may do with a request for the node: it shows the taints as they are,
and a merge patch of the taints that succeeds replaces them (`Json.ShowsTaints`,
`Request.SetsTaints`). Any other change that the client might ask for could leave any taints behind.
`exec_changeTaint` says what reading, editing and writing back comes to.
-/

namespace NodePressure

/-- The specification of a node shows its taints. If there are none, they may be left out. -/
inductive Json.ShowsTaints (spec : Json) : List Taint → Prop
  | absent (h : spec.present? "taints" = none) : ShowsTaints spec []
  | listed {items : List Json} {ts : List Taint} (h : spec.present? "taints" = some (.arr items))
      (hts : List.Forall₂ Taint.WrittenAs ts items) : ShowsTaints spec ts

/-- An answer that is no refusal shows the taints of the node, if it shows a specification. -/
def Reply.ShowsTaints (reply : Reply) (ts : List Taint) : Prop :=
  ∀ text j spec, reply.text = .ok text → Json.parse text.toList = some j →
    j.present? "spec" = some spec → spec.ShowsTaints ts

/-- The request is a merge patch that puts given taints in the place of those that the node has. -/
structure Request.SetsTaints (q : Request) (ts : List Taint) : Prop where
  method : q.method = .patch
  contentType : q.contentType = some "application/merge-patch+json"
  body : ∃ items, q.body = some (.obj [("spec", .obj [("taints", .arr items)])]) ∧
    List.Forall₂ Taint.WrittenAs ts items

/-- The taints of the node, and the requests that were to change them, each with the taints that the
node had then. -/
structure NodeRecord where
  taints : List Taint
  patches : List (List Taint × Request)

namespace NodeRecord

/-- Takes note of a request that is to change the node. -/
def sent (n : NodeRecord) (q : Request) : NodeRecord :=
  { n with patches := n.patches ++ [(n.taints, q)] }

end NodeRecord

/-- A request for the node itself. -/
def Request.IsFor (node : String) (q : Request) : Prop :=
  Address.ofText? ("/api/v1/nodes/" ++ node) = some q.address ∨
    Address.ofText? ("/api/v1/nodes/" ++ node ++ "?") = some q.address

/-- What a server of the node may do: a read shows the taints, a patch of the taints that succeeds
replaces them, another request that succeeds may do anything to them, and a call that fails leaves
them. -/
inductive NodeServes (node : String) : NodeRecord → Request → Reply → NodeRecord → Prop
  | shown {n : NodeRecord} {q : Request} {reply : Reply} (hq : q.IsFor node)
      (hmethod : q.method = .get) (h : reply.ShowsTaints n.taints) :
      NodeServes node n q reply n
  | patched {n : NodeRecord} {q : Request} {reply : Reply} {m : Node} {ts : List Taint}
      (hq : q.IsFor node) (hreply : reply.content Node.ofJson? = .ok m) (hsets : q.SetsTaints ts) :
      NodeServes node n q reply { n.sent q with taints := ts }
  | changed {n : NodeRecord} {q : Request} {reply : Reply} {m : Node} {ts : List Taint}
      (hq : q.IsFor node) (hmethod : q.method ≠ .get)
      (hreply : reply.content Node.ofJson? = .ok m) (hnot : ∀ us, ¬ q.SetsTaints us) :
      NodeServes node n q reply { n.sent q with taints := ts }
  | refused {n : NodeRecord} {q : Request} {reply : Reply} {f : ClusterFault}
      (hq : q.IsFor node) (hmethod : q.method ≠ .get)
      (hreply : reply.content Node.ofJson? = .error f) :
      NodeServes node n q reply (n.sent q)
  | elsewhere {n : NodeRecord} {q : Request} {reply : Reply} (hq : ¬ q.IsFor node) :
      NodeServes node n q reply n

/-! ## What is shown and what is set -/

theorem Json.ShowsTaints.isWhole {spec : Json} {ts : List Taint} (h : spec.ShowsTaints ts) :
    ∀ t ∈ ts, t.IsWhole := by
  cases h with
  | absent => simp
  | listed _ hts => exact Taint.isWhole_of_writtenAs hts

/-- The taints that are shown are the ones that are read. -/
theorem Json.ShowsTaints.mapM_items {spec : Json} {ts : List Taint} (h : spec.ShowsTaints ts) :
    (spec.items "taints").mapM Taint.ofJson? = some ts := by
  cases h with
  | absent h => simp [Json.items, h]
  | listed h hts => simpa only [Json.items, h] using Taint.mapM_ofJson?_of_writtenAs hts

theorem Reply.ShowsTaints.eq {reply : Reply} {m : Node} {ts us : List Taint}
    (h : reply.ShowsTaints us) (hreply : reply.content Node.ofJson? = .ok m)
    (hts : m.taints = some ts) : ts = us ∧ ∀ t ∈ ts, t.IsWhole := by
  obtain ⟨text, j, htext, hj, hnode⟩ := content_eq_ok hreply
  unfold Node.ofJson? at hnode
  obtain ⟨-, hnode⟩ := Option.ite_none_right_eq_some.mp hnode
  cases hspec : j.present? "spec" with
  | none =>
    simp only [hspec, Option.some.injEq] at hnode
    obtain rfl := hnode
    cases hts
  | some spec =>
    have hshows := h text j spec htext hj hspec
    simp only [hspec, hshows.mapM_items, Option.map_some, Option.some.injEq] at hnode
    obtain rfl := hnode
    obtain rfl := Option.some.inj hts
    exact ⟨rfl, hshows.isWhole⟩

/-- A patch sets one list of taints only. -/
theorem Request.SetsTaints.unique {q : Request} {ts us : List Taint} (h : q.SetsTaints ts)
    (h' : q.SetsTaints us) : ts = us := by
  obtain ⟨items, hbody, hitems⟩ := h.body
  obtain ⟨items', hbody', hitems'⟩ := h'.body
  obtain rfl : items = items' := by simpa [hbody] using hbody'
  exact Taint.eq_of_writtenAs hitems hitems'

namespace Client

variable {c : Client} {n n' : NodeRecord} {hs : List (Happening web)} {ts : List Taint}

/-- The request with which the client replaces the taints, once its address is built. -/
def taintRequest (a : String) (ts : List Taint) : Request :=
  ⟨.patch, a, some "application/merge-patch+json", some (taintPatch ts)⟩

theorem setsTaints_taintRequest (a : String) (hts : ∀ t ∈ ts, t.IsWhole) :
    (taintRequest a ts).SetsTaints ts :=
  ⟨rfl, rfl, _, rfl, Taint.forall₂_writtenAs_toJson hts⟩

/-! ## Calls -/

/-- A read of the node shows its taints as they are, and changes nothing. -/
theorem exec_send_get {r : Except ClusterFault Node}
    (h : Program.Exec (NodeServes c.node)
      (Call.send Node.ofJson? .get (Address.node c.node) none none) n hs r n') :
    n' = n ∧ ∀ m ts, r = .ok m → m.taints = some ts → ts = n.taints ∧ ∀ t ∈ ts, t.IsWhole := by
  rcases Call.exec_send_iff.mp h with ⟨-, -, rfl, rfl⟩ | ⟨a, reply, ha, hserve, -, rfl⟩
  · exact ⟨rfl, by simp⟩
  · cases hserve with
    | shown _ _ hshows => exact ⟨rfl, fun m ts => hshows.eq⟩
    | patched _ _ hsets => exact absurd hsets.method (by simp)
    | changed _ hmethod => simp at hmethod
    | refused _ hmethod => simp at hmethod
    | elsewhere hq => exact absurd (.inl ha) hq

/-- A read that succeeds gives the taints as they are, and no read changes anything. -/
theorem exec_taints {r : Except ClusterFault (List Taint)}
    (h : Program.Exec (NodeServes c.node) c.taints n hs r n') :
    n' = n ∧ ∀ ts, r = .ok ts → ts = n.taints ∧ ∀ t ∈ ts, t.IsWhole := by
  rcases Call.exec_andThen_iff.mp h with ⟨e, hread, rfl⟩ | ⟨m, n₁, hs₁, hs₂, hread, hnext, -⟩
  · exact ⟨(exec_send_get hread).1, by simp⟩
  · obtain ⟨rfl, hshown⟩ := exec_send_get hread
    cases hm : m.taints with
    | none =>
      simp only [hm, Program.exec_done_iff] at hnext
      obtain ⟨-, rfl, rfl⟩ := hnext
      exact ⟨rfl, by simp⟩
    | some ts =>
      simp only [hm, Program.exec_done_iff] at hnext
      obtain ⟨-, rfl, rfl⟩ := hnext
      exact ⟨rfl, fun ts' h => Except.ok.inj h ▸ hshown m ts rfl hm⟩

theorem exec_readFlags {r : Except ClusterFault TaintFlags}
    (h : Program.Exec (NodeServes c.node) c.readFlags n hs r n') :
    n' = n ∧ ∀ live, r = .ok live → live = Taint.flagsOf c.keyPrefix n.taints := by
  rcases Call.exec_andThen_iff.mp h with ⟨e, hread, rfl⟩ | ⟨ts, n₁, hs₁, hs₂, hread, hnext, -⟩
  · exact ⟨(exec_taints hread).1, by simp⟩
  · obtain ⟨rfl, hts⟩ := exec_taints hread
    obtain ⟨-, rfl, rfl⟩ := Program.exec_done_iff.mp hnext
    obtain ⟨rfl, -⟩ := hts ts rfl
    exact ⟨rfl, fun live h => (Except.ok.inj h).symm⟩

/-- A patch with taints is sent once; the taints are the new ones if it succeeds, and the old ones
if not. -/
theorem exec_send_patch {r : Except ClusterFault Node} (hts : ∀ t ∈ ts, t.IsWhole)
    (h : Program.Exec (NodeServes c.node)
      (Call.send Node.ofJson? .patch (Address.node c.node ++ "?")
        (some "application/merge-patch+json") (some (taintPatch ts))) n hs r n') :
    (n'.patches = n.patches ∨ ∃ q, q.SetsTaints ts ∧ n'.patches = n.patches ++ [(n.taints, q)]) ∧
    (∀ f, r = .error f → n'.taints = n.taints) ∧ ∀ m, r = .ok m → n'.taints = ts := by
  rcases Call.exec_send_iff.mp h with ⟨-, -, rfl, rfl⟩ | ⟨a, reply, ha, hserve, -, rfl⟩
  · exact ⟨.inl rfl, fun f _ => rfl, by simp⟩
  · have hsets := setsTaints_taintRequest a hts
    cases hserve with
    | shown _ hmethod => simp at hmethod
    | patched _ hreply hserved =>
      refine ⟨.inr ⟨_, hsets, rfl⟩, fun f hf => by simp [hreply] at hf, fun m _ => ?_⟩
      exact hserved.unique hsets
    | changed _ _ _ hnot => exact absurd hsets (hnot ts)
    | refused _ _ hreply =>
      exact ⟨.inr ⟨_, hsets, rfl⟩, fun f _ => rfl, fun m hm => by simp [hreply] at hm⟩
    | elsewhere hq => exact absurd (.inr ha) hq

/-- Writing taints sends one patch, and what it answers does not matter. -/
theorem exec_writeTaints {r : Except ClusterFault Unit} (hts : ∀ t ∈ ts, t.IsWhole)
    (h : Program.Exec (NodeServes c.node) (c.writeTaints ts) n hs r n') :
    (n'.patches = n.patches ∨ ∃ q, q.SetsTaints ts ∧ n'.patches = n.patches ++ [(n.taints, q)]) ∧
    (∀ f, r = .error f → n'.taints = n.taints) ∧ (r = .ok () → n'.taints = ts) := by
  rcases Call.exec_andThen_iff.mp h with ⟨e, hsent, rfl⟩ | ⟨m, n₁, hs₁, hs₂, hsent, hnext, -⟩
  · obtain ⟨hpatches, hfailed, -⟩ := exec_send_patch hts hsent
    exact ⟨hpatches, fun f _ => hfailed e rfl, by simp⟩
  · obtain ⟨hpatches, -, hset⟩ := exec_send_patch hts hsent
    obtain ⟨-, rfl, rfl⟩ := Program.exec_done_iff.mp hnext
    exact ⟨hpatches, by simp, fun _ => hset m rfl⟩

/-- A change that succeeds sets the flag of its dimension and no other one, a change that fails
leaves the taints, and the patch that is sent keeps all taints with other keys. -/
theorem exec_changeTaint {d : Dimension} {change : TaintChange} {r : Except ClusterFault Unit}
    (h : Program.Exec (NodeServes c.node) (c.changeTaint d change) n hs r n') :
    (n'.patches = n.patches ∨ ∃ q updated, q.SetsTaints updated ∧
      n'.patches = n.patches ++ [(n.taints, q)] ∧
      updated.filter (·.key != Taint.keyOf c.keyPrefix d) =
        n.taints.filter (·.key != Taint.keyOf c.keyPrefix d)) ∧
    (∀ f, r = .error f → n'.taints = n.taints) ∧
    (r = .ok () → Taint.flagsOf c.keyPrefix n'.taints =
      (Taint.flagsOf c.keyPrefix n.taints).set d change.flag) := by
  rcases Call.exec_andThen_iff.mp h with ⟨e, hread, rfl⟩ | ⟨ts, n₁, hs₁, hs₂, hread, hnext, -⟩
  · obtain ⟨rfl, -⟩ := exec_taints hread
    exact ⟨.inl rfl, fun f _ => rfl, by simp⟩
  · obtain ⟨rfl, hts⟩ := exec_taints hread
    obtain ⟨rfl, hwhole⟩ := hts ts rfl
    cases hedit : Taint.edit c.keyPrefix n₁.taints d change with
    | none =>
      simp only [hedit, Program.exec_done_iff] at hnext
      obtain ⟨-, rfl, rfl⟩ := hnext
      refine ⟨.inl rfl, by simp, fun _ => ?_⟩
      rw [← Taint.edit_eq_none_iff.mp hedit, TaintFlags.set_get]
    | some updated =>
      simp only [hedit] at hnext
      have hupdated := Taint.isWhole_of_edit hedit hwhole
      obtain ⟨hpatches, hfailed, hset⟩ := exec_writeTaints hupdated hnext
      refine ⟨?_, hfailed, fun hr => ?_⟩
      · rcases hpatches with hnone | ⟨q, hsets, hsent⟩
        · exact .inl hnone
        · exact .inr ⟨q, updated, hsets, hsent, Taint.filter_of_edit hedit⟩
      · rw [hset hr, Taint.flagsOf_of_edit hedit]

end Client

/-! ## A node as a server shows it -/

/-- A node as a server shows it, its taints and no more. -/
def nodeJson (ts : List Taint) : Json :=
  .obj [("metadata", .obj []), ("spec", .obj [("taints", .arr (ts.map Taint.toJson))])]

theorem plain_nodeJson (ts : List Taint) : (nodeJson ts).Plain := by
  have htaint (t : Taint) : t.toJson.Plain := by
    rcases t with ⟨key, effect, - | value, - | added⟩ <;>
      exact .obj (by simp [Json.Plain.str])
  have hitems : (Json.arr (ts.map Taint.toJson)).Plain :=
    .arr (List.forall_mem_map.mpr fun t _ => htaint t)
  exact .obj (by simpa [hitems] using ⟨Json.Plain.obj (by simp), Json.Plain.obj (by simpa)⟩)

section Shown

variable {ts : List Taint}

theorem content_nodeJson (h : Node.ofJson? (nodeJson ts) = some ⟨some ts⟩) :
    (Reply.holding (nodeJson ts)).content Node.ofJson? = .ok ⟨some ts⟩ :=
  Reply.content_holding (plain_nodeJson ts) h

theorem showsTaints_nodeJson (h : ∀ t ∈ ts, t.IsWhole) :
    (Reply.holding (nodeJson ts)).ShowsTaints ts := by
  intro text j spec htext hj hspec
  rw [Reply.text_holding] at htext
  obtain rfl := Except.ok.inj htext
  rw [String.toList_ofList, Json.parse_write (plain_nodeJson ts)] at hj
  obtain rfl := Option.some.inj hj
  obtain rfl := Option.some.inj hspec
  exact .listed rfl (Taint.forall₂_writtenAs_toJson h)

end Shown

namespace Client

variable {c : Client} {n : NodeRecord} {ts : List Taint} {a b : String} {reply : Reply}
  {d : Dimension} {change : TaintChange}

theorem exec_taints_of_shown (ha : Address.ofText? (Address.node c.node) = some a)
    (hshows : reply.ShowsTaints n.taints)
    (hreply : reply.content Node.ofJson? = .ok ⟨some n.taints⟩) :
    Program.Exec (NodeServes c.node) c.taints n [.answered ⟨.get, a, none, none⟩ reply]
      (.ok n.taints) n := by
  refine Call.exec_andThen_iff.mpr
    (.inr ⟨⟨some n.taints⟩, n, _, [], ?_, .done, (List.append_nil _).symm⟩)
  exact Call.exec_send_iff.mpr
    (.inr ⟨a, reply, ha, .shown (.inl ha) rfl hshows, rfl, hreply.symm⟩)

theorem exec_readFlags_of_shown (ha : Address.ofText? (Address.node c.node) = some a)
    (hshows : reply.ShowsTaints n.taints)
    (hreply : reply.content Node.ofJson? = .ok ⟨some n.taints⟩) :
    Program.Exec (NodeServes c.node) c.readFlags n [.answered ⟨.get, a, none, none⟩ reply]
      (.ok (Taint.flagsOf c.keyPrefix n.taints)) n :=
  Call.exec_andThen_iff.mpr
    (.inr ⟨n.taints, n, _, [], exec_taints_of_shown ha hshows hreply, .done,
      (List.append_nil _).symm⟩)

theorem exec_changeTaint_of_unreachable (text : String)
    (ha : Address.ofText? (Address.node c.node) = some a) :
    Program.Exec (NodeServes c.node) (c.changeTaint d change) n
      [.answered ⟨.get, a, none, none⟩ (.unreachable text)]
      (.error (.request (.unreachable text))) n := by
  have hserve : NodeServes c.node n ⟨.get, a, none, none⟩ (.unreachable text) n :=
    .shown (.inl ha) rfl nofun
  have hread : Program.Exec (NodeServes c.node) c.taints n _ (.error _) n :=
    Call.exec_andThen_iff.mpr
      (.inl ⟨_, Call.exec_send_iff.mpr (.inr ⟨a, _, ha, hserve, rfl, rfl⟩), rfl⟩)
  exact Call.exec_andThen_iff.mpr (.inl ⟨_, hread, rfl⟩)

theorem exec_writeTaints_of_patched {m : Node} (hts : ∀ t ∈ ts, t.IsWhole)
    (ha : Address.ofText? (Address.node c.node ++ "?") = some a)
    (hreply : reply.content Node.ofJson? = .ok m) :
    Program.Exec (NodeServes c.node) (c.writeTaints ts) n [.answered (taintRequest a ts) reply]
      (.ok ()) { n.sent (taintRequest a ts) with taints := ts } := by
  refine Call.exec_andThen_iff.mpr (.inr ⟨m, _, _, [], ?_, .done, (List.append_nil _).symm⟩)
  have hserve : NodeServes c.node n (taintRequest a ts) reply _ :=
    .patched (.inr ha) hreply (setsTaints_taintRequest a hts)
  exact Call.exec_send_iff.mpr (.inr ⟨a, reply, ha, hserve, rfl, hreply.symm⟩)

/-- The taints are shown, and the patch that the edit asks for is taken. -/
theorem exec_changeTaint_of_patched {m : Node} {patched : Reply}
    (ha : Address.ofText? (Address.node c.node) = some a)
    (hb : Address.ofText? (Address.node c.node ++ "?") = some b)
    (hshows : reply.ShowsTaints n.taints)
    (hreply : reply.content Node.ofJson? = .ok ⟨some n.taints⟩)
    (hedit : Taint.edit c.keyPrefix n.taints d change = some ts) (hts : ∀ t ∈ ts, t.IsWhole)
    (hpatched : patched.content Node.ofJson? = .ok m) :
    Program.Exec (NodeServes c.node) (c.changeTaint d change) n
      [.answered ⟨.get, a, none, none⟩ reply, .answered (taintRequest b ts) patched] (.ok ())
      { n.sent (taintRequest b ts) with taints := ts } := by
  have hwrite := exec_writeTaints_of_patched (n := n) hts hb hpatched
  have hread := exec_taints_of_shown ha hshows hreply
  refine Call.exec_andThen_iff.mpr
    (.inr ⟨n.taints, n, _, [.answered (taintRequest b ts) patched], hread, ?_, rfl⟩)
  rw [hedit]
  exact hwrite

end Client

end NodePressure
