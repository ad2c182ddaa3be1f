import NodePressure.Cluster.Exchange
import NodePressure.Proofs.Execution
import NodePressure.Proofs.Json.RoundTrip
import NodePressure.Proofs.Text.Utf8

/-!
# NodePressure.Proofs.Cluster.Calls - the parts of a call

A call sends requests and goes on if they succeed: `exec_send_iff` and `exec_andThen_iff` take it
apart, whatever the server does. A server that answers with a value is understood
(`Reply.content_holding`).
-/

namespace NodePressure

/-- The answer of a server that holds a value. -/
def Reply.holding (j : Json) : Reply :=
  .answer 200 (Text.encode (Json.write j))

theorem Reply.text_holding (j : Json) :
    (Reply.holding j).text = .ok (String.ofList (Json.write j)) := by
  simp only [holding, text, Text.decode_encode]
  rfl

/-- What an answer holds is what was written into it. -/
theorem Reply.content_holding {α : Type} {read : Json.Decoder α} {j : Json} {a : α} (h : j.Plain)
    (hread : read j = some a) : (Reply.holding j).content read = .ok a := by
  simp only [content, text_holding, String.toList_ofList, Json.parse_write h, Option.bind_some,
    hread]

/-- What an answer holds was read from its text. -/
theorem Reply.content_eq_ok {α : Type} {read : Json.Decoder α} {r : Reply} {a : α}
    (h : r.content read = .ok a) :
    ∃ text j, r.text = .ok text ∧ Json.parse text.toList = some j ∧ read j = some a := by
  unfold content at h
  split at h
  · cases h
  · rename_i text htext
    split at h
    · rename_i b hread
      obtain rfl := Except.ok.inj h
      obtain ⟨j, hj, hread⟩ := Option.bind_eq_some_iff.mp hread
      exact ⟨text, j, htext, hj, hread⟩
    · cases h

namespace Call

variable {α β σ : Type} {W : Replies web σ} {s s' : σ} {hs : List (Happening web)}

/-- One request is sent if its address can be built, and the answer decides. -/
theorem exec_send_iff {read : Json.Decoder α} {method : Method} {address : String}
    {contentType : Option String} {body : Option Json} {r : Except ClusterFault α} :
    Program.Exec W (send read method address contentType body) s hs r s' ↔
      (Address.ofText? address = none ∧ hs = [] ∧ r = .error (.request .unbuildable) ∧ s' = s) ∨
      ∃ a reply, Address.ofText? address = some a ∧ W s ⟨method, a, contentType, body⟩ reply s' ∧
        hs = [.answered ⟨method, a, contentType, body⟩ reply] ∧ r = reply.content read := by
  rw [send]
  cases Address.ofText? address with
  | none => simp
  | some a =>
    simp only [Program.exec_ask_iff, Program.exec_done_iff, reduceCtorEq, false_and, false_or,
      Option.some.injEq]
    constructor
    · rintro ⟨reply, s₁, hs', hW, rfl, rfl, rfl, rfl⟩
      exact ⟨a, reply, rfl, hW, rfl, rfl⟩
    · rintro ⟨a, reply, rfl, hW, rfl, rfl⟩
      exact ⟨reply, s', [], hW, rfl, rfl, rfl, rfl⟩

/-- What comes next is done if the call succeeds, and only then. -/
theorem exec_andThen_iff {c : Call α} {f : α → Call β} {r : Except ClusterFault β} :
    Program.Exec W (c.andThen f) s hs r s' ↔
      (∃ e, Program.Exec W c s hs (.error e) s' ∧ r = .error e) ∨
      ∃ a s₁ hs₁ hs₂, Program.Exec W c s hs₁ (.ok a) s₁ ∧ Program.Exec W (f a) s₁ hs₂ r s' ∧
        hs = hs₁ ++ hs₂ := by
  rw [andThen, Program.exec_bind_iff]
  constructor
  · rintro ⟨e | a, s₁, hs₁, hs₂, h₁, h₂, rfl⟩
    · obtain ⟨rfl, rfl, rfl⟩ := Program.exec_done_iff.mp h₂
      exact .inl ⟨e, by simpa using h₁, rfl⟩
    · exact .inr ⟨a, s₁, hs₁, hs₂, h₁, h₂, rfl⟩
  · rintro (⟨e, h, rfl⟩ | ⟨a, s₁, hs₁, hs₂, h₁, h₂, rfl⟩)
    · exact ⟨.error e, s', hs, [], h, .done, by simp⟩
    · exact ⟨.ok a, s₁, hs₁, hs₂, h₁, h₂, rfl⟩

end Call

end NodePressure
