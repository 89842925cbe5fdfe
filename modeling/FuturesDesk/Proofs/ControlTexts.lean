import FuturesDesk.Feed.Control
import FuturesDesk.Proofs.WrittenDocuments

/-!
# Texts of control frames

Whatever the id of a connection and the code of an instrument hold, the text of a
control frame is read as one object with the members that are asked for and no
others. So no two frames have the same text.
-/

namespace FuturesDesk

namespace Json

/-- What was written is read back, if it nests no deeper than what is read. -/
theorem parse?_render {j : Json} (hw : j.IsWritten) (hr : j.isReadable 127 = true) : parse? j.render = some j := by
  obtain ⟨t, htext, hvalue⟩ := exists_textSpelling hw
  rw [← htext, TextSpelling.text, parse?, String.toList_ofList, scan_spelling, hvalue]
  simp [hr]

def texts (ms : List (String × String)) : Json := record (ms.map fun m => (m.1, str m.2))

theorem isWritten_texts (ms : List (String × String)) : (texts ms).IsWritten := by
  apply isWritten_record
  intro m hm
  obtain ⟨m, -, rfl⟩ := List.mem_map.mp hm
  rfl

theorem isReadable_texts (ms : List (String × String)) (depth : Nat) : (texts ms).isReadable (depth + 1) = true := by
  simp only [texts, record, isReadable, Bool.true_and]
  induction ms with
  | nil => rfl
  | cons m ms ih =>
    rw [List.map_cons, List.map_cons, membersReadable, ih, Bool.and_true]
    rfl

theorem parse?_texts (ms : List (String × String)) : parse? (texts ms).render = some (texts ms) :=
  parse?_render (isWritten_texts ms) (isReadable_texts ms 126)

end Json

namespace Feed.Control

open Json (Key)

def members : Control → List (String × String)
  | .subscribeTicks id code => [("op", "subscribe"), ("conn_id", id), ("channel", "tick"), ("code", code)]
  | .subscribeOrders id => [("op", "subscribe"), ("conn_id", id), ("channel", "order")]
  | .unsubscribe id => [("op", "unsubscribe"), ("conn_id", id)]

theorem exists_texts (c : Control) : ∃ ms, c.toJson = Json.texts ms ∧ ms.Perm c.members := by
  cases c with
  | subscribeTicks id code =>
    refine ⟨[("channel", "tick"), ("code", code)] ++ [("conn_id", id), ("op", "subscribe")], rfl, ?_⟩
    apply List.perm_append_comm.trans
    exact List.Perm.swap _ _ _
  | subscribeOrders id =>
    refine ⟨[("channel", "order"), ("conn_id", id), ("op", "subscribe")], rfl, ?_⟩
    exact List.reverse_perm [_, _, _]
  | unsubscribe id =>
    refine ⟨[("conn_id", id), ("op", "unsubscribe")], rfl, ?_⟩
    exact List.Perm.swap _ _ _

theorem parse?_text (c : Control) : Json.parse? c.text = some c.toJson := by
  obtain ⟨ms, hms, -⟩ := c.exists_texts
  rw [text, hms, Json.parse?_texts]

theorem eq_of_toJson {c c' : Control} (h : c.toJson = c'.toJson) : c = c' := by
  cases c <;> cases c' <;> simp_all [toJson, Json.record, Json.str]

/-- **Arguments stay arguments.** Whatever texts a frame is given, its own text is
read as one object with the members asked for and no others, and different frames
have different texts. -/
theorem text_faithful :
    (∀ c : Control, ∃ ms, Json.parse? c.text = some (.object ms true) ∧
      ms.Perm (c.members.map fun m => (Key.name m.1, Json.string (some m.2)))) ∧
    Function.Injective text := by
  constructor
  · intro c
    obtain ⟨ms, hms, hperm⟩ := c.exists_texts
    refine ⟨ms.map fun m => (Key.name m.1, Json.string (some m.2)), ?_, hperm.map _⟩
    rw [parse?_text, hms, Json.texts, Json.record, List.map_map]
    rfl
  · intro c c' h
    apply eq_of_toJson
    apply Option.some.inj
    rw [← parse?_text, ← parse?_text, h]

/-- An id with quotes in it does not end its text. -/
example : (unsubscribe "a\",\"op\":\"").text = "\x7b\"conn_id\":\"a\\\",\\\"op\\\":\\\"\",\"op\":\"unsubscribe\"\x7d" := by
  rfl

end Feed.Control

end FuturesDesk
