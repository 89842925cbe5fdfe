import FuturesDesk.Brokerage.Gateway
import FuturesDesk.Proofs.CancelWindows

/-!
# Placements as a whole

Whatever comes back from the gateway either accepts an order, which is then
tracked as the answer says, or it does not, and nothing is tracked. Members that
are missing or of another kind say nothing.
-/

namespace FuturesDesk

/-! ## Answers of the gateway -/

namespace Http

/-- The answer is no error, and its body is this document. -/
structure Response.Carries (r : Response) (j : Json) : Prop where
  answered : ¬ (400 ≤ r.status ∧ r.status < 600)
  body : ∃ text, r.text? = some text ∧ Json.parse? text = some j

variable {α : Type} {read : String → Option α} {a : α}

theorem interpret_eq_ok_iff {r : Response} :
    interpret read r = .ok a ↔ r.isError = false ∧ ∃ text, r.text? = some text ∧ read text = some a := by
  rw [← Option.bind_eq_some_iff, interpret]
  cases r.isError with
  | true => simp
  | false => cases r.text?.bind read <;> simp

theorem exchange_eq_ok_iff {peer : Peer} {q : Request} :
    (exchange peer q read).result = .ok a ↔
      q.canBeSent = true ∧ ∃ r, peer = .answers r ∧ interpret read r = .ok a := by
  unfold exchange
  cases q.canBeSent <;> cases peer <;> simp

end Http

namespace Gateway

structure Receives (g : Gateway) (peer : Http.Peer) (j : Json) : Prop where
  sendable : Http.isHeaderValue g.apiKey = true
  answered : ∃ r, peer = .answers r ∧ r.Carries j

theorem readReply?_eq_some_iff {text : String} {reply : Reply} :
    readReply? text = some reply ↔ ∃ j, Json.parse? text = some j ∧ Reply.ofJson j = reply :=
  Option.map_eq_some_iff

theorem answer_eq_reply_iff {g : Gateway} {peer : Http.Peer} {now : UInt64} {e : Errand} {reply : Reply} :
    g.answer peer now e = .reply reply ↔ ∃ j, g.Receives peer j ∧ reply = Reply.ofJson j := by
  have hask : g.answer peer now e = .reply reply ↔ (g.ask peer now e).result = .ok reply := by
    unfold answer
    cases (g.ask peer now e).result <;> simp
  rw [hask, ask, Http.exchange_eq_ok_iff]
  simp only [Http.interpret_eq_ok_iff, readReply?_eq_some_iff]
  constructor
  · rintro ⟨hsend, r, rfl, hok, text, htext, j, hj, rfl⟩
    exact ⟨j, ⟨hsend, r, rfl, ⟨by simpa [Http.Response.isError] using hok, text, htext, hj⟩⟩, rfl⟩
  · rintro ⟨j, ⟨hsend, r, rfl, ⟨hok, text, htext, hj⟩⟩, rfl⟩
    exact ⟨hsend, r, rfl, by simpa [Http.Response.isError] using hok, text, htext, j, hj, rfl⟩

end Gateway

/-! ## Integers in documents -/

theorem Numeral.bounds_of_value? {n : Numeral} {i : Int} (h : n.value? = some (.negative i)) :
    -(pow2 63 : Nat) ≤ i ∧ i < 0 := by
  unfold value? at h
  dsimp only at h
  split at h
  · split at h
    · split at h
      · rename_i hsize
        simp only [Bool.and_eq_true, decide_eq_true_eq] at hsize
        cases h
        omega
      · obtain ⟨x, -, hx⟩ := Option.map_eq_some_iff.mp h
        cases hx
    · split at h
      · cases h
      · obtain ⟨x, -, hx⟩ := Option.map_eq_some_iff.mp h
        cases hx
  · obtain ⟨x, -, hx⟩ := Option.map_eq_some_iff.mp h
    cases hx

theorem Json.bounds_of_int? {j : Json} {i : Int} (h : j.int? = some i) :
    -(pow2 63 : Nat) ≤ i ∧ i < (pow2 63 : Nat) := by
  cases j with
  | number n =>
    simp only [int?] at h
    split at h
    · obtain ⟨hsize, he⟩ := Option.ite_none_right_eq_some.mp h
      cases he
      omega
    · rename_i k hvalue
      cases h
      have hbounds := Numeral.bounds_of_value? hvalue
      omega
    · cases h
  | _ => cases h

/-! ## Documents that accept an order -/

def Json.textOf? (j : Json) (key : String) : Option String := (j.get? key).bind (·.str?)

/-- The document names an id, no error and no failure. -/
structure Json.Accepts (j : Json) (id : String) : Prop where
  names : j.textOf? "order_id" = some id
  named : id ≠ ""
  faultless : ∀ error, j.textOf? "error" = some error → error = ""
  alive : ∀ s, j.textOf? "status" = some s → Status.ofText s ≠ .failed

namespace Reply

variable {j : Json} {id : String}

theorem orderId_ofJson (j : Json) : (ofJson j).orderId = (j.textOf? "order_id").getD "" := rfl

theorem isError_ofJson (j : Json) : (ofJson j).isError = !((j.textOf? "error").getD "").isEmpty := rfl

theorem status_ofJson (j : Json) :
    (ofJson j).status = ((j.textOf? "status").map Status.ofText).getD .unknown := rfl

theorem orderTime_ofJson (j : Json) :
    (ofJson j).orderTime = Int64.ofInt (((j.get? "order_time").bind (·.int?)).getD 0) := rfl

theorem refusal?_ofJson_eq_none_iff : (ofJson j).refusal? = none ↔ ∃ id, j.Accepts id := by
  have herror : (ofJson j).isError = false ↔ ∀ error, j.textOf? "error" = some error → error = "" := by
    rw [isError_ofJson]
    cases j.textOf? "error" <;> simp
  have hstatus : (ofJson j).status ≠ .failed ↔ ∀ s, j.textOf? "status" = some s → Status.ofText s ≠ .failed := by
    rw [status_ofJson]
    cases j.textOf? "status" <;> simp
  rw [accepts_iff, herror, hstatus, orderId_ofJson]
  constructor
  · rintro ⟨hfaultless, hid, halive⟩
    cases hnames : j.textOf? "order_id" with
    | none => exact absurd (by rw [hnames]; rfl) hid
    | some id => exact ⟨id, hnames, by simpa [hnames] using hid, hfaultless, halive⟩
  · rintro ⟨id, h⟩
    exact ⟨h.faultless, by simpa [h.names] using h.named, h.alive⟩

theorem toInt_orderTime_ofJson {i : Int} (h : (j.get? "order_time").bind (·.int?) = some i) :
    (ofJson j).orderTime.toInt = i := by
  have hbounds : -(pow2 63 : Nat) ≤ i ∧ i < (pow2 63 : Nat) := by
    obtain ⟨v, -, hv⟩ := Option.bind_eq_some_iff.mp h
    exact Json.bounds_of_int? hv
  rw [orderTime_ofJson, h, Option.getD_some]
  exact Int64.toInt_ofInt_of_le (by simpa [pow2] using hbounds.1) (by simpa [pow2] using hbounds.2)

end Reply

/-! ## The order as it is tracked -/

namespace Placement

/-- Only the call is noted, and the order has failed. -/
structure Refused (p : Placement) (r : Registry) (o : Order) : Prop where
  result : ∃ reason, p.result = .error (.gateway reason)
  order : p.order = { o with status := .failed }
  registry : p.registry = { r with journal := p.registry.journal }

/-- The order is tracked under an id, as a document says that accepts it. -/
structure Taken (p : Placement) (r : Registry) (now : UInt64) (o : Order) (j : Json) (id : String) : Prop where
  result : p.result = .ok (Reply.ofJson j)
  order : p.order = { o with id, status := p.order.status, orderTime := p.order.orderTime, tradeTime := now }
  reported : ∀ s, j.textOf? "status" = some s → Status.ofText s ≠ .unknown → p.order.status = Status.ofText s
  unreported : (∀ s, j.textOf? "status" = some s → Status.ofText s = .unknown) → p.order.status = .pendingSubmit
  live : p.order.status ≠ .unknown ∧ p.order.status ≠ .failed
  timed : ∀ i, (j.get? "order_time").bind (·.int?) = some i → p.order.orderTime.toInt = i
  untimed : (j.get? "order_time").bind (·.int?) = none → p.order.orderTime = 0
  held : p.registry.lookup id = some p.order
  others : ∀ other, other ≠ id →
    p.registry.lookup other = r.lookup other ∧ p.registry.marks.contains other = r.marks.contains other

end Placement

namespace Registry

theorem refused_place (r : Registry) (now : UInt64) (o : Order) {answer : Answer} (h : answer.accepted? = none) :
    (r.place now o answer).Refused r o := by
  obtain ⟨reason, hp⟩ := r.place_refused now o h
  rw [hp]
  exact ⟨⟨reason, rfl⟩, rfl, rfl⟩

theorem status_accepted (o : Order) (reply : Reply) (now : UInt64) :
    (o.accepted reply now).status = if reply.status = .unknown then .pendingSubmit else reply.status := rfl

theorem taken_place (r : Registry) (now : UInt64) (o : Order) {j : Json} {id : String} (h : j.Accepts id) :
    (r.place now o (.reply (Reply.ofJson j))).Taken r now o j id := by
  have haccepted : (Answer.reply (Reply.ofJson j)).accepted? = some (Reply.ofJson j) := by
    simp [Answer.accepted?, Reply.refusal?_ofJson_eq_none_iff.mpr ⟨id, h⟩]
  have hid : (Reply.ofJson j).orderId = id := congrArg (·.getD "") h.names
  have hp := r.place_accepted now o haccepted
  have hlook : ∀ other, (r.place now o (.reply (Reply.ofJson j))).registry.lookup other =
      if other = id then some (o.accepted (Reply.ofJson j) now) else r.lookup other := by
    rcases r.place_cases now o (.reply (Reply.ofJson j)) with ⟨hn, -⟩ | ⟨reply, hsome, -, -, -, hl⟩
    · cases hn.symm.trans haccepted
    · cases hsome.symm.trans haccepted
      rwa [hid] at hl
  have horder : (r.place now o (.reply (Reply.ofJson j))).order = o.accepted (Reply.ofJson j) now := by rw [hp]
  refine ⟨by rw [hp], ?_, ?_, ?_, ?_, ?_, ?_, ?_, ?_⟩
  · rw [horder, ← hid]
    rfl
  · intro s hs hknown
    have hstatus : (Reply.ofJson j).status = Status.ofText s := by rw [Reply.status_ofJson, hs]; rfl
    rw [horder, status_accepted, hstatus, if_neg hknown]
  · intro hunknown
    have hstatus : (Reply.ofJson j).status = .unknown := by
      rw [Reply.status_ofJson]
      cases hs : j.textOf? "status" with
      | none => rfl
      | some s => exact hunknown s hs
    rw [horder, status_accepted, if_pos hstatus]
  · rw [horder]
    exact ⟨accepted_status_ne_unknown o _ now, accepted_status_ne_failed haccepted o now⟩
  · intro i hi
    rw [horder]
    exact Reply.toInt_orderTime_ofJson hi
  · intro hnone
    rw [horder]
    exact congrArg (fun i => Int64.ofInt (Option.getD i 0)) hnone
  · rw [hlook, if_pos rfl, horder]
  · intro other hother
    exact ⟨(hlook other).trans (if_neg hother), by rw [marks_place]⟩

/-- **A placement is all or nothing.** Either the gateway's answer carries a
document that accepts the order, and the order is tracked under the id it names
as it says; or there is no such document, and the placement fails, tracks
nothing and leaves the order failed. -/
theorem place_all_or_nothing (g : Gateway) (r : Registry) (o : Order) (sent now : UInt64) (peer : Http.Peer) :
    (∃ j id, g.Receives peer j ∧ j.Accepts id ∧
      (r.place now o (g.answer peer sent (.submit o))).Taken r now o j id) ∨
    (∀ j id, g.Receives peer j → ¬ j.Accepts id) ∧
      (r.place now o (g.answer peer sent (.submit o))).Refused r o := by
  cases haccepted : (g.answer peer sent (.submit o)).accepted? with
  | some reply =>
    obtain ⟨hreply, -⟩ := Answer.accepted?_eq_some haccepted
    obtain ⟨j, hreceives, rfl⟩ := Gateway.answer_eq_reply_iff.mp hreply
    have hrefusal : (Reply.ofJson j).refusal? = none := by simpa [hreply, Answer.accepted?] using haccepted
    obtain ⟨id, haccepts⟩ := Reply.refusal?_ofJson_eq_none_iff.mp hrefusal
    rw [hreply]
    exact Or.inl ⟨j, id, hreceives, haccepts, r.taken_place now o haccepts⟩
  | none =>
    refine Or.inr ⟨fun j id hreceives haccepts => ?_, r.refused_place now o haccepted⟩
    have hreply : g.answer peer sent (.submit o) = .reply (Reply.ofJson j) :=
      Gateway.answer_eq_reply_iff.mpr ⟨j, hreceives, rfl⟩
    have hrefusal := Reply.refusal?_ofJson_eq_none_iff.mpr ⟨id, haccepts⟩
    simp [hreply, Answer.accepted?, hrefusal] at haccepted

/-- An error that is no text counts for nothing, and so does a status in other
words. -/
example : (({ deadlines := ⟨10000, 30000⟩ } : Registry).place 1000
      { code := "MXFL1", action := .buy, price := 100, quantity := 1 }
      (Gateway.answer { apiKey := "k", secretKey := "s" }
        (.answers { body := "\x7b\"order_id\":\"p1\",\"error\":7,\"status\":\"queued\"\x7d".toUTF8 }) 999
        (.submit { code := "MXFL1", action := .buy, price := 100, quantity := 1 }))).registry.status? "p1" =
    some .pendingSubmit := by
  decide +kernel

end Registry

end FuturesDesk
