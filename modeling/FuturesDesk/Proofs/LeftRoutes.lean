import FuturesDesk.Proofs.GivenUpRoutes
import FuturesDesk.Service.Serving

/-!
# Routes a connection leaves behind

The routes of a connection are given up where its client's side has ended. A
subscription that fails has made its route already, and the connection returns
without giving it up.
-/

namespace FuturesDesk

namespace Feed

def Line.Step.isFor (id : String) : Line.Step → Bool
  | .subscribeTicks k _ => k = id
  | .subscribeOrders k => k = id
  | .unsubscribe k => k = id
  | _ => false

namespace Hub

@[simp] theorem has_addTicks (h : Hub) (id code : String) : (h.addTicks id code).1.has id = true := by
  simp [addTicks, has, Table.contains]

@[simp] theorem has_addOrders (h : Hub) (id : String) : (h.addOrders id).1.has id = true := by
  simp [addOrders, has, Table.contains]

@[simp] theorem has_dropTicks (h : Hub) (n : Nat) (id : String) : (h.dropTicks n).has id = h.has id := rfl

@[simp] theorem has_dropOrders (h : Hub) (n : Nat) (id : String) : (h.dropOrders n).has id = h.has id := rfl

end Hub

namespace Line

section
variable {l : Line} {id k : String}

/-! ## Calls, the line open or closed -/

theorem hub_post (l : Line) (c : Control) : (l.post c).1.hub = l.hub := by
  unfold post
  split <;> rfl

theorem has_subscribeTicks (l : Line) (k code : String) :
    (l.subscribeTicks k code).1.hub.has id = (l.hub.follow (.subscribeTicks k code)).has id := by
  cases h : l.isOpen <;> simp [subscribeTicks, post, h] <;> rfl

theorem has_subscribeOrders (l : Line) (k : String) :
    (l.subscribeOrders k).1.hub.has id = (l.hub.follow (.subscribeOrders k)).has id := by
  cases h : l.isOpen <;> simp [subscribeOrders, post, h] <;> rfl

theorem has_unsubscribe_self (l : Line) (id : String) : (l.unsubscribe id).hub.has id = false := by
  cases h : l.hub.has id with
  | true =>
    rw [unsubscribe, if_pos h, hub_post]
    simp [Hub.remove, Hub.has, Table.contains, Table.find?_erase]
  | false => rw [unsubscribe, if_neg (Bool.not_eq_true _ ▸ h), h]

theorem has_unsubscribe_of_ne (l : Line) (hk : k ≠ id) : (l.unsubscribe k).hub.has id = l.hub.has id := by
  unfold unsubscribe
  split
  · rw [hub_post]
    exact (has_follow l.hub (.unsubscribe k)).trans (if_neg hk)
  · rfl

/-- Besides calls for it and frames, nothing bears on the routes of a
connection. -/
theorem has_step {st : Step} (hst : ¬ st.isFor id) (htext : ∀ text, st ≠ .receive text) :
    (l.step st).hub.has id = l.hub.has id := by
  cases st with
  | subscribeTicks k code =>
    have hk : k ≠ id := by simpa [Step.isFor] using hst
    exact (has_subscribeTicks ..).trans ((has_follow ..).trans (if_neg hk))
  | subscribeOrders k =>
    have hk : k ≠ id := by simpa [Step.isFor] using hst
    exact (has_subscribeOrders ..).trans ((has_follow ..).trans (if_neg hk))
  | unsubscribe k => exact has_unsubscribe_of_ne l (by simpa [Step.isFor] using hst)
  | receive text => exact absurd rfl (htext text)
  | dropTicks | dropOrders | connect | lose => rfl
  | write | failWrite =>
    simp only [Line.step, Line.write, Line.failWrite]
    split <;> rfl

end

end Line

end Feed

namespace Service

open Feed

def Phase.result? : Phase → Option (Except (List String) Unit)
  | .returned result => some result
  | _ => none

def Phase.subscribes : Phase → Bool
  | .accepted | .hearing _ => true
  | _ => false

namespace Connection

def Turn.isFor (id : String) : Turn → Bool
  | .beside st => st.isFor id
  | _ => false

section
variable {c : Connection} {n m : Nat} {result : Except (List String) Unit}

/-! ## A connection's own turns -/

theorem proceed_accepted (h : c.phase = .accepted) :
    (c.line.isOpen = true ∧
      ∃ n, c.proceed = { c with line := (c.line.subscribeTicks c.id c.code).1, phase := .hearing n }) ∨
    (c.line.isOpen = false ∧ c.proceed = { c with
      line := (c.line.subscribeTicks c.id c.code).1
      phase := .returned (.error ["tick subscription for " ++ c.code ++ " failed", Line.closedFault.message]) }) := by
  cases ho : c.line.isOpen with
  | true =>
    refine Or.inl ⟨rfl, (c.line.hub.addTicks c.id c.code).2, ?_⟩
    simp [proceed, h, Line.subscribeTicks, Line.post, ho]
  | false => exact Or.inr ⟨rfl, by simp [proceed, h, Line.subscribeTicks, Line.post, ho]⟩

theorem proceed_hearing (h : c.phase = .hearing n) :
    (c.line.isOpen = true ∧
      ∃ m, c.proceed = { c with line := (c.line.subscribeOrders c.id).1, phase := .serving n m }) ∨
    (c.line.isOpen = false ∧ c.proceed = { c with
      line := { (c.line.subscribeOrders c.id).1 with hub := (c.line.subscribeOrders c.id).1.hub.dropTicks n }
      phase := .returned (.error ["order status subscription failed", Line.closedFault.message]) }) := by
  cases ho : c.line.isOpen with
  | true => exact Or.inl ⟨rfl, (c.line.hub.addOrders c.id).2, by simp [proceed, h, Line.subscribeOrders, Line.post, ho]⟩
  | false => exact Or.inr ⟨rfl, by simp [proceed, h, Line.subscribeOrders, Line.post, ho]⟩

theorem id_turn (c : Connection) (t : Turn) : (c.turn t).id = c.id := by
  cases t with
  | own =>
    change c.proceed.id = c.id
    cases h : c.phase with
    | accepted => rcases proceed_accepted h with ⟨-, n, he⟩ | ⟨-, he⟩ <;> rw [he]
    | hearing n => rcases proceed_hearing h with ⟨-, m, he⟩ | ⟨-, he⟩ <;> rw [he]
    | serving | leaving | left | returned => simp [proceed, h]
  | incoming i =>
    change (c.hear i).id = c.id
    unfold hear
    split
    · split <;> rfl
    · rfl
  | beside st => rfl
  | close => rfl

theorem id_run (c : Connection) (turns : List Turn) : (c.run turns).id = c.id := by
  induction turns generalizing c with
  | nil => rfl
  | cons t turns ih => exact (ih (c.turn t)).trans (id_turn c t)

/-- A connection returns because its client's side has ended, or because a
subscription has failed. -/
theorem return_cases (hbusy : c.phase.result? = none) (hreturn : c.proceed.phase = .returned result) :
    (c.phase = .left ∧ result = .ok () ∧ c.proceed.line.hub.has c.id = false) ∨
    (c.phase.subscribes ∧ c.line.isOpen = false ∧ (∃ errors, result = .error errors) ∧
      c.proceed.line.hub.has c.id = true) := by
  cases h : c.phase with
  | accepted =>
    rcases proceed_accepted h with ⟨-, n, he⟩ | ⟨ho, he⟩
    · rw [he] at hreturn
      cases hreturn
    · rw [he] at hreturn ⊢
      cases hreturn
      refine Or.inr ⟨rfl, ho, ⟨_, rfl⟩, ?_⟩
      rw [Line.has_subscribeTicks, Line.has_follow]
      simp [Control.connId, Control.subscribes]
  | hearing n =>
    rcases proceed_hearing h with ⟨-, m, he⟩ | ⟨ho, he⟩
    · rw [he] at hreturn
      cases hreturn
    · rw [he] at hreturn ⊢
      cases hreturn
      refine Or.inr ⟨rfl, ho, ⟨_, rfl⟩, ?_⟩
      change (c.line.subscribeOrders c.id).1.hub.has c.id = true
      rw [Line.has_subscribeOrders, Line.has_follow]
      simp [Control.connId, Control.subscribes]
  | serving | leaving =>
    simp only [proceed, h] at hreturn
    cases hreturn
  | left =>
    have he : c.proceed = { c with line := c.line.unsubscribe c.id, phase := .returned (.ok ()) } := by
      simp only [proceed, h]
    rw [he] at hreturn ⊢
    cases hreturn
    exact Or.inl ⟨rfl, rfl, c.line.has_unsubscribe_self c.id⟩
  | returned => simp [Phase.result?, h] at hbusy

/-! ## After the return -/

theorem turn_returned (h : c.phase = .returned result) {t : Turn} (hfor : ¬ t.isFor c.id) :
    (c.turn t).phase = .returned result ∧
    ((c.turn t).line.hub.has c.id = true → c.line.hub.has c.id = true) ∧
    ((∀ text, t ≠ .beside (.receive text)) → (c.turn t).line.hub.has c.id = c.line.hub.has c.id) := by
  cases t with
  | own =>
    have he : c.turn .own = c := by simp [turn, proceed, h]
    rw [he]
    exact ⟨h, fun hhas => hhas, fun _ => rfl⟩
  | incoming i =>
    have he : c.turn (.incoming i) = c := by simp [turn, hear, h]
    rw [he]
    exact ⟨h, fun hhas => hhas, fun _ => rfl⟩
  | close => exact ⟨h, fun hhas => hhas, fun _ => rfl⟩
  | beside st =>
    have hst : ¬ st.isFor c.id := hfor
    refine ⟨h, fun hhas => ?_, fun htext => ?_⟩
    · by_cases hframe : ∃ text, st = .receive text
      · obtain ⟨text, rfl⟩ := hframe
        exact Line.has_of_receive hhas
      · rw [← Line.has_step hst (not_exists.mp hframe)]
        exact hhas
    · exact Line.has_step hst fun text he => htext text (congrArg _ he)

theorem run_returned {turns : List Turn} (h : c.phase = .returned result) (hfor : ∀ t ∈ turns, ¬ t.isFor c.id) :
    ((c.run turns).line.hub.has c.id = true → c.line.hub.has c.id = true) ∧
    ((∀ text, .beside (.receive text) ∉ turns) → (c.run turns).line.hub.has c.id = c.line.hub.has c.id) := by
  induction turns generalizing c with
  | nil => exact ⟨fun hhas => hhas, fun _ => rfl⟩
  | cons t turns ih =>
    obtain ⟨hphase, hgrow, hsame⟩ := turn_returned h (hfor t (List.mem_cons_self ..))
    have hrest := ih hphase (by
      intro t' ht'
      rw [id_turn]
      exact hfor t' (List.mem_cons_of_mem _ ht'))
    rw [id_turn] at hrest
    refine ⟨fun hhas => hgrow (hrest.1 hhas), fun htext => ?_⟩
    have hfirst : ∀ text, t ≠ .beside (.receive text) := fun text he => htext text (he ▸ List.mem_cons_self ..)
    exact (hrest.2 fun text ht => htext text (List.mem_cons_of_mem _ ht)).trans (hsame hfirst)

/-- **What a connection leaves behind.** However the calls of others, the frames
of the bus, its loss and its end fall between, a connection returns in one of two
ways. Its client's side has ended: then it has given up its routes, and none
comes back. Or the line was closed when it was to subscribe: then a route is left,
and it stays until a frame is sent over it. -/
theorem left_routes {turns : List Turn} (hbusy : (c.run turns).phase.result? = none)
    (hreturn : (c.run (turns ++ [.own])).phase = .returned result) {later : List Turn}
    (hlater : ∀ t ∈ later, ¬ t.isFor c.id) :
    (result = .ok () ↔ (c.run turns).phase = .left) ∧
    (result ≠ .ok () ↔ (c.run turns).phase.subscribes ∧ (c.run turns).line.isOpen = false) ∧
    (result = .ok () → (c.run (turns ++ .own :: later)).line.hub.has c.id = false) ∧
    (result ≠ .ok () → (∀ text, .beside (.receive text) ∉ later) →
      (c.run (turns ++ .own :: later)).line.hub.has c.id = true) := by
  have hrun : ∀ ts, c.run (turns ++ .own :: ts) = ((c.run turns).proceed).run ts := by
    intro ts
    simp [run, turn]
  have hid : (c.run turns).proceed.id = c.id := (id_turn _ .own).trans (id_run c turns)
  have hproceed : (c.run turns).proceed.phase = .returned result := by
    rw [hrun] at hreturn
    exact hreturn
  have hafter := run_returned hproceed (by rwa [hid])
  rw [hrun]
  rw [hid] at hafter
  rcases return_cases hbusy hproceed with ⟨hleft, rfl, hnone⟩ | ⟨hsub, hclosed, ⟨errors, rfl⟩, hroute⟩
  · rw [id_run] at hnone
    refine ⟨by simp [hleft], by simp [hleft, Phase.subscribes], fun _ => ?_, fun h => absurd rfl h⟩
    by_contra hhas
    rw [hafter.1 (Bool.not_eq_false _ ▸ hhas)] at hnone
    cases hnone
  · rw [id_run] at hroute
    have hnot : (c.run turns).phase ≠ .left := by
      intro he
      rw [he] at hsub
      cases hsub
    refine ⟨by simp [hnot], by simp [hsub, hclosed], (fun h => nomatch h), fun _ htext => ?_⟩
    exact (hafter.2 htext).trans hroute

/-- The line is closed between the two subscriptions. -/
def closedBetween : List Turn := [.own, .close, .own]

theorem left_routes_closedBetween :
    ((⟨"c1", "MXFL1", {}, .accepted⟩ : Connection).run (closedBetween ++ [.beside (.dropOrders 0)])).line.hub.has "c1" =
      true := by
  have hreturn : ((⟨"c1", "MXFL1", {}, .accepted⟩ : Connection).run closedBetween).phase =
      .returned (.error ["order status subscription failed", "feed error: bus connection closed"]) := rfl
  have hfor : ∀ t ∈ [Turn.beside (.dropOrders 0)], ¬ t.isFor "c1" := by decide
  have hbusy : ((⟨"c1", "MXFL1", {}, .accepted⟩ : Connection).run [.own, .close]).phase.result? = none := rfl
  obtain ⟨-, -, -, hleft⟩ := left_routes hbusy hreturn hfor
  exact hleft (by simp) (by simp)

/-- A connection has returned and holds both of its routes. -/
theorem not_released_closedBetween :
    ∃ result, ((⟨"c1", "MXFL1", {}, .accepted⟩ : Connection).run closedBetween).phase = .returned result ∧
      ((⟨"c1", "MXFL1", {}, .accepted⟩ : Connection).run closedBetween).line.hub.ticks.contains "c1" = true ∧
      ((⟨"c1", "MXFL1", {}, .accepted⟩ : Connection).run closedBetween).line.hub.orders.contains "c1" = true :=
  ⟨_, rfl, rfl, rfl⟩

/-! ## Served at a stretch -/

def stretch (i : Incoming) : Closing → List Turn
  | .never => [.own, .own, .incoming i, .own, .own]
  | .beforeTicks => [.close, .own, .own, .incoming i, .own, .own]
  | .beforeOrders => [.own, .close, .own, .incoming i, .own, .own]

theorem hub_unsubscribe_drop (l : Line) (id : String) (n m : Nat) :
    ({ l with hub := (l.hub.dropTicks n).dropOrders m }.unsubscribe id).hub =
      ((l.unsubscribe id).hub.dropTicks n).dropOrders m := by
  have hhas : ((l.hub.dropTicks n).dropOrders m).has id = l.hub.has id := rfl
  cases h : l.hub.has id with
  | true =>
    rw [Line.unsubscribe, Line.unsubscribe, hhas, if_pos h, if_pos h, Line.hub_post, Line.hub_post]
    rfl
  | false =>
    have hno : ¬ l.hub.has id = true := Bool.not_eq_true _ ▸ h
    rw [Line.unsubscribe, Line.unsubscribe, hhas, if_neg hno, if_neg hno]

theorem hub_serve (l : Line) (id code : String) (closing : Closing) {i : Incoming} (hend : i.isEnd) :
    (serve l id code closing).hub = ((⟨id, code, l, .accepted⟩ : Connection).run (stretch i closing)).line.hub := by
  cases ho : l.isOpen with
  | true =>
    cases closing with
    | never =>
      simp [serve, closeIf, stretch, run, turn, proceed, hear, hend, Line.subscribeTicks, Line.subscribeOrders,
        Line.post, ho, ← hub_unsubscribe_drop]
    | beforeTicks | beforeOrders =>
      simp [serve, closeIf, stretch, run, turn, proceed, hear, Line.subscribeTicks, Line.subscribeOrders, Line.post,
        Line.close, ho]
  | false =>
    cases closing <;>
      simp [serve, closeIf, stretch, run, turn, proceed, hear, Line.subscribeTicks, Line.post, Line.close, ho]

/-- Served at a stretch, a connection leaves a route exactly where the line was
closed before it had both of its subscriptions. -/
theorem has_serve_iff (l : Line) (id code : String) (closing : Closing) :
    (serve l id code closing).hub.has id = true ↔ l.isOpen = false ∨ closing ≠ .never := by
  have hserve : (serve l id code closing).hub.has id =
      ((⟨id, code, l, .accepted⟩ : Connection).run (stretch .ended closing)).line.hub.has id :=
    congrArg (Hub.has · id) (hub_serve l id code closing rfl)
  rw [hserve]
  cases ho : l.isOpen with
  | true =>
    cases closing with
    | never =>
      simp [stretch, run, turn, proceed, hear, Incoming.isEnd, Line.subscribeTicks, Line.subscribeOrders, Line.post,
        ho, Line.has_unsubscribe_self]
    | beforeTicks | beforeOrders =>
      simp [stretch, run, turn, proceed, hear, Line.subscribeTicks, Line.subscribeOrders, Line.post, Line.close, ho]
  | false =>
    cases closing <;> simp [stretch, run, turn, proceed, hear, Line.subscribeTicks, Line.post, Line.close, ho]

end

end Connection

end Service

end FuturesDesk
