import Mathlib.Data.List.Induction
import FuturesDesk.Proofs.RegistrySteps
import FuturesDesk.Proofs.Subscriptions

/-!
# Routes that are given up

The bus is told of the end of a subscription where there is a route to take
away. A frame takes a route away as well, once its receiver has gone, and the
bus is told nothing of that: neither then nor when the connection is given up.
-/

namespace FuturesDesk

namespace Feed

def Control.subscribes (id : String) : Control → Bool
  | .subscribeTicks k _ => k = id
  | .subscribeOrders k => k = id
  | .unsubscribe _ => false

def Line.Step.subscribes (id : String) : Line.Step → Bool
  | .subscribeTicks k _ => k = id
  | .subscribeOrders k => k = id
  | _ => false

/-- A text takes the last route of a connection away: it is a frame for that
route, whose receiver has gone. -/
inductive Hub.Loses (h : Hub) (id text : String) : Prop where
  | ticks {f : Frame} {t : Tick} {r : TickRoute} (read : Frame.ofText? text = some f)
      (payload : f.payload = .tick t) (route : h.ticks.find? id = some r)
      (wanted : Hub.wantsTick f.connId t id r = true) (gone : Receiver.isAlive h.tickReceivers r.receiver = false)
      (last : h.orders.find? id = none) : Loses h id text
  | orders {f : Frame} {u : StatusUpdate} {n : Nat} (read : Frame.ofText? text = some f)
      (payload : f.payload = .status u) (route : h.orders.find? id = some n)
      (wanted : Hub.wantsStatus f.connId id n = true) (gone : Receiver.isAlive h.orderReceivers n = false)
      (last : h.ticks.find? id = none) : Loses h id text

namespace Line

/-- Every subscription queued for a connection is followed by its end. -/
def GivenUp (id : String) (log : List Control) : Prop :=
  ∀ before c after, log = before ++ c :: after → c.subscribes id → .unsubscribe id ∈ after

def Forsaken (id : String) (steps : List Step) : Prop :=
  ∃ before text after, steps = before ++ .receive text :: after ∧ (({} : Line).run before).hub.Loses id text ∧
    ∀ st ∈ after, ¬ st.subscribes id

inductive Effect (id : String) (l : Line) (st : Step) : Prop where
  | beside (frames : List Control) (route : (l.step st).hub.has id = l.hub.has id)
      (log : (l.step st).log = l.log ++ frames) (others : ∀ c ∈ frames, c.connId ≠ id)
      (silent : ¬ st.subscribes id) : Effect id l st
  | subscribed (c : Control) (route : (l.step st).hub.has id = true) (log : (l.step st).log = l.log ++ [c])
      (opens : c.subscribes id) (called : st.subscribes id) : Effect id l st
  | released (before : l.hub.has id = true) (route : (l.step st).hub.has id = false)
      (log : (l.step st).log = l.log ++ [.unsubscribe id]) (call : st = .unsubscribe id) : Effect id l st
  | lost (text : String) (call : st = .receive text) (loses : l.hub.Loses id text) : Effect id l st

/-- How a connection stands after a run: it has a route, or its subscriptions
have ended, or the bus holds one that no route is left for. -/
inductive Standing (id : String) (steps : List Step) : Prop where
  | served (route : (({} : Line).run steps).hub.has id = true) (untold : ¬ GivenUp id (({} : Line).run steps).log)
      (kept : ¬ Forsaken id steps) : Standing id steps
  | ended (route : (({} : Line).run steps).hub.has id = false) (told : GivenUp id (({} : Line).run steps).log)
      (kept : ¬ Forsaken id steps) : Standing id steps
  | forsaken (route : (({} : Line).run steps).hub.has id = false) (untold : ¬ GivenUp id (({} : Line).run steps).log)
      (lost : Forsaken id steps) : Standing id steps

section
variable {id text : String} {log : List Control} {l : Line} {steps : List Step} {st : Step}

/-! ## Frames queued -/

theorem givenUp_nil (id : String) : GivenUp id [] := by
  intro before c after h
  simp at h

theorem givenUp_snoc {c : Control} :
    GivenUp id (log ++ [c]) ↔ c = .unsubscribe id ∨ ¬ c.subscribes id ∧ GivenUp id log := by
  constructor
  · intro h
    by_cases hc : c = .unsubscribe id
    · exact Or.inl hc
    · refine Or.inr ⟨fun hs => ?_, fun before c' after hlog hs => ?_⟩
      · cases h log c [] rfl hs
      · have hmem := h before c' (after ++ [c]) (by rw [hlog]; simp) hs
        rcases List.mem_append.mp hmem with hmem | hmem
        · exact hmem
        · exact absurd (List.mem_singleton.mp hmem).symm hc
  · rintro h before c' after hlog hs
    rcases snoc_eq_split hlog with ⟨rfl, rfl, rfl⟩ | ⟨after', rfl, hlog'⟩
    · rcases h with rfl | ⟨hn, -⟩
      · cases hs
      · exact absurd hs hn
    · rcases h with rfl | ⟨-, h⟩
      · simp
      · exact List.mem_append_left _ (h before c' after' hlog' hs)

theorem subscribes_of_ne {c : Control} (h : c.connId ≠ id) : ¬ c.subscribes id ∧ c ≠ .unsubscribe id := by
  constructor
  · cases c with
    | subscribeTicks | subscribeOrders => simpa [Control.subscribes, Control.connId] using h
    | unsubscribe => exact Bool.false_ne_true
  · rintro rfl
    exact h rfl

theorem givenUp_append_others {frames : List Control} (h : ∀ c ∈ frames, c.connId ≠ id) :
    GivenUp id (log ++ frames) ↔ GivenUp id log := by
  induction frames generalizing log with
  | nil => rw [List.append_nil]
  | cons c frames ih =>
    obtain ⟨hs, hu⟩ := subscribes_of_ne (h c (List.mem_cons_self ..))
    rw [List.append_cons, ih fun c' hc' => h c' (List.mem_cons_of_mem _ hc'), givenUp_snoc]
    simp [hs, hu]

theorem forsaken_snoc : Forsaken id (steps ++ [st]) ↔
    (Forsaken id steps ∧ ¬ st.subscribes id) ∨
      ∃ text, st = .receive text ∧ (({} : Line).run steps).hub.Loses id text := by
  constructor
  · rintro ⟨before, text, after, hsplit, hl, hafter⟩
    rcases snoc_eq_split hsplit with ⟨rfl, rfl, rfl⟩ | ⟨after', rfl, hsplit'⟩
    · exact Or.inr ⟨text, rfl, hl⟩
    · refine Or.inl ⟨⟨before, text, after', hsplit', hl, fun st' h => ?_⟩, ?_⟩
      · exact hafter st' (List.mem_append_left _ h)
      · exact hafter st (by simp)
  · rintro (⟨⟨before, text, after, rfl, hl, hafter⟩, hst⟩ | ⟨text, rfl, hl⟩)
    · refine ⟨before, text, after ++ [st], by simp, hl, fun st' h => ?_⟩
      rcases List.mem_append.mp h with h | h
      · exact hafter st' h
      · rw [List.mem_singleton.mp h]
        exact hst
    · exact ⟨steps, text, [], rfl, hl, fun st' h => by cases h⟩

/-! ## Routes -/

theorem has_eq_false_iff {h : Hub} : h.has id = false ↔ h.ticks.find? id = none ∧ h.orders.find? id = none := by
  simp [Hub.has, Table.contains]

theorem has_eq_true_iff {h : Hub} :
    h.has id = true ↔ (∃ r, h.ticks.find? id = some r) ∨ ∃ n, h.orders.find? id = some n := by
  simp [Hub.has, Table.contains, Option.isSome_iff_exists]

theorem find?_filter_eq_none_iff {α : Type} {t : Table α} {wants alive : String → α → Bool} :
    (t.filter fun k a => !wants k a || alive k a).find? id = none ↔
      ∀ a, t.find? id = some a → wants id a = true ∧ alive id a = false := by
  rw [Table.find?_filter, Option.filter_eq_none_iff]
  simp

theorem receive_of_tick (h : Hub) {f : Frame} {t : Tick} (read : Frame.ofText? text = some f)
    (payload : f.payload = .tick t) : h.receive text = h.dispatchTick f.connId t := by
  simp [Hub.receive, read, Hub.dispatch, payload]

theorem receive_of_status (h : Hub) {f : Frame} {u : StatusUpdate} (read : Frame.ofText? text = some f)
    (payload : f.payload = .status u) : h.receive text = h.dispatchStatus f.connId u := by
  simp [Hub.receive, read, Hub.dispatch, payload]

theorem receive_cases (h : Hub) (text : String) :
    h.receive text = h ∨
    (∃ f t, Frame.ofText? text = some f ∧ f.payload = .tick t ∧ h.receive text = h.dispatchTick f.connId t) ∨
    ∃ f u, Frame.ofText? text = some f ∧ f.payload = .status u ∧ h.receive text = h.dispatchStatus f.connId u := by
  cases read : Frame.ofText? text with
  | none =>
    refine Or.inl ?_
    simp [Hub.receive, read]
  | some f =>
    cases payload : f.payload with
    | tick t => exact Or.inr (Or.inl ⟨f, t, rfl, payload, receive_of_tick h read payload⟩)
    | status u => exact Or.inr (Or.inr ⟨f, u, rfl, payload, receive_of_status h read payload⟩)

theorem loses_iff {h : Hub} : h.Loses id text ↔ h.has id = true ∧ (h.receive text).has id = false := by
  rw [has_eq_true_iff, has_eq_false_iff]
  constructor
  · intro hloses
    cases hloses with
    | ticks read payload route wanted gone last =>
      rw [receive_of_tick h read payload]
      refine ⟨Or.inl ⟨_, route⟩, find?_filter_eq_none_iff.mpr fun r hr => ?_, last⟩
      rw [← Option.some.inj (route.symm.trans hr)]
      exact ⟨wanted, gone⟩
    | orders read payload route wanted gone last =>
      rw [receive_of_status h read payload]
      refine ⟨Or.inr ⟨_, route⟩, last, find?_filter_eq_none_iff.mpr fun n hn => ?_⟩
      rw [← Option.some.inj (route.symm.trans hn)]
      exact ⟨wanted, gone⟩
  · rintro ⟨hhas, hticks, horders⟩
    rcases receive_cases h text with he | ⟨f, t, read, payload, he⟩ | ⟨f, u, read, payload, he⟩
    · rw [he] at hticks horders
      simp [hticks, horders] at hhas
    · rw [he] at hticks horders
      change h.orders.find? id = none at horders
      simp only [horders, reduceCtorEq, exists_false, or_false] at hhas
      obtain ⟨r, route⟩ := hhas
      obtain ⟨wanted, gone⟩ := find?_filter_eq_none_iff.mp hticks r route
      exact .ticks read payload route wanted gone horders
    · rw [he] at hticks horders
      change h.ticks.find? id = none at hticks
      simp only [hticks, reduceCtorEq, exists_false, false_or] at hhas
      obtain ⟨n, route⟩ := hhas
      obtain ⟨wanted, gone⟩ := find?_filter_eq_none_iff.mp horders n route
      exact .orders read payload route wanted gone hticks

theorem has_of_receive {h : Hub} (hhas : (h.receive text).has id = true) : h.has id = true := by
  have hkept : ∀ {α : Type} {t : Table α} {keep : String → α → Bool} {a : α},
      (t.filter keep).find? id = some a → t.find? id = some a := fun hf =>
    (Option.filter_eq_some_iff.mp ((Table.find?_filter ..).symm.trans hf)).1
  rw [has_eq_true_iff] at hhas ⊢
  rcases receive_cases h text with he | ⟨f, t, -, -, he⟩ | ⟨f, u, -, -, he⟩
  · rw [he] at hhas
    exact hhas
  · rw [he] at hhas
    apply hhas.imp_left
    rintro ⟨r, hr⟩
    exact ⟨r, hkept hr⟩
  · rw [he] at hhas
    apply hhas.imp_right
    rintro ⟨n, hn⟩
    exact ⟨n, hkept hn⟩

theorem has_follow (h : Hub) (c : Control) :
    (h.follow c).has id = if c.connId = id then c.subscribes id else h.has id := by
  by_cases hc : id = c.connId
  · subst hc
    cases c with
    | subscribeTicks | subscribeOrders =>
      simp [Hub.follow, Hub.addTicks, Hub.addOrders, Hub.has, Table.contains, Control.connId, Control.subscribes]
    | unsubscribe =>
      simp [Hub.follow, Hub.remove, Hub.has, Table.contains, Table.find?_erase, Control.connId, Control.subscribes]
  · rw [if_neg (Ne.symm hc)]
    cases c with
    | _ =>
      simp only [Control.connId] at hc
      simp [Hub.follow, Hub.addTicks, Hub.addOrders, Hub.remove, Hub.has, Table.contains, Table.find?_insert,
        Table.find?_erase, hc]

/-! ## Steps -/

theorem isOpen_step (h : l.isOpen = true) (st : Step) : (l.step st).isOpen = true := by
  cases st with
  | subscribeTicks k code =>
    change (l.subscribeTicks k code).1.isOpen = true
    rw [subscribeTicks_eq h, post_eq]
    all_goals exact h
  | subscribeOrders k =>
    change (l.subscribeOrders k).1.isOpen = true
    rw [subscribeOrders_eq h, post_eq]
    all_goals exact h
  | unsubscribe k =>
    change (l.unsubscribe k).isOpen = true
    rcases unsubscribe_cases l k with he | he
    · rw [he, post_eq]
      all_goals exact h
    · rw [he]
      exact h
  | write | failWrite =>
    simp only [Line.step, Line.write, Line.failWrite]
    split
    all_goals exact h
  | _ => exact h

theorem step_beside (hhub : (l.step st).hub.has id = l.hub.has id) (hlog : (l.step st).log = l.log)
    (hst : ¬ st.subscribes id) : Effect id l st :=
  .beside [] hhub (by rw [hlog, List.append_nil]) (fun c hc => by cases hc) hst

theorem step_follow (h : l.isOpen = true) {c : Control} (he : l.step st = ((l.reroute c).post c).1)
    (hs : st.subscribes id = c.subscribes id) (hu : c = .unsubscribe id → l.hub.has id = true ∧ st = .unsubscribe id) :
    Effect id l st := by
  have hhub : (l.step st).hub.has id = if c.connId = id then c.subscribes id else l.hub.has id := by
    rw [he, post_eq (l := l.reroute c) h, ← has_follow]
    rfl
  have hlog : (l.step st).log = l.log ++ [c] := by
    rw [he, post_eq (l := l.reroute c) h]
    rfl
  by_cases hc : c.connId = id
  · rw [if_pos hc] at hhub
    cases c with
    | subscribeTicks | subscribeOrders =>
      have hopens := decide_eq_true hc
      exact .subscribed _ (hhub.trans hopens) hlog hopens (hs.trans hopens)
    | unsubscribe k =>
      cases hc
      exact .released (hu rfl).1 hhub hlog (hu rfl).2
  · rw [if_neg hc] at hhub
    refine .beside [c] hhub hlog (fun c' hc' => ?_) ?_
    · rw [List.mem_singleton.mp hc']
      exact hc
    · rw [hs]
      exact (subscribes_of_ne hc).1

theorem effect_step (h : l.isOpen = true) (st : Step) : Effect id l st := by
  cases st with
  | subscribeTicks k code =>
    have he : l.step (.subscribeTicks k code) = _ := subscribeTicks_eq h k code
    apply step_follow h he rfl
    intro hc
    cases hc
  | subscribeOrders k =>
    have he : l.step (.subscribeOrders k) = _ := subscribeOrders_eq h k
    apply step_follow h he rfl
    intro hc
    cases hc
  | unsubscribe k =>
    cases hk : l.hub.has k with
    | true =>
      have he : l.step (.unsubscribe k) = ((l.reroute (.unsubscribe k)).post (.unsubscribe k)).1 := if_pos hk
      apply step_follow h he rfl
      intro hc
      cases hc
      exact ⟨hk, rfl⟩
    | false =>
      have he : l.step (.unsubscribe k) = l := if_neg (Bool.not_eq_true _ ▸ hk)
      exact step_beside (by rw [he]) (by rw [he]) Bool.false_ne_true
  | receive text =>
    by_cases hl : l.hub.Loses id text
    · exact .lost text rfl hl
    · refine step_beside ?_ rfl Bool.false_ne_true
      change (l.hub.receive text).has id = l.hub.has id
      rw [loses_iff, not_and, Bool.not_eq_false] at hl
      exact Bool.eq_iff_iff.mpr ⟨has_of_receive, hl⟩
  | dropTicks | dropOrders | connect | lose => exact step_beside rfl rfl Bool.false_ne_true
  | write | failWrite =>
    refine step_beside ?_ ?_ Bool.false_ne_true
    all_goals
      simp only [Line.step, Line.write, Line.failWrite]
      split
      all_goals rfl

/-! ## Runs -/

theorem run_snoc (l : Line) (steps : List Step) (st : Step) : l.run (steps ++ [st]) = (l.run steps).step st := by
  simp [run]

theorem isOpen_run (steps : List Step) : (({} : Line).run steps).isOpen = true := by
  induction steps using List.reverseRecOn with
  | nil => rfl
  | append_singleton steps st ih =>
    rw [run_snoc]
    exact isOpen_step ih st

theorem not_loses_of_same (h : (l.step st).hub.has id = l.hub.has id) :
    ¬ ∃ text, st = .receive text ∧ l.hub.Loses id text := by
  rintro ⟨text, rfl, hl⟩
  obtain ⟨hhas, hlost⟩ := loses_iff.mp hl
  exact Bool.false_ne_true (hlost.symm.trans (h.trans hhas))

theorem Standing.step (h : Standing id steps) (st : Step) : Standing id (steps ++ [st]) := by
  have heffect : Effect id (({} : Line).run steps) st := effect_step (isOpen_run steps) st
  cases heffect with
  | beside frames route log others silent =>
    have hforsaken : Forsaken id (steps ++ [st]) ↔ Forsaken id steps := by
      rw [forsaken_snoc, or_iff_left (not_loses_of_same route), and_iff_left silent]
    have hlog : GivenUp id (({} : Line).run (steps ++ [st])).log ↔ GivenUp id (({} : Line).run steps).log := by
      rw [run_snoc, log, givenUp_append_others others]
    rw [← run_snoc] at route
    cases h with
    | served hroute huntold hkept => exact .served (route.trans hroute) (mt hlog.mp huntold) (mt hforsaken.mp hkept)
    | ended hroute htold hkept => exact .ended (route.trans hroute) (hlog.mpr htold) (mt hforsaken.mp hkept)
    | forsaken hroute huntold hlost => exact .forsaken (route.trans hroute) (mt hlog.mp huntold) (hforsaken.mpr hlost)
  | subscribed c route log opens called =>
    refine .served (run_snoc .. ▸ route) ?_ ?_
    · rw [run_snoc, log, givenUp_snoc]
      rintro (rfl | ⟨hn, -⟩)
      · cases opens
      · exact hn opens
    · rw [forsaken_snoc]
      rintro (⟨-, hn⟩ | ⟨text, rfl, -⟩)
      · exact hn called
      · cases called
  | released before route log call =>
    subst call
    refine .ended (run_snoc .. ▸ route) ?_ ?_
    · rw [run_snoc, log, givenUp_snoc]
      exact Or.inl rfl
    · rw [forsaken_snoc]
      rintro (⟨hlost, -⟩ | ⟨text, hst, -⟩)
      · -- there was a route to give up, so it was not lost
        cases h with
        | served _ _ hkept | ended _ _ hkept => exact hkept hlost
        | forsaken hroute => exact Bool.false_ne_true (hroute.symm.trans before)
      · cases hst
  | lost text call loses =>
    subst call
    obtain ⟨hhas, hlost⟩ := loses_iff.mp loses
    -- with a route the bus had not been told, and it is not told now
    refine .forsaken (run_snoc .. ▸ hlost) ?_ (forsaken_snoc.mpr (Or.inr ⟨text, rfl, loses⟩))
    rw [run_snoc]
    cases h with
    | served _ huntold => exact huntold
    | ended hroute | forsaken hroute => exact absurd (hroute.symm.trans hhas) Bool.false_ne_true

theorem standing_run (id : String) (steps : List Step) : Standing id steps := by
  induction steps using List.reverseRecOn with
  | nil =>
    refine .ended rfl (givenUp_nil id) ?_
    rintro ⟨before, text, after, hsplit, -⟩
    simp at hsplit
  | append_singleton steps st ih => exact ih.step st

/-- **The end of a subscription.** Once a connection is given up, the bus has
been told of the end of all its subscriptions, unless a frame has taken its last
route away since it last subscribed. -/
theorem given_up_iff (id : String) (steps : List Step) :
    GivenUp id ((({} : Line).run steps).unsubscribe id).log ↔ ¬ Forsaken id steps := by
  cases standing_run id steps with
  | served hroute _ hkept =>
    have hlog : ((({} : Line).run steps).unsubscribe id).log = (({} : Line).run steps).log ++ [.unsubscribe id] := by
      rw [unsubscribe, if_pos hroute, post_eq]
      exact isOpen_run steps
    rw [hlog, givenUp_snoc]
    exact iff_of_true (Or.inl rfl) hkept
  | ended hroute htold hkept =>
    rw [unsubscribe, if_neg (Bool.not_eq_true _ ▸ hroute)]
    exact iff_of_true htold hkept
  | forsaken hroute huntold hlost =>
    rw [unsubscribe, if_neg (Bool.not_eq_true _ ▸ hroute)]
    exact iff_of_false huntold (not_not_intro hlost)

/-- The receiver has gone before the connection is given up, and a tick comes in
between. -/
def hungUp : List Step :=
  [.subscribeTicks "c1" "MXFL1", .dropTicks 0,
    .receive ("\x7b\"conn_id\":\"c1\",\"channel\":\"tick\"," ++
      "\"data\":\x7b\"code\":\"MXFL1\",\"time\":1,\"close\":1\x7d\x7d")]

theorem log_hungUp : ((({} : Line).run hungUp).unsubscribe "c1").log = [.subscribeTicks "c1" "MXFL1"] := by
  decide +kernel

theorem not_given_up_hungUp : ¬ GivenUp "c1" ((({} : Line).run hungUp).unsubscribe "c1").log := by
  rw [log_hungUp]
  intro h
  cases h [] _ [] rfl rfl

end

end Line

end Feed

end FuturesDesk
