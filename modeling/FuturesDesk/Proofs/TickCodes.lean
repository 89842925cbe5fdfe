import FuturesDesk.Proofs.AssistOrders

/-!
# Codes of ticks

A session passes the code of a tick on to its client and reads it nowhere. Runs
that differ in the codes of their ticks alone make the same calls.
-/

namespace FuturesDesk

def Tick.uncoded (t : Tick) : Tick := { t with code := "" }

def Frame.uncoded : Frame → Frame
  | .message (.tick t) => .message (.tick t.uncoded)
  | f => f

def Worker.uncoded (w : Worker) : Worker := { w with ticks := w.ticks.map Tick.uncoded }

namespace Session

def uncoded (s : Session) : Session :=
  { s with workers := s.workers.map Worker.uncoded, out := s.out.map Frame.uncoded }

def Step.uncoded : Step → Step
  | .tick t => .tick t.uncoded
  | st => st

section
variable (s : Session)

theorem uncoded_push {f : Frame} (hf : f.uncoded = f) : (s.push f).uncoded = s.uncoded.push f := by
  unfold push uncoded
  rw [List.map_append, List.map_singleton, hf]

theorem uncoded_pushes {fs : List Frame} (hfs : ∀ f ∈ fs, f.uncoded = f) :
    (fs.foldl push s).uncoded = fs.foldl push s.uncoded := by
  induction fs generalizing s with
  | nil => rfl
  | cons f fs ih =>
    rw [List.foldl_cons, List.foldl_cons, ih _ fun f' hf' => hfs f' (List.mem_cons_of_mem _ hf'),
      uncoded_push s (hfs f (List.mem_cons_self ..))]

theorem uncoded_withWorkers {ws ws' : List Worker} (h : ws.map Worker.uncoded = ws') :
    ({ s with workers := ws } : Session).uncoded = { s.uncoded with workers := ws' } := by
  rw [← h]
  rfl

theorem map_uncoded {f g : Worker → Worker} (h : ∀ w, (f w).uncoded = g w.uncoded) (ws : List Worker) :
    (ws.map f).map Worker.uncoded = (ws.map Worker.uncoded).map g := by
  rw [List.map_map, List.map_map]
  exact List.map_congr_left fun w _ => h w

/-! ## Commands and updates -/

theorem uncoded_submitUnit (now : UInt64) (c : Command) (ticket : Ticket) :
    s.uncoded.submitUnit now c ticket = ((s.submitUnit now c ticket).1.uncoded, (s.submitUnit now c ticket).2) := rfl

theorem uncoded_fileUnit (c : Command) (o : Order) : (s.fileUnit c o).uncoded = s.uncoded.fileUnit c o := by
  unfold fileUnit
  cases c.option <;> exact uncoded_push _ rfl

theorem uncoded_reportUnit (o : Order) (fault : Fault) :
    (s.reportUnit o fault).uncoded = s.uncoded.reportUnit o fault := uncoded_push s rfl

theorem uncoded_placeUnit (now : UInt64) (c : Command) (ticket : Ticket) :
    s.uncoded.placeUnit now c ticket = ((s.placeUnit now c ticket).1.uncoded, (s.placeUnit now c ticket).2) := by
  unfold placeUnit
  rw [uncoded_submitUnit]
  dsimp only
  cases (s.submitUnit now c ticket).2.result with
  | ok reply => rw [uncoded_fileUnit]
  | error fault => rw [uncoded_reportUnit]

theorem uncoded_placeUnits (now : UInt64) (c : Command) (tickets : List Ticket) :
    s.uncoded.placeUnits now c tickets =
      ((s.placeUnits now c tickets).1.uncoded, (s.placeUnits now c tickets).2) := by
  induction tickets generalizing s with
  | nil => rfl
  | cons ticket tickets ih =>
    unfold placeUnits
    rw [uncoded_placeUnit]
    dsimp only
    rw [ih]

theorem uncoded_text (now : UInt64) (t : String) (ticket : Nat → Ticket) :
    (s.text now t ticket).uncoded = s.uncoded.text now t ticket := by
  unfold text
  split
  · exact uncoded_push s rfl
  · cases Command.ofText t with
    | error flaw => exact uncoded_push s rfl
    | ok c =>
      dsimp only
      unfold command
      have hadmission : s.uncoded.admission now = s.admission now := rfl
      rw [hadmission]
      cases (s.admission now).refusal? c with
      | some r => exact uncoded_push s rfl
      | none =>
        dsimp only
        rw [uncoded_placeUnits]

theorem uncoded_status (now : UInt64) (u : StatusUpdate) :
    (s.status now u).uncoded = s.uncoded.status now u := by
  have hreg : s.uncoded.registry = s.registry := rfl
  unfold status
  rw [hreg]
  cases s.registry.merge now u with
  | mk r changed =>
    cases changed with
    | none => rfl
    | some o =>
      have htell : ∀ s : Session, ({ s.send (.order o) with
          floor := (s.send (.order o)).floor.publish (.orderStatus o) } : Session).uncoded =
          { s.uncoded.send (.order o) with floor := (s.uncoded.send (.order o)).floor.publish (.orderStatus o) } := by
        intro s
        have hpush : (s.send (.order o)).uncoded = s.uncoded.send (.order o) := uncoded_push s rfl
        exact congrArg (fun s : Session => { s with floor := s.floor.publish (.orderStatus o) }) hpush
      dsimp only
      rw [htell]
      split <;> rfl

/-! ## Ticks -/

theorem takes_uncoded (inbox : Nat) (w : Worker) : takes inbox w.uncoded = takes inbox w := by
  unfold takes Worker.uncoded
  rw [List.length_map]

theorem uncoded_offer (t : Tick) : (s.offer t).uncoded = s.uncoded.offer t.uncoded := by
  apply s.uncoded_withWorkers
  apply map_uncoded
  intro w
  have htakes : (s.queues.values.any fun inbox => takes inbox w.uncoded) =
      s.queues.values.any fun inbox => takes inbox w := by simp only [takes_uncoded]
  change _ = if s.queues.values.any (fun inbox => takes inbox w.uncoded) then _ else _
  rw [htakes]
  split
  · unfold Worker.uncoded
    rw [List.map_append, List.map_singleton]
  · rfl

theorem uncoded_tick (t : Tick) : (s.tick t).uncoded = s.uncoded.tick t.uncoded := by
  unfold tick
  rw [← uncoded_offer]
  unfold send push uncoded
  rw [List.map_append]
  rfl

/-! ## Traders put to work -/

theorem map_uncoded_unfed (p : Nat → Prop) [DecidablePred p] (ws : List Worker) :
    (ws.map fun w => if p w.trader.inbox then { w with fed := false } else w).map Worker.uncoded =
      (ws.map Worker.uncoded).map fun w => if p w.trader.inbox then { w with fed := false } else w := by
  apply map_uncoded
  intro w
  change _ = if p w.trader.inbox then _ else _
  split <;> rfl

theorem map_uncoded_joined (p : Nat → Prop) [DecidablePred p] (ws : List Worker) (t : Trader) :
    ((ws.map fun w => if p w.trader.inbox then { w with fed := false } else w) ++
        [({ trader := t } : Worker)]).map Worker.uncoded =
      ((ws.map Worker.uncoded).map fun w => if p w.trader.inbox then { w with fed := false } else w) ++
        [({ trader := t } : Worker)] := by
  rw [List.map_append, map_uncoded_unfed]
  rfl

theorem uncoded_startAssist (target : AssistTarget) :
    (s.startAssist target).uncoded = s.uncoded.startAssist target := by
  have hworkers := map_uncoded_joined (fun inbox => some inbox = s.queues.find? target.order.id) s.workers
    (Trader.start s.floor target).1
  have hstarted := ({ s with
    floor := (Trader.start s.floor target).2
    queues := s.queues.insert target.order.id (Trader.start s.floor target).1.inbox } :
      Session).uncoded_withWorkers hworkers
  unfold startAssist
  dsimp only
  by_cases hone : (s.queues.insert target.order.id (Trader.start s.floor target).1.inbox).size = 1
  · rw [if_pos hone]
    refine Eq.trans ?_ (if_pos hone).symm
    exact (uncoded_push _ rfl).trans (congrArg (·.send (.assistStatus true)) hstarted)
  · rw [if_neg hone]
    exact hstarted.trans (if_neg hone).symm

theorem uncoded_startAll (targets : List AssistTarget) :
    (targets.foldl startAssist s).uncoded = targets.foldl startAssist s.uncoded := by
  induction targets generalizing s with
  | nil => rfl
  | cons target targets ih => rw [List.foldl_cons, List.foldl_cons, ih, uncoded_startAssist]

theorem uncoded_promote : s.promote.uncoded = s.uncoded.promote := uncoded_startAll ..

theorem uncoded_release (id : String) : (s.release id).1.uncoded = (s.uncoded.release id).1 := by
  unfold release
  have hqueues : s.uncoded.queues = s.queues := rfl
  rw [hqueues]
  cases s.queues.find? id with
  | none => rfl
  | some inbox =>
    have hclosed := ({ s with queues := s.queues.erase id } : Session).uncoded_withWorkers
      (map_uncoded_unfed (fun i => i = inbox) s.workers)
    dsimp only
    split
    · exact (uncoded_push _ rfl).trans (congrArg (·.send (.assistStatus false)) hclosed)
    · exact hclosed

theorem uncoded_event (e : DeskEvent) : (s.event e).uncoded = s.uncoded.event e := by
  cases e with
  | orderStatus o => rfl
  | placed o => exact uncoded_push s rfl
  | assistDone primary => exact uncoded_release s primary
  | assistFailed primary reason => exact uncoded_push s rfl

theorem uncoded_relay (inbox : Nat) : (s.relay inbox).uncoded = s.uncoded.relay inbox := by
  have hfloor : s.uncoded.floor = s.floor := rfl
  have hrelays : s.uncoded.relays = s.relays := rfl
  unfold relay
  rw [hfloor, hrelays]
  split
  · cases s.floor.bus.take inbox with
    | mk bus receipt =>
      cases receipt with
      | event e => exact uncoded_event _ e
      | ended | waits => rfl
  · rfl

theorem uncoded_supervise (now : UInt64) (answer : String → Answer) :
    (s.supervise now answer).uncoded = s.uncoded.supervise now answer := by
  have hframes : ∀ f ∈ (s.registry.sweep now answer).2.filterMap SweepEvent.frame?, f.uncoded = f := by
    intro f hf
    obtain ⟨text, rfl⟩ := error_of_mem_frames hf
    rfl
  exact uncoded_pushes _ hframes

/-! ## Traders at work -/

theorem worker?_uncoded (inbox : Nat) : s.uncoded.worker? inbox = (s.worker? inbox).map Worker.uncoded := by
  unfold worker? uncoded
  rw [List.find?_map]
  rfl

theorem uncoded_retire (inbox : Nat) : (s.retire inbox).uncoded = s.uncoded.retire inbox := by
  unfold retire uncoded
  rw [List.filter_map]
  rfl

theorem uncoded_setWorker (w : Worker) : (s.setWorker w).uncoded = s.uncoded.setWorker w.uncoded := by
  apply s.uncoded_withWorkers
  apply map_uncoded
  intro v
  change _ = if v.trader.inbox = w.trader.inbox then _ else _
  split <;> rfl

theorem uncoded_settleWorker (w : Worker) (f : Floor) :
    (s.settleWorker w f).uncoded = s.uncoded.settleWorker w.uncoded f := by
  unfold settleWorker
  dsimp only
  change _ = if w.trader.phase = .done then _ else _
  split
  · exact uncoded_retire _ _
  · exact uncoded_setWorker _ _

theorem uncoded_traderTick (inbox : Nat) (now : UInt64) (answer : Answer) :
    (s.traderTick inbox now answer).uncoded = s.uncoded.traderTick inbox now answer := by
  unfold traderTick
  rw [worker?_uncoded]
  cases s.worker? inbox with
  | none => rfl
  | some w =>
    obtain ⟨trader, ticks, fed⟩ := w
    cases ticks with
    | nil =>
      cases fed with
      | true => rfl
      | false => exact uncoded_retire s inbox
    | cons t ticks =>
      -- the trigger and the closing order read the price and the time of a tick only
      exact uncoded_settleWorker s _ _

theorem uncoded_traderEvent (inbox : Nat) : (s.traderEvent inbox).uncoded = s.uncoded.traderEvent inbox := by
  unfold traderEvent
  rw [worker?_uncoded]
  cases s.worker? inbox with
  | none => rfl
  | some w =>
    have hfloor : s.uncoded.floor = s.floor := rfl
    rw [hfloor]
    dsimp only [Option.map_some]
    cases s.floor.bus.take inbox with
    | mk bus receipt =>
      cases receipt with
      | event e => exact uncoded_settleWorker s _ _
      | ended | waits => rfl

end

/-! ## Runs -/

/-- **Codes of ticks are not looked at.** A session without them does the same. -/
theorem uncoded_step (s : Session) (st : Step) : (s.step st).uncoded = s.uncoded.step st.uncoded := by
  cases st with
  | text now t ticket => exact uncoded_text s now t ticket
  | status now u => exact uncoded_status s now u
  | tick t => exact uncoded_tick s t
  | prune => rfl
  | promote => exact uncoded_promote s
  | supervise now answer => exact uncoded_supervise s now answer
  | release id => exact uncoded_release s id
  | openRelay => rfl
  | relay inbox => exact uncoded_relay s inbox
  | traderTick inbox now answer => exact uncoded_traderTick s inbox now answer
  | traderEvent inbox => exact uncoded_traderEvent s inbox

theorem uncoded_run (s : Session) (steps : List Step) :
    (s.run steps).uncoded = s.uncoded.run (steps.map Step.uncoded) := by
  induction steps generalizing s with
  | nil => rfl
  | cons st steps ih =>
    change ((s.step st).run steps).uncoded = (s.uncoded.step st.uncoded).run (steps.map Step.uncoded)
    rw [ih, uncoded_step]

theorem submitted_uncoded (s : Session) (st : Step) : s.uncoded.submitted st.uncoded = s.submitted st := by
  unfold submitted
  rw [← uncoded_step]
  rfl

theorem submitted_of_uncoded_eq (s : Session) {steps steps' : List Step}
    (h : steps'.map Step.uncoded = steps.map Step.uncoded) (st : Step) :
    (s.run steps').submitted st = (s.run steps).submitted st := by
  rw [← submitted_uncoded, ← submitted_uncoded (s.run steps), uncoded_run, uncoded_run, h]

/-- **The instrument of a trader's price.** Every order a trader sends is
triggered by a delivered tick and has its price. The order is for the instrument
of the command, so the tick is of the order's instrument exactly where its code
is that of the command; with any other codes of ticks the order is sent as well. -/
theorem priced_at_any_code (connId : String) (settings : Config.Trade) (hours : Hours) (zone : Zone)
    {steps : List Step} {st : Step} {o : Order}
    (ho : o ∈ ((start connId settings hours zone).run steps).submitted st) (hm : o.manual = false) :
    (∃ t tick c, (start connId settings hours zone).Undoes steps o t tick c ∧
      (tick.code = o.code ↔ tick.code = c.code)) ∧
      ∀ steps', steps'.map Step.uncoded = steps.map Step.uncoded →
        o ∈ ((start connId settings hours zone).run steps').submitted st := by
  obtain ⟨t, tick, c, hu⟩ := (accounted_start connId settings hours zone steps).undoes ho hm
  obtain ⟨-, -, hcode⟩ := hu.placedFor.asks
  refine ⟨⟨t, tick, c, hu, ?_⟩, fun steps' hs => ?_⟩
  · rw [hu.code, ← hcode]
    rfl
  · rwa [submitted_of_uncoded_eq _ hs]

theorem code_of_triggered {instrument action : String} {t : Tick} (h : .tick t ∈ triggered instrument action) :
    t.code = "MXFL1" := by
  have ht : t = { code := "MXFL1", time := 9000, close := 101 } := by simpa [triggered] using h
  rw [ht]

theorem priced_at_any_code_bought :
    ∃ o ∈ ((start "conn-1" {} .alwaysOpen).run (triggered "MXFL1" "Buy")).submitted
        (.traderTick 0 9000 (.failure "down")),
      (∃ t tick c, (start "conn-1" {} .alwaysOpen).Undoes (triggered "MXFL1" "Buy") o t tick c ∧
        tick.code = o.code ∧ tick.code = c.code) ∧
      o ∈ ((start "conn-1" {} .alwaysOpen).run ((triggered "MXFL1" "Buy").map Step.uncoded)).submitted
        (.traderTick 0 9000 (.failure "down")) := by
  have hsubmitted : (((start "conn-1" {} .alwaysOpen).run (triggered "MXFL1" "Buy")).submitted
      (.traderTick 0 9000 (.failure "down"))).map (fun o => (o.code, o.manual)) = [("MXFL1", false)] := by
    decide +kernel
  obtain ⟨o, ho, heq⟩ := List.mem_map.mp (hsubmitted ▸ List.mem_singleton.mpr rfl)
  obtain ⟨hcode, hmanual⟩ := Prod.mk.injEq .. ▸ heq
  obtain ⟨⟨t, tick, c, hu, hiff⟩, hother⟩ := priced_at_any_code "conn-1" {} .alwaysOpen .utc ho hmanual
  have htick : tick.code = o.code := (code_of_triggered hu.delivered).trans hcode.symm
  exact ⟨o, ho, ⟨t, tick, c, hu, htick, hiff.mp htick⟩, hother _ rfl⟩

/-- The order is for another instrument than the tick that triggered it. -/
theorem priced_at_other_code :
    (((start "conn-1" {} .alwaysOpen).run (triggered "TXFL1" "Buy")).submitted
      (.traderTick 0 9000 (.failure "down"))).map (fun o => (o.code, o.manual)) = [("TXFL1", false)] ∧
    ∀ t, .tick t ∈ triggered "TXFL1" "Buy" → t.code ≠ "TXFL1" := by
  refine ⟨by decide +kernel, ?_⟩
  intro t ht
  rw [code_of_triggered ht]
  decide

end Session

end FuturesDesk
