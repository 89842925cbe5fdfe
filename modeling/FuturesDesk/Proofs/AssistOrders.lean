import FuturesDesk.Proofs.DeclinedFrames
import FuturesDesk.Proofs.HiredTraders

/-!
# Orders of traders

The orders a session sends without being told to are those of its traders. Each
undoes the order of an admitted command that asked for assistance, in its group
and its instrument, at the close of a tick that was delivered.
-/

namespace FuturesDesk

/-- What of a target stays the same while its order is followed. -/
def AssistTarget.mandate (t : AssistTarget) : AssistTarget :=
  { t with order := { t.order with status := .unknown, price := 0, tradeTime := 0 } }

def Call.order? : Call → Option Order
  | .submit o _ => some o
  | .cancel .. => none

namespace Session

def submitted (s : Session) (st : Step) : List Order :=
  ((s.step st).registry.journal.drop s.registry.journal.length).filterMap Call.order?

/-- In a step a text is admitted as a command, and the order of a target is
accepted as one of its assisted orders. -/
def Commissions (s : Session) (c : Command) (target : AssistTarget) (st : Step) : Prop :=
  ∃ now t ticket, st = .text now t ticket ∧ s.Admits now t ∧ Command.ofText t = .ok c ∧
    ∃ primary ∈ s.assistedOrders now c ticket, target.mandate = primary.mandate

def PlacedFor (s : Session) (steps : List Step) (c : Command) (target : AssistTarget) : Prop :=
  ∃ before st after, steps = before ++ st :: after ∧ (s.run before).Commissions c target st

/-- What is pending or at work after a run comes of its commands, and the ticks
that wait to be looked at were delivered in it. -/
structure Accounted (s : Session) (steps : List Step) : Prop where
  pending : ∀ id target, (s.run steps).pending.find? id = some target → ∃ c, s.PlacedFor steps c target
  traders : ∀ w ∈ (s.run steps).workers, ∃ c, s.PlacedFor steps c w.trader.target
  filled : ∀ w ∈ (s.run steps).workers, w.trader.primary.status = .filled
  ticks : ∀ w ∈ (s.run steps).workers, ∀ t ∈ w.ticks, .tick t ∈ steps

/-- After a run a trader sends an order at a tick, to undo the order that was
placed for a command. -/
structure Undoes (s : Session) (steps : List Step) (o : Order) (t : Trader) (tick : Tick) (c : Command) : Prop where
  atWork : t ∈ (s.run steps).traders
  filled : t.primary.status = .filled
  placedFor : s.PlacedFor steps c t.target
  delivered : .tick tick ∈ steps
  fires : t.shouldFire tick
  group : o.group = t.primary.group
  code : o.code = t.primary.code
  action : o.action = t.primary.action.opposite
  price : o.price = tick.close

section
variable {s : Session} {st : Step} {steps : List Step} {id : String} {target target' : AssistTarget} {c : Command}
  {w : Worker} {o : Order}

/-! ## Commands and their targets -/

theorem mem_placeUnits {now : UInt64} {tickets : List Ticket} (ho : o ∈ (s.placeUnits now c tickets).2) :
    ∃ group reply, o = (unitOrder c group).accepted reply now := by
  induction tickets generalizing s with
  | nil => cases ho
  | cons ticket tickets ih =>
    rw [placeUnits_cons, List.mem_append, Option.mem_toList] at ho
    rcases ho with ho | ho
    · rcases placeUnit_cases s now c ticket with ⟨-, text, he⟩ | ⟨reply, -, he⟩
      · rw [he] at ho
        cases ho
      · rw [he] at ho
        exact ⟨ticket.group, reply, (Option.some.inj ho).symm⟩
    · exact ih ho

theorem mem_assistedOrders_iff {now : UInt64} {ticket : Nat → Ticket} (ha : (s.admission now).refusal? c = none) :
    target ∈ s.assistedOrders now c ticket ↔ c.option = some target.option ∧
      target.order ∈ (s.placeUnits now c ((List.range (unitCount c)).map ticket)).2 := by
  unfold assistedOrders
  rw [command_of_refusal?_none ha]
  cases c.option with
  | none => simp
  | some option =>
    dsimp only
    rw [List.mem_map]
    constructor
    · rintro ⟨o, ho, rfl⟩
      exact ⟨rfl, ho⟩
    · rintro ⟨hoption, ho⟩
      exact ⟨target.order, ho, by rw [Option.some.inj hoption]⟩

theorem Commissions.congr (h : s.Commissions c target st) (hm : target'.mandate = target.mandate) :
    s.Commissions c target' st := by
  obtain ⟨now, t, ticket, hst, ha, hread, primary, hp, hp'⟩ := h
  exact ⟨now, t, ticket, hst, ha, hread, primary, hp, hm.trans hp'⟩

theorem Commissions.asks (h : s.Commissions c target st) :
    c.option = some target.option ∧ target.order.action = c.action ∧ target.order.code = c.code := by
  obtain ⟨now, t, ticket, -, ⟨-, c', hread', hpass⟩, hread, primary, hp, hm⟩ := h
  rw [hread', Except.ok.injEq] at hread
  subst hread
  obtain ⟨hoption, ho⟩ := (mem_assistedOrders_iff (refusal?_eq_none_iff.mpr hpass)).mp hp
  obtain ⟨group, reply, horder⟩ := mem_placeUnits ho
  have hsame : target.option = primary.option := congrArg (fun t => t.option) hm
  have haction : target.order.action = primary.order.action := congrArg (fun t => t.order.action) hm
  have hcode : target.order.code = primary.order.code := congrArg (fun t => t.order.code) hm
  rw [hsame, haction, hcode, horder]
  exact ⟨hoption, rfl, rfl⟩

theorem placedFor_snoc : s.PlacedFor (steps ++ [st]) c target ↔
    s.PlacedFor steps c target ∨ (s.run steps).Commissions c target st := exists_split_snoc

theorem PlacedFor.congr (h : s.PlacedFor steps c target) (hm : target'.mandate = target.mandate) :
    s.PlacedFor steps c target' := by
  obtain ⟨before, st, after, hsplit, hc⟩ := h
  exact ⟨before, st, after, hsplit, hc.congr hm⟩

theorem PlacedFor.asks (h : s.PlacedFor steps c target) :
    c.option = some target.option ∧ target.order.action = c.action ∧ target.order.code = c.code := by
  obtain ⟨before, st, after, -, hc⟩ := h
  exact hc.asks

/-! ## Pending targets -/

theorem mandate_follow (now : UInt64) (o : Order) (t : AssistTarget) : (follow now o t).mandate = t.mandate := rfl

theorem pending_text {now : UInt64} {t : String} {ticket : Nat → Ticket}
    (ht : (s.text now t ticket).pending.find? id = some target) :
    s.pending.find? id = some target ∨ ∃ c, s.Commissions c target (.text now t ticket) := by
  by_cases ha : s.Admits now t
  · have ⟨hping, c, hread, hpass⟩ := ha
    have hadmit := refusal?_eq_none_iff.mpr hpass
    rw [text_of_ofText hping hread, command_of_refusal?_none hadmit] at ht
    rcases pending_placeUnits s now c _ ht with ht | ⟨ho, -, hoption⟩
    · exact Or.inl ht
    · exact Or.inr ⟨c, now, t, ticket, rfl, ha, hread, target,
        (mem_assistedOrders_iff hadmit).mpr ⟨hoption, ho⟩, rfl⟩
  · obtain ⟨f, -, he⟩ := text_of_not_admits ha ticket
    rw [he] at ht
    exact Or.inl ht

theorem pending_settleWorker (s : Session) (w : Worker) (f : Floor) : (s.settleWorker w f).pending = s.pending := by
  unfold settleWorker
  dsimp only
  split <;> rfl

theorem pending_step (ht : (s.step st).pending.find? id = some target) :
    (∃ old, s.pending.find? id = some old ∧ target.mandate = old.mandate) ∨ ∃ c, s.Commissions c target st := by
  have hsame : (s.step st).pending = s.pending → ∃ old, s.pending.find? id = some old ∧
      target.mandate = old.mandate := by
    intro hp
    rw [hp] at ht
    exact ⟨target, ht, rfl⟩
  cases st with
  | text now t ticket =>
    rcases pending_text ht with ht | hc
    · exact Or.inl ⟨target, ht, rfl⟩
    · exact Or.inr hc
  | status now u =>
    change (s.status now u).pending.find? id = _ at ht
    rcases status_cases s now u with ⟨-, he⟩ | ⟨o, -, he⟩
    · rw [he] at ht
      exact Or.inl ⟨target, ht, rfl⟩
    · rw [he] at ht
      replace ht := (Table.find?_modify ..).symm.trans ht
      split at ht
      · obtain ⟨old, hold, rfl⟩ := Option.map_eq_some_iff.mp ht
        exact Or.inl ⟨old, hold, mandate_follow now o old⟩
      · exact Or.inl ⟨target, ht, rfl⟩
  | promote =>
    change s.promote.pending.find? id = _ at ht
    rw [pending_promote, Table.find?_filter] at ht
    exact Or.inl ⟨target, (Option.filter_eq_some_iff.mp ht).1, rfl⟩
  | supervise now answer =>
    refine Or.inl (hsame ?_)
    change (s.supervise now answer).pending = _
    rw [supervise_eq]
    rfl
  | release primary =>
    obtain ⟨queues, workers, out, he, -⟩ := s.release_parts primary
    refine Or.inl (hsame ?_)
    change (s.release primary).1.pending = _
    rw [he]
  | relay inbox =>
    refine Or.inl (hsame ?_)
    change (s.relay inbox).pending = _
    rcases relay_cases s inbox with ⟨he, -⟩ | ⟨bus, e, -, -, he⟩
    · rw [he]
    · rw [he, (event_keeps _ e).2.2.1]
  | traderTick inbox now answer =>
    refine Or.inl (hsame ?_)
    change (s.traderTick inbox now answer).pending = _
    rcases traderTick_moves s inbox now answer with he | ⟨w, -, -, he⟩ | ⟨w, t, ticks, -, -, he⟩
    · rw [he]
    · rw [he]
      rfl
    · rw [he, pending_settleWorker]
  | traderEvent inbox =>
    refine Or.inl (hsame ?_)
    change (s.traderEvent inbox).pending = _
    rcases traderEvent_cases s inbox with he | ⟨w, -, bus, e, -, he⟩
    · rw [he]
    · rw [he, pending_settleWorker]
  | tick _ | prune | openRelay => exact Or.inl (hsame rfl)

/-! ## Traders at work -/

/-- A worker is one of the given ones, moved on: its target is the same, and its
ticks are among those it had. -/
def Continues (ws : List Worker) (w : Worker) : Prop :=
  ∃ v ∈ ws, w.trader.target = v.trader.target ∧ w.ticks ⊆ v.ticks

theorem continues_of_mem {ws : List Worker} (h : w ∈ ws) : Continues ws w := ⟨w, h, rfl, List.Subset.refl _⟩

theorem continues_of_unfed {ws : List Worker} {p : Worker → Prop} [DecidablePred p]
    (h : w ∈ ws.map fun v => if p v then { v with fed := false } else v) : Continues ws w := by
  obtain ⟨v, hv, rfl⟩ := List.mem_map.mp h
  refine ⟨v, hv, ?_⟩
  split <;> exact ⟨rfl, List.Subset.refl _⟩

theorem workers_release {primary : String} (hw : w ∈ (s.release primary).1.workers) : Continues s.workers w := by
  unfold release at hw
  cases hq : s.queues.find? primary with
  | none =>
    rw [hq] at hw
    exact continues_of_mem hw
  | some inbox =>
    rw [hq] at hw
    dsimp only at hw
    split at hw <;> exact continues_of_unfed hw

theorem workers_event {e : DeskEvent} (hw : w ∈ (s.event e).workers) : Continues s.workers w := by
  cases e with
  | assistDone primary => exact workers_release hw
  | orderStatus _ | placed _ | assistFailed _ _ => exact continues_of_mem hw

theorem workers_startAssist (hw : w ∈ (s.startAssist target).workers) :
    Continues s.workers w ∨ w.trader.target = target ∧ w.ticks = [] := by
  unfold startAssist at hw
  dsimp only at hw
  have hmem : w ∈ (s.workers.map fun v => if some v.trader.inbox = s.queues.find? target.order.id then
      { v with fed := false } else v) ++ [{ trader := (Trader.start s.floor target).1 }] := by
    split at hw <;> exact hw
  rcases List.mem_append.mp hmem with hold | hnew
  · exact Or.inl (continues_of_unfed hold)
  · rw [List.mem_singleton] at hnew
    rw [hnew]
    exact Or.inr ⟨rfl, rfl⟩

theorem workers_startAll {targets : List AssistTarget} (hw : w ∈ (targets.foldl startAssist s).workers) :
    Continues s.workers w ∨ w.trader.target ∈ targets ∧ w.ticks = [] := by
  induction targets generalizing s with
  | nil => exact Or.inl (continues_of_mem hw)
  | cons target targets ih =>
    rcases ih hw with ⟨v, hv, ht, hticks⟩ | ⟨ht, hticks⟩
    · rcases workers_startAssist hv with ⟨u, hu, ht', hticks'⟩ | ⟨ht', hempty⟩
      · exact Or.inl ⟨u, hu, ht.trans ht', List.Subset.trans hticks hticks'⟩
      · rw [hempty, List.subset_nil] at hticks
        exact Or.inr ⟨List.mem_cons.mpr (Or.inl (ht.trans ht')), hticks⟩
    · exact Or.inr ⟨List.mem_cons_of_mem _ ht, hticks⟩

theorem workers_settleWorker {v : Worker} {f : Floor} (hw : w ∈ (s.settleWorker v f).workers) :
    w ∈ s.workers ∨ w = v := by
  unfold settleWorker at hw
  dsimp only at hw
  split at hw
  · exact Or.inl (List.mem_filter.mp hw).1
  · obtain ⟨u, hu, rfl⟩ := List.mem_map.mp hw
    split
    · exact Or.inr rfl
    · exact Or.inl hu

theorem workers_step (hw : w ∈ (s.step st).workers) :
    (∃ v ∈ s.workers, w.trader.target = v.trader.target ∧ ∀ t ∈ w.ticks, t ∈ v.ticks ∨ st = .tick t) ∨
    w.trader.target ∈ s.ready ∧ w.ticks = [] := by
  have hcontinues : Continues s.workers w → ∃ v ∈ s.workers, w.trader.target = v.trader.target ∧
      ∀ t ∈ w.ticks, t ∈ v.ticks ∨ st = .tick t := by
    rintro ⟨v, hv, ht, hticks⟩
    exact ⟨v, hv, ht, fun t hm => Or.inl (hticks hm)⟩
  have hold : w ∈ s.workers → _ := fun h => hcontinues (continues_of_mem h)
  cases st with
  | text now t ticket =>
    left
    apply hold
    change w ∈ (s.text now t ticket).workers at hw
    rcases text_cases s now t ticket with ⟨f, he⟩ | ⟨c, tickets, -, he⟩
    · rw [he] at hw
      exact hw
    · rw [he, workers_placeUnits] at hw
      exact hw
  | status now u =>
    left
    apply hold
    change w ∈ (s.status now u).workers at hw
    rcases status_cases s now u with ⟨-, he⟩ | ⟨o, -, he⟩
    · rw [he] at hw
      exact hw
    · rw [he] at hw
      exact hw
  | tick t =>
    left
    obtain ⟨v, hv, rfl⟩ := List.mem_map.mp hw
    refine ⟨v, hv, ?_⟩
    split
    · refine ⟨rfl, fun t' ht' => ?_⟩
      rcases List.mem_append.mp ht' with ht' | ht'
      · exact Or.inl ht'
      · rw [List.mem_singleton.mp ht']
        exact Or.inr rfl
    · exact ⟨rfl, fun t' ht' => Or.inl ht'⟩
  | promote =>
    rcases workers_startAll hw with hc | hready
    · exact Or.inl (hcontinues hc)
    · exact Or.inr hready
  | supervise now answer =>
    left
    apply hold
    change w ∈ (s.supervise now answer).workers at hw
    rw [supervise_eq] at hw
    exact hw
  | release primary => exact Or.inl (hcontinues (workers_release hw))
  | relay inbox =>
    left
    change w ∈ (s.relay inbox).workers at hw
    rcases relay_cases s inbox with ⟨he, -⟩ | ⟨bus, e, -, -, he⟩
    · rw [he] at hw
      exact hold hw
    · rw [he] at hw
      have hc : Continues ({ s with floor := { s.floor with bus } } : Session).workers w := workers_event hw
      exact hcontinues hc
  | traderTick inbox now answer =>
    left
    change w ∈ (s.traderTick inbox now answer).workers at hw
    rcases traderTick_moves s inbox now answer with he | ⟨v, -, -, he⟩ | ⟨v, t, ticks, hv, hticks, he⟩
    · rw [he] at hw
      exact hold hw
    · rw [he] at hw
      exact hold (List.mem_filter.mp hw).1
    · rw [he] at hw
      rcases workers_settleWorker hw with hw | rfl
      · exact hold hw
      · refine hcontinues ⟨v, mem_of_worker? hv, (Trader.onTick_keeps ..).1, ?_⟩
        rw [hticks]
        exact List.subset_cons_self ..
  | traderEvent inbox =>
    left
    change w ∈ (s.traderEvent inbox).workers at hw
    rcases traderEvent_cases s inbox with he | ⟨v, hv, bus, e, -, he⟩
    · rw [he] at hw
      exact hold hw
    · rw [he] at hw
      rcases workers_settleWorker hw with hw | rfl
      · exact hold hw
      · exact hcontinues ⟨v, hv, (Trader.onEvent_keeps ..).1, List.Subset.refl _⟩
  | prune | openRelay => exact Or.inl (hold hw)

/-! ## Orders submitted -/

theorem submitted_eq (s : Session) (st : Step) {calls : List Call}
    (h : (s.step st).registry.journal = s.registry.journal ++ calls) :
    s.submitted st = calls.filterMap Call.order? := by
  rw [submitted, h, List.drop_left]

theorem submitted_of_same (h : (s.step st).registry.journal = s.registry.journal) : s.submitted st = [] :=
  submitted_eq s st (h.trans (List.append_nil _).symm)

theorem filterMap_order?_submits (units : List Order) (answers : List Answer) :
    (List.zipWith Call.submit units answers).filterMap Call.order? ⊆ units := by
  induction units generalizing answers with
  | nil => exact List.nil_subset _
  | cons o units ih =>
    cases answers with
    | nil => exact List.nil_subset _
    | cons a answers =>
      intro o' ho'
      rcases List.mem_cons.mp ho' with rfl | ho'
      · exact List.mem_cons_self ..
      · exact List.mem_cons_of_mem _ (ih answers ho')

theorem submitted_text {now : UInt64} {t : String} {ticket : Nat → Ticket}
    (ho : o ∈ s.submitted (.text now t ticket)) : o.manual = true ∧ ∃ c, Command.ofText t = .ok c ∧ IsUnit c o := by
  by_cases ha : s.Admits now t
  · have ⟨hping, c, hread, hpass⟩ := ha
    have hsent := sent_placeUnits s now c ((List.range (unitCount c)).map ticket)
    have he : s.text now t ticket = (s.placeUnits now c ((List.range (unitCount c)).map ticket)).1 := by
      rw [text_of_ofText hping hread, command_of_refusal?_none (refusal?_eq_none_iff.mpr hpass)]
    rw [submitted_eq s (.text now t ticket) ((congrArg (fun s => s.registry.journal) he).trans hsent.calls)] at ho
    have hunit := filterMap_order?_submits _ _ ho
    obtain ⟨k, -, rfl⟩ := List.mem_map.mp hunit
    exact ⟨rfl, c, hread, isUnit_of_mem_unitsOf hunit⟩
  · obtain ⟨f, -, he⟩ := text_of_not_admits ha ticket
    have hsame : (s.step (.text now t ticket)).registry.journal = s.registry.journal := by
      change (s.text now t ticket).registry.journal = _
      rw [he]
      rfl
    rw [submitted_of_same hsame] at ho
    cases ho

theorem journal_onTick (t : Trader) (f : Floor) (now : UInt64) (tick : Tick) (answer : Answer) :
    (t.onTick f now tick answer).2.1.registry.journal =
      f.registry.journal ++ (t.submission? f tick).toList.map (.submit · answer) := by
  have hr := Trader.registry_catchUp t f
  unfold Trader.submission?
  rcases Trader.onTick_cases t f now tick answer with ⟨ho, he⟩ | ⟨o, reason, ho, -, he⟩ | ⟨o, reply, ho, -, he⟩
  · rw [he, ho]
    dsimp only
    rw [hr]
    exact (List.append_nil _).symm
  · rw [he, ho]
    dsimp only
    rw [Registry.journal_place, hr]
    rfl
  · rw [he, ho]
    dsimp only
    rw [Registry.journal_place, hr]
    rfl

theorem submitted_traderTick (s : Session) (inbox : Nat) (now : UInt64) (answer : Answer) :
    ∀ o ∈ s.submitted (.traderTick inbox now answer), s.submission? inbox = some o := by
  intro o ho
  have hquiet : (s.traderTick inbox now answer).registry = s.registry → False := by
    intro h
    have hsame : (s.step (.traderTick inbox now answer)).registry.journal = _ := congrArg Registry.journal h
    rw [submitted_of_same hsame] at ho
    cases ho
  rcases traderTick_moves s inbox now answer with he | ⟨w, -, -, he⟩ | ⟨w, t, ticks, hw, hticks, he⟩
  · exact (hquiet (by rw [he])).elim
  · exact (hquiet (by rw [he]; rfl)).elim
  · have hcalls : (s.traderTick inbox now answer).registry.journal =
        s.registry.journal ++ (w.trader.submission? s.floor t).toList.map (.submit · answer) := by
      rw [he, registry_settleWorker]
      exact journal_onTick ..
    rw [submitted_eq s (.traderTick inbox now answer) hcalls, List.filterMap_map] at ho
    have hsubmission : s.submission? inbox = w.trader.submission? s.floor t := by
      unfold submission?
      rw [hw]
      simp [hticks]
    rw [hsubmission]
    simpa [Call.order?] using ho

/-- An order is submitted as a unit of a command, or a trader submits it at a
tick. -/
theorem submitted_cases (ho : o ∈ s.submitted st) :
    (∃ now t ticket c, st = .text now t ticket ∧ Command.ofText t = .ok c ∧ IsUnit c o ∧ o.manual = true) ∨
      ∃ inbox now answer, st = .traderTick inbox now answer ∧ s.submission? inbox = some o := by
  have hnone : (s.step st).registry.journal = s.registry.journal → False := by
    intro h
    rw [submitted_of_same h] at ho
    cases ho
  have hsame : (s.step st).registry = s.registry → False := fun h => hnone (congrArg Registry.journal h)
  cases st with
  | text now t ticket =>
    obtain ⟨hmanual, c, hread, hunit⟩ := submitted_text ho
    exact Or.inl ⟨now, t, ticket, c, rfl, hread, hunit, hmanual⟩
  | traderTick inbox now answer =>
    exact Or.inr ⟨inbox, now, answer, rfl, submitted_traderTick s inbox now answer o ho⟩
  | supervise now answer =>
    have hcalls := (congrArg Registry.journal (registry_supervise ..)).trans (s.registry.journal_sweep now answer)
    rw [submitted_eq s (.supervise now answer) hcalls, List.filterMap_map] at ho
    obtain ⟨id, -, hid⟩ := List.mem_filterMap.mp ho
    cases hid
  | status now u =>
    have hr := registry_status s now u
    exact (hnone ((congrArg Registry.journal hr).trans (s.registry.journal_merge now u))).elim
  | promote => exact (hsame (registry_startAll ..)).elim
  | release id => exact (hsame (registry_release ..)).elim
  | relay inbox => exact (hsame (registry_relay ..)).elim
  | traderEvent inbox => exact (hsame (registry_traderEvent ..)).elim
  | tick _ | prune | openRelay => exact (hsame rfl).elim

/-! ## Runs -/

theorem Accounted.step (h : s.Accounted steps) (st : Step) : s.Accounted (steps ++ [st]) := by
  have hlater : ∀ {target target' : AssistTarget}, (∃ c, s.PlacedFor steps c target) →
      target'.mandate = target.mandate → ∃ c, s.PlacedFor (steps ++ [st]) c target' := by
    rintro target target' ⟨c, hc⟩ hm
    exact ⟨c, placedFor_snoc.mpr (Or.inl (hc.congr hm))⟩
  have hready : ∀ target ∈ (s.run steps).ready, target.order.status = .filled ∧ ∃ c, s.PlacedFor steps c target := by
    intro target ht
    obtain ⟨ht, hfilled⟩ := List.mem_filter.mp ht
    obtain ⟨e, he, rfl⟩ := List.mem_map.mp ht
    exact ⟨of_decide_eq_true hfilled, h.pending e.1 e.2 (Table.mem_entries_iff.mp he)⟩
  refine ⟨fun id target ht => ?_, fun w hw => ?_, fun w hw => ?_, fun w hw t ht => ?_⟩
  · rw [run_snoc] at ht
    rcases pending_step ht with ⟨old, hold, hm⟩ | ⟨c, hc⟩
    · exact hlater (h.pending id old hold) hm
    · exact ⟨c, placedFor_snoc.mpr (Or.inr hc)⟩
  · rw [run_snoc] at hw
    rcases workers_step hw with ⟨v, hv, ht, -⟩ | ⟨ht, -⟩
    · exact hlater (h.traders v hv) (by rw [ht])
    · exact hlater (hready _ ht).2 rfl
  · rw [run_snoc] at hw
    rcases workers_step hw with ⟨v, hv, ht, -⟩ | ⟨ht, -⟩
    · rw [Trader.primary, ht]
      exact h.filled v hv
    · exact (hready _ ht).1
  · rw [run_snoc] at hw
    rcases workers_step hw with ⟨v, hv, -, hticks⟩ | ⟨-, hempty⟩
    · rcases hticks t ht with ht | rfl
      · exact List.mem_append_left _ (h.ticks v hv t ht)
      · exact List.mem_append_right _ (List.mem_singleton.mpr rfl)
    · rw [hempty] at ht
      cases ht

theorem accounted_start (connId : String) (settings : Config.Trade) (hours : Hours) (zone : Zone) (steps : List Step) :
    (start connId settings hours zone).Accounted steps := by
  induction steps using List.reverseRecOn with
  | nil =>
    refine ⟨fun id target ht => ?_, fun w hw => ?_, fun w hw => ?_, fun w hw => ?_⟩
    · cases ht
    · cases hw
    · cases hw
    · cases hw
  | append_singleton steps st ih => exact ih.step st

theorem undoes_of_submission? {t : Trader} {tick : Tick} (h : t.submission? s.floor tick = some o) :
    t.shouldFire tick ∧ o.group = t.primary.group ∧ o.code = t.primary.code ∧
      o.action = t.primary.action.opposite ∧ o.price = tick.close := by
  have ht := (Trader.catchUp_keeps t s.floor).1
  obtain ⟨-, -, hfire, rfl⟩ := Trader.order?_eq_some h
  unfold Trader.shouldFire Trader.primary at hfire
  unfold Trader.closingOrder Trader.shouldFire Trader.primary
  rw [ht] at hfire ⊢
  exact ⟨hfire, rfl, rfl, rfl, rfl⟩

/-- **Where the orders of traders come from.** What a trader at work sends is to
undo a filled order of a command. -/
theorem Accounted.undoes_of_sent {inbox : Nat} (h : s.Accounted steps)
    (hs : (s.run steps).submission? inbox = some o) : ∃ t tick c, s.Undoes steps o t tick c := by
  obtain ⟨w, hw, hs⟩ := Option.bind_eq_some_iff.mp hs
  obtain ⟨tick, htick, hs⟩ := Option.bind_eq_some_iff.mp hs
  have hmem := mem_of_worker? hw
  obtain ⟨c, hc⟩ := h.traders w hmem
  obtain ⟨hfire, hgroup, hcode, haction, hprice⟩ := undoes_of_submission? hs
  exact ⟨w.trader, tick, c, List.mem_map_of_mem hmem, h.filled w hmem, hc,
    h.ticks w hmem tick (List.mem_of_mem_head? htick), hfire, hgroup, hcode, haction, hprice⟩

theorem Accounted.undoes (h : s.Accounted steps) (ho : o ∈ (s.run steps).submitted st) (hm : o.manual = false) :
    ∃ t tick c, s.Undoes steps o t tick c := by
  rcases submitted_cases ho with ⟨-, -, -, -, -, -, -, hmanual⟩ | ⟨inbox, now, answer, rfl, hs⟩
  · rw [hm] at hmanual
    cases hmanual
  · exact h.undoes_of_sent hs

/-- **Traders undo, whatever was done.** Every order a trader sends has the
group and the instrument of the order it was put to work for, and the opposite
action. So it closes a position exactly where the command opened one: a command
to close with assistance is taken as well, and its trader opens a position. -/
theorem trader_closes_iff (connId : String) (settings : Config.Trade) (hours : Hours) (zone : Zone)
    (ho : o ∈ ((start connId settings hours zone).run steps).submitted st) (hm : o.manual = false) :
    ∃ t tick c, (start connId settings hours zone).Undoes steps o t tick c ∧ t.primary.code = c.code ∧
      t.primary.action = c.action ∧ (o.action.isOpening = false ↔ c.action.isOpening = true) := by
  obtain ⟨t, tick, c, hu⟩ := (accounted_start connId settings hours zone steps).undoes ho hm
  obtain ⟨-, haction, hcode⟩ := hu.placedFor.asks
  refine ⟨t, tick, c, hu, hcode, haction, ?_⟩
  have hprimary : t.primary.action = c.action := haction
  rw [hu.action, hprimary, Action.isOpening_opposite]
  cases c.action.isOpening <;> simp

end

/-- An assisted command for one unit that fills and is promoted, and a tick of
MXFL1 after its period. -/
def triggered (instrument action : String) : List Step :=
  [.text 1000 ("\x7b\"instrumentCode\":\"" ++ instrument ++ "\",\"action\":\"" ++ action ++
      "\",\"price\":100,\"quantity\":1," ++
      "\"automationOption\":\x7b\"automationType\":\"ByTimePeriod\",\"byTimePeriodSecs\":5\x7d\x7d")
     fun _ => ⟨"g1", .reply { orderId := "p1", status := .submitted }⟩,
   .status 1500 ⟨"p1", .filled, 0, none⟩, .promote, .tick { code := "MXFL1", time := 9000, close := 101 }]

theorem trader_closes_iff_bought :
    ∃ o ∈ ((start "conn-1" {} .alwaysOpen).run (triggered "MXFL1" "Buy")).submitted
        (.traderTick 0 9000 (.failure "down")), o.action = .sell ∧
      ∃ t tick c, (start "conn-1" {} .alwaysOpen).Undoes (triggered "MXFL1" "Buy") o t tick c ∧
        (o.action.isOpening = false ↔ c.action.isOpening = true) := by
  have hsubmitted : (((start "conn-1" {} .alwaysOpen).run (triggered "MXFL1" "Buy")).submitted
      (.traderTick 0 9000 (.failure "down"))).map (fun o => (o.action, o.manual)) = [(.sell, false)] := by
    decide +kernel
  obtain ⟨o, ho, heq⟩ := List.mem_map.mp (hsubmitted ▸ List.mem_singleton.mpr rfl)
  obtain ⟨haction, hmanual⟩ := Prod.mk.injEq .. ▸ heq
  obtain ⟨t, tick, c, hu, -, -, hiff⟩ := trader_closes_iff "conn-1" {} .alwaysOpen .utc ho hmanual
  exact ⟨o, ho, haction, t, tick, c, hu, hiff⟩

/-- A command to sell what is held, with assistance: the trader buys. -/
theorem trader_opens_after_sale :
    (((start "conn-1" {} .alwaysOpen).run (triggered "MXFL1" "Sell")).submitted
      (.traderTick 0 9000 (.failure "down"))).map (fun o => (o.action, o.action.isOpening, o.manual)) =
      [(.buy, true, false)] := by decide +kernel

end Session

end FuturesDesk
