import Mathlib.Data.List.Nodup
import FuturesDesk.Proofs.SessionSteps

/-!
# One command in flight

The invariant of a session survives the moves of its traders, and with them
every step. A session takes a command only where nothing is waited for, nothing
is pending and no queue is open: nothing is live then.
-/

namespace FuturesDesk

namespace Session

section
variable {s s' : Session} {known : String → Option Status}

/-! ## Traders at work -/

theorem Staffed.eq_of_inbox (h : s.Staffed) {t u : Trader} (ht : t ∈ s.traders) (hu : u ∈ s.traders)
    (hi : u.inbox = t.inbox) : u = t := List.inj_on_of_nodup_map h.inboxes hu ht hi

/-- What a session is like once a trader at work has moved: the trader stays
unless it is done. -/
structure Moved (s s' : Session) (t t' : Trader) (f : Floor) (new : List Order) : Prop where
  atWork : t ∈ s.traders
  move : t.Move t' s.floor f new
  registry : s'.floor.registry = f.registry
  quiet : Bus.Quiet t.inbox t'.announced s.floor.bus s'.floor.bus
  bus : t'.phase ≠ .done → s'.floor.bus = f.bus
  traders : ∀ u, u ∈ s'.traders ↔ u = t' ∧ t'.phase ≠ .done ∨ u ∈ s.traders ∧ u.inbox ≠ t.inbox
  inboxes : (s'.traders.map (·.inbox)).Nodup
  fed : ∀ w ∈ s'.workers, w.fed
  queues : s'.queues = s.queues
  pending : s'.pending = s.pending
  relays : s'.relays = s.relays
  waiting : s'.waiting = s.waiting

section
variable {t t' : Trader} {f : Floor} {new : List Order}

theorem Moved.given (hm : Moved s s' t t' f new) : ∀ id ∈ s.registry.given, id ∈ s'.registry.given := by
  intro id hid
  change id ∈ s'.floor.registry.given
  rw [hm.registry, hm.move.grown.given]
  exact List.mem_append_left _ hid

theorem Moved.primary_eq (hm : Moved s s' t t' f new) : t'.primary = t.primary := congrArg (·.order) hm.move.target

theorem Moved.announced (hm : Moved s s' t t' f new) {id : String} (hid : id ∈ t'.announced) :
    t'.phase = .done ∧ id = t.primary.id := by
  unfold Trader.announced at hid
  split at hid
  · rename_i hd
    exact ⟨hd, by rw [List.mem_singleton.mp hid, hm.primary_eq]⟩
  · cases hid

theorem Moved.traders_cases (hm : Moved s s' t t' f new) {u : Trader} (hu : u ∈ s'.traders) :
    ∃ v ∈ s.traders, u.inbox = v.inbox ∧ u.primary = v.primary := by
  rcases (hm.traders u).mp hu with ⟨rfl, -⟩ | ⟨hu, -⟩
  · exact ⟨t, hm.atWork, hm.move.inbox, hm.primary_eq⟩
  · exact ⟨u, hu, rfl, rfl⟩

theorem Moved.staffed (hm : Moved s s' t t' f new) (h : s.Staffed) : s'.Staffed := by
  have hqueue := h.queue t hm.atWork
  refine ⟨hm.quiet.tidy h.tidy, hm.fed, fun u hu => ?_, hm.inboxes, fun r hr => ?_, fun id i hi => ?_,
    hm.queues ▸ h.distinct, fun id target htarget => ?_, fun i id hmem => ?_⟩
  · obtain ⟨v, hv, hi, hp⟩ := hm.traders_cases hu
    rw [hm.queues, hi, hp]
    exact h.queue v hv
  · rw [hm.relays] at hr
    obtain ⟨hlt, hne⟩ := h.relays r hr
    refine ⟨Nat.lt_of_lt_of_le hlt hm.quiet.nextId, fun u hu => ?_⟩
    obtain ⟨v, hv, hi, -⟩ := hm.traders_cases hu
    rw [hi]; exact hne v hv
  · rw [hm.queues] at hi
    exact (h.queues id i hi).imp (hm.given id) fun hlt => Nat.lt_of_lt_of_le hlt hm.quiet.nextId
  · rw [hm.pending] at htarget
    obtain ⟨hkey, hstart⟩ := h.pending id target htarget
    refine ⟨hkey, hstart.quantity, hm.given _ hstart.given, hm.queues ▸ hstart.closed, fun i hmem => ?_⟩
    rcases hm.quiet.ended i _ hmem with hmem | hmem
    · exact hstart.unended i hmem
    · -- a pending target has no queue, so it is not the position whose end was announced
      rw [← (hm.announced hmem).2, hstart.closed] at hqueue
      cases hqueue
  · rcases hm.quiet.ended i id hmem with hmem | hmem
    · obtain ⟨hg, hne⟩ := h.ended i id hmem
      refine ⟨hm.given id hg, fun u hu => ?_⟩
      obtain ⟨v, hv, -, hp⟩ := hm.traders_cases hu
      rw [hp]; exact hne v hv
    · obtain ⟨hd, rfl⟩ := hm.announced hmem
      refine ⟨hm.given _ (h.queues _ _ hqueue).1, fun u hu hid => ?_⟩
      rcases (hm.traders u).mp hu with ⟨-, hnd⟩ | ⟨hu, hne⟩
      · exact hnd hd
      · -- a position has one queue, and a queue one mailbox
        have hqueue' := h.queue u hu
        rw [hid, hqueue, Option.some.injEq] at hqueue'
        exact hne hqueue'.symm

theorem Moved.atWork_after (hm : Moved s s' t t' f new) (h : s.Sound known)
    (hin : t'.InStep f.bus (f.registry.lastView known)) (hn : f.registry.given.Nodup) :
    ∀ u ∈ s'.traders, u.AtWork s'.floor (f.registry.lastView known) := by
  intro u hu
  rcases (hm.traders u).mp hu with ⟨rfl, hnd⟩ | ⟨hu, hne⟩
  · refine ⟨by rw [hm.bus hnd]; exact hin, hnd, fun id hid => ?_⟩
    rcases (hm.move.legs id).mp hid with hid | ⟨o, ho, rfl⟩
    · exact hm.given id ((h.atWork t hm.atWork).closing id hid)
    · rw [hm.registry, hm.move.grown.given]
      exact List.mem_append_right _ (List.mem_map_of_mem ho)
  · have hat : u.AtWork s'.floor (s'.floor.registry.lastView known) := (h.atWork u hu).grown h.views
      (by rw [hm.registry]; exact hm.move.grown) (by rw [hm.registry]; exact hn) (hm.quiet.silent _ hne)
      (hm.quiet.listed _ hne)
    rwa [hm.registry] at hat

theorem Moved.sound (hm : Moved s s' t t' f new) (h : s.Sound known)
    (hin : t'.InStep f.bus (f.registry.lastView known)) (hn : f.registry.given.Nodup) :
    s'.Sound (f.registry.lastView known) := by
  have hreg : s'.registry = f.registry := hm.registry
  have hgrown := hm.move.grown
  have hviews : s'.registry.Views (f.registry.lastView known) := hreg ▸ hgrown.views h.views
  refine ⟨hviews, fun id st hs => h.named_grown hgrown id st (hreg ▸ hs), hm.staffed h.staffed,
    hm.atWork_after h hin hn, fun id hid => ?_⟩
  -- a live order is a closing order of the trader, or was held before by someone else
  obtain ⟨st, hs, hc⟩ := isLive_iff.mp hid
  by_cases hleg : (t'.closing.find? id).isSome
  · have hnd := hin.not_done_of_live hleg (hviews.held id st hs) hc
    exact Or.inr (Or.inr ⟨t', (hm.traders t').mpr (Or.inl ⟨rfl, hnd⟩), hleg⟩)
  · have hold : s.registry.status? id = some st := by
      rw [← hs, hreg]
      exact (hgrown.status?_of_ne fun o ho hoid => hleg ((hm.move.legs id).mpr (Or.inr ⟨o, ho, hoid⟩))).symm
    rw [hm.waiting, hm.pending]
    refine (h.held id (isLive_iff.mpr ⟨st, hold, hc⟩)).imp_right (Or.imp_right ?_)
    rintro ⟨u, hu, hlu⟩
    refine ⟨u, (hm.traders u).mpr (Or.inr ⟨hu, fun hi => hleg ?_⟩), hlu⟩
    rw [h.staffed.eq_of_inbox hm.atWork hu hi] at hlu
    exact (hm.move.legs id).mpr (Or.inl hlu)

end

theorem mem_traders_setWorker (s : Session) {w : Worker} {t : Trader} (ht : t ∈ s.traders)
    (hi : w.trader.inbox = t.inbox) (u : Trader) :
    u ∈ (s.setWorker w).traders ↔ u = w.trader ∨ u ∈ s.traders ∧ u.inbox ≠ t.inbox := by
  unfold traders setWorker
  rw [List.map_map]
  constructor
  · intro hu
    obtain ⟨v, hv, rfl⟩ := List.mem_map.mp hu
    simp only [Function.comp_apply]
    by_cases hvi : v.trader.inbox = w.trader.inbox
    · rw [if_pos hvi]; exact Or.inl rfl
    · rw [if_neg hvi]; exact Or.inr ⟨List.mem_map_of_mem hv, hi ▸ hvi⟩
  · rintro (rfl | ⟨hu, hne⟩)
    · obtain ⟨v, hv, rfl⟩ := List.mem_map.mp ht
      exact List.mem_map.mpr ⟨v, hv, by simp [hi]⟩
    · obtain ⟨v, hv, rfl⟩ := List.mem_map.mp hu
      exact List.mem_map.mpr ⟨v, hv, by simp [hi, hne]⟩

theorem inboxes_setWorker (s : Session) (w : Worker) :
    (s.setWorker w).traders.map (·.inbox) = s.traders.map (·.inbox) := by
  unfold traders setWorker
  simp only [List.map_map]
  refine List.map_congr_left fun v _ => ?_
  simp only [Function.comp_apply]
  split
  · rename_i h; exact h.symm
  · rfl

theorem mem_traders_retire (s : Session) (inbox : Nat) (u : Trader) :
    u ∈ (s.retire inbox).traders ↔ u ∈ s.traders ∧ u.inbox ≠ inbox := by
  simp only [traders, retire, List.mem_map, List.mem_filter, bne_iff_ne, ne_eq]
  constructor
  · rintro ⟨v, ⟨hv, hi⟩, rfl⟩
    exact ⟨⟨v, hv, rfl⟩, hi⟩
  · rintro ⟨⟨v, hv, rfl⟩, hi⟩
    exact ⟨v, ⟨hv, hi⟩, rfl⟩

theorem Staffed.moved_settleWorker (h : s.Staffed) {w : Worker} (hw : w ∈ s.workers) (w' : Worker) {f : Floor}
    {new : List Order} (hm : w.trader.Move w'.trader s.floor f new) (hfed : w'.fed = w.fed) :
    Moved s (s.settleWorker w' f) w.trader w'.trader f new := by
  have ht : w.trader ∈ s.traders := List.mem_map_of_mem hw
  unfold settleWorker
  dsimp only
  split
  · rename_i hd
    refine ⟨ht, hm, rfl, ?_, fun hnd => absurd hd hnd, fun u => ?_, ?_, fun v hv => ?_, rfl, rfl, rfl, rfl⟩
    · change Bus.Quiet _ _ _ (f.bus.drop w'.trader.inbox)
      rw [hm.inbox]
      refine (hm.quiet.trans (Bus.quiet_drop _ _)).mono fun id hid => ?_
      simpa using hid
    · rw [mem_traders_retire, hm.inbox]
      simp [hd, traders]
    · exact (List.Sublist.map _ (List.Sublist.map _ List.filter_sublist)).nodup h.inboxes
    · exact h.fed v (List.mem_filter.mp hv).1
  · rename_i hnd
    refine ⟨ht, hm, rfl, hm.quiet, fun _ => rfl, fun u => ?_, ?_, fun v hv => ?_, rfl, rfl, rfl, rfl⟩
    · rw [mem_traders_setWorker { s with floor := f } ht hm.inbox]
      simp [hnd, traders]
    · rw [inboxes_setWorker]
      exact h.inboxes
    · obtain ⟨v', hv', rfl⟩ := List.mem_map.mp hv
      split
      · rw [hfed]; exact h.fed w hw
      · exact h.fed v' hv'

theorem registry_settleWorker (s : Session) (w : Worker) (f : Floor) : (s.settleWorker w f).registry = f.registry := by
  unfold settleWorker
  dsimp only
  split <;> rfl

theorem mem_of_worker? {inbox : Nat} {w : Worker} (h : s.worker? inbox = some w) : w ∈ s.workers :=
  List.mem_of_find?_eq_some h

theorem traderTick_moves (s : Session) (inbox : Nat) (now : UInt64) (answer : Answer) :
    s.traderTick inbox now answer = s ∨
    (∃ w ∈ s.workers, ¬ w.fed ∧ s.traderTick inbox now answer = s.retire inbox) ∨
    ∃ w t ticks, s.worker? inbox = some w ∧ w.ticks = t :: ticks ∧ s.traderTick inbox now answer =
      s.settleWorker { w with trader := (w.trader.onTick s.floor now t answer).1, ticks }
        (w.trader.onTick s.floor now t answer).2.1 := by
  unfold traderTick
  cases hw : s.worker? inbox with
  | none => exact Or.inl rfl
  | some w =>
    dsimp only
    cases hticks : w.ticks with
    | nil =>
      by_cases hfed : w.fed
      · exact Or.inl (if_pos hfed)
      · exact Or.inr (Or.inl ⟨w, mem_of_worker? hw, hfed, if_neg hfed⟩)
    | cons t ticks => exact Or.inr (Or.inr ⟨w, t, ticks, rfl, hticks, rfl⟩)

theorem traderTick_cases (h : s.Staffed) (inbox : Nat) (now : UInt64) (answer : Answer) :
    s.traderTick inbox now answer = s ∨
    ∃ w ∈ s.workers, ∃ t ticks, s.traderTick inbox now answer =
      s.settleWorker { w with trader := (w.trader.onTick s.floor now t answer).1, ticks }
        (w.trader.onTick s.floor now t answer).2.1 := by
  rcases traderTick_moves s inbox now answer with he | ⟨w, hw, hfed, -⟩ | ⟨w, t, ticks, hw, -, he⟩
  · exact Or.inl he
  · exact absurd (h.fed w hw) hfed
  · exact Or.inr ⟨w, mem_of_worker? hw, t, ticks, he⟩

theorem traderEvent_cases (s : Session) (inbox : Nat) :
    s.traderEvent inbox = s ∨
    ∃ w ∈ s.workers, ∃ bus e, s.floor.bus.take w.trader.inbox = (bus, .event e) ∧ s.traderEvent inbox =
      s.settleWorker { w with trader := (w.trader.onEvent { s.floor with bus } e).1 }
        (w.trader.onEvent { s.floor with bus } e).2 := by
  unfold traderEvent
  cases hw : s.worker? inbox with
  | none => exact Or.inl rfl
  | some w =>
    have hi : w.trader.inbox = inbox := by simpa using List.find?_some hw
    subst hi
    dsimp only
    cases htake : s.floor.bus.take w.trader.inbox with
    | mk bus receipt =>
      cases receipt with
      | ended | waits => exact Or.inl rfl
      | event e => exact Or.inr ⟨w, mem_of_worker? hw, bus, e, htake, rfl⟩

theorem Sound.traderTicked (h : s.Sound known) (inbox : Nat) (now : UInt64) (answer : Answer)
    (hn : (s.traderTick inbox now answer).registry.given.Nodup) :
    ∃ known', (s.traderTick inbox now answer).Sound known' := by
  rcases traderTick_cases h.staffed inbox now answer with he | ⟨w, hmem, t, ticks, he⟩
  · rw [he]
    exact ⟨known, h⟩
  · rw [he, registry_settleWorker] at hn
    rw [he]
    have hat := h.atWork w.trader (List.mem_map_of_mem hmem)
    have hm := Trader.move_onTick w.trader s.floor now t answer
    have hmoved := h.staffed.moved_settleWorker hmem
      { w with trader := (w.trader.onTick s.floor now t answer).1, ticks } hm rfl
    exact ⟨_, hmoved.sound h (hat.inStep.ticked h.views now t answer) hn⟩

theorem Sound.traderHeard (h : s.Sound known) (inbox : Nat) (hn : (s.traderEvent inbox).registry.given.Nodup) :
    ∃ known', (s.traderEvent inbox).Sound known' := by
  rcases traderEvent_cases s inbox with he | ⟨w, hmem, bus, e, htake, he⟩
  · rw [he]
    exact ⟨known, h⟩
  · rw [he, registry_settleWorker] at hn
    rw [he]
    have hat := h.atWork w.trader (List.mem_map_of_mem hmem)
    have hreg := Trader.registry_onEvent w.trader { s.floor with bus } e
    have hin := hat.inStep.evented htake
    have hk : s.floor.registry.lastView known = known := by
      funext id
      exact h.views.lastView_eq (Or.inl rfl)
    have hmoved := h.staffed.moved_settleWorker hmem
      { w with trader := (w.trader.onEvent { s.floor with bus } e).1 } (Trader.move_onEvent htake) rfl
    refine ⟨_, hmoved.sound h ?_ hn⟩
    rw [hreg]
    dsimp only
    rw [hk]
    exact hin

/-! ## What steps leave alone -/

theorem foldl_push (s : Session) (fs : List Frame) : fs.foldl push s = { s with out := s.out ++ fs } := by
  induction fs generalizing s with
  | nil => rw [List.append_nil]; rfl
  | cons f fs ih =>
    rw [List.foldl_cons, ih, push, List.append_assoc]
    rfl

theorem supervise_eq (s : Session) (now : UInt64) (answer : String → Answer) :
    s.supervise now answer = { s.setRegistry (s.registry.sweep now answer).1 with
      out := s.out ++ (s.registry.sweep now answer).2.filterMap SweepEvent.frame? } := foldl_push ..

/-- A sweep has nothing but errors for the client. -/
theorem error_of_mem_frames {es : List SweepEvent} {f : Frame} (h : f ∈ es.filterMap SweepEvent.frame?) :
    ∃ text, f = .message (.error .cancelFailed text) := by
  obtain ⟨e, -, he⟩ := List.mem_filterMap.mp h
  cases e with
  | evicted | cancelIssued => cases he
  | cancelFailed id reason => exact ⟨_, (Option.some.inj he).symm⟩

theorem map_trader_unfed (s : Session) (p : Worker → Prop) [DecidablePred p] :
    (s.workers.map fun w => if p w then { w with fed := false } else w).map (·.trader) = s.traders := by
  rw [List.map_map]
  refine List.map_congr_left fun w _ => ?_
  simp only [Function.comp_apply]
  split <;> rfl

theorem release_parts (s : Session) (primary : String) :
    ∃ queues workers out, (s.release primary).1 = { s with queues, workers, out := s.out ++ out } ∧
      workers.map (·.trader) = s.traders ∧ ∀ f ∈ out, f = .message (.assistStatus false) := by
  unfold release
  cases s.queues.find? primary with
  | none => exact ⟨s.queues, s.workers, [], by rw [List.append_nil], rfl, by simp⟩
  | some inbox =>
    have hw := s.map_trader_unfed fun w => w.trader.inbox = inbox
    dsimp only
    split
    · exact ⟨_, _, [_], rfl, hw, by simp⟩
    · exact ⟨_, _, [], by rw [List.append_nil], hw, by simp⟩

theorem startAssist_parts (s : Session) (target : AssistTarget) :
    ∃ queues workers out, s.startAssist target =
        { s with
          floor := { s.floor with bus := s.floor.bus.subscribe.1 }
          queues
          workers
          out := s.out ++ out } ∧
      workers.map (·.trader) = s.traders ++ [{ target, inbox := s.floor.bus.nextId }] ∧
      ∀ f ∈ out, f = .message (.assistStatus true) := by
  have hw := s.map_trader_unfed fun w => some w.trader.inbox = s.queues.find? target.order.id
  have hnew : ((s.workers.map fun w : Worker => if some w.trader.inbox = s.queues.find? target.order.id then
      { w with fed := false } else w) ++ [({ trader := { target, inbox := s.floor.bus.nextId } } : Worker)]).map
      (·.trader) = s.traders ++ [{ target, inbox := s.floor.bus.nextId }] := by
    rw [List.map_append, hw]
    rfl
  unfold startAssist Trader.start
  dsimp only
  split
  · exact ⟨_, _, [_], rfl, hnew, by simp⟩
  · refine ⟨s.queues.insert target.order.id s.floor.bus.nextId, _, [], ?_, hnew, by simp⟩
    rw [List.append_nil]
    rfl

theorem relay_cases (s : Session) (inbox : Nat) :
    (s.relay inbox = s ∧ (inbox ∈ s.relays → ∀ e, s.floor.bus.peek inbox ≠ .event e)) ∨
    ∃ bus e, inbox ∈ s.relays ∧ s.floor.bus.take inbox = (bus, .event e) ∧
      s.relay inbox = ({ s with floor := { s.floor with bus } } : Session).event e := by
  unfold relay
  by_cases hr : inbox ∈ s.relays
  · rw [if_pos hr]
    cases ht : s.floor.bus.take inbox with
    | mk bus receipt =>
      have hp : s.floor.bus.peek inbox = receipt := congrArg (·.2) ht
      cases receipt with
      | ended | waits => exact Or.inl ⟨rfl, fun _ e he => by rw [hp] at he; cases he⟩
      | event e => exact Or.inr ⟨bus, e, hr, rfl, rfl⟩
  · rw [if_neg hr]
    exact Or.inl ⟨rfl, fun h => absurd h hr⟩

theorem event_keeps (s : Session) (e : DeskEvent) :
    (s.event e).floor = s.floor ∧ (s.event e).relays = s.relays ∧ (s.event e).pending = s.pending ∧
      (s.event e).traders = s.traders := by
  cases e with
  | orderStatus o | placed o | assistFailed primary reason => exact ⟨rfl, rfl, rfl, rfl⟩
  | assistDone primary =>
    obtain ⟨queues, workers, out, he, hw, -⟩ := s.release_parts primary
    rw [event, he]
    exact ⟨rfl, rfl, rfl, hw⟩

/-! ## Runs -/

theorem registry_supervise (s : Session) (now : UInt64) (answer : String → Answer) :
    (s.supervise now answer).registry = (s.registry.sweep now answer).1 := by
  rw [supervise_eq]
  rfl

theorem registry_release (s : Session) (id : String) : (s.release id).1.registry = s.registry := by
  obtain ⟨queues, workers, out, he, -⟩ := s.release_parts id
  rw [he]
  rfl

theorem registry_startAll (s : Session) (targets : List AssistTarget) :
    (targets.foldl startAssist s).registry = s.registry := by
  induction targets generalizing s with
  | nil => rfl
  | cons target targets ih =>
    obtain ⟨queues, workers, out, he, -⟩ := s.startAssist_parts target
    refine (ih _).trans ?_
    rw [he]
    rfl

theorem registry_relay (s : Session) (inbox : Nat) : (s.relay inbox).registry = s.registry := by
  change (s.relay inbox).floor.registry = _
  rcases relay_cases s inbox with ⟨he, -⟩ | ⟨bus, e, -, -, he⟩
  · rw [he]; rfl
  · rw [he, (event_keeps _ e).1]; rfl

theorem registry_traderEvent (s : Session) (inbox : Nat) : (s.traderEvent inbox).registry = s.registry := by
  rcases traderEvent_cases s inbox with he | ⟨w, -, bus, e, -, he⟩
  · rw [he]
  · rw [he, registry_settleWorker, Trader.registry_onEvent]; rfl

theorem given_step (s : Session) (st : Step) : s.registry.given <+: (s.step st).registry.given := by
  have same : ∀ {s' : Session}, s'.registry.given = s.registry.given → s.registry.given <+: s'.registry.given :=
    fun h => h ▸ List.prefix_refl _
  cases st with
  | text now t ticket =>
    change _ <+: (s.text now t ticket).registry.given
    rcases text_cases s now t ticket with ⟨f, he⟩ | ⟨c, tickets, -, he⟩
    · rw [he]; exact List.prefix_refl _
    · rw [he]; exact given_placeUnits ..
  | status now u =>
    exact same ((congrArg Registry.given (registry_status s now u)).trans (s.registry.given_merge now u))
  | tick t => exact List.prefix_refl _
  | prune => exact List.prefix_refl _
  | promote => exact same (congrArg Registry.given (registry_startAll ..))
  | supervise now answer =>
    exact same ((congrArg Registry.given (registry_supervise ..)).trans (s.registry.given_sweep now answer))
  | release id => exact same (congrArg Registry.given (registry_release ..))
  | openRelay => exact List.prefix_refl _
  | relay inbox => exact same (congrArg Registry.given (registry_relay ..))
  | traderTick inbox now answer =>
    change _ <+: (s.traderTick inbox now answer).registry.given
    rcases traderTick_moves s inbox now answer with he | ⟨w, -, -, he⟩ | ⟨w, t, ticks, -, -, he⟩
    · exact same (congrArg (·.registry.given) he)
    · exact same (congrArg (·.registry.given) he)
    · rw [he, registry_settleWorker, (Trader.grown_onTick w.trader s.floor now t answer).given]
      exact List.prefix_append ..
  | traderEvent inbox => exact same (congrArg Registry.given (registry_traderEvent ..))

theorem run_append (s : Session) (before after : List Step) : s.run (before ++ after) = (s.run before).run after :=
  List.foldl_append ..

theorem run_snoc (s : Session) (steps : List Step) (st : Step) : s.run (steps ++ [st]) = (s.run steps).step st :=
  run_append ..

theorem given_run (s : Session) (steps : List Step) : s.registry.given <+: (s.run steps).registry.given := by
  induction steps generalizing s with
  | nil => exact List.prefix_refl _
  | cons st steps ih => exact (given_step s st).trans (ih _)

/-- **Every step keeps the invariant**, as long as no id is given twice and no
queue is closed by hand. -/
theorem Sound.step (h : s.Sound known) {st : Step} (hr : ∀ id, st ≠ .release id)
    (hn : (s.step st).registry.given.Nodup) : ∃ known', (s.step st).Sound known' := by
  cases st with
  | text now t ticket =>
    change (s.text now t ticket).registry.given.Nodup at hn
    change ∃ known', (s.text now t ticket).Sound known'
    rcases text_cases s now t ticket with ⟨f, he⟩ | ⟨c, tickets, -, he⟩
    · rw [he]; exact ⟨known, h.push f⟩
    · rw [he] at hn ⊢; exact h.placeUnits now c tickets hn
  | status now u => exact ⟨_, h.updated now u⟩
  | tick t => exact ⟨known, h.tick t⟩
  | prune => exact ⟨known, h.prune⟩
  | promote => exact ⟨known, h.promote⟩
  | supervise now answer => exact ⟨known, h.supervise now answer⟩
  | release id => exact absurd rfl (hr id)
  | openRelay => exact ⟨known, h.openRelay⟩
  | relay inbox => exact ⟨known, h.relayed inbox⟩
  | traderTick inbox now answer => exact h.traderTicked inbox now answer hn
  | traderEvent inbox => exact h.traderHeard inbox hn

theorem Sound.run (h : s.Sound known) {steps : List Step} (hr : ∀ id, Step.release id ∉ steps)
    (hn : (s.run steps).registry.given.Nodup) : ∃ known', (s.run steps).Sound known' := by
  induction steps generalizing s known with
  | nil => exact ⟨known, h⟩
  | cons st steps ih =>
    have hstep : (s.step st).registry.given.Nodup := (given_run (s.step st) steps).sublist.nodup hn
    obtain ⟨known', h'⟩ := h.step (fun id he => hr id (he ▸ List.mem_cons_self ..)) hstep
    exact ih h' (fun id hm => hr id (List.mem_cons_of_mem _ hm)) hn

/-! ## Admission -/

theorem refusal?_of_isOk {now : UInt64} {c : Command} {ticket : Nat → Ticket}
    (h : (s.command now c ticket).2.isOk) : (s.admission now).refusal? c = none := by
  unfold command at h
  cases hr : (s.admission now).refusal? c with
  | none => rfl
  | some r => rw [hr] at h; cases h

theorem idle_of_refusal?_none {now : UInt64} {c : Command} (h : (s.admission now).refusal? c = none) :
    s.waiting.size = 0 ∧ s.queues.size = 0 ∧ s.pending.size = 0 := by
  unfold Admission.refusal? at h
  split at h
  · cases h
  split at h
  · cases h
  split at h
  · cases h
  · rename_i hw ha
    change ¬ 0 < s.waiting.size at hw
    change ¬ 0 < s.queues.size + s.pending.size at ha
    omega

/-- Nothing is live where a session takes a command. -/
theorem Sound.not_isLive (h : s.Sound known) {now : UInt64} {c : Command} (hr : (s.admission now).refusal? c = none)
    (id : String) : ¬ s.isLive id := by
  obtain ⟨hw, hq, hp⟩ := idle_of_refusal?_none hr
  intro hl
  rcases h.held id hl with hwait | ⟨target, ht, -⟩ | ⟨t, ht, -⟩
  · rw [IdSet.contains, List.eq_nil_of_length_eq_zero hw] at hwait
    cases hwait
  · rw [Table.find?, List.eq_nil_of_length_eq_zero hp] at ht
    cases ht
  · have := h.staffed.queue t ht
    rw [Table.find?, List.eq_nil_of_length_eq_zero hq] at this
    cases this

/-- **One command in flight.** Whatever has happened to a session, with ids that
the brokerage gives but once: where it takes a command, its registry holds no
live order. -/
theorem no_live_order_of_command (connId : String) (settings : Config.Trade) (hours : Hours) (zone : Zone)
    {steps : List Step} (hr : ∀ id, Step.release id ∉ steps)
    (hn : ((start connId settings hours zone).run steps).registry.given.Nodup)
    {now : UInt64} {c : Command} {ticket : Nat → Ticket}
    (h : (((start connId settings hours zone).run steps).command now c ticket).2.isOk) :
    ∀ id o, ((start connId settings hours zone).run steps).registry.lookup id = some o → ¬ o.status.isCancellable := by
  obtain ⟨known, hs⟩ := (sound_start connId settings hours zone).run hr hn
  intro id o ho hc
  exact hs.not_isLive (refusal?_of_isOk h) id
    (isLive_iff.mpr ⟨o.status, Registry.status?_eq_some.mpr ⟨o, ho, rfl⟩, hc⟩)

end

/-- A session whose only position has been opened, closed by its trader and
released. -/
def closedPosition : List Step :=
  [.openRelay,
   .text 1000 ("\x7b\"instrumentCode\":\"MXFL1\",\"action\":\"Buy\",\"price\":100,\"quantity\":1," ++
      "\"automationOption\":\x7b\"automationType\":\"ByTimePeriod\",\"byTimePeriodSecs\":5\x7d\x7d")
     fun _ => ⟨"g1", .reply { orderId := "p1", status := .submitted }⟩,
   .status 1500 ⟨"p1", .filled, 0, none⟩, .promote, .tick { time := 9000, close := 101 },
   .traderTick 1 9000 (.reply { orderId := "c1", status := .submitted }), .status 9500 ⟨"c1", .filled, 0, none⟩,
   .tick { time := 9600, close := 101 }, .traderTick 1 9600 (.failure "down"),
   .relay 0, .relay 0, .relay 0, .relay 0, .prune]

theorem no_live_order_of_command_closedPosition :
    ((start "conn-1" {} .alwaysOpen).run closedPosition).registry.given = ["p1", "c1"] ∧
      (((start "conn-1" {} .alwaysOpen).run closedPosition).command 9700 ⟨"MXFL1", .buy, 100, 1, none⟩
        fun _ => ⟨"g2", .failure "down"⟩).2.isOk ∧
      ∀ id o, ((start "conn-1" {} .alwaysOpen).run closedPosition).registry.lookup id = some o →
        ¬ o.status.isCancellable := by
  have hok : (((start "conn-1" {} .alwaysOpen).run closedPosition).command 9700 ⟨"MXFL1", .buy, 100, 1, none⟩
      fun _ => ⟨"g2", .failure "down"⟩).2.isOk := by decide +kernel
  refine ⟨by decide +kernel, hok, ?_⟩
  exact no_live_order_of_command _ _ _ _ (by simp [closedPosition]) (by decide +kernel) hok

end Session

end FuturesDesk
