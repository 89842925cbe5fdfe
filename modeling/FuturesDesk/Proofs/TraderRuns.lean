import FuturesDesk.Proofs.TraderMoves

/-!
# Runs of a trader

A trader at its post, from its start on: ticks, events, status updates, sweeps
and the orders and events of others come in any order. The ids of the others'
orders are not those of its own; nothing else is asked of what happens.
-/

namespace FuturesDesk

/-- A trader on its floor, with the last view of every order that the registry
has tracked. -/
structure Post where
  trader : Trader
  floor : Floor
  known : String → Option Status

namespace Post

def start (f : Floor) (target : AssistTarget) : Post where
  trader := (Trader.start f target).1
  floor := (Trader.start f target).2
  known := f.registry.status?

def moved (p : Post) (t : Trader) (f : Floor) : Post := ⟨t, f, f.registry.lastView p.known⟩

inductive Step where
  | tick (now : UInt64) (t : Tick) (answer : Answer)
  /-- The trader takes an event between ticks. -/
  | event
  | status (now : UInt64) (u : StatusUpdate)
  | sweep (now : UInt64) (answer : String → Answer)
  /-- Someone else places an order. -/
  | place (now : UInt64) (o : Order) (answer : Answer)
  /-- Someone else publishes an event. -/
  | publish (e : DeskEvent)

/-- The ids of others' orders are new to the trader, and status changes are
published by the session alone. -/
def Step.fits (p : Post) : Step → Prop
  | .place _ _ answer => ∀ reply, answer.accepted? = some reply → p.trader.closing.find? reply.orderId = none
  | .publish e => ∀ id, e.news? id = none
  | .tick .. | .event | .status .. | .sweep .. => True

def takeEvent (p : Post) : Post :=
  match p.floor.bus.take p.trader.inbox with
  | (bus, .event e) =>
    p.moved (p.trader.onEvent { p.floor with bus } e).1 (p.trader.onEvent { p.floor with bus } e).2
  | _ => p

def step (p : Post) : Step → Post
  | .tick now t answer => p.moved (p.trader.onTick p.floor now t answer).1 (p.trader.onTick p.floor now t answer).2.1
  | .event => p.takeEvent
  | .status now u => p.moved p.trader (p.floor.status now u)
  | .sweep now answer => p.moved p.trader { p.floor with registry := (p.floor.registry.sweep now answer).1 }
  | .place now o answer => p.moved p.trader { p.floor with registry := (p.floor.registry.place now o answer).registry }
  | .publish e => { p with floor := p.floor.publish e }

inductive Reachable (f : Floor) (target : AssistTarget) : Post → Prop
  | start : Reachable f target (start f target)
  | step {p : Post} (st : Step) : Reachable f target p → st.fits p → Reachable f target (p.step st)

end Post

/-! ## Orders that ended with their placement -/

namespace Trader

/-- An ended order that the trader waits for ended with its placement; one
accepted as cancelled is waited for ever after. -/
structure Traced (t : Trader) (born : String → Option Status) : Prop where
  waited : ∀ id leg, t.waiting = some id → t.closing.find? id = some leg → ¬ leg.status.isCancellable →
    born id = some leg.status
  cancelled : ∀ id leg, t.closing.find? id = some leg → born id = some .cancelled →
    leg.status = .cancelled ∧ t.waiting = some id

structure Unused (t : Trader) : Prop where
  closing : ∀ id, t.closing.find? id = none
  waiting : t.waiting = none

section
variable {t : Trader} {f : Floor} {queue : List DeskEvent} {known born born' : String → Option Status}

theorem Traced.frame (h : t.Traced born) (hb : ∀ id, (t.closing.find? id).isSome → born' id = born id) :
    t.Traced born' where
  waited id leg hw hf hl := by rw [hb id (by simp [hf])]; exact h.waited id leg hw hf hl
  cancelled id leg hf hc := h.cancelled id leg hf (by rw [← hb id (by simp [hf])]; exact hc)

theorem Unused.traced (h : t.Unused) : t.Traced born where
  waited id leg _ hf := by rw [h.closing] at hf; cases hf
  cancelled id leg hf := by rw [h.closing] at hf; cases hf

/-- A void order that is waited for was cancelled by its placement: no
placement fails an order that it accepts. -/
theorem Traced.accepted_cancelled (h : t.Traced born) {id : String} {leg : Order} (hw : t.waiting = some id)
    (hl : t.closing.find? id = some leg) (hv : leg.status.isVoid) (hf : born id ≠ some .failed) :
    born id = some .cancelled := by
  have hb := h.waited id leg hw hl fun hlive => Status.not_isVoid_of_isCancellable hlive hv
  rcases Status.isVoid_iff.mp hv with hc | hfail
  · rw [hb, hc]
  · exact absurd (hb.trans (congrArg some hfail)) hf

theorem Traced.hear {o : Order} (h : t.Traced born) (hs : t.Sound (.orderStatus o :: queue) known) :
    (t.hear o).Traced born := by
  rcases hear_cases t o with ⟨-, he⟩ | ⟨leg, hf, hc, hw⟩
  · rw [he]; exact h
  have hlive := hs.live_of_news hf
  -- an order accepted as cancelled is never heard of
  have hborn : born o.id ≠ some .cancelled := by
    intro hb
    rw [(h.cancelled _ _ hf hb).1] at hlive; cases hlive
  refine ⟨fun id leg' hwait hl' hend => ?_, fun id leg' hl' hb => ?_⟩
  · rw [hc, Table.find?_insert] at hl'
    rcases hw with ⟨-, -, hw', -⟩ | ⟨hn, hw', -⟩
    · rw [hw'] at hwait; cases hwait
    · rw [hw'] at hwait
      by_cases hid : id = o.id
      · subst hid
        rw [if_pos rfl, Option.some.injEq] at hl'
        subst hl'
        exact absurd ⟨hwait, hend⟩ hn
      · rw [if_neg hid] at hl'
        exact h.waited id leg' hwait hl' hend
  · have hid : id ≠ o.id := by rintro rfl; exact hborn hb
    rw [hc, Table.find?_insert, if_neg hid] at hl'
    obtain ⟨hst, hwait⟩ := h.cancelled id leg' hl' hb
    rcases hw with ⟨hwo, -⟩ | ⟨-, hw', -⟩
    · rw [hwait, Option.some.injEq] at hwo
      exact absurd hwo hid
    · exact ⟨hst, hw'.trans hwait⟩

theorem Traced.hearEvent {e : DeskEvent} (h : t.Traced born) (hs : t.Sound (e :: queue) known) :
    (t.hearEvent e).Traced born := by
  cases e with
  | orderStatus o => exact h.hear hs
  | placed _ | assistDone _ | assistFailed _ _ => exact h

theorem Traced.heard (h : t.Traced born) (hs : t.Sound queue known) : (queue.foldl Trader.hearEvent t).Traced born := by
  induction queue generalizing t with
  | nil => exact h
  | cons e queue ih => exact ih (h.hearEvent hs) hs.hearEvent

theorem Traced.finished (h : t.Traced born) (f : Floor) : (t.finish f).1.Traced born := by
  rcases finish_cases t f with ⟨-, -, he⟩ | ⟨-, he⟩ <;> rw [he]
  · exact ⟨h.waited, h.cancelled⟩
  · exact h

theorem Traced.caughtUp (h : t.Traced born) (hs : t.Sound (f.bus.queued t.inbox) known) :
    (t.catchUp f).1.Traced born := (h.heard hs).finished _

theorem Traced.watching (h : t.Traced born) : t.watch.Traced born := by
  unfold watch
  split
  · exact ⟨h.waited, h.cancelled⟩
  · exact h

theorem Traced.ticked (h : t.Traced f.registry.acceptedAs?) (hs : t.Sound (f.bus.queued t.inbox) known) (now : UInt64)
    (tick : Tick) (answer : Answer) :
    (t.onTick f now tick answer).1.Traced (t.onTick f now tick answer).2.1.registry.acceptedAs? := by
  have hc := (h.caughtUp hs).watching
  have hr := registry_catchUp t f
  obtain ⟨-, -, -, hw, -⟩ := watch_keeps (t.catchUp f).1
  rcases onTick_cases t f now tick answer with ⟨-, he⟩ | ⟨o, reason, -, ha, he⟩ | ⟨o, reply, ho, ha, he⟩
  · rw [he]; dsimp only; rw [hr]
    exact hc
  · rw [he]; dsimp only; rw [hr]
    refine Traced.frame ⟨hc.waited, hc.cancelled⟩ fun id _ => ?_
    exact Registry.acceptedAs?_place_of_refused _ now o ha id
  · rw [he]; dsimp only; rw [hr]
    have hfree := hw.trans (order?_eq_some ho).2.1
    refine ⟨fun id leg hwait hf _ => ?_, fun id leg hf hb => ?_⟩
    · obtain rfl := Option.some.inj hwait
      rw [Table.find?_insert_self, Option.some.injEq] at hf
      subst hf
      exact (Registry.acceptedAs?_place _ now o ha _).trans (if_pos rfl)
    · rw [Registry.acceptedAs?_place _ now o ha] at hb
      dsimp only at hf
      rw [Table.find?_insert] at hf
      by_cases hid : id = reply.orderId
      · subst hid
        rw [if_pos rfl, Option.some.injEq] at hb
        rw [if_pos (show reply.orderId = (o.accepted reply now).id from rfl), Option.some.injEq] at hf
        subst hf
        exact ⟨hb, rfl⟩
      · rw [if_neg hid] at hb
        rw [if_neg (show id ≠ (o.accepted reply now).id from hid)] at hf
        have := (hc.cancelled id leg hf hb).2
        rw [hfree] at this; cases this

theorem Traced.evented {e : DeskEvent} (h : t.Traced born) (hs : t.Sound (e :: queue) known) (f : Floor) :
    (t.onEvent f e).1.Traced born := by
  cases e with
  | orderStatus o => exact (h.hear hs).finished f
  | placed _ | assistDone _ | assistFailed _ _ => exact h

/-! ## Traders with nothing to close -/

theorem Unused.hearEvent (h : t.Unused) (e : DeskEvent) : t.hearEvent e = t := by
  cases e with
  | orderStatus o =>
    rcases hear_cases t o with ⟨-, he⟩ | ⟨leg, hf, -⟩
    · exact he
    · rw [h.closing] at hf; cases hf
  | placed _ | assistDone _ | assistFailed _ _ => rfl

theorem Unused.heard (h : t.Unused) (queue : List DeskEvent) : queue.foldl Trader.hearEvent t = t := by
  induction queue with
  | nil => rfl
  | cons e queue ih => rw [List.foldl_cons, h.hearEvent e, ih]

theorem Unused.isCovered (h : t.Unused) (hq : ¬ 0 < t.primary.quantity) : t.isCovered := by
  have he : t.closing.entries = [] := by
    refine List.eq_nil_iff_forall_not_mem.mpr fun e hm => ?_
    have := Table.mem_entries_iff.mp hm
    rw [h.closing] at this; cases this
  have hz : t.filledQuantity = 0 := by
    unfold filledQuantity Table.values
    rw [he]; rfl
  unfold Trader.isCovered
  rw [hz, decide_eq_true_eq]
  exact Int64.not_lt.mp hq

theorem Unused.finished (h : t.Unused) (f : Floor) : (t.finish f).1.Unused := by
  rcases finish_cases t f with ⟨-, -, he⟩ | ⟨-, he⟩ <;> rw [he]
  · exact ⟨h.closing, h.waiting⟩
  · exact h

theorem Unused.evented (h : t.Unused) (f : Floor) (e : DeskEvent) : (t.onEvent f e).1.Unused := by
  have he := h.hearEvent e
  cases e with
  | orderStatus o =>
    change ((t.hear o).finish f).1.Unused
    rw [show t.hear o = t from he]
    exact h.finished f
  | placed _ | assistDone _ | assistFailed _ _ => exact h

theorem Unused.ticked (h : t.Unused) (hq : ¬ 0 < t.primary.quantity) (now : UInt64) (tick : Tick) (answer : Answer) :
    (t.onTick f now tick answer).1.Unused := by
  have hd : (t.drain f).1 = t := h.heard _
  have hdone : (t.catchUp f).1.phase = .done ∧ (t.catchUp f).1.Unused := by
    change ((t.drain f).1.finish (t.drain f).2).1.phase = .done ∧ ((t.drain f).1.finish (t.drain f).2).1.Unused
    rw [hd]
    refine ⟨?_, h.finished _⟩
    rcases finish_cases t (t.drain f).2 with ⟨-, -, he⟩ | ⟨hp | hc, he⟩
    · rw [he]
    · rw [he]; exact hp
    · exact absurd (h.isCovered hq) hc
  obtain ⟨-, -, hcl, hw, -⟩ := watch_keeps (t.catchUp f).1
  have hwatch : (t.catchUp f).1.watch.Unused := ⟨fun id => hcl ▸ hdone.2.closing id, hw.trans hdone.2.waiting⟩
  rcases onTick_cases t f now tick answer with ⟨-, he⟩ | ⟨o, reason, ho, -, -⟩ | ⟨o, reply, ho, -, -⟩
  · rw [he]; exact hwatch
  · exact absurd hdone.1 (order?_eq_some ho).1
  · exact absurd hdone.1 (order?_eq_some ho).1

end

end Trader

/-! ## The invariant of a post -/

namespace Post

/-- A trader with a quantity to close is in step with its floor; one without
never places an order. -/
structure Sound (target : AssistTarget) (p : Post) : Prop where
  closes : p.trader.target = target
  views : p.floor.registry.Views p.known
  inStep : 0 < target.order.quantity → p.trader.InStep p.floor.bus p.known
  traced : p.trader.Traced p.floor.registry.acceptedAs?
  unused : ¬ 0 < target.order.quantity → p.trader.Unused

section
variable {f : Floor} {target : AssistTarget} {p : Post}

theorem sound_start (hf : f.Tidy) (target : AssistTarget) : (start f target).Sound target := by
  have hun : (start f target).trader.Unused := ⟨fun id => rfl, rfl⟩
  refine ⟨rfl, ⟨hf.keyed, fun id s h => h, fun id s h h' => ?_⟩, fun hq => ⟨?_, fun _ => ?_, hq⟩, hun.traced,
    fun _ => hun⟩
  · change f.registry.status? id = none at h
    change f.registry.status? id = some s at h'
    rw [h] at h'; cases h'
  · change Trader.Sound { target, inbox := f.bus.nextId } (f.bus.subscribe.1.queued f.bus.nextId) f.registry.status?
    rw [Bus.queued_subscribe hf.bus, Bus.queued_nextId hf.bus]
    exact Trader.sound_start ..
  · change f.bus.subscribe.1.isListed f.bus.nextId
    rw [Bus.isListed_subscribe hf.bus]
    simp

theorem Sound.ticked (h : p.Sound target) (now : UInt64) (t : Tick) (answer : Answer) :
    (p.step (.tick now t answer)).Sound target := by
  refine ⟨(Trader.onTick_keeps ..).1.trans h.closes, (Trader.grown_onTick ..).views h.views,
    fun hq => (h.inStep hq).ticked h.views now t answer, ?_, fun hq => ?_⟩
  · by_cases hq : 0 < target.order.quantity
    · exact h.traced.ticked (h.inStep hq).sound now t answer
    · exact ((h.unused hq).ticked (by rwa [Trader.primary, h.closes]) now t answer).traced
  · exact (h.unused hq).ticked (by rwa [Trader.primary, h.closes]) now t answer

theorem Sound.evented (h : p.Sound target) : p.takeEvent.Sound target := by
  unfold takeEvent
  split
  · rename_i bus e ht
    obtain ⟨rfl, hq⟩ := Bus.queued_of_take ht
    have hr := Trader.registry_onEvent p.trader { p.floor with bus := (p.floor.bus.take p.trader.inbox).1 } e
    have hk : p.floor.registry.lastView p.known = p.known := by
      funext id; exact h.views.lastView_eq (Or.inl rfl)
    unfold moved
    rw [hr]
    dsimp only
    rw [hk]
    refine ⟨(Trader.onEvent_keeps ..).1.trans h.closes, ?_, fun hpos => (h.inStep hpos).evented ht, ?_, fun hpos => ?_⟩
    · dsimp only; rw [hr]; exact h.views
    · dsimp only; rw [hr]
      by_cases hpos : 0 < target.order.quantity
      · have hs := (h.inStep hpos).sound
        rw [hq] at hs
        exact h.traced.evented hs _
      · exact ((h.unused hpos).evented _ e).traced
    · exact (h.unused hpos).evented _ e
  · exact h

theorem Sound.updated (h : p.Sound target) (now : UInt64) (u : StatusUpdate) :
    (p.step (.status now u)).Sound target := by
  have hr := p.floor.registry_status now u
  refine ⟨h.closes, ?_, fun hq => (h.inStep hq).status h.views now u, ?_, h.unused⟩
  · change (p.floor.status now u).registry.Views ((p.floor.status now u).registry.lastView p.known)
    rw [hr]; exact h.views.merge now u
  · change p.trader.Traced (p.floor.status now u).registry.acceptedAs?
    rw [hr]
    refine h.traced.frame fun id _ => ?_
    unfold Registry.acceptedAs?
    rw [Registry.acceptances_merge]

theorem Sound.swept (h : p.Sound target) (now : UInt64) (answer : String → Answer) :
    (p.step (.sweep now answer)).Sound target := by
  refine ⟨h.closes, h.views.sweep now answer, fun hq => ?_, ?_, h.unused⟩
  · change p.trader.InStep p.floor.bus ((p.floor.registry.sweep now answer).1.lastView p.known)
    rw [h.views.lastView_sweep now answer]
    exact h.inStep hq
  · refine h.traced.frame fun id _ => ?_
    change ((p.floor.registry.sweep now answer).1).acceptedAs? id = _
    unfold Registry.acceptedAs?
    rw [Registry.acceptances_sweep]

theorem Sound.placedBeside (h : p.Sound target) (now : UInt64) (o : Order) {answer : Answer}
    (hfits : (Step.place now o answer).fits p) : (p.step (.place now o answer)).Sound target := by
  have hnew : ∀ id, (p.trader.closing.find? id).isSome → ∀ reply, answer.accepted? = some reply →
      id ≠ reply.orderId := by
    rintro id hid reply ha rfl
    rw [hfits reply ha] at hid; cases hid
  have hg := p.floor.registry.grown_place now o answer
  refine ⟨h.closes, hg.views h.views, fun hq => ?_, h.traced.frame fun id hid => ?_, h.unused⟩
  · refine (h.inStep hq).frame (fun _ _ => rfl) rfl fun id hid => ?_
    cases ha : answer.accepted? with
    | none => exact congrFun (Trader.lastView_place_of_refused h.views now o ha) id
    | some reply =>
      exact (Trader.lastView_place_of_accepted h.views now o ha id).trans (if_neg (hnew id hid reply ha))
  · cases ha : answer.accepted? with
    | none => exact Registry.acceptedAs?_place_of_refused _ now o ha id
    | some reply => exact (Registry.acceptedAs?_place _ now o ha id).trans (if_neg (hnew id hid reply ha))

theorem Sound.published (h : p.Sound target) {e : DeskEvent} (hfits : (Step.publish e).fits p) :
    (p.step (.publish e)).Sound target :=
  ⟨h.closes, h.views,
    fun hq => (h.inStep hq).frame (fun id _ => Trader.news_publish (hfits id) ..) (Bus.isListed_publish ..)
      fun _ _ => rfl,
    h.traced, h.unused⟩

/-- **The invariant holds at every post a trader can come to.** -/
theorem Reachable.sound (hf : f.Tidy) (hp : p.Reachable f target) : p.Sound target := by
  induction hp with
  | start => exact sound_start hf target
  | step st _ hfits ih =>
    cases st with
    | tick now t answer => exact ih.ticked now t answer
    | event => exact ih.evented
    | status now u => exact ih.updated now u
    | sweep now answer => exact ih.swept now answer
    | place now o answer => exact ih.placedBeside now o hfits
    | publish e => exact ih.published hfits

end

/-! ## Quantities -/

def isLive (p : Post) (id : String) : Bool := (p.floor.registry.status? id).any (·.isCancellable)

def isFilled (p : Post) (id : String) : Bool := p.known id = some .filled

section
variable {f : Floor} {target : AssistTarget} {p : Post}

theorem Sound.known_of_isLive (h : p.Sound target) {id : String} (hl : p.isLive id) :
    ∃ s, p.known id = some s ∧ s.isCancellable := by
  obtain ⟨s, hs, hc⟩ := (Option.any_eq_true _ _).mp hl
  exact ⟨s, h.views.held id s hs, hc⟩

theorem Sound.not_isFilled_of_isLive (h : p.Sound target) {id : String} (hl : p.isLive id) : ¬ p.isFilled id := by
  obtain ⟨s, hk, hc⟩ := h.known_of_isLive hl
  intro hf
  rw [isFilled, decide_eq_true_eq, hk, Option.some.injEq] at hf
  rw [hf] at hc; cases hc

theorem Sound.not_isVoid_of_isLive (h : p.Sound target) (hq : 0 < target.order.quantity) {id : String} {leg : Order}
    (hl : p.trader.closing.find? id = some leg) (hlive : p.isLive id) : ¬ leg.status.isVoid := by
  obtain ⟨s, hk, hc⟩ := h.known_of_isLive hlive
  exact (h.inStep hq).sound.not_isVoid_of_known hl hk (Status.not_isVoid_of_isCancellable hc)

theorem Sound.not_isVoid_of_isFilled (h : p.Sound target) (hq : 0 < target.order.quantity) {id : String} {leg : Order}
    (hl : p.trader.closing.find? id = some leg) (hfill : p.isFilled id) : ¬ leg.status.isVoid := by
  rw [isFilled, decide_eq_true_eq] at hfill
  exact (h.inStep hq).sound.not_isVoid_of_known hl hfill (by simp [Status.isVoid])

theorem Sound.isFilled_of_hasFilled (h : p.Sound target) (hq : 0 < target.order.quantity) {id : String}
    (hfill : p.trader.hasFilled id) : p.isFilled id := by
  obtain ⟨leg, hl, hst⟩ := Trader.hasFilled_iff.mp hfill
  have hleg := (h.inStep hq).sound.leg id leg hl
  have hend := (hleg.settled (by simp [hst, Status.isCancellable])).2
  rw [isFilled, decide_eq_true_eq, hend, hst]

/-- **A trader never closes more than its position.** At most one of its
closing orders is live; those filled and the live one together stay within the
quantity of the primary, in the view of the registry and in the trader's own;
and an order submitted is for exactly what is left, which is positive. -/
theorem closing_within_position (hf : f.Tidy) (hq : 0 < target.order.quantity) (hp : p.Reachable f target) :
    (∀ i j, (p.trader.closing.find? i).isSome → (p.trader.closing.find? j).isSome → p.isLive i → p.isLive j → i = j) ∧
    p.trader.legTotal p.isFilled + p.trader.legTotal p.isLive ≤ target.order.quantity.toInt ∧
    p.trader.filledQuantity.toInt = p.trader.legTotal p.trader.hasFilled ∧
    0 ≤ p.trader.filledQuantity ∧ p.trader.filledQuantity ≤ target.order.quantity ∧
    p.trader.filledQuantity.toInt + p.trader.legTotal p.isLive ≤ target.order.quantity.toInt ∧
    ∀ tick o, p.trader.submission? p.floor tick = some o →
      0 < o.quantity ∧
        o.quantity.toInt = target.order.quantity.toInt - (p.trader.catchUp p.floor).1.filledQuantity.toInt := by
  have h := hp.sound hf
  have hin := h.inStep hq
  have hs := hin.sound
  have hlive : ∀ id leg, p.trader.closing.find? id = some leg → p.isLive id → ¬ leg.status.isVoid :=
    fun _ _ => h.not_isVoid_of_isLive hq
  have hfilled : ∀ id leg, p.trader.closing.find? id = some leg → p.isFilled id → ¬ leg.status.isVoid :=
    fun _ _ => h.not_isVoid_of_isFilled hq
  have hdisj : ∀ id, p.isFilled id → ¬ p.isLive id := fun id hfill hl => h.not_isFilled_of_isLive hl hfill
  have htq : p.trader.primary.quantity = target.order.quantity := by rw [Trader.primary, h.closes]
  rw [← htq]
  refine ⟨fun i j hi hj hli hlj => ?_, hs.legTotal_add_le hin.positive hfilled hlive hdisj, hs.filledQuantity_toInt,
    ?_, ?_, ?_, fun tick o ho => hin.submission_quantity ho⟩
  · obtain ⟨a, ha⟩ := Option.isSome_iff_exists.mp hi
    obtain ⟨b, hb⟩ := Option.isSome_iff_exists.mp hj
    exact hs.one i a j b ha hb (hlive i a ha hli) (hlive j b hb hlj)
  · rcases hs.filledQuantity_cases with ⟨hz, -⟩ | ⟨hz, -⟩ <;> rw [hz]
    · exact Int64.le_refl _
    · exact Int64.le_of_lt hin.positive
  · rcases hs.filledQuantity_cases with ⟨hz, -⟩ | ⟨hz, -⟩ <;> rw [hz]
    · exact Int64.le_of_lt hin.positive
    · exact Int64.le_refl _
  · rw [hs.filledQuantity_toInt]
    exact hs.legTotal_add_le hin.positive (fun id leg hl hfill => hfilled id leg hl (h.isFilled_of_hasFilled hq hfill))
      hlive fun id hfill => hdisj id (h.isFilled_of_hasFilled hq hfill)

end

def longOfThree : AssistTarget :=
  ⟨{ id := "p1", code := "MXFL1", action := .buy, price := 100, quantity := 3, status := .filled, tradeTime := 1000 },
    { kind := .byTimePeriod, periodSecs := 5 }⟩

def emptyFloor : Floor := { registry := { deadlines := ⟨10000, 30000⟩ } }

theorem emptyFloor_tidy : emptyFloor.Tidy := ⟨Registry.keyed_empty _, Bus.tidy_empty⟩

def lateTick : Tick := { code := "MXFL1", time := 9000, close := 101 }

def fired (status : Status) : Post :=
  (start emptyFloor longOfThree).step (.tick 9000 lateTick (.reply { orderId := "c1", status }))

/-- The first order was cancelled in part filled, and the second is out. -/
def firedAgain : Post :=
  ((((fired .submitted).step (.status 9100 ⟨"c1", .partFilled, 0, none⟩)).step
    (.place 9150 longOfThree.order (.reply { orderId := "x1", status := .submitted }))).step
    (.status 9200 ⟨"c1", .cancelled, 0, none⟩)).step
    (.tick 9300 lateTick (.reply { orderId := "c2", status := .pendingSubmit }))

theorem fired_reachable (status : Status) : (fired status).Reachable emptyFloor longOfThree := .step _ .start trivial

theorem firedAgain_reachable : firedAgain.Reachable emptyFloor longOfThree := by
  refine .step _ (.step _ (.step _ (.step _ (fired_reachable _) trivial) ?_) trivial) trivial
  intro reply hr
  obtain rfl := Option.some.inj hr
  rfl

theorem closing_within_position_firedAgain :
    firedAgain.Reachable emptyFloor longOfThree ∧ firedAgain.trader.closing.size = 2 ∧
      firedAgain.isLive "c2" ∧ firedAgain.known "c1" = some .cancelled ∧
      firedAgain.trader.legTotal firedAgain.isFilled + firedAgain.trader.legTotal firedAgain.isLive ≤ 3 := by
  have hq : 0 < longOfThree.order.quantity := by decide
  have h := closing_within_position emptyFloor_tidy hq firedAgain_reachable
  exact ⟨firedAgain_reachable, rfl, rfl, rfl, h.2.1⟩

/-! ## Waiting -/

section
variable {f : Floor} {target : AssistTarget} {p : Post} {t : Trader}

theorem Sound.drained (h : p.Sound target) (ht : (p.trader.drain p.floor).1 = t) :
    t.Traced p.floor.registry.acceptedAs? ∧ (0 < target.order.quantity → t.Sound [] p.known) ∧
      (¬ 0 < target.order.quantity → t.Unused) := by
  have hun : ¬ 0 < target.order.quantity → t.Unused := fun hq => by
    have hd : (p.trader.drain p.floor).1 = p.trader := (h.unused hq).heard _
    rw [← ht, hd]; exact h.unused hq
  refine ⟨?_, fun hq => ht ▸ (h.inStep hq).sound.heard, hun⟩
  by_cases hq : 0 < target.order.quantity
  · rw [← ht]; exact h.traced.heard (h.inStep hq).sound
  · exact (hun hq).traced

theorem submission?_of_drained (ht : (p.trader.drain p.floor).1 = t) (hd : t.phase ≠ .done) (hw : t.waiting = none)
    (hc : ¬ t.isCovered) {tick : Tick} (hfire : t.shouldFire tick) :
    p.trader.submission? p.floor tick = some (t.closingOrder tick) := by
  have hcatch : (p.trader.catchUp p.floor).1 = t := by
    change ((p.trader.drain p.floor).1.finish (p.trader.drain p.floor).2).1 = t
    rw [ht]
    rcases Trader.finish_cases t (p.trader.drain p.floor).2 with ⟨-, hc', -⟩ | ⟨-, he⟩
    · exact absurd hc' hc
    · rw [he]
  unfold Trader.submission? Trader.order? Trader.isFree
  rw [hcatch]
  simp [hd, hw, hfire]

/-- **What a trader waits for.** With its mailbox empty, a trader waits for an
order that ended without a fill just where that order was accepted as cancelled
already, and for such an order it waits for ever. Every other order that ended
without a fill has left it idle, to submit again as soon as its trigger fires. -/
theorem waits_for_void_iff (hf : f.Tidy) (hp : p.Reachable f target) (ht : (p.trader.drain p.floor).1 = t) :
    (∀ id, t.phase ≠ .done → t.waiting = some id →
      ∃ s, p.known id = some s ∧ (s.isVoid ↔ p.floor.registry.acceptedAs? id = some .cancelled)) ∧
    (∀ id, (t.closing.find? id).isSome → p.floor.registry.acceptedAs? id = some .cancelled → t.waiting = some id) ∧
    ∀ id s, (t.closing.find? id).isSome → p.known id = some s → s.isVoid →
      p.floor.registry.acceptedAs? id ≠ some .cancelled → t.phase ≠ .done →
      t.waiting ≠ some id ∧ (t.waiting = none → t.phase = .idle ∧ ∀ tick, ¬ t.isCovered → t.shouldFire tick →
        p.trader.submission? p.floor tick = some (t.closingOrder tick)) := by
  obtain ⟨htr, hsound, hun⟩ := (hp.sound hf).drained ht
  have hcancelled : ∀ id, (t.closing.find? id).isSome → p.floor.registry.acceptedAs? id = some .cancelled →
      t.waiting = some id := by
    intro id hid hb
    obtain ⟨leg, hl⟩ := Option.isSome_iff_exists.mp hid
    exact (htr.cancelled id leg hl hb).2
  by_cases hq : 0 < target.order.quantity
  · have hs := hsound hq
    have hvoid : ∀ id leg, t.waiting = some id → t.closing.find? id = some leg → leg.status.isVoid →
        p.floor.registry.acceptedAs? id = some .cancelled := fun id _ hw hl hv =>
      htr.accepted_cancelled hw hl hv (p.floor.registry.acceptedAs?_ne_failed id)
    refine ⟨fun id _ hw => ?_, hcancelled, fun id s hid hk hv hb hd => ?_⟩
    · obtain ⟨leg, hl⟩ := Option.isSome_iff_exists.mp (hs.waits id hw)
      refine ⟨leg.status, (hs.leg id leg hl).known, hvoid id leg hw hl, fun hb => ?_⟩
      simp [(htr.cancelled id leg hl hb).1, Status.isVoid]
    · obtain ⟨leg, hl⟩ := Option.isSome_iff_exists.mp hid
      have hst : leg.status = s := Option.some.inj ((hs.leg id leg hl).known.symm.trans hk)
      refine ⟨fun hw => hb (hvoid id leg hw hl (hst ▸ hv)), fun hw => ⟨hs.phase_idle hd hw hid, ?_⟩⟩
      exact fun tick hc hfire => submission?_of_drained ht hd hw hc hfire
  · have hu := hun hq
    refine ⟨fun id _ hw => ?_, hcancelled, fun id s hid => ?_⟩
    · rw [hu.waiting] at hw; cases hw
    · rw [hu.closing] at hid; cases hid

end

def cancelledLater : Post := (fired .submitted).step (.status 9200 ⟨"c1", .cancelled, 0, none⟩)

theorem cancelledLater_reachable : cancelledLater.Reachable emptyFloor longOfThree :=
  .step _ (fired_reachable _) trivial

theorem waits_for_void_iff_cancelledLater :
    cancelledLater.trader.waiting = some "c1" ∧
      (cancelledLater.trader.drain cancelledLater.floor).1.waiting ≠ some "c1" ∧
      (cancelledLater.trader.submission? cancelledLater.floor lateTick).isSome := by
  have h := waits_for_void_iff emptyFloor_tidy cancelledLater_reachable rfl
  obtain ⟨hw, hidle⟩ := h.2.2 "c1" .cancelled rfl rfl rfl (by decide +kernel) (by decide +kernel)
  refine ⟨rfl, hw, ?_⟩
  rw [(hidle rfl).2 lateTick (by decide +kernel) (by decide +kernel)]
  rfl

/-- An order cancelled at once is waited for. -/
theorem waits_for_order_cancelledAtOnce :
    (fired .cancelled).Reachable emptyFloor longOfThree ∧
      ((fired .cancelled).trader.drain (fired .cancelled).floor).1.phase = .ordered ∧
      ((fired .cancelled).trader.drain (fired .cancelled).floor).1.waiting = some "c1" ∧
      (fired .cancelled).known "c1" = some .cancelled ∧
      (fired .cancelled).trader.submission? (fired .cancelled).floor lateTick = none :=
  ⟨fired_reachable _, rfl, rfl, rfl, rfl⟩

end Post

end FuturesDesk
