import FuturesDesk.Proofs.ClosingOrders

/-!
# Moves of a trader

A trader stays in step with its mailbox and the registry through its own moves
and through all that happens around it. Seen from outside, a move adds at most
one order, tells the others nothing of any order, and announces the end of the
position only when the trader is done.
-/

namespace FuturesDesk

namespace Floor

structure Tidy (f : Floor) : Prop where
  keyed : f.registry.Keyed
  bus : f.bus.Tidy

def status (f : Floor) (now : UInt64) (u : StatusUpdate) : Floor :=
  match (f.registry.merge now u).2 with
  | none => { f with registry := (f.registry.merge now u).1 }
  | some o => { f with registry := (f.registry.merge now u).1 }.publish (.orderStatus o)

theorem status_of_none {f : Floor} {now : UInt64} {u : StatusUpdate} (h : (f.registry.merge now u).2 = none) :
    f.status now u = { f with registry := (f.registry.merge now u).1 } := by
  unfold status
  rw [h]

theorem status_of_some {f : Floor} {now : UInt64} {u : StatusUpdate} {o : Order}
    (h : (f.registry.merge now u).2 = some o) :
    f.status now u = { f with registry := (f.registry.merge now u).1 }.publish (.orderStatus o) := by
  unfold status
  rw [h]

theorem registry_status (f : Floor) (now : UInt64) (u : StatusUpdate) :
    (f.status now u).registry = (f.registry.merge now u).1 := by
  unfold status
  split <;> rfl

end Floor

namespace Trader

/-- A trader in step with its mailbox, which is on the list until it is done. -/
structure InStep (t : Trader) (bus : Bus DeskEvent) (known : String → Option Status) : Prop where
  sound : t.Sound (bus.queued t.inbox) known
  listed : t.phase ≠ .done → bus.isListed t.inbox
  positive : 0 < t.primary.quantity

section
variable {t : Trader} {f : Floor} {bus bus' : Bus DeskEvent} {known known' : String → Option Status}

/-! ## What happens around a trader -/

theorem InStep.frame (h : t.InStep bus known)
    (hq : ∀ id, (t.closing.find? id).isSome → news id (bus'.queued t.inbox) = news id (bus.queued t.inbox))
    (hl : bus'.isListed t.inbox = bus.isListed t.inbox)
    (hk : ∀ id, (t.closing.find? id).isSome → known' id = known id) : t.InStep bus' known' where
  sound := h.sound.frame hq hk
  listed hd := hl ▸ h.listed hd
  positive := h.positive

theorem news_publish {e : DeskEvent} {id : String} (he : e.news? id = none) (bus : Bus DeskEvent) (inbox : Nat) :
    news id ((bus.publish e).queued inbox) = news id (bus.queued inbox) := by
  rw [Bus.queued_publish]
  split
  · simp [news, he]
  · rfl

theorem InStep.not_done_of_live (h : t.InStep bus known) {id : String} {s : Status}
    (hid : (t.closing.find? id).isSome) (hk : known id = some s) (hs : s.isCancellable) : t.phase ≠ .done := by
  intro hd
  obtain ⟨leg, hf⟩ := Option.isSome_iff_exists.mp hid
  have hend := ((h.sound.leg id leg hf).settled (h.sound.not_live_of_done hd hf)).2
  rw [hk, Option.some.injEq] at hend
  exact h.sound.not_live_of_done hd hf (hend ▸ hs)

theorem InStep.status (h : t.InStep f.bus known) (hv : f.registry.Views known) (now : UInt64) (u : StatusUpdate) :
    t.InStep (f.status now u).bus ((f.status now u).registry.lastView known) := by
  rw [Floor.registry_status]
  unfold Floor.status
  cases hm : (f.registry.merge now u).2 with
  | none =>
    exact h.frame (fun _ _ => rfl) rfl fun id _ => hv.lastView_eq (Or.inl (Registry.status?_of_merge_none hm id))
  | some o' =>
    obtain ⟨o, ho, rfl, hs, hu, ht, hne⟩ := Registry.of_merge_some hm
    have hid : (o.merged now u).id = u.orderId := by rw [Order.merged_id]; exact hv.keyed _ _ ho
    have hother : ∀ id, id ≠ (o.merged now u).id → (f.registry.merge now u).1.lastView known id = known id := by
      intro id hid'
      refine hv.lastView_eq (Or.inl ?_)
      rw [Registry.status?_merge, if_neg (hid ▸ hid')]
    have hnew : (f.registry.merge now u).1.lastView known (o.merged now u).id = some (o.merged now u).status := by
      have hl : (f.registry.merge now u).1.lookup u.orderId = some (o.merged now u) := by
        rw [Registry.lookup_merge, if_pos rfl, ho]; rfl
      rw [hid, Registry.lastView, Registry.status?, hl]; rfl
    have hold : known (o.merged now u).id = some o.status := by
      rw [hid]
      exact hv.held _ _ (Registry.status?_eq_some.mpr ⟨o, ho, rfl⟩)
    change t.InStep (f.bus.publish (.orderStatus (o.merged now u))) _
    cases hf : t.closing.find? (o.merged now u).id with
    | none =>
      have hne : ∀ id, (t.closing.find? id).isSome → id ≠ (o.merged now u).id := by
        rintro id hleg rfl
        rw [hf] at hleg; cases hleg
      refine h.frame (fun id hleg => news_publish ?_ _ _) (Bus.isListed_publish ..)
        fun id hleg => hother id (hne id hleg)
      exact if_neg (Ne.symm (hne id hleg))
    | some leg =>
      have hleg := h.sound.leg _ leg hf
      have hlive : o.status.isCancellable := Status.isCancellable_iff.mpr ⟨(hold ▸ hleg).known_ne_unknown, ht⟩
      have hd := h.not_done_of_live (by rw [hf]; rfl) hold hlive
      refine ⟨?_, fun _ => ?_, h.positive⟩
      · rw [Bus.queued_publish, if_pos (h.listed hd)]
        exact h.sound.told hold hlive (hs ▸ hu) hnew hother
      · rw [Bus.isListed_publish]; exact h.listed hd

/-! ## Catching up -/

@[simp] theorem hearEvent_target (t : Trader) (e : DeskEvent) : (t.hearEvent e).target = t.target := by
  cases e with
  | orderStatus o => exact hear_target t o
  | placed _ | assistDone _ | assistFailed _ _ => rfl

@[simp] theorem hearEvent_inbox (t : Trader) (e : DeskEvent) : (t.hearEvent e).inbox = t.inbox := by
  cases e with
  | orderStatus o => exact hear_inbox t o
  | placed _ | assistDone _ | assistFailed _ _ => rfl

theorem phase_hear_of_done (o : Order) (hd : t.phase = .done) : (t.hear o).phase = .done := by
  rcases hear_cases t o with ⟨-, h⟩ | ⟨leg, -, -, ⟨-, -, -, hp⟩ | ⟨-, -, hp⟩⟩
  · rw [h, hd]
  · rw [hp, if_pos hd]
  · rw [hp, hd]

theorem foldl_hearEvent_keeps (queue : List DeskEvent) (t : Trader) :
    (queue.foldl hearEvent t).target = t.target ∧ (queue.foldl hearEvent t).inbox = t.inbox ∧
      (t.phase = .done → (queue.foldl hearEvent t).phase = .done) ∧
      ∀ id, ((queue.foldl hearEvent t).closing.find? id).isSome = (t.closing.find? id).isSome := by
  induction queue generalizing t with
  | nil => exact ⟨rfl, rfl, fun hd => hd, fun _ => rfl⟩
  | cons e queue ih =>
    obtain ⟨ht, hi, hp, hc⟩ := ih (t.hearEvent e)
    refine ⟨ht.trans (hearEvent_target t e), hi.trans (hearEvent_inbox t e), fun hd => hp ?_,
      fun id => (hc id).trans ?_⟩
    · cases e with
      | orderStatus o => exact phase_hear_of_done o hd
      | placed _ | assistDone _ | assistFailed _ _ => exact hd
    · cases e with
      | orderStatus o => exact isSome_find?_hear t o id
      | placed _ | assistDone _ | assistFailed _ _ => rfl

theorem InStep.drained (h : t.InStep f.bus known) : (t.drain f).1.InStep (t.drain f).2.bus known := by
  obtain ⟨ht, hi, hp, -⟩ := foldl_hearEvent_keeps (f.bus.queued t.inbox) t
  change (List.foldl hearEvent t (f.bus.queued t.inbox)).InStep (f.bus.takeAll t.inbox).1 known
  refine ⟨?_, fun hd => ?_, ?_⟩
  · rw [hi, Bus.queued_takeAll, if_pos rfl]
    exact h.sound.heard
  · rw [hi, Bus.isListed_takeAll]
    exact h.listed fun hd' => hd (hp hd')
  · rw [primary, ht]; exact h.positive

theorem finish_cases (t : Trader) (f : Floor) :
    (t.phase ≠ .done ∧ t.isCovered ∧ t.finish f =
      ({ t with phase := .done }, { f with bus := (f.bus.leave t.inbox).publish (.assistDone t.primary.id) })) ∨
    ((t.phase = .done ∨ ¬ t.isCovered) ∧ t.finish f = (t, f)) := by
  unfold finish
  by_cases hd : t.phase = .done
  · exact Or.inr ⟨Or.inl hd, by simp [hd]⟩
  · by_cases hc : t.isCovered
    · exact Or.inl ⟨hd, hc, by simp [hd, hc]⟩
    · exact Or.inr ⟨Or.inr hc, by simp [hc]⟩

theorem InStep.finished (h : t.InStep f.bus known) : (t.finish f).1.InStep (t.finish f).2.bus known := by
  rcases finish_cases t f with ⟨-, hc, he⟩ | ⟨-, he⟩
  · rw [he]
    refine ⟨?_, fun hd => absurd rfl hd, h.positive⟩
    refine (h.sound.finished h.positive hc).frame (fun id _ => ?_) fun _ _ => rfl
    exact (news_publish rfl _ _).trans (by rw [Bus.queued_leave])
  · rw [he]; exact h

theorem InStep.caughtUp (h : t.InStep f.bus known) : (t.catchUp f).1.InStep (t.catchUp f).2.bus known :=
  h.drained.finished

theorem not_isCovered_of_catchUp (hd : (t.catchUp f).1.phase ≠ .done) : ¬ (t.catchUp f).1.isCovered := by
  change ((t.drain f).1.finish (t.drain f).2).1.phase ≠ .done at hd
  change ¬ ((t.drain f).1.finish (t.drain f).2).1.isCovered
  rcases finish_cases (t.drain f).1 (t.drain f).2 with ⟨-, -, he⟩ | ⟨h, he⟩
  · rw [he] at hd; exact absurd rfl hd
  · rw [he] at hd ⊢
    exact h.resolve_left hd

theorem news_catchUp (t : Trader) (f : Floor) (id : String) :
    news id ((t.catchUp f).2.bus.queued (t.catchUp f).1.inbox) = [] := by
  obtain ⟨-, hi, -⟩ := foldl_hearEvent_keeps (f.bus.queued t.inbox) t
  have hempty : (f.bus.takeAll t.inbox).1.queued t.inbox = [] := by rw [Bus.queued_takeAll, if_pos rfl]
  change news id (((t.drain f).1.finish (t.drain f).2).2.bus.queued ((t.drain f).1.finish (t.drain f).2).1.inbox) = []
  rcases finish_cases (t.drain f).1 (t.drain f).2 with ⟨-, -, he⟩ | ⟨-, he⟩
  · rw [he]
    refine (news_publish rfl _ _).trans ?_
    rw [Bus.queued_leave]
    change news id ((f.bus.takeAll t.inbox).1.queued (List.foldl hearEvent t (f.bus.queued t.inbox)).inbox) = []
    rw [hi, hempty]; rfl
  · rw [he]
    change news id ((f.bus.takeAll t.inbox).1.queued (List.foldl hearEvent t (f.bus.queued t.inbox)).inbox) = []
    rw [hi, hempty]; rfl

/-! ## Placing -/

theorem order?_eq_some {tick : Tick} {o : Order} (h : t.order? tick = some o) :
    t.phase ≠ .done ∧ t.waiting = none ∧ t.shouldFire tick ∧ o = t.closingOrder tick := by
  unfold order? isFree at h
  simp only [Option.ite_none_right_eq_some, Bool.and_eq_true, decide_eq_true_eq, Option.isNone_iff_eq_none,
    Option.some.injEq] at h
  obtain ⟨⟨⟨hd, hw⟩, hf⟩, rfl⟩ := h
  exact ⟨hd, hw, hf, rfl⟩

theorem submit_cases (t : Trader) (f : Floor) (now : UInt64) (o : Order) (answer : Answer) :
    (answer.accepted? = none ∧ ∃ reason, t.submit f now o answer =
      ({ t with phase := .idle },
        { registry := (f.registry.place now o answer).registry
          bus := f.bus.publish (.assistFailed t.primary.id reason) }, none)) ∨
    ∃ reply, answer.accepted? = some reply ∧ t.submit f now o answer =
      ({ t with
          closing := t.closing.insert (o.accepted reply now).id (o.accepted reply now)
          waiting := some (o.accepted reply now).id
          phase := .ordered },
        { registry := (f.registry.place now o answer).registry
          bus := f.bus.publish (.placed (o.accepted reply now)) }, some (o.accepted reply now)) := by
  unfold submit
  rcases f.registry.place_cases now o answer with ⟨ha, ⟨reason, hr⟩, -, -⟩ | ⟨reply, ha, hr, ho, -, -⟩
  · refine Or.inl ⟨ha, (Fault.gateway reason).message, ?_⟩
    simp only [hr]; rfl
  · refine Or.inr ⟨reply, ha, ?_⟩
    simp only [hr, ho]; rfl

theorem lastView_place_of_refused (hv : f.registry.Views known) (now : UInt64) (o : Order) {answer : Answer}
    (ha : answer.accepted? = none) : (f.registry.place now o answer).registry.lastView known = known := by
  obtain ⟨reason, hp⟩ := f.registry.place_refused now o ha
  funext id
  refine hv.lastView_eq (Or.inl ?_)
  rw [hp]; rfl

theorem lastView_place_of_accepted (hv : f.registry.Views known) (now : UInt64) (o : Order) {answer : Answer}
    {reply : Reply} (ha : answer.accepted? = some reply) (id : String) :
    (f.registry.place now o answer).registry.lastView known id =
      if id = reply.orderId then some (o.accepted reply now).status else known id := by
  have hl : ∀ id, (f.registry.place now o answer).registry.status? id =
      if id = reply.orderId then some (o.accepted reply now).status else f.registry.status? id := by
    intro id
    rcases f.registry.place_cases now o answer with ⟨hn, -⟩ | ⟨reply', ha', -, -, -, hl⟩
    · rw [ha] at hn; cases hn
    · rw [ha, Option.some.injEq] at ha'
      subst ha'
      unfold Registry.status?
      rw [hl]
      split <;> rfl
  by_cases hid : id = reply.orderId
  · simp [Registry.lastView, hl, hid]
  · rw [if_neg hid]
    exact hv.lastView_eq (Or.inl (by rw [hl, if_neg hid]))

theorem InStep.submitted (h : t.InStep f.bus known) (hv : f.registry.Views known) (hd : t.phase ≠ .done)
    (hw : t.waiting = none) (hc : ¬ t.isCovered) (hn : ∀ id, news id (f.bus.queued t.inbox) = []) (now : UInt64)
    {o : Order} (ho : o.quantity = t.primary.quantity) (answer : Answer) :
    (t.submit f now o answer).1.InStep (t.submit f now o answer).2.1.bus
      ((t.submit f now o answer).2.1.registry.lastView known) := by
  rcases submit_cases t f now o answer with ⟨ha, reason, he⟩ | ⟨reply, ha, he⟩
  · rw [he]
    dsimp only
    rw [lastView_place_of_refused hv now o ha]
    refine ⟨?_, fun _ => ?_, h.positive⟩
    · exact (h.sound.idle hw).frame (fun id _ => news_publish rfl _ _) fun _ _ => rfl
    · rw [Bus.isListed_publish]; exact h.listed hd
  · rw [he]
    refine ⟨?_, fun _ => ?_, h.positive⟩
    · refine h.sound.placed h.positive hw hc ho (Registry.accepted_status_ne_unknown o reply now)
        (fun id => ?_) ?_ fun id hid => ?_
      · exact (news_publish rfl _ _).trans (hn id)
      · exact (lastView_place_of_accepted hv now o ha _).trans (if_pos rfl)
      · exact (lastView_place_of_accepted hv now o ha _).trans (if_neg hid)
    · dsimp only
      rw [Bus.isListed_publish]; exact h.listed hd

/-! ## Whole moves -/

theorem watch_keeps (t : Trader) :
    t.watch.target = t.target ∧ t.watch.inbox = t.inbox ∧ t.watch.closing = t.closing ∧ t.watch.waiting = t.waiting ∧
      (t.watch.phase = .done ↔ t.phase = .done) := by
  unfold watch
  split
  · rename_i h
    simp only [isFree, Bool.and_eq_true, decide_eq_true_eq] at h
    exact ⟨rfl, rfl, rfl, rfl, by simp [h.1.1]⟩
  · exact ⟨rfl, rfl, rfl, rfl, Iff.rfl⟩

theorem watch_isCovered (t : Trader) : t.watch.isCovered = t.isCovered := by
  unfold watch
  split <;> rfl

theorem InStep.watching (h : t.InStep bus known) : t.watch.InStep bus known := by
  obtain ⟨ht, hi, -, -, hp⟩ := watch_keeps t
  refine ⟨hi ▸ h.sound.watching, fun hd => hi ▸ h.listed fun hd' => hd (hp.mpr hd'), ?_⟩
  rw [primary, ht]; exact h.positive

theorem registry_catchUp (t : Trader) (f : Floor) : (t.catchUp f).2.registry = f.registry := by
  change ((t.drain f).1.finish (t.drain f).2).2.registry = _
  rcases finish_cases (t.drain f).1 (t.drain f).2 with ⟨-, -, he⟩ | ⟨-, he⟩ <;> rw [he] <;> rfl

theorem onTick_eq (t : Trader) (f : Floor) (now : UInt64) (tick : Tick) (answer : Answer) :
    t.onTick f now tick answer =
      match (t.catchUp f).1.order? tick with
      | none => ((t.catchUp f).1.watch, (t.catchUp f).2, none)
      | some o => (t.catchUp f).1.watch.submit (t.catchUp f).2 now o answer := rfl

theorem onTick_cases (t : Trader) (f : Floor) (now : UInt64) (tick : Tick) (answer : Answer) :
    ((t.catchUp f).1.order? tick = none ∧
      t.onTick f now tick answer = ((t.catchUp f).1.watch, (t.catchUp f).2, none)) ∨
    (∃ o reason, (t.catchUp f).1.order? tick = some o ∧ answer.accepted? = none ∧
      t.onTick f now tick answer =
        ({ (t.catchUp f).1.watch with phase := .idle },
          { registry := ((t.catchUp f).2.registry.place now o answer).registry
            bus := (t.catchUp f).2.bus.publish (.assistFailed (t.catchUp f).1.watch.primary.id reason) }, none)) ∨
    ∃ o reply, (t.catchUp f).1.order? tick = some o ∧ answer.accepted? = some reply ∧
      t.onTick f now tick answer =
        ({ (t.catchUp f).1.watch with
            closing := (t.catchUp f).1.watch.closing.insert (o.accepted reply now).id (o.accepted reply now)
            waiting := some (o.accepted reply now).id
            phase := .ordered },
          { registry := ((t.catchUp f).2.registry.place now o answer).registry
            bus := (t.catchUp f).2.bus.publish (.placed (o.accepted reply now)) },
          some (o.accepted reply now)) := by
  rw [onTick_eq]
  cases ho : (t.catchUp f).1.order? tick with
  | none => exact Or.inl ⟨rfl, rfl⟩
  | some o =>
    rcases submit_cases (t.catchUp f).1.watch (t.catchUp f).2 now o answer with ⟨ha, reason, he⟩ | ⟨reply, ha, he⟩
    · exact Or.inr (Or.inl ⟨o, reason, rfl, ha, he⟩)
    · exact Or.inr (Or.inr ⟨o, reply, rfl, ha, he⟩)

theorem catchUp_keeps (t : Trader) (f : Floor) :
    (t.catchUp f).1.target = t.target ∧ (t.catchUp f).1.inbox = t.inbox ∧
      (t.phase = .done → (t.catchUp f).1.phase = .done) ∧
      ∀ id, ((t.catchUp f).1.closing.find? id).isSome = (t.closing.find? id).isSome := by
  have hk := foldl_hearEvent_keeps (f.bus.queued t.inbox) t
  change ((t.drain f).1.finish (t.drain f).2).1.target = _ ∧ ((t.drain f).1.finish (t.drain f).2).1.inbox = _ ∧
    (_ → ((t.drain f).1.finish (t.drain f).2).1.phase = _) ∧
    ∀ id, (((t.drain f).1.finish (t.drain f).2).1.closing.find? id).isSome = _
  rcases finish_cases (t.drain f).1 (t.drain f).2 with ⟨-, -, he⟩ | ⟨-, he⟩
  · rw [he]; exact ⟨hk.1, hk.2.1, fun _ => rfl, hk.2.2.2⟩
  · rw [he]; exact hk

theorem onTick_keeps (t : Trader) (f : Floor) (now : UInt64) (tick : Tick) (answer : Answer) :
    (t.onTick f now tick answer).1.target = t.target ∧ (t.onTick f now tick answer).1.inbox = t.inbox := by
  obtain ⟨ht, hi, -, -⟩ := catchUp_keeps t f
  obtain ⟨hwt, hwi, -, -, -⟩ := watch_keeps (t.catchUp f).1
  rcases onTick_cases t f now tick answer with ⟨-, he⟩ | ⟨o, reason, -, -, he⟩ | ⟨o, reply, -, -, he⟩ <;> rw [he] <;>
    exact ⟨hwt.trans ht, hwi.trans hi⟩

theorem grown_onTick (t : Trader) (f : Floor) (now : UInt64) (tick : Tick) (answer : Answer) :
    f.registry.Grown (t.onTick f now tick answer).2.1.registry (t.onTick f now tick answer).2.2.toList := by
  have hr := registry_catchUp t f
  rcases onTick_cases t f now tick answer with ⟨-, he⟩ | ⟨o, reason, -, ha, he⟩ | ⟨o, reply, -, ha, he⟩
  · rw [he]; dsimp only; rw [hr]
    exact Registry.grown_refl _
  · have hg := f.registry.grown_place now o answer
    rw [Registry.accepted_of_refused _ _ _ ha] at hg
    rw [he]; dsimp only; rw [hr]
    exact hg
  · have hg := f.registry.grown_place now o answer
    rw [Registry.accepted_of_accepted _ _ _ ha] at hg
    rw [he]; dsimp only; rw [hr]
    exact hg

/-- **A tick keeps a trader in step.** -/
theorem InStep.ticked (h : t.InStep f.bus known) (hv : f.registry.Views known) (now : UInt64) (tick : Tick)
    (answer : Answer) :
    (t.onTick f now tick answer).1.InStep (t.onTick f now tick answer).2.1.bus
      ((t.onTick f now tick answer).2.1.registry.lastView known) := by
  have hc := h.caughtUp
  have hr := registry_catchUp t f
  rw [onTick_eq]
  cases ho : (t.catchUp f).1.order? tick with
  | none =>
    have hk : (t.catchUp f).2.registry.lastView known = known := by
      funext id; exact hv.lastView_eq (Or.inl (by rw [hr]))
    dsimp only
    rw [hk]
    exact hc.watching
  | some o =>
    obtain ⟨hd, hw, -, rfl⟩ := order?_eq_some ho
    obtain ⟨ht, hi, -, hw', hp⟩ := watch_keeps (t.catchUp f).1
    have hnc := not_isCovered_of_catchUp hd
    refine hc.watching.submitted (hr ▸ hv) (fun hd' => hd (hp.mp hd')) (hw'.trans hw) ?_ (fun id => ?_) now ?_ answer
    · rwa [watch_isCovered]
    · rw [hi]; exact news_catchUp t f id
    · rw [hc.sound.closingOrder_quantity hc.positive hnc, primary, primary, ht]

theorem InStep.submission_quantity (h : t.InStep f.bus known) {tick : Tick} {o : Order}
    (ho : t.submission? f tick = some o) :
    0 < o.quantity ∧ o.quantity.toInt = t.primary.quantity.toInt - (t.catchUp f).1.filledQuantity.toInt := by
  have hc := h.caughtUp
  obtain ⟨ht, -, -⟩ := catchUp_keeps t f
  obtain ⟨hd, -, -, rfl⟩ := order?_eq_some ho
  have hnc := not_isCovered_of_catchUp hd
  have hqc : (t.catchUp f).1.primary.quantity = t.primary.quantity := by rw [primary, primary, ht]
  rw [hc.sound.closingOrder_quantity hc.positive hnc, hc.sound.filledQuantity_eq_zero hc.positive hnc, hqc]
  exact ⟨h.positive, by simp⟩

theorem onEvent_keeps (t : Trader) (f : Floor) (e : DeskEvent) :
    (t.onEvent f e).1.target = t.target ∧ (t.onEvent f e).1.inbox = t.inbox := by
  cases e with
  | orderStatus o =>
    change ((t.hear o).finish f).1.target = _ ∧ ((t.hear o).finish f).1.inbox = _
    rcases finish_cases (t.hear o) f with ⟨-, -, he⟩ | ⟨-, he⟩ <;> rw [he] <;> simp
  | placed _ | assistDone _ | assistFailed _ _ => exact ⟨rfl, rfl⟩

theorem registry_onEvent (t : Trader) (f : Floor) (e : DeskEvent) : (t.onEvent f e).2.registry = f.registry := by
  cases e with
  | orderStatus o =>
    change ((t.hear o).finish f).2.registry = _
    rcases finish_cases (t.hear o) f with ⟨-, -, he⟩ | ⟨-, he⟩ <;> rw [he]
  | placed _ | assistDone _ | assistFailed _ _ => rfl

/-- **An event taken keeps a trader in step.** -/
theorem InStep.evented (h : t.InStep f.bus known) {bus' : Bus DeskEvent} {e : DeskEvent}
    (he : f.bus.take t.inbox = (bus', .event e)) :
    (t.onEvent { f with bus := bus' } e).1.InStep (t.onEvent { f with bus := bus' } e).2.bus known := by
  obtain ⟨rfl, hq⟩ := Bus.queued_of_take he
  have htail : (f.bus.take t.inbox).1.queued t.inbox = (f.bus.queued t.inbox).tail := by
    rw [Bus.queued_take, if_pos rfl]
  have hheard : (t.hearEvent e).InStep (f.bus.take t.inbox).1 known := by
    have hs := h.sound
    rw [hq] at hs
    refine ⟨?_, fun hd => ?_, ?_⟩
    · rw [hearEvent_inbox, htail]; exact hs.hearEvent
    · rw [hearEvent_inbox, Bus.isListed_take]
      refine h.listed fun hd' => hd ?_
      cases e with
      | orderStatus o => exact phase_hear_of_done o hd'
      | placed _ | assistDone _ | assistFailed _ _ => exact hd'
    · rw [primary, hearEvent_target]; exact h.positive
  cases e with
  | orderStatus o => exact InStep.finished (f := { f with bus := (f.bus.take t.inbox).1 }) hheard
  | placed _ | assistDone _ | assistFailed _ _ => exact hheard

end

end Trader

end FuturesDesk
