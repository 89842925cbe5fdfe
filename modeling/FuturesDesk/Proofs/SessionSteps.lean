import FuturesDesk.Proofs.SessionState

/-!
# Commands, relays and promotions

The steps by which a session gets new orders, hears of the end of positions
and puts traders to work.
-/

namespace FuturesDesk

namespace Session

section
variable {s s' : Session} {known : String → Option Status}

/-! ## Commands -/

/-- A session in which new orders are filed where they are live: to wait for,
or pending under their id. -/
structure Filed (s s' : Session) (r : Registry) (new : List Order) : Prop where
  grown : s.registry.Grown r new
  floor : s'.floor = { s.floor with registry := r }
  workers : s'.workers = s.workers
  queues : s'.queues = s.queues
  relays : s'.relays = s.relays
  waiting : ∀ id, s.waiting.contains id → s'.waiting.contains id
  kept : ∀ id target, s.pending.find? id = some target → (∀ o ∈ new, o.id ≠ id) → s'.pending.find? id = some target
  pending : ∀ id target, s'.pending.find? id = some target → s.pending.find? id = some target ∨
    target.order.id = id ∧ 0 < target.order.quantity ∧ ∃ o ∈ new, o.id = id
  filed : ∀ o ∈ new, o.status.isCancellable → s'.waiting.contains o.id ∨
    ∃ target, s'.pending.find? o.id = some target ∧ target.order.status.isCancellable

section
variable {r : Registry} {new : List Order}

theorem Filed.registry_eq (hf : Filed s s' r new) : s'.registry = r := by rw [registry, hf.floor]

theorem Filed.traders_eq (hf : Filed s s' r new) : s'.traders = s.traders := congrArg (·.map (·.trader)) hf.workers

theorem Filed.given (hf : Filed s s' r new) : s'.registry.given = s.registry.given ++ new.map (·.id) := by
  rw [hf.registry_eq, hf.grown.given]

theorem Filed.staffed (hf : Filed s s' r new) (h : s.Staffed) (hn : r.given.Nodup) : s'.Staffed := by
  have hbus : s'.floor.bus = s.floor.bus := by rw [hf.floor]
  have hframe : Staffed { s' with pending := s.pending } := h.same (hbus ▸ Bus.keeps_refl _)
    (fun id hid => hf.given ▸ List.mem_append_left _ hid) hf.traders_eq (by rw [hf.workers]; exact h.fed) hf.queues
    hf.relays rfl
  refine ⟨hframe.tidy, hframe.fed, hframe.queue, hframe.inboxes, hframe.relays, hframe.queues, hframe.distinct,
    fun id target ht => ?_, hframe.ended⟩
  rcases hf.pending id target ht with ht | ⟨rfl, hqty, o, ho, hoid⟩
  · obtain ⟨hid, hstart⟩ := hframe.pending id target ht
    exact ⟨hid, hstart.quantity, hstart.given, hstart.closed, hstart.unended⟩
  · -- the id is new: no queue and no event knows it
    have hfresh := hoid ▸ hf.grown.fresh hn o ho
    refine ⟨rfl, hqty, ?_, ?_, fun i hm => ?_⟩
    · rw [hf.given, ← hoid]
      exact List.mem_append_right _ (List.mem_map_of_mem ho)
    · rw [hf.queues]
      cases hfind : s.queues.find? target.order.id with
      | none => rfl
      | some i => exact absurd (h.queues _ i hfind).1 hfresh
    · rw [hbus] at hm
      exact hfresh (h.ended i _ hm).1

theorem Filed.sound (hf : Filed s s' r new) (h : s.Sound known) (hn : r.given.Nodup) :
    s'.Sound (r.lastView known) := by
  have hreg := hf.registry_eq
  refine ⟨hreg ▸ hf.grown.views h.views, fun id st hs => h.named_grown hf.grown id st (hreg ▸ hs),
    hf.staffed h.staffed hn, fun t ht => ?_, fun id hid => ?_⟩
  · rw [hf.traders_eq] at ht
    have hat : t.AtWork { s.floor with registry := r } (r.lastView known) :=
      (h.atWork t ht).grown h.views hf.grown hn (fun id => rfl) rfl
    rw [hf.floor]
    exact hat
  · rw [hf.traders_eq]
    obtain ⟨st, hs, hc⟩ := isLive_iff.mp hid
    rw [hreg, hf.grown.status?_eq] at hs
    cases hfind : new.find? (·.id = id) with
    | some o =>
      rw [hfind, Option.map_some, Option.some_or, Option.some.injEq] at hs
      have hoid : o.id = id := by simpa using List.find?_some hfind
      subst hoid
      rcases hf.filed o (List.mem_of_find?_eq_some hfind) (hs ▸ hc) with hw | hp
      · exact Or.inl hw
      · exact Or.inr (Or.inl hp)
    | none =>
      rw [hfind, Option.map_none, Option.none_or] at hs
      rcases h.held id (isLive_iff.mpr ⟨st, hs, hc⟩) with hw | ⟨target, ht, hlive⟩ | hleg
      · exact Or.inl (hf.waiting id hw)
      · refine Or.inr (Or.inl ⟨target, hf.kept id target ht fun o ho => ?_, hlive⟩)
        simpa using List.find?_eq_none.mp hfind o ho
      · exact Or.inr (Or.inr hleg)

end

theorem filed_placeUnit (s : Session) (now : UInt64) (c : Command) (ticket : Ticket) :
    Filed s (s.placeUnit now c ticket).1 (s.registry.place now (unitOrder c ticket.group) ticket.answer).registry
      (s.registry.place now (unitOrder c ticket.group) ticket.answer).accepted := by
  have hg := s.registry.grown_place now (unitOrder c ticket.group) ticket.answer
  unfold Session.placeUnit submitUnit
  dsimp only
  rcases s.registry.place_cases now (unitOrder c ticket.group) ticket.answer with
    ⟨ha, ⟨reason, hres⟩, -, -⟩ | ⟨reply, ha, hres, ho, -, -⟩
  · rw [Registry.accepted_of_refused _ _ _ ha] at hg ⊢
    rw [hres]
    exact ⟨hg, rfl, rfl, rfl, rfl, fun _ hid => hid, fun _ _ ht _ => ht, fun _ _ ht => Or.inl ht,
      fun o ho => by cases ho⟩
  · rw [Registry.accepted_of_accepted _ _ _ ha] at hg ⊢
    rw [hres, ho]
    dsimp only
    unfold fileUnit
    cases hopt : c.option with
    | none =>
      refine ⟨hg, rfl, rfl, rfl, rfl, fun id hid => ?_, fun _ _ ht _ => ht, fun _ _ ht => Or.inl ht,
        fun o hmem _ => Or.inl ?_⟩
      · change (s.waiting.add _).contains id
        simpa [IdSet.contains_add] using Or.inr hid
      · change (s.waiting.add _).contains o.id
        rw [List.mem_singleton] at hmem
        simp [IdSet.contains_add, hmem]
    | some option =>
      refine ⟨hg, rfl, rfl, rfl, rfl, fun _ hid => hid, fun id target ht hne => ?_, fun id target ht => ?_,
        fun o hmem hc => Or.inr ?_⟩
      · change (s.pending.insert _ _).find? id = some target
        rw [Table.find?_insert, if_neg fun hid => hne _ (List.mem_singleton.mpr rfl) hid.symm]
        exact ht
      · change (s.pending.insert _ _).find? id = some target at ht
        rw [Table.find?_insert] at ht
        split at ht
        · rename_i hid
          cases ht
          exact Or.inr ⟨hid.symm, by change (0 : Int64) < 1; decide, _, List.mem_singleton.mpr rfl, hid.symm⟩
        · exact Or.inl ht
      · rw [List.mem_singleton] at hmem
        subst hmem
        exact ⟨⟨_, option⟩, Table.find?_insert_self .., hc⟩

/-- What a unit comes to: the client is told of its failure, or is shown the
order, which waits for its end or is pending under its id. -/
theorem placeUnit_cases (s : Session) (now : UInt64) (c : Command) (ticket : Ticket) :
    (ticket.answer.accepted? = none ∧ ∃ text, s.placeUnit now c ticket =
      ({ s with
          floor := { s.floor with registry := (s.registry.place now (unitOrder c ticket.group) ticket.answer).registry }
          out := s.out ++ [.message (.error .placeOrderFailed text)] }, none)) ∨
    ∃ reply, ticket.answer.accepted? = some reply ∧ s.placeUnit now c ticket =
      ({ s with
          floor := { s.floor with registry := (s.registry.place now (unitOrder c ticket.group) ticket.answer).registry }
          waiting := match c.option with
            | some _ => s.waiting
            | none => s.waiting.add ((unitOrder c ticket.group).accepted reply now).id
          pending := match c.option with
            | some option => s.pending.insert ((unitOrder c ticket.group).accepted reply now).id
                ⟨(unitOrder c ticket.group).accepted reply now, option⟩
            | none => s.pending
          out := s.out ++ [.message (.order ((unitOrder c ticket.group).accepted reply now))] },
        some ((unitOrder c ticket.group).accepted reply now)) := by
  unfold Session.placeUnit submitUnit
  dsimp only
  rcases s.registry.place_cases now (unitOrder c ticket.group) ticket.answer with
    ⟨ha, ⟨reason, hres⟩, -, -⟩ | ⟨reply, ha, hres, ho, -, -⟩
  · rw [hres]
    exact Or.inl ⟨ha, _, rfl⟩
  · rw [hres, ho]
    refine Or.inr ⟨reply, ha, ?_⟩
    dsimp only
    unfold fileUnit
    cases c.option <;> rfl

theorem given_placeUnits (s : Session) (now : UInt64) (c : Command) (tickets : List Ticket) :
    s.registry.given <+: (s.placeUnits now c tickets).1.registry.given := by
  induction tickets generalizing s with
  | nil => exact List.prefix_refl _
  | cons ticket tickets ih =>
    refine List.IsPrefix.trans ?_ (ih (s.placeUnit now c ticket).1)
    rw [(filed_placeUnit s now c ticket).given]
    exact List.prefix_append ..

theorem Sound.placeUnits (h : s.Sound known) (now : UInt64) (c : Command) (tickets : List Ticket)
    (hn : (s.placeUnits now c tickets).1.registry.given.Nodup) :
    ∃ known', (s.placeUnits now c tickets).1.Sound known' := by
  induction tickets generalizing s known with
  | nil => exact ⟨known, h⟩
  | cons ticket tickets ih =>
    have hunit := (given_placeUnits (s.placeUnit now c ticket).1 now c tickets).sublist.nodup hn
    have hf := filed_placeUnit s now c ticket
    exact ih (hf.sound h (hf.registry_eq ▸ hunit)) hn

theorem text_cases (s : Session) (now : UInt64) (t : String) (ticket : Nat → Ticket) :
    (∃ f, s.text now t ticket = s.push f) ∨
    ∃ c tickets, (s.admission now).refusal? c = none ∧ s.text now t ticket = (s.placeUnits now c tickets).1 := by
  unfold text
  split
  · exact Or.inl ⟨_, rfl⟩
  · cases Command.ofText t with
    | error flaw => exact Or.inl ⟨_, rfl⟩
    | ok c =>
      dsimp only
      unfold command
      cases hr : (s.admission now).refusal? c with
      | some r => exact Or.inl ⟨_, rfl⟩
      | none => exact Or.inr ⟨c, _, hr, rfl⟩

/-! ## Relays -/

theorem Sound.subscribed (h : s.Sound known) :
    ({ s with floor := { s.floor with bus := s.floor.bus.subscribe.1 } } : Session).Sound known := by
  have hst := h.staffed
  refine h.rebus (Bus.keeps_subscribe hst.tidy) (fun t _ id => by rw [Bus.queued_subscribe hst.tidy]) fun t ht => ?_
  have := hst.inbox_lt ht
  rw [Bus.isListed_subscribe hst.tidy, decide_eq_false (by omega), Bool.false_or]

theorem Sound.openRelay (h : s.Sound known) : s.openRelay.Sound known := by
  have hst := h.staffed
  have hbus := h.subscribed
  have hst' := hbus.staffed
  refine ⟨hbus.views, hbus.named, ⟨hst'.tidy, hst'.fed, hst'.queue, hst'.inboxes, fun r hr => ?_, hst'.queues,
    hst'.distinct, fun id target ht => ?_, hst'.ended⟩, hbus.atWork, hbus.held⟩
  · rcases List.mem_append.mp hr with hr | hr
    · exact hst'.relays r hr
    · rw [List.mem_singleton] at hr
      subst hr
      exact ⟨Nat.lt_succ_self _, fun t ht => Nat.ne_of_lt (hst.inbox_lt ht)⟩
  · obtain ⟨hid, hstart⟩ := hst'.pending id target ht
    exact ⟨hid, hstart.quantity, hstart.given, hstart.closed, hstart.unended⟩

theorem Sound.closed (h : s.Sound known) {id : String} (hid : ∀ t ∈ s.traders, t.primary.id ≠ id) :
    ({ s with queues := s.queues.erase id } : Session).Sound known := by
  have hst := h.staffed
  have herase : ∀ id' i, (s.queues.erase id).find? id' = some i → s.queues.find? id' = some i := by
    intro id' i hi
    rw [Table.find?_erase] at hi
    split at hi
    · cases hi
    · exact hi
  refine ⟨h.views, h.named, ⟨hst.tidy, hst.fed, fun t ht => ?_, hst.inboxes, hst.relays,
    fun id' i hi => hst.queues id' i (herase id' i hi),
    fun id' id'' i hi hi' => hst.distinct id' id'' i (herase id' i hi) (herase id'' i hi'), fun id' target ht => ?_,
    hst.ended⟩, h.atWork, h.held⟩
  · change (s.queues.erase id).find? _ = _
    rw [Table.find?_erase, if_neg (hid t ht)]
    exact hst.queue t ht
  · obtain ⟨hkey, hstart⟩ := hst.pending id' target ht
    refine ⟨hkey, hstart.quantity, hstart.given, ?_, hstart.unended⟩
    change (s.queues.erase id).find? _ = _
    rw [Table.find?_erase]
    split
    · rfl
    · exact hstart.closed

theorem Sound.released (h : s.Sound known) {id : String} (hid : ∀ t ∈ s.traders, t.primary.id ≠ id) :
    (s.release id).1.Sound known := by
  have hst := h.staffed
  unfold release
  cases hq : s.queues.find? id with
  | none => exact h
  | some inbox =>
    -- the queue fed the trader of that position only, which has left
    have hne : ∀ w ∈ s.workers, w.trader.inbox ≠ inbox := by
      rintro w hw rfl
      have ht : w.trader ∈ s.traders := List.mem_map_of_mem hw
      exact hid _ ht (hst.distinct _ _ _ (hst.queue _ ht) hq)
    have hworkers :
        s.workers.map (fun w => if w.trader.inbox = inbox then { w with fed := false } else w) = s.workers := by
      refine (List.map_congr_left fun w hw => ?_).trans (List.map_id _)
      rw [if_neg (hne w hw)]; rfl
    dsimp only
    rw [hworkers]
    split
    · exact (h.closed hid).push _
    · exact h.closed hid

theorem Sound.relayed (h : s.Sound known) (inbox : Nat) : (s.relay inbox).Sound known := by
  unfold relay
  split
  · rename_i hr
    split
    · rename_i bus e ht
      obtain ⟨rfl, hq⟩ := Bus.queued_of_take ht
      have hne : ∀ t ∈ s.traders, t.inbox ≠ inbox := (h.staffed.relays inbox hr).2
      have hquiet := Bus.quiet_take s.floor.bus inbox
      have hbus := h.rebus hquiet.toKeeps (fun t ht => hquiet.silent _ (hne t ht))
        fun t ht => hquiet.listed _ (hne t ht)
      cases e with
      | orderStatus o => exact hbus
      | placed o => exact hbus.push _
      | assistFailed primary reason => exact hbus.push _
      | assistDone id =>
        refine hbus.released fun t ht => ?_
        exact (h.staffed.ended inbox id (hq ▸ List.mem_cons_self ..)).2 t ht
    · exact h
  · exact h

/-! ## Promotion -/

theorem startAssist_eq {target : AssistTarget} (hq : s.queues.find? target.order.id = none) :
    ∃ out, s.startAssist target =
      { s with
        floor := { s.floor with bus := s.floor.bus.subscribe.1 }
        queues := s.queues.insert target.order.id s.floor.bus.nextId
        workers := s.workers ++ [{ trader := { target, inbox := s.floor.bus.nextId } }]
        out } := by
  have hmap : s.workers.map (fun w =>
      if some w.trader.inbox = s.queues.find? target.order.id then { w with fed := false } else w) = s.workers := by
    refine (List.map_congr_left fun w _ => ?_).trans (List.map_id _)
    rw [hq, if_neg (by simp)]; rfl
  unfold startAssist Trader.start
  dsimp only
  rw [hmap]
  split
  · exact ⟨_, rfl⟩
  · exact ⟨_, rfl⟩

theorem atWork_start {target : AssistTarget} (h : s.Staffed) (hs : s.Startable target)
    (known : String → Option Status) :
    Trader.AtWork { target, inbox := s.floor.bus.nextId } { s.floor with bus := s.floor.bus.subscribe.1 } known := by
  refine ⟨⟨?_, fun _ => ?_, hs.quantity⟩, by simp, fun id hid => by cases hid⟩
  · change Trader.Sound _ (s.floor.bus.subscribe.1.queued s.floor.bus.nextId) known
    rw [Bus.queued_subscribe h.tidy, Bus.queued_nextId h.tidy]
    exact Trader.sound_start ..
  · change s.floor.bus.subscribe.1.isListed s.floor.bus.nextId
    rw [Bus.isListed_subscribe h.tidy]
    simp

theorem mem_traders_startAssist {target : AssistTarget} (hq : s.queues.find? target.order.id = none) (t : Trader) :
    t ∈ (s.startAssist target).traders ↔ t ∈ s.traders ∨ t = { target, inbox := s.floor.bus.nextId } := by
  obtain ⟨out, he⟩ := startAssist_eq hq
  rw [he]
  unfold traders
  rw [List.map_append, List.mem_append]
  simp

theorem Staffed.startAssist (h : s.Staffed) {target : AssistTarget} (hs : s.Startable target)
    (hp : s.pending.find? target.order.id = none) : (s.startAssist target).Staffed := by
  have hmem := mem_traders_startAssist hs.closed
  obtain ⟨out, he⟩ := startAssist_eq hs.closed
  rw [he] at hmem ⊢
  have hnew : ∀ t ∈ s.traders, t.primary.id ≠ target.order.id := by
    intro t ht hid
    have := h.queue t ht
    rw [hid, hs.closed] at this; cases this
  have hkeeps := Bus.keeps_subscribe h.tidy
  refine ⟨h.tidy.subscribe, fun w hw => ?_, fun t ht => ?_, ?_, fun r hr => ?_, fun id i hi => ?_,
    fun id id' i hi hi' => ?_, fun id target' ht => ?_, fun i id hm => ?_⟩
  · rcases List.mem_append.mp hw with hw | hw
    · exact h.fed w hw
    · rw [List.mem_singleton] at hw
      rw [hw]
  · dsimp only
    rw [Table.find?_insert]
    rcases (hmem t).mp ht with ht | rfl
    · rw [if_neg (hnew t ht)]
      exact h.queue t ht
    · exact if_pos rfl
  · change (((s.workers ++ [_]).map Worker.trader).map Trader.inbox).Nodup
    rw [List.map_append, List.map_append, List.nodup_append]
    refine ⟨h.inboxes, by simp, fun i hi j hj => ?_⟩
    obtain ⟨t, ht, rfl⟩ := List.mem_map.mp hi
    have hlt := h.inbox_lt ht
    simp only [List.map_cons, List.map_nil, List.mem_singleton] at hj
    omega
  · obtain ⟨hlt, hne⟩ := h.relays r hr
    refine ⟨Nat.lt_succ_of_lt hlt, fun t ht => ?_⟩
    rcases (hmem t).mp ht with ht | rfl
    · exact hne t ht
    · exact Nat.ne_of_gt hlt
  · dsimp only at hi
    rw [Table.find?_insert] at hi
    split at hi
    · rename_i hid
      cases hi
      exact ⟨hid ▸ hs.given, Nat.lt_succ_self _⟩
    · exact (h.queues id i hi).imp_right Nat.lt_succ_of_lt
  · dsimp only at hi hi'
    rw [Table.find?_insert] at hi hi'
    -- the queue of the new trader has a number that no other has
    have hlt : ∀ id, s.queues.find? id ≠ some s.floor.bus.nextId := fun id hid =>
      absurd (h.queues id _ hid).2 (Nat.lt_irrefl _)
    split at hi
    · rename_i hid
      cases hi
      split at hi'
      · rename_i hid'
        rw [hid, hid']
      · exact absurd hi' (hlt id')
    · split at hi'
      · cases hi'
        exact absurd hi (hlt id)
      · exact h.distinct id id' i hi hi'
  · obtain ⟨hkey, hstart⟩ := h.pending id target' ht
    have hid : target'.order.id ≠ target.order.id := by
      intro hid
      rw [← hid, hkey] at hp
      dsimp only at ht
      rw [hp] at ht; cases ht
    refine ⟨hkey, hstart.quantity, hstart.given, ?_, fun i hm => ?_⟩
    · dsimp only
      rw [Table.find?_insert, if_neg hid]
      exact hstart.closed
    · exact (hkeeps.ended i _ hm).elim (hstart.unended i) fun hn => by cases hn
  · have hm' := (hkeeps.ended i id hm).resolve_right (by simp)
    obtain ⟨hgiven, hids⟩ := h.ended i id hm'
    refine ⟨hgiven, fun t ht => ?_⟩
    rcases (hmem t).mp ht with ht | rfl
    · exact hids t ht
    · rintro rfl
      exact hs.unended i hm'

theorem Sound.startAssist (h : s.Sound known) {target : AssistTarget} (hs : s.Startable target)
    (hp : s.pending.find? target.order.id = none) : (s.startAssist target).Sound known := by
  have hst := h.staffed.startAssist hs hp
  have hmem := mem_traders_startAssist hs.closed
  obtain ⟨out, he⟩ := startAssist_eq hs.closed
  rw [he] at hst hmem ⊢
  refine ⟨h.views, h.named, hst, fun t ht => ?_, fun id hid => ?_⟩
  · rcases (hmem t).mp ht with ht | rfl
    · exact h.subscribed.atWork t ht
    · exact atWork_start h.staffed hs known
  · refine (h.held id hid).imp_right (Or.imp_right ?_)
    rintro ⟨t, ht, hleg⟩
    exact ⟨t, (hmem t).mpr (Or.inl ht), hleg⟩

theorem Startable.startAssist (h : s.Staffed) {target other : AssistTarget} (hs : s.Startable target)
    (ho : s.Startable other) (hne : other.order.id ≠ target.order.id) : (s.startAssist target).Startable other := by
  obtain ⟨out, he⟩ := startAssist_eq hs.closed
  rw [he]
  refine ⟨ho.quantity, ho.given, ?_, fun i hm => ?_⟩
  · change (s.queues.insert _ _).find? _ = none
    rw [Table.find?_insert, if_neg hne]
    exact ho.closed
  · change _ ∈ s.floor.bus.subscribe.1.queued i at hm
    rw [Bus.queued_subscribe h.tidy] at hm
    exact ho.unended i hm

theorem pending_startAssist (s : Session) (target : AssistTarget) : (s.startAssist target).pending = s.pending := by
  unfold Session.startAssist
  dsimp only
  split <;> rfl

theorem Sound.startAll (h : s.Sound known) {targets : List AssistTarget}
    (hs : ∀ t ∈ targets, s.Startable t ∧ s.pending.find? t.order.id = none) (hn : (targets.map (·.order.id)).Nodup) :
    (targets.foldl Session.startAssist s).Sound known := by
  induction targets generalizing s with
  | nil => exact h
  | cons target targets ih =>
    obtain ⟨hstart, hp⟩ := hs target (List.mem_cons_self ..)
    rw [List.map_cons, List.nodup_cons] at hn
    refine ih (h.startAssist hstart hp) (fun t ht => ?_) hn.2
    obtain ⟨hstart', hp'⟩ := hs t (List.mem_cons_of_mem _ ht)
    refine ⟨hstart.startAssist h.staffed hstart' fun he => hn.1 ?_, by rw [pending_startAssist]; exact hp'⟩
    exact he ▸ List.mem_map_of_mem ht

theorem pending_of_ready (hk : ∀ id target, s.pending.find? id = some target → target.order.id = id)
    {target : AssistTarget} (ht : target ∈ s.ready) :
    s.pending.find? target.order.id = some target ∧ target.order.status = .filled := by
  obtain ⟨hv, hfill⟩ := List.mem_filter.mp ht
  obtain ⟨e, he, rfl⟩ := List.mem_map.mp hv
  have hfind := Table.mem_entries_iff.mp he
  exact ⟨hk e.1 e.2 hfind ▸ hfind, of_decide_eq_true hfill⟩

theorem nodup_ready (hk : ∀ id target, s.pending.find? id = some target → target.order.id = id) :
    (s.ready.map (·.order.id)).Nodup := by
  have hids : s.pending.values.map (·.order.id) = s.pending.ids := by
    unfold Table.values Table.ids
    rw [List.map_map]
    exact List.map_congr_left fun e he => hk e.1 e.2 (Table.mem_entries_iff.mp he)
  have hsub : List.Sublist (s.ready.map (·.order.id)) s.pending.ids := hids ▸ List.filter_sublist.map _
  exact hsub.nodup s.pending.nodup

theorem Sound.promote (h : s.Sound known) : s.promote.Sound known := by
  have hst := h.staffed
  have hfiltered :
      ({ s with pending := s.pending.filter fun _ t => t.order.status.isCancellable } : Session).Sound known := by
    refine ⟨h.views, h.named, ?_, h.atWork, fun id hid => ?_⟩
    · refine hst.frame (Bus.keeps_refl _) (fun _ hid => hid) rfl hst.fed rfl rfl
        fun id target ht => ⟨target, ?_, rfl, rfl⟩
      exact (Option.filter_eq_some_iff.mp ((Table.find?_filter ..).symm.trans ht)).1
    · refine (h.held id hid).imp_right (Or.imp_left ?_)
      rintro ⟨target, ht, hc⟩
      exact ⟨target, (Table.find?_filter ..).trans (Option.filter_eq_some_iff.mpr ⟨ht, hc⟩), hc⟩
  have hkey : ∀ id target, s.pending.find? id = some target → target.order.id = id := fun id target ht =>
    (hst.pending id target ht).1
  refine hfiltered.startAll (fun target ht => ?_) (nodup_ready hkey)
  obtain ⟨hfind, hfill⟩ := pending_of_ready hkey ht
  obtain ⟨-, hstart⟩ := hst.pending _ _ hfind
  refine ⟨⟨hstart.quantity, hstart.given, hstart.closed, hstart.unended⟩, ?_⟩
  refine (Table.find?_filter ..).trans ?_
  rw [hfind]
  simp [hfill, Status.isCancellable]

end

end Session

end FuturesDesk
