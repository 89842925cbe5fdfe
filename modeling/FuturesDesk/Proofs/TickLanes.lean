import FuturesDesk.Proofs.AssistSignals

/-!
# Tick queues

What each step does to the tick queues of the traders at work, seen one queue
at a time: a tick offered gets into those that are open and have room, a trader
takes the first tick of its own, and nothing else touches what waits in them.
-/

namespace FuturesDesk

def Frame.tick? : Frame → Option Tick
  | .message (.tick t) => some t
  | _ => none

namespace Table

variable {α : Type} {id : String} {a x : α} {es : List (String × α)}

theorem mem_values_put (h : x ∈ (put id a es).map (·.2)) : x = a ∨ x ∈ es.map (·.2) := by
  induction es with
  | nil => exact Or.inl (by simpa [put] using h)
  | cons e es ih =>
    simp only [put] at h
    split at h
    · simp only [List.map_cons, List.mem_cons] at h ⊢
      exact h.imp_right Or.inr
    · simp only [List.map_cons, List.mem_cons] at h ⊢
      rcases h with rfl | h
      · exact Or.inr (Or.inl rfl)
      · exact (ih h).imp_right Or.inr

theorem nodup_values_put (hn : (es.map (·.2)).Nodup) (ha : a ∉ es.map (·.2)) : ((put id a es).map (·.2)).Nodup := by
  induction es with
  | nil => simp [put]
  | cons e es ih =>
    simp only [List.map_cons, List.nodup_cons, List.mem_cons, not_or] at hn ha
    simp only [put]
    split
    · simp only [List.map_cons, List.nodup_cons]
      exact ⟨ha.2, hn.2⟩
    · simp only [List.map_cons, List.nodup_cons]
      refine ⟨fun h => ?_, ih hn.2 ha.2⟩
      rcases mem_values_put h with h | h
      · exact ha.1 h.symm
      · exact hn.1 h

end Table

namespace Session

def told (s : Session) : List Tick := s.out.filterMap Frame.tick?

/-- The ticks waiting in the queue of a trader at work. -/
def lane (s : Session) (i : Nat) : Option (List Tick) := (s.worker? i).map (·.ticks)

/-- A queue listens while it is open and its trader at work. -/
def listens (s : Session) (i : Nat) : Bool := decide (i ∈ s.queues.values) && (s.lane i).isSome

/-- Every queue has a mailbox of its own for its name, and so has every trader. -/
structure Manned (s : Session) : Prop where
  inboxes : (s.traders.map (·.inbox)).Nodup
  given : ∀ t ∈ s.traders, t.inbox < s.floor.bus.nextId
  queues : s.queues.values.Nodup
  opened : ∀ i ∈ s.queues.values, i < s.floor.bus.nextId

/-- A change by which the client is told of no tick and no queue gets one. A
queue may lose its trader, and new queues are empty. -/
structure Tickless (s s' : Session) : Prop where
  told : s'.told = s.told
  nextId : s.floor.bus.nextId ≤ s'.floor.bus.nextId
  manned : s.Manned → s'.Manned
  lane : s.Manned → ∀ i, s'.lane i = s.lane i ∨ s'.lane i = none ∨ s.floor.bus.nextId ≤ i ∧ s'.lane i = some []

section
variable {s s' s'' : Session} {i : Nat}

/-! ## Names of queues -/

theorem Manned.frame (h : s.Manned) (hb : s.floor.bus.nextId ≤ s'.floor.bus.nextId)
    (ht : List.Sublist (s'.traders.map (·.inbox)) (s.traders.map (·.inbox)))
    (hq : List.Sublist s'.queues.values s.queues.values) : s'.Manned where
  inboxes := ht.nodup h.inboxes
  given t hmem := by
    obtain ⟨u, hu, hi⟩ := List.mem_map.mp (ht.subset (List.mem_map_of_mem hmem))
    have hlt := h.given u hu
    omega
  queues := hq.nodup h.queues
  opened i hi := Nat.lt_of_lt_of_le (h.opened i (hq.subset hi)) hb

theorem lane_of_le (h : s.Manned) (hi : s.floor.bus.nextId ≤ i) : s.lane i = none := by
  unfold lane worker?
  rw [Option.map_eq_none_iff, List.find?_eq_none]
  intro w hw
  have hlt := h.given w.trader (List.mem_map_of_mem hw)
  simp only [beq_iff_eq]
  omega

theorem lane_map {g : Worker → Worker} (hg : ∀ w, (g w).trader.inbox = w.trader.inbox) {new : List Worker}
    (hw : s'.workers = s.workers.map g ++ new) (i : Nat) :
    s'.lane i = ((s.worker? i).map fun w => (g w).ticks).or
      ((new.find? (·.trader.inbox == i)).map (·.ticks)) := by
  have hsame : (fun w : Worker => w.trader.inbox == i) ∘ g = fun w => w.trader.inbox == i := by
    funext w
    simp [hg]
  unfold lane worker?
  rw [hw, List.find?_append, List.find?_map, hsame, Option.map_or, Option.map_map]
  rfl

theorem inbox_of_worker? {w : Worker} (h : s.worker? i = some w) : w.trader.inbox = i := by
  simpa using List.find?_some h

/-! ## Steps without ticks -/

theorem told_append (s : Session) {fs : List Frame} (h : ∀ f ∈ fs, f.tick? = none) :
    ({ s with out := s.out ++ fs } : Session).told = s.told := by
  have hfs : fs.filterMap Frame.tick? = [] := List.filterMap_eq_nil_iff.mpr h
  simp [told, hfs]

theorem Tickless.of_same (ht : s'.told = s.told) (hb : s.floor.bus.nextId ≤ s'.floor.bus.nextId)
    (hw : s'.workers = s.workers) (hq : s'.queues = s.queues) : Tickless s s' where
  told := ht
  nextId := hb
  manned h := h.frame hb (by rw [traders, traders, hw]) (by rw [hq])
  lane _ i := by
    left
    unfold Session.lane worker?
    rw [hw]

theorem Tickless.refl (s : Session) : Tickless s s := .of_same rfl (Nat.le_refl _) rfl rfl

theorem Tickless.trans (h : Tickless s s') (h' : Tickless s' s'') : Tickless s s'' where
  told := h'.told.trans h.told
  nextId := Nat.le_trans h.nextId h'.nextId
  manned hm := h'.manned (h.manned hm)
  lane hm i := by
    rcases h'.lane (h.manned hm) i with he | he | ⟨hle, he⟩
    · rw [he]
      exact h.lane hm i
    · exact Or.inr (Or.inl he)
    · exact Or.inr (Or.inr ⟨Nat.le_trans h.nextId hle, he⟩)

theorem tickless_push {f : Frame} (hf : f.tick? = none) (s : Session) : Tickless s (s.push f) :=
  .of_same (s.told_append (by simpa using hf)) (Nat.le_refl _) rfl rfl

theorem tickless_placeUnits (s : Session) (now : UInt64) (c : Command) (tickets : List Ticket) :
    Tickless s (s.placeUnits now c tickets).1 := by
  induction tickets generalizing s with
  | nil => exact .refl s
  | cons ticket tickets ih =>
    refine Tickless.trans ?_ (ih (s.placeUnit now c ticket).1)
    rcases placeUnit_cases s now c ticket with ⟨-, text, he⟩ | ⟨reply, -, he⟩
    · rw [he]
      exact .of_same (s.told_append (by simp [Frame.tick?])) (Nat.le_refl _) rfl rfl
    · rw [he]
      exact .of_same (s.told_append (by simp [Frame.tick?])) (Nat.le_refl _) rfl rfl

theorem tickless_text (s : Session) (now : UInt64) (t : String) (ticket : Nat → Ticket) :
    Tickless s (s.text now t ticket) := by
  unfold text
  split
  · exact tickless_push rfl s
  · cases Command.ofText t with
    | error flaw => exact tickless_push rfl s
    | ok c =>
      dsimp only
      unfold command
      split
      · exact tickless_push rfl s
      · exact tickless_placeUnits ..

theorem tickless_status (s : Session) (now : UInt64) (u : StatusUpdate) : Tickless s (s.status now u) := by
  have hbus : (s.status now u).floor.bus.nextId = s.floor.bus.nextId := by
    rw [floor_status]
    unfold Floor.status
    split <;> rfl
  rcases status_cases s now u with ⟨-, he⟩ | ⟨o, -, he⟩
  · rw [he]
    exact .of_same rfl (Nat.le_refl _) rfl rfl
  · rw [he] at hbus ⊢
    exact .of_same (s.told_append (by simp [Frame.tick?])) (Nat.le_of_eq hbus.symm) rfl rfl

theorem tickless_supervise (s : Session) (now : UInt64) (answer : String → Answer) :
    Tickless s (s.supervise now answer) := by
  rw [supervise_eq]
  refine .of_same (told_append (s.setRegistry _) ?_) (Nat.le_refl _) rfl rfl
  intro f hf
  obtain ⟨text, rfl⟩ := error_of_mem_frames hf
  rfl

theorem lane_unfed (s : Session) (p : Worker → Prop) [DecidablePred p] {new : List Worker}
    (hw : s'.workers = (s.workers.map fun w => if p w then { w with fed := false } else w) ++ new) (i : Nat) :
    s'.lane i = (s.lane i).or ((new.find? (·.trader.inbox == i)).map (·.ticks)) := by
  rw [lane_map (fun w => by split <;> rfl) hw]
  unfold Session.lane
  congr 2
  funext w
  split <;> rfl

theorem tickless_unfed {p : Worker → Prop} [DecidablePred p] (ht : s'.told = s.told)
    (hb : s'.floor = s.floor) (hw : s'.workers = s.workers.map fun w => if p w then { w with fed := false } else w)
    (hq : List.Sublist s'.queues.values s.queues.values) : Tickless s s' where
  told := ht
  nextId := Nat.le_of_eq (by rw [hb])
  manned h := h.frame (Nat.le_of_eq (by rw [hb])) (by rw [traders, hw, map_trader_unfed]) hq
  lane _ i := by
    left
    rw [lane_unfed s p (hw.trans (List.append_nil _).symm)]
    simp

theorem tickless_release (s : Session) (primary : String) : Tickless s (s.release primary).1 := by
  unfold release
  cases s.queues.find? primary with
  | none => exact .refl s
  | some inbox =>
    dsimp only
    have hsub : List.Sublist (s.queues.erase primary).values s.queues.values := List.filter_sublist.map _
    split
    · exact tickless_unfed (p := fun w => w.trader.inbox = inbox) (s.told_append (by simp [Frame.tick?])) rfl rfl hsub
    · exact tickless_unfed (p := fun w => w.trader.inbox = inbox) rfl rfl rfl hsub

theorem tickless_relay (s : Session) (inbox : Nat) : Tickless s (s.relay inbox) := by
  rcases relay_cases s inbox with ⟨he, -⟩ | ⟨bus, e, -, htake, he⟩
  · rw [he]
    exact .refl s
  · obtain ⟨rfl, -⟩ := Bus.queued_of_take htake
    rw [he]
    have htaken : Tickless s { s with floor := { s.floor with bus := (s.floor.bus.take inbox).1 } } :=
      .of_same rfl (Nat.le_refl _) rfl rfl
    refine htaken.trans ?_
    cases e with
    | orderStatus o => exact .refl _
    | placed o => exact tickless_push rfl _
    | assistFailed primary reason => exact tickless_push rfl _
    | assistDone primary => exact tickless_release _ primary

/-! ## New queues -/

theorem tickless_startAssist (s : Session) (target : AssistTarget) : Tickless s (s.startAssist target) := by
  have hworkers : (s.startAssist target).workers = (s.workers.map fun w =>
      if some w.trader.inbox = s.queues.find? target.order.id then { w with fed := false } else w) ++
        [{ trader := { target, inbox := s.floor.bus.nextId } }] := by
    unfold startAssist
    dsimp only
    split <;> rfl
  have hqueues : (s.startAssist target).queues = s.queues.insert target.order.id s.floor.bus.nextId := by
    unfold startAssist
    dsimp only
    split <;> rfl
  obtain ⟨queues, workers, out, he, htraders, hout⟩ := s.startAssist_parts target
  have hnext : (s.startAssist target).floor.bus.nextId = s.floor.bus.nextId + 1 := by rw [he]; rfl
  have htold : (s.startAssist target).told = s.told := by
    rw [he]
    apply told_append { s with floor := { s.floor with bus := s.floor.bus.subscribe.1 }, queues, workers }
    intro f hf
    rw [hout f hf]
    rfl
  have hjoined : (s.startAssist target).traders = s.traders ++ [{ target, inbox := s.floor.bus.nextId }] := by
    rw [he]
    exact htraders
  refine ⟨htold, by omega, fun h => ⟨?_, ?_, ?_, ?_⟩, fun h i => ?_⟩
  · rw [hjoined, List.map_append, List.nodup_append]
    refine ⟨h.inboxes, by simp, ?_⟩
    intro j hj k hk
    obtain ⟨t, ht, rfl⟩ := List.mem_map.mp hj
    have hlt := h.given t ht
    simp only [List.map_cons, List.map_nil, List.mem_singleton] at hk
    omega
  · intro t ht
    rw [hjoined, List.mem_append, List.mem_singleton] at ht
    rcases ht with ht | rfl
    · have hlt := h.given t ht
      omega
    · dsimp only
      omega
  · rw [hqueues]
    exact Table.nodup_values_put h.queues fun hmem => Nat.lt_irrefl _ (h.opened _ hmem)
  · intro j hj
    rw [hqueues] at hj
    rcases Table.mem_values_put hj with rfl | hj
    · omega
    · have hlt := h.opened j hj
      omega
  · rw [lane_unfed s _ hworkers]
    by_cases hi : i = s.floor.bus.nextId
    · right
      right
      rw [lane_of_le h (Nat.le_of_eq hi.symm)]
      simp [hi]
    · left
      have hne : s.floor.bus.nextId ≠ i := Ne.symm hi
      simp [hne]

theorem tickless_promote (s : Session) : Tickless s s.promote := by
  have hall : ∀ (targets : List AssistTarget) (s : Session), Tickless s (targets.foldl startAssist s) := by
    intro targets
    induction targets with
    | nil => exact .refl
    | cons target targets ih => exact fun s => (tickless_startAssist s target).trans (ih _)
  have hforget : Tickless s { s with pending := s.pending.filter fun _ t => t.order.status.isCancellable } :=
    .of_same rfl (Nat.le_refl _) rfl rfl
  exact hforget.trans (hall ..)

/-! ## Ticks offered -/

theorem lane_offer (s : Session) (t : Tick) (i : Nat) :
    (s.offer t).lane i = (s.lane i).map fun held =>
      if s.listens i && held.length < queueCapacity then held ++ [t] else held := by
  have hw : (s.offer t).workers = (s.workers.map fun w =>
      if s.queues.values.any (takes · w) then { w with ticks := w.ticks ++ [t] } else w) ++ [] :=
    (List.append_nil _).symm
  rw [lane_map (fun w => by split <;> rfl) hw, List.find?_nil, Option.map_none, Option.or_none]
  unfold lane listens Session.lane
  cases hfind : s.worker? i with
  | none => rfl
  | some w =>
    have htakes : s.queues.values.any (takes · w) =
        (decide (i ∈ s.queues.values) && decide (w.ticks.length < queueCapacity)) := by
      have hi := inbox_of_worker? hfind
      rw [Bool.eq_iff_iff]
      simp [takes, hi]
    simp only [Option.map_some, Option.isSome_some, Bool.and_true, htakes]
    split <;> rfl

/-! ## Traders that move -/

theorem lane_retire (s : Session) (j i : Nat) : (s.retire j).lane i = if i = j then none else s.lane i := by
  unfold lane worker? retire
  rw [List.find?_filter]
  by_cases hi : i = j
  · subst hi
    simp
  · rw [if_neg hi]
    congr 2
    funext w
    by_cases hw : w.trader.inbox = i
    · simp [hw, hi]
    · simp [hw]

theorem lane_setWorker {w w' : Worker} {j : Nat} (hw : s.worker? j = some w) (hi : w'.trader.inbox = j) (i : Nat) :
    (s.setWorker w').lane i = if i = j then some w'.ticks else s.lane i := by
  have hset : (s.setWorker w').workers =
      (s.workers.map fun v => if v.trader.inbox = w'.trader.inbox then w' else v) ++ [] := (List.append_nil _).symm
  have hkeep : ∀ v : Worker, (if v.trader.inbox = w'.trader.inbox then w' else v).trader.inbox = v.trader.inbox := by
    intro v
    split
    · rename_i h
      exact h.symm
    · rfl
  rw [lane_map hkeep hset, List.find?_nil, Option.map_none, Option.or_none]
  by_cases hij : i = j
  · subst hij
    rw [hw, if_pos rfl, Option.map_some, inbox_of_worker? hw, if_pos hi.symm]
  · rw [if_neg hij]
    unfold lane
    cases hfind : s.worker? i with
    | none => rfl
    | some v =>
      have hv : v.trader.inbox ≠ w'.trader.inbox := by
        rw [inbox_of_worker? hfind, hi]
        exact hij
      rw [Option.map_some, Option.map_some, if_neg hv]

theorem manned_retire (h : s.Manned) (j : Nat) : (s.retire j).Manned :=
  h.frame (Nat.le_refl _) ((List.filter_sublist.map _).map _) (List.Sublist.refl _)

theorem lane_settleWorker {w w' : Worker} {j : Nat} (hw : s.worker? j = some w) (hi : w'.trader.inbox = j) (f : Floor)
    (i : Nat) :
    (s.settleWorker w' f).lane i = (if i = j then some w'.ticks else s.lane i) ∨
      (s.settleWorker w' f).lane i = none := by
  unfold settleWorker
  dsimp only
  split
  · rw [lane_retire, hi]
    by_cases hij : i = j
    · rw [if_pos hij]
      exact Or.inr rfl
    · rw [if_neg hij, if_neg hij]
      exact Or.inl rfl
  · exact Or.inl (lane_setWorker (s := { s with floor := f }) hw hi i)

theorem keeps_settleWorker (w : Worker) {f : Floor} (hb : s.floor.bus.nextId ≤ f.bus.nextId) :
    (s.settleWorker w f).told = s.told ∧ s.floor.bus.nextId ≤ (s.settleWorker w f).floor.bus.nextId ∧
      (s.Manned → (s.settleWorker w f).Manned) := by
  have hfloor : s.Manned → ({ s with floor := f } : Session).Manned := fun h =>
    h.frame hb (List.Sublist.refl _) (List.Sublist.refl _)
  unfold settleWorker
  dsimp only
  split
  · exact ⟨rfl, hb, fun h => manned_retire (hfloor h) _⟩
  · refine ⟨rfl, hb, fun h => (hfloor h).frame (Nat.le_refl _) ?_ (List.Sublist.refl _)⟩
    rw [inboxes_setWorker]

theorem tickless_traderEvent (s : Session) (j : Nat) : Tickless s (s.traderEvent j) := by
  unfold traderEvent
  cases hw : s.worker? j with
  | none => exact .refl s
  | some w =>
    dsimp only
    have hi := inbox_of_worker? hw
    subst hi
    cases htake : s.floor.bus.take w.trader.inbox with
    | mk bus receipt =>
      cases receipt with
      | ended | waits => exact .refl s
      | event e =>
        dsimp only
        have hmove := Trader.move_onEvent (f := s.floor) htake
        generalize w.trader.onEvent { s.floor with bus } e = moved at hmove ⊢
        obtain ⟨htold, hnext, hmanned⟩ :=
          keeps_settleWorker (s := s) { w with trader := moved.1 } hmove.quiet.nextId
        refine ⟨htold, hnext, hmanned, fun _ i => ?_⟩
        have hlane := lane_settleWorker hw
          (show ({ w with trader := moved.1 } : Worker).trader.inbox = _ from hmove.inbox) moved.2 i
        rcases hlane with he | he
        · left
          rw [he]
          split
          · rename_i hij
            rw [hij, lane, hw]
            rfl
          · rfl
        · exact Or.inr (Or.inl he)

theorem keeps_traderTick (s : Session) (j : Nat) (now : UInt64) (answer : Answer) :
    (s.traderTick j now answer).told = s.told ∧ s.floor.bus.nextId ≤ (s.traderTick j now answer).floor.bus.nextId ∧
      (s.Manned → (s.traderTick j now answer).Manned) := by
  rcases traderTick_moves s j now answer with he | ⟨w, -, -, he⟩ | ⟨w, t, ticks, -, -, he⟩
  · rw [he]
    exact ⟨rfl, Nat.le_refl _, id⟩
  · rw [he]
    exact ⟨rfl, Nat.le_refl _, fun h => manned_retire h j⟩
  · rw [he]
    exact keeps_settleWorker _ (Trader.move_onTick w.trader s.floor now t answer).quiet.nextId

/-- A trader that looks for a tick takes the first one of its queue, if there is
one. -/
theorem lane_traderTick (s : Session) (j : Nat) (now : UInt64) (answer : Answer) (i : Nat) :
    (s.traderTick j now answer).lane i = (if i = j then (s.lane i).map List.tail else s.lane i) ∨
      (s.traderTick j now answer).lane i = none := by
  have hsame : (s.lane j).map List.tail = s.lane j →
      s.lane i = if i = j then (s.lane i).map List.tail else s.lane i := by
    intro h
    by_cases hij : i = j
    · rw [if_pos hij, hij, h]
    · rw [if_neg hij]
  unfold traderTick
  cases hw : s.worker? j with
  | none =>
    have hlane : s.lane j = none := by rw [lane, hw]; rfl
    exact Or.inl (hsame (by rw [hlane]; rfl))
  | some w =>
    have hlane : s.lane j = some w.ticks := by rw [lane, hw]; rfl
    dsimp only
    cases hticks : w.ticks with
    | nil =>
      rw [hticks] at hlane
      have hstays := hsame (by rw [hlane]; rfl)
      dsimp only
      split
      · exact Or.inl hstays
      · rw [lane_retire]
        by_cases hij : i = j
        · rw [if_pos hij]
          exact Or.inr rfl
        · rw [if_neg hij]
          exact Or.inl hstays
    | cons t ticks =>
      have hi : (w.trader.onTick s.floor now t answer).1.inbox = j :=
        (Trader.move_onTick w.trader s.floor now t answer).inbox.trans (inbox_of_worker? hw)
      dsimp only
      generalize w.trader.onTick s.floor now t answer = moved at hi ⊢
      have hmoved := lane_settleWorker hw (show ({ w with trader := moved.1, ticks } : Worker).trader.inbox = j from hi)
        moved.2.1 i
      refine hmoved.imp_left fun he => he.trans ?_
      by_cases hij : i = j
      · rw [if_pos hij, if_pos hij, hij, hlane, hticks]
        rfl
      · rw [if_neg hij, if_neg hij]

end

end Session

end FuturesDesk
