import FuturesDesk.Proofs.TraderMoves

/-!
# What others notice of a trader

A move of a trader adds at most one order to the registry. The other mailboxes
get no news of any order by it, and hear of the end of a position only once the
trader is done.
-/

namespace FuturesDesk

namespace Bus

/-- A change of the bus by which the ends of no positions get into the
mailboxes but of those in `done`. -/
structure Keeps (done : List String) (b b' : Bus DeskEvent) : Prop where
  nextId : b.nextId ≤ b'.nextId
  tidy : b.Tidy → b'.Tidy
  ended : ∀ j id, DeskEvent.assistDone id ∈ b'.queued j → DeskEvent.assistDone id ∈ b.queued j ∨ id ∈ done

/-- What the others notice of the dealings of one subscriber with the bus. -/
structure Quiet (inbox : Nat) (done : List String) (b b' : Bus DeskEvent) : Prop extends Keeps done b b' where
  silent : ∀ j, j ≠ inbox → ∀ id, news id (b'.queued j) = news id (b.queued j)
  listed : ∀ j, j ≠ inbox → b'.isListed j = b.isListed j

section
variable {b b' b'' : Bus DeskEvent} {inbox : Nat} {done done' : List String}

theorem keeps_refl (b : Bus DeskEvent) : Keeps [] b b := ⟨Nat.le_refl _, fun h => h, fun _ _ h => Or.inl h⟩

theorem quiet_refl (b : Bus DeskEvent) (inbox : Nat) : Quiet inbox [] b b :=
  ⟨keeps_refl b, fun _ _ _ => rfl, fun _ _ => rfl⟩

theorem Keeps.trans (h : Keeps done b b') (h' : Keeps done' b' b'') : Keeps (done ++ done') b b'' where
  nextId := Nat.le_trans h.nextId h'.nextId
  tidy ht := h'.tidy (h.tidy ht)
  ended j id hm := by
    rcases h'.ended j id hm with hm | hm
    · exact (h.ended j id hm).imp_right (List.mem_append_left _)
    · exact Or.inr (List.mem_append_right _ hm)

theorem Quiet.trans (h : Quiet inbox done b b') (h' : Quiet inbox done' b' b'') :
    Quiet inbox (done ++ done') b b'' where
  toKeeps := h.toKeeps.trans h'.toKeeps
  silent j hj id := (h'.silent j hj id).trans (h.silent j hj id)
  listed j hj := (h'.listed j hj).trans (h.listed j hj)

theorem Quiet.mono (h : Quiet inbox done b b') (hd : ∀ id ∈ done, id ∈ done') : Quiet inbox done' b b' where
  nextId := h.nextId
  tidy := h.tidy
  ended j id hm := (h.ended j id hm).imp_right (hd id)
  silent := h.silent
  listed := h.listed

theorem keeps_publish (b : Bus DeskEvent) {e : DeskEvent} (he : ∀ id, e = .assistDone id → id ∈ done) :
    Keeps done b (b.publish e) where
  nextId := Nat.le_refl _
  tidy h := h.publish e
  ended j id hm := by
    rw [queued_publish] at hm
    split at hm
    · rcases List.mem_append.mp hm with hm | hm
      · exact Or.inl hm
      · exact Or.inr (he id (List.mem_singleton.mp hm).symm)
    · exact Or.inl hm

theorem keeps_subscribe {b : Bus DeskEvent} (h : b.Tidy) : Keeps [] b b.subscribe.1 where
  nextId := Nat.le_succ _
  tidy h := h.subscribe
  ended j id hm := by
    rw [queued_subscribe h] at hm
    exact Or.inl hm

theorem quiet_publish (b : Bus DeskEvent) (inbox : Nat) {e : DeskEvent} (hn : ∀ id, e.news? id = none)
    (he : ∀ id, e = .assistDone id → id ∈ done) : Quiet inbox done b (b.publish e) where
  toKeeps := keeps_publish b he
  silent j _ id := by
    rw [queued_publish]
    split
    · simp [news, hn id]
    · rfl
  listed j _ := isListed_publish ..

theorem quiet_take (b : Bus DeskEvent) (inbox : Nat) : Quiet inbox [] b (b.take inbox).1 where
  nextId := Nat.le_refl _
  tidy h := h.take inbox
  ended j id hm := by
    rw [queued_take] at hm
    split at hm
    · exact Or.inl (List.mem_of_mem_tail hm)
    · exact Or.inl hm
  silent j hj id := by rw [queued_take, if_neg hj]
  listed j _ := isListed_take ..

theorem quiet_takeAll (b : Bus DeskEvent) (inbox : Nat) : Quiet inbox [] b (b.takeAll inbox).1 where
  nextId := Nat.le_refl _
  tidy h := h.takeAll inbox
  ended j id hm := by
    rw [queued_takeAll] at hm
    split at hm
    · cases hm
    · exact Or.inl hm
  silent j hj id := by rw [queued_takeAll, if_neg hj]
  listed j _ := isListed_takeAll ..

theorem quiet_leave (b : Bus DeskEvent) (inbox : Nat) : Quiet inbox [] b (b.leave inbox) where
  nextId := Nat.le_refl _
  tidy h := h.leave inbox
  ended j id hm := Or.inl (by rwa [queued_leave] at hm)
  silent j _ id := by rw [queued_leave]
  listed j hj := isListed_leave_of_ne b inbox j hj

theorem quiet_drop (b : Bus DeskEvent) (inbox : Nat) : Quiet inbox [] b (b.drop inbox) where
  nextId := Nat.le_refl _
  tidy h := h.drop inbox
  ended j id hm := by
    by_cases hj : j = inbox
    · subst hj
      rw [queued_drop] at hm; cases hm
    · rw [queued_drop_of_ne b inbox j hj] at hm
      exact Or.inl hm
  silent j hj id := by rw [queued_drop_of_ne b inbox j hj]
  listed j hj := isListed_drop_of_ne b inbox j hj

end

end Bus

namespace Trader

def announced (t : Trader) : List String := if t.phase = .done then [t.primary.id] else []

/-- A move of a trader on its floor, by which the orders `new` were placed. -/
structure Move (t t' : Trader) (f f' : Floor) (new : List Order) : Prop where
  target : t'.target = t.target
  inbox : t'.inbox = t.inbox
  grown : f.registry.Grown f'.registry new
  quiet : Bus.Quiet t.inbox t'.announced f.bus f'.bus
  legs : ∀ id, (t'.closing.find? id).isSome ↔ (t.closing.find? id).isSome ∨ ∃ o ∈ new, o.id = id

section
variable {t : Trader} {f : Floor}

theorem quiet_finish (t : Trader) (f : Floor) :
    Bus.Quiet t.inbox (t.finish f).1.announced f.bus (t.finish f).2.bus := by
  rcases finish_cases t f with ⟨-, -, he⟩ | ⟨-, he⟩
  · rw [he]
    refine (Bus.quiet_leave f.bus t.inbox).trans (Bus.quiet_publish _ t.inbox (fun _ => rfl) fun id hid => ?_)
    cases hid
    exact List.mem_singleton.mpr rfl
  · rw [he]
    exact (Bus.quiet_refl f.bus t.inbox).mono fun id hid => by cases hid

theorem quiet_catchUp (t : Trader) (f : Floor) :
    Bus.Quiet t.inbox (t.catchUp f).1.announced f.bus (t.catchUp f).2.bus := by
  have hi : (t.drain f).1.inbox = t.inbox := (foldl_hearEvent_keeps (f.bus.queued t.inbox) t).2.1
  have hf := quiet_finish (t.drain f).1 (t.drain f).2
  rw [hi] at hf
  exact (Bus.quiet_takeAll f.bus t.inbox).trans hf

theorem move_onTick (t : Trader) (f : Floor) (now : UInt64) (tick : Tick) (answer : Answer) :
    t.Move (t.onTick f now tick answer).1 f (t.onTick f now tick answer).2.1
      (t.onTick f now tick answer).2.2.toList := by
  obtain ⟨ht, hi⟩ := onTick_keeps t f now tick answer
  refine ⟨ht, hi, grown_onTick t f now tick answer, ?_, ?_⟩
  · have hq := quiet_catchUp t f
    rcases onTick_cases t f now tick answer with ⟨-, he⟩ | ⟨o, reason, ho, -, he⟩ | ⟨o, reply, ho, -, he⟩
    · rw [he]
      obtain ⟨hwt, -, -, -, hp⟩ := watch_keeps (t.catchUp f).1
      have : (t.catchUp f).1.watch.announced = (t.catchUp f).1.announced := by
        simp only [announced, hp, primary, hwt]
      rw [this]; exact hq
    all_goals
      -- an order is submitted only before the end
      have hnone : (t.catchUp f).1.announced = [] := if_neg (order?_eq_some ho).1
      rw [hnone] at hq
      rw [he]
      refine hq.trans (Bus.quiet_publish _ _ (fun _ => rfl) fun id hid => ?_)
      cases hid
  · obtain ⟨-, -, -, hc⟩ := catchUp_keeps t f
    obtain ⟨-, -, hwc, -, -⟩ := watch_keeps (t.catchUp f).1
    intro id
    rcases onTick_cases t f now tick answer with ⟨-, he⟩ | ⟨o, reason, -, -, he⟩ | ⟨o, reply, -, -, he⟩
    · rw [he]
      simp [hwc, hc]
    · rw [he]
      simp [hwc, hc]
    · rw [he]
      dsimp only
      rw [Table.find?_insert, hwc]
      by_cases hid : id = (o.accepted reply now).id
      · simp [hid]
      · simp [hid, hc, Ne.symm hid]

theorem move_onEvent {bus : Bus DeskEvent} {e : DeskEvent} (h : f.bus.take t.inbox = (bus, .event e)) :
    t.Move (t.onEvent { f with bus } e).1 f (t.onEvent { f with bus } e).2 [] := by
  obtain ⟨rfl, -⟩ := Bus.queued_of_take h
  obtain ⟨ht, hi⟩ := onEvent_keeps t { f with bus := (f.bus.take t.inbox).1 } e
  have htake := Bus.quiet_take f.bus t.inbox
  refine ⟨ht, hi, ?_, ?_, fun id => ?_⟩
  · rw [registry_onEvent]; exact Registry.grown_refl _
  · cases e with
    | orderStatus o =>
      have hf := quiet_finish (t.hear o) { f with bus := (f.bus.take t.inbox).1 }
      rw [hear_inbox] at hf
      exact htake.trans hf
    | placed _ | assistDone _ | assistFailed _ _ => exact htake.mono fun id hid => by cases hid
  · cases e with
    | orderStatus o =>
      change (((t.hear o).finish { f with bus := (f.bus.take t.inbox).1 }).1.closing.find? id).isSome ↔ _
      rcases finish_cases (t.hear o) { f with bus := (f.bus.take t.inbox).1 } with ⟨-, -, he⟩ | ⟨-, he⟩ <;> rw [he] <;>
        simp [isSome_find?_hear]
    | placed _ | assistDone _ | assistFailed _ _ => simp [onEvent]

end

end Trader

end FuturesDesk
