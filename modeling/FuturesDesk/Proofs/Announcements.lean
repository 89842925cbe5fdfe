import FuturesDesk.Proofs.TraderMoves

/-!
# Announcements

What a move of a trader tells the other subscribers: the order that it placed or
could not place, and the end of its position where the move reaches it. A trader
that is done tells nothing any more.
-/

namespace FuturesDesk

namespace DeskEvent

def ended? : DeskEvent → Option String
  | .assistDone primary => some primary
  | .orderStatus _ | .placed _ | .assistFailed .. => none

def placed? : DeskEvent → Option Order
  | .placed o => some o
  | .orderStatus _ | .assistDone _ | .assistFailed .. => none

end DeskEvent

namespace Bus

variable {ε : Type}

/-- A change of the bus by which all but one subscriber are told some events. -/
structure Tells (inbox : Nat) (es : List ε) (b b' : Bus ε) : Prop where
  queued : ∀ j, j ≠ inbox → b'.queued j = if b.isListed j then b.queued j ++ es else b.queued j
  listed : ∀ j, j ≠ inbox → b'.isListed j = b.isListed j

section
variable {b b' b'' : Bus ε} {inbox : Nat} {es es' : List ε}

theorem tells_of_same (hq : ∀ j, j ≠ inbox → b'.queued j = b.queued j)
    (hl : ∀ j, j ≠ inbox → b'.isListed j = b.isListed j) : Tells inbox [] b b' where
  queued j hj := by simpa using hq j hj
  listed := hl

theorem tells_refl (b : Bus ε) (inbox : Nat) : Tells inbox [] b b := tells_of_same (fun _ _ => rfl) fun _ _ => rfl

theorem Tells.trans (h : Tells inbox es b b') (h' : Tells inbox es' b' b'') : Tells inbox (es ++ es') b b'' where
  queued j hj := by
    rw [h'.queued j hj, h.queued j hj, h.listed j hj]
    split
    · exact List.append_assoc ..
    · rfl
  listed j hj := (h'.listed j hj).trans (h.listed j hj)

theorem tells_publish (b : Bus ε) (inbox : Nat) (e : ε) : Tells inbox [e] b (b.publish e) where
  queued j _ := queued_publish b j e
  listed j _ := isListed_publish b j e

theorem tells_take (b : Bus ε) (inbox : Nat) : Tells inbox [] b (b.take inbox).1 :=
  tells_of_same (fun j hj => by rw [queued_take, if_neg hj]) fun j _ => isListed_take b inbox j

theorem tells_takeAll (b : Bus ε) (inbox : Nat) : Tells inbox [] b (b.takeAll inbox).1 :=
  tells_of_same (fun j hj => by rw [queued_takeAll, if_neg hj]) fun j _ => isListed_takeAll b inbox j

theorem tells_leave (b : Bus ε) (inbox : Nat) : Tells inbox [] b (b.leave inbox) :=
  tells_of_same (fun j _ => queued_leave b inbox j) (isListed_leave_of_ne b inbox)

theorem tells_drop (b : Bus ε) (inbox : Nat) : Tells inbox [] b (b.drop inbox) :=
  tells_of_same (queued_drop_of_ne b inbox) (isListed_drop_of_ne b inbox)

theorem Tidy.lt_of_isListed (h : b.Tidy) {j : Nat} (hj : b.isListed j) : j < b.nextId := by
  unfold isListed at hj
  cases hf : b.find? j with
  | none => rw [hf] at hj; cases hj
  | some m =>
    have hm := h m (List.mem_of_find?_eq_some hf)
    rwa [id_of_find? hf] at hm

end

end Bus

namespace Trader

/-- What a trader says in a move that places the orders `new`. -/
structure Says (t t' : Trader) (new : List Order) (es : List DeskEvent) : Prop where
  ended : es.filterMap DeskEvent.ended? = if t.phase ≠ .done ∧ t'.phase = .done then [t.primary.id] else []
  placed : es.filterMap DeskEvent.placed? = new
  silent : t.phase = .done → es = []

section
variable (t : Trader) (f : Floor)

theorem says_nothing {t t' : Trader} (h : t'.phase = .done → t.phase = .done) : t.Says t' [] [] where
  ended := by
    rw [if_neg fun hd => hd.1 (h hd.2)]
    rfl
  placed := rfl
  silent _ := rfl

theorem tells_finish : ∃ es, t.Says (t.finish f).1 [] es ∧ Bus.Tells t.inbox es f.bus (t.finish f).2.bus := by
  rcases finish_cases t f with ⟨hd, -, he⟩ | ⟨-, he⟩
  · rw [he]
    refine ⟨[.assistDone t.primary.id], ⟨?_, rfl, fun h => absurd h hd⟩, ?_⟩
    · rw [if_pos ⟨hd, rfl⟩]; rfl
    · exact (Bus.tells_leave f.bus t.inbox).trans (Bus.tells_publish _ _ _)
  · rw [he]
    exact ⟨[], says_nothing fun h => h, Bus.tells_refl _ _⟩

theorem phase_foldl_hearEvent (queue : List DeskEvent) :
    (queue.foldl hearEvent t).phase = .done ↔ t.phase = .done := by
  induction queue generalizing t with
  | nil => exact Iff.rfl
  | cons e queue ih =>
    refine (ih (t.hearEvent e)).trans ?_
    cases e with
    | placed _ | assistDone _ | assistFailed _ _ => exact Iff.rfl
    | orderStatus o =>
      refine ⟨fun hd => ?_, phase_hear_of_done o⟩
      change (t.hear o).phase = .done at hd
      rcases hear_cases t o with ⟨-, he⟩ | ⟨leg, -, -, ⟨-, -, -, hp⟩ | ⟨-, -, hp⟩⟩
      · rwa [he] at hd
      · rw [hp] at hd
        split at hd
        · assumption
        · cases hd
      · rwa [hp] at hd

theorem tells_catchUp : ∃ es, t.Says (t.catchUp f).1 [] es ∧ Bus.Tells t.inbox es f.bus (t.catchUp f).2.bus := by
  obtain ⟨ht, hi, -, -⟩ := foldl_hearEvent_keeps (f.bus.queued t.inbox) t
  have hp := phase_foldl_hearEvent t (f.bus.queued t.inbox)
  obtain ⟨es, hs, htell⟩ := tells_finish (t.drain f).1 (t.drain f).2
  change ((t.drain f).1.target) = _ at ht
  change (t.drain f).1.inbox = _ at hi
  change (t.drain f).1.phase = .done ↔ _ at hp
  rw [hi] at htell
  refine ⟨es, ⟨?_, hs.placed, fun hd => hs.silent (hp.mpr hd)⟩, (Bus.tells_takeAll f.bus t.inbox).trans htell⟩
  rw [hs.ended, primary, ht]
  simp only [ne_eq, hp]
  rfl

theorem tells_onTick (now : UInt64) (tick : Tick) (answer : Answer) :
    ∃ es, t.Says (t.onTick f now tick answer).1 (t.onTick f now tick answer).2.2.toList es ∧
      Bus.Tells t.inbox es f.bus (t.onTick f now tick answer).2.1.bus := by
  obtain ⟨es, hs, htell⟩ := tells_catchUp t f
  obtain ⟨-, -, hkeep, -⟩ := catchUp_keeps t f
  obtain ⟨-, -, -, -, hp⟩ := watch_keeps (t.catchUp f).1
  -- before the end the catching up has told nothing
  have hquiet : (t.catchUp f).1.phase ≠ .done → t.phase ≠ .done ∧ es.filterMap DeskEvent.ended? = [] := by
    intro hnd
    refine ⟨fun hd => hnd (hkeep hd), ?_⟩
    rw [hs.ended, if_neg fun h => hnd h.2]
  rcases onTick_cases t f now tick answer with ⟨-, he⟩ | ⟨o, reason, ho, -, he⟩ | ⟨o, reply, ho, -, he⟩
  · rw [he]
    refine ⟨es, ⟨?_, hs.placed, hs.silent⟩, htell⟩
    rw [hs.ended]
    simp only [hp]
  · obtain ⟨hnd, hes⟩ := hquiet (order?_eq_some ho).1
    rw [he]
    refine ⟨es ++ [_], ⟨?_, ?_, fun hd => absurd hd hnd⟩, htell.trans (Bus.tells_publish _ _ _)⟩
    · simp [hes, DeskEvent.ended?]
    · simp [hs.placed, DeskEvent.placed?]
  · obtain ⟨hnd, hes⟩ := hquiet (order?_eq_some ho).1
    rw [he]
    refine ⟨es ++ [_], ⟨?_, ?_, fun hd => absurd hd hnd⟩, htell.trans (Bus.tells_publish _ _ _)⟩
    · simp [hes, DeskEvent.ended?]
    · simp [hs.placed, DeskEvent.placed?]

theorem tells_onEvent (e : DeskEvent) :
    ∃ es, t.Says (t.onEvent f e).1 [] es ∧ Bus.Tells t.inbox es f.bus (t.onEvent f e).2.bus := by
  cases e with
  | placed _ | assistDone _ | assistFailed _ _ => exact ⟨[], says_nothing fun h => h, Bus.tells_refl _ _⟩
  | orderStatus o =>
    have hp := phase_foldl_hearEvent t [.orderStatus o]
    obtain ⟨es, hs, htell⟩ := tells_finish (t.hear o) f
    change (t.hear o).phase = .done ↔ _ at hp
    rw [hear_inbox] at htell
    refine ⟨es, ⟨?_, hs.placed, fun hd => hs.silent (hp.mpr hd)⟩, htell⟩
    rw [hs.ended, hear_primary]
    simp only [ne_eq, hp]
    rfl

end

end Trader

end FuturesDesk
