import FuturesDesk.Proofs.Announcements
import FuturesDesk.Proofs.TraderRuns

/-!
# Completion

The end of a position is announced by the very move that takes its trader to
the end, and never again: a trader at the end stays there and is silent. What
its closing orders have filled is then the quantity of the position.
-/

namespace FuturesDesk

namespace Post

def run (p : Post) (steps : List Step) : Post := steps.foldl step p

/-- Every step of a run fits the post that it finds. -/
def Admits (p : Post) : List Step → Prop
  | [] => True
  | st :: steps => st.fits p ∧ (p.step st).Admits steps

def Step.isOwn : Step → Prop
  | .tick .. | .event => True
  | .status .. | .sweep .. | .place .. | .publish _ => False

def Step.announced : Step → List String
  | .publish e => e.ended?.toList
  | .tick .. | .event | .status .. | .sweep .. | .place .. => []

def told (p : Post) (j : Nat) (st : Step) : List DeskEvent :=
  ((p.step st).floor.bus.queued j).drop (p.floor.bus.queued j).length

def ends (id : String) (queue : List DeskEvent) : Nat := (queue.filterMap DeskEvent.ended?).count id

/-- Closing orders have filled the position, no less and no more, and none of
them is live. -/
structure Closed (p : Post) (quantity : Int64) : Prop where
  filled : p.trader.filledQuantity = quantity
  total : p.trader.legTotal p.isFilled = quantity.toInt
  ended : ∀ id, (p.trader.closing.find? id).isSome → ¬ p.isLive id

section
variable {f : Floor} {target : AssistTarget} {p : Post}

theorem Reachable.run (h : p.Reachable f target) {steps : List Step} (ha : p.Admits steps) :
    (p.run steps).Reachable f target := by
  induction steps generalizing p with
  | nil => exact h
  | cons st steps ih => exact ih (h.step st ha.1) ha.2

theorem admits_append {before after : List Step} (h : p.Admits (before ++ after)) :
    p.Admits before ∧ (p.run before).Admits after := by
  induction before generalizing p with
  | nil => exact ⟨trivial, h⟩
  | cons st before ih =>
    obtain ⟨hb, ha⟩ := ih h.2
    exact ⟨⟨h.1, hb⟩, ha⟩

theorem run_snoc (p : Post) (steps : List Step) (st : Step) : p.run (steps ++ [st]) = (p.run steps).step st :=
  List.foldl_append ..

/-! ## Steps -/

theorem keeps_step (p : Post) (st : Step) :
    (p.step st).trader.target = p.trader.target ∧ (p.step st).trader.inbox = p.trader.inbox := by
  cases st with
  | status now u | sweep now answer | place now o answer | publish e => exact ⟨rfl, rfl⟩
  | tick now t answer => exact Trader.onTick_keeps ..
  | event =>
    change p.takeEvent.trader.target = _ ∧ p.takeEvent.trader.inbox = _
    unfold takeEvent
    split
    · exact Trader.onEvent_keeps ..
    · exact ⟨rfl, rfl⟩

/-- A step tells the end of the position where it takes the trader to its end;
otherwise only others tell of ends, and not of this one unless they say so. -/
theorem tells_step (p : Post) (st : Step) :
    ∃ es, Bus.Tells p.trader.inbox es p.floor.bus (p.step st).floor.bus ∧
      es.filterMap DeskEvent.ended? =
        (if p.trader.phase ≠ .done ∧ (p.step st).trader.phase = .done then [p.trader.primary.id] else []) ++
          st.announced ∧
      (st.isOwn → p.trader.phase = .done → es = []) := by
  have still : ∀ p' : Post, p'.trader = p.trader →
      (if p.trader.phase ≠ .done ∧ p'.trader.phase = .done then [p.trader.primary.id] else []) = [] := by
    intro p' he
    rw [if_neg fun h => h.1 (he ▸ h.2)]
  cases st with
  | tick now t answer =>
    obtain ⟨es, hs, htell⟩ := Trader.tells_onTick p.trader p.floor now t answer
    exact ⟨es, htell, hs.ended.trans (List.append_nil _).symm, fun _ => hs.silent⟩
  | event =>
    have he : p.step .event = p.takeEvent := rfl
    rw [he]
    unfold takeEvent
    split
    · rename_i bus e ht
      obtain ⟨rfl, -⟩ := Bus.queued_of_take ht
      obtain ⟨es, hs, htell⟩ :=
        Trader.tells_onEvent p.trader { p.floor with bus := (p.floor.bus.take p.trader.inbox).1 } e
      have htake := Bus.tells_take p.floor.bus p.trader.inbox
      exact ⟨es, htake.trans htell, hs.ended.trans (List.append_nil _).symm, fun _ => hs.silent⟩
    · exact ⟨[], Bus.tells_refl _ _, by rw [still p rfl]; rfl, fun _ _ => rfl⟩
  | status now u =>
    have hf : (p.step (.status now u)).floor = p.floor.status now u := rfl
    rw [still (p.step (.status now u)) rfl, hf]
    cases hm : (p.floor.registry.merge now u).2 with
    | none =>
      rw [Floor.status_of_none hm]
      exact ⟨[], Bus.tells_refl _ _, rfl, fun h => h.elim⟩
    | some o =>
      rw [Floor.status_of_some hm]
      exact ⟨[.orderStatus o], Bus.tells_publish _ _ _, rfl, fun h => h.elim⟩
  | sweep now answer =>
    rw [still (p.step (.sweep now answer)) rfl]
    exact ⟨[], Bus.tells_refl _ _, rfl, fun h => h.elim⟩
  | place now o answer =>
    rw [still (p.step (.place now o answer)) rfl]
    exact ⟨[], Bus.tells_refl _ _, rfl, fun h => h.elim⟩
  | publish e =>
    rw [still (p.step (.publish e)) rfl]
    refine ⟨[e], Bus.tells_publish _ _ _, ?_, fun h => h.elim⟩
    cases e <;> rfl

theorem isListed_step {j : Nat} (hj : j ≠ p.trader.inbox) (st : Step) :
    (p.step st).floor.bus.isListed j = p.floor.bus.isListed j := by
  obtain ⟨es, htell, -⟩ := tells_step p st
  exact htell.listed j hj

theorem queued_step {j : Nat} (hj : j ≠ p.trader.inbox) (hl : p.floor.bus.isListed j) (st : Step) :
    (p.step st).floor.bus.queued j = p.floor.bus.queued j ++ p.told j st := by
  obtain ⟨es, htell, -⟩ := tells_step p st
  have hq := htell.queued j hj
  rw [if_pos hl] at hq
  rw [told, hq, List.drop_left]

theorem ends_told {j : Nat} (hj : j ≠ p.trader.inbox) (hl : p.floor.bus.isListed j) (st : Step) :
    ends p.trader.primary.id (p.told j st) =
      st.announced.count p.trader.primary.id +
        if p.trader.phase ≠ .done ∧ (p.step st).trader.phase = .done then 1 else 0 := by
  obtain ⟨es, htell, hes, -⟩ := tells_step p st
  have hq := htell.queued j hj
  rw [if_pos hl] at hq
  have ht : p.told j st = es := by rw [told, hq, List.drop_left]
  rw [ht, ends, hes, List.count_append, Nat.add_comm]
  split <;> simp

theorem done_step (hd : p.trader.phase = .done) (st : Step) :
    (p.step st).trader.phase = .done ∧
      (st.isOwn → (p.step st).floor.registry = p.floor.registry ∧
        ∀ j, j ≠ p.trader.inbox → p.told j st = []) := by
  have hquiet : st.isOwn → ∀ j, j ≠ p.trader.inbox → p.told j st = [] := by
    intro hown j hj
    obtain ⟨es, htell, -, hsilent⟩ := tells_step p st
    have hq := htell.queued j hj
    rw [hsilent hown hd, List.append_nil, ite_self] at hq
    rw [told, hq, List.drop_length]
  cases st with
  | status now u | sweep now answer | place now o answer | publish e => exact ⟨hd, fun h => h.elim⟩
  | tick now t answer =>
    obtain ⟨-, -, hkeep, -⟩ := Trader.catchUp_keeps p.trader p.floor
    obtain ⟨-, -, -, -, hp⟩ := Trader.watch_keeps (p.trader.catchUp p.floor).1
    have he : p.trader.onTick p.floor now t answer =
        ((p.trader.catchUp p.floor).1.watch, (p.trader.catchUp p.floor).2, none) := by
      rcases Trader.onTick_cases p.trader p.floor now t answer with ⟨-, he⟩ | ⟨o, -, ho, -, -⟩ | ⟨o, -, ho, -, -⟩
      · exact he
      · exact absurd (hkeep hd) (Trader.order?_eq_some ho).1
      · exact absurd (hkeep hd) (Trader.order?_eq_some ho).1
    refine ⟨?_, fun hown => ⟨?_, hquiet hown⟩⟩
    · change (p.trader.onTick p.floor now t answer).1.phase = .done
      rw [he]
      exact hp.mpr (hkeep hd)
    · change (p.trader.onTick p.floor now t answer).2.1.registry = p.floor.registry
      rw [he]
      exact Trader.registry_catchUp ..
  | event =>
    have hstep : p.takeEvent.trader.phase = .done ∧ p.takeEvent.floor.registry = p.floor.registry := by
      unfold takeEvent
      split
      · rename_i bus e ht
        refine ⟨?_, Trader.registry_onEvent ..⟩
        cases e with
        | placed _ | assistDone _ | assistFailed _ _ => exact hd
        | orderStatus o =>
          change ((p.trader.hear o).finish _).1.phase = .done
          rcases Trader.finish_cases (p.trader.hear o) { p.floor with bus } with ⟨-, -, he⟩ | ⟨-, he⟩
          · rw [he]
          · rw [he]
            exact Trader.phase_hear_of_done o hd
      · exact ⟨hd, rfl⟩
    exact ⟨hstep.1, fun hown => ⟨hstep.2, hquiet hown⟩⟩

theorem submission?_of_done (hd : p.trader.phase = .done) (tick : Tick) :
    p.trader.submission? p.floor tick = none := by
  obtain ⟨-, -, hkeep, -⟩ := Trader.catchUp_keeps p.trader p.floor
  cases ho : p.trader.submission? p.floor tick with
  | none => rfl
  | some o => exact absurd (hkeep hd) (Trader.order?_eq_some ho).1

theorem Reachable.closed (hf : f.Tidy) (hq : 0 < target.order.quantity) (hp : p.Reachable f target)
    (hd : p.trader.phase = .done) : p.Closed target.order.quantity := by
  have h := hp.sound hf
  have hin := h.inStep hq
  have hs := hin.sound
  have htq : p.trader.primary.quantity = target.order.quantity := by rw [Trader.primary, h.closes]
  obtain ⟨id, leg, hl, hfill⟩ := hs.done hd
  have hid : p.isFilled id := h.isFilled_of_hasFilled hq (Trader.hasFilled_iff.mpr ⟨leg, hl, hfill⟩)
  rw [← htq]
  refine ⟨?_, ?_, fun i hi hlive => ?_⟩
  · rcases hs.filledQuantity_cases with ⟨-, hn⟩ | ⟨he, -⟩
    · exact absurd hfill (hn id leg hl)
    · exact he
  · rcases hs.legTotal_cases (p := p.isFilled) (fun _ _ => h.not_isVoid_of_isFilled hq) with ⟨-, hn⟩ | ⟨he, -⟩
    · exact absurd hid (hn id (by rw [hl]; rfl))
    · exact he
  · obtain ⟨s, hk, hc⟩ := h.known_of_isLive hlive
    exact hin.not_done_of_live hi hk hc hd

/-! ## Runs -/

theorem keeps_run (p : Post) (steps : List Step) :
    (p.run steps).trader.target = p.trader.target ∧ (p.run steps).trader.inbox = p.trader.inbox := by
  induction steps generalizing p with
  | nil => exact ⟨rfl, rfl⟩
  | cons st steps ih =>
    obtain ⟨ht, hi⟩ := ih (p.step st)
    obtain ⟨ht', hi'⟩ := keeps_step p st
    exact ⟨ht.trans ht', hi.trans hi'⟩

theorem isListed_run {j : Nat} (hj : j ≠ p.trader.inbox) (steps : List Step) :
    (p.run steps).floor.bus.isListed j = p.floor.bus.isListed j := by
  induction steps generalizing p with
  | nil => rfl
  | cons st steps ih =>
    have hstep := ih (p := p.step st) (by rwa [(keeps_step p st).2])
    exact hstep.trans (isListed_step hj st)

/-- Beside what others tell of the end of the position, a mailbox tells it once
more just if the trader has come to its end. -/
theorem ends_run {j : Nat} (hj : j ≠ p.trader.inbox) (hl : p.floor.bus.isListed j) (steps : List Step) :
    ends p.trader.primary.id ((p.run steps).floor.bus.queued j) =
      ends p.trader.primary.id (p.floor.bus.queued j) + (steps.flatMap Step.announced).count p.trader.primary.id +
        if p.trader.phase ≠ .done ∧ (p.run steps).trader.phase = .done then 1 else 0 := by
  have keep : ∀ (steps : List Step) (q : Post), q.trader.phase = .done → (q.run steps).trader.phase = .done := by
    intro steps
    induction steps with
    | nil => exact fun q hd => hd
    | cons st steps ih => exact fun q hd => ih _ (done_step hd st).1
  induction steps generalizing p with
  | nil =>
    rw [if_neg fun h => h.1 h.2]
    rfl
  | cons st steps ih =>
    obtain ⟨ht, hi⟩ := keeps_step p st
    have hid : (p.step st).trader.primary.id = p.trader.primary.id := by rw [Trader.primary, ht]; rfl
    have hrest := ih (p := p.step st) (by rwa [hi]) (by rwa [isListed_step hj st])
    have htold := ends_told hj hl st
    have hq := queued_step hj hl st
    have hrun : p.run (st :: steps) = (p.step st).run steps := rfl
    rw [hid, hq] at hrest
    rw [hrun, hrest]
    have hsum : ends p.trader.primary.id (p.floor.bus.queued j ++ p.told j st) =
        ends p.trader.primary.id (p.floor.bus.queued j) + ends p.trader.primary.id (p.told j st) := by
      simp [ends]
    have hothers : ((st :: steps).flatMap Step.announced).count p.trader.primary.id =
        st.announced.count p.trader.primary.id + (steps.flatMap Step.announced).count p.trader.primary.id := by
      rw [List.flatMap_cons, List.count_append]
    rw [hsum, htold, hothers]
    by_cases hd : p.trader.phase = .done
    · have hd' := (done_step hd st).1
      simp only [hd, hd', ne_eq, not_true_eq_false, false_and, if_false]
      omega
    · by_cases hd' : (p.step st).trader.phase = .done
      · have hend := keep steps _ hd'
        simp only [hd, hd', hend, ne_eq, not_true_eq_false, not_false_eq_true, false_and, and_self, if_true, if_false]
        omega
      · simp only [hd, hd', ne_eq, not_false_eq_true, true_and, and_false, if_false]
        omega

/-- **Completion is announced once, and only when it is earned.** Beside what
others tell, a mailbox that listens all along has heard of the end of the
position once if the trader is at its end and never otherwise. The step that
takes the trader there is the one that tells it, and the position is closed
then; from there on the trader stays at its end, submits nothing and tells
nothing. -/
theorem completion_announced_once (hf : f.Tidy) (hq : 0 < target.order.quantity) {steps : List Step}
    (ha : (start f target).Admits steps) {j : Nat} (hj : f.bus.isListed j) :
    ends target.order.id (((start f target).run steps).floor.bus.queued j) =
      ends target.order.id (f.bus.queued j) + (steps.flatMap Step.announced).count target.order.id +
        (if ((start f target).run steps).trader.phase = .done then 1 else 0) ∧
    ∀ before st after p, steps = before ++ st :: after → p = (start f target).run before →
      ends target.order.id (p.told j st) =
        st.announced.count target.order.id +
          (if p.trader.phase ≠ .done ∧ (p.step st).trader.phase = .done then 1 else 0) ∧
      ((p.step st).trader.phase = .done → (p.step st).Closed target.order.quantity) ∧
      (p.trader.phase = .done → (p.step st).trader.phase = .done ∧
        (∀ tick, p.trader.submission? p.floor tick = none) ∧
        (st.isOwn → (p.step st).floor.registry = p.floor.registry ∧ p.told j st = [])) := by
  have hne : j ≠ (start f target).trader.inbox := Nat.ne_of_lt (hf.bus.lt_of_isListed hj)
  have hl : (start f target).floor.bus.isListed j := by
    change f.bus.subscribe.1.isListed j
    rw [Bus.isListed_subscribe hf.bus, hj, Bool.or_true]
  refine ⟨?_, ?_⟩
  · have h := ends_run hne hl steps
    have hqueue : (start f target).floor.bus.queued j = f.bus.queued j := Bus.queued_subscribe hf.bus j
    have harmed : (start f target).trader.phase ≠ .done := by simp [start, Trader.start]
    simp only [harmed, ne_eq, not_false_eq_true, true_and, hqueue] at h
    exact h
  · rintro before st after p rfl hp
    obtain ⟨hb, hfit, -⟩ := admits_append ha
    obtain ⟨ht, hi⟩ := keeps_run (start f target) before
    have hreach : p.Reachable f target := hp ▸ Reachable.start.run hb
    have hid : p.trader.primary.id = target.order.id := by rw [hp, Trader.primary, ht]; rfl
    have hj' : j ≠ p.trader.inbox := by rwa [hp, hi]
    have hl' : p.floor.bus.isListed j := by rwa [hp, isListed_run hne]
    have htold := ends_told hj' hl' st
    rw [hid] at htold
    refine ⟨htold, fun hd => (hreach.step st (hp ▸ hfit)).closed hf hq hd, fun hd => ?_⟩
    obtain ⟨hstay, hown⟩ := done_step hd st
    exact ⟨hstay, submission?_of_done hd, fun h => ⟨(hown h).1, (hown h).2 j hj'⟩⟩

end

def overheardFloor : Floor := { registry := { deadlines := ⟨10000, 30000⟩ }, bus := ({} : Bus DeskEvent).subscribe.1 }

theorem overheardFloor_tidy : overheardFloor.Tidy := ⟨Registry.keyed_empty _, Bus.tidy_empty.subscribe⟩

/-- The fill of the closing order is heard between ticks; a tick and an update
come too late. -/
def closedByFill : List Step :=
  [.tick 9000 lateTick (.reply { orderId := "c1", status := .submitted }), .status 9500 ⟨"c1", .filled, 0, none⟩,
   .event, .event, .tick 9600 lateTick (.reply { orderId := "c2", status := .submitted }),
   .status 9700 ⟨"c1", .filled, 0, none⟩, .event]

theorem completion_announced_once_closedByFill :
    ends "p1" (((start overheardFloor longOfThree).run closedByFill).floor.bus.queued 0) = 1 ∧
      ((start overheardFloor longOfThree).run (closedByFill.take 4)).Closed 3 ∧
      ((start overheardFloor longOfThree).run (closedByFill.take 4)).told 0
        (.tick 9600 lateTick (.reply { orderId := "c2", status := .submitted })) = [] := by
  have ha : (start overheardFloor longOfThree).Admits closedByFill :=
    ⟨trivial, trivial, trivial, trivial, trivial, trivial, trivial, trivial⟩
  have h := completion_announced_once overheardFloor_tidy (by decide) ha (j := 0) rfl
  obtain ⟨-, hclosed, -⟩ := h.2 (closedByFill.take 3) .event (closedByFill.drop 4) _ rfl rfl
  obtain ⟨-, -, hdone⟩ := h.2 (closedByFill.take 4) _ (closedByFill.drop 5) _ rfl rfl
  exact ⟨h.1, hclosed rfl, ((hdone rfl).2.2 trivial).2⟩

end Post

end FuturesDesk
