import FuturesDesk.Proofs.Completion

/-!
# Schedules of a trader

Between ticks a trader may take any number of the events that wait for it; the
rest it takes at the next tick. What the trader will be once it has heard all of
them is the same either way, and it is all that the next tick looks at.
-/

namespace FuturesDesk

namespace Trader

def concluded (t : Trader) : Trader := if t.phase ≠ .done && t.isCovered then { t with phase := .done } else t

section
variable {t t' : Trader} {f f' : Floor} {queue : List DeskEvent} {known : String → Option Status}

theorem fst_finish (t : Trader) (f : Floor) : (t.finish f).1 = t.concluded := by
  unfold finish concluded
  split <;> rfl

theorem fst_catchUp (t : Trader) (f : Floor) :
    (t.catchUp f).1 = ((f.bus.queued t.inbox).foldl hearEvent t).concluded := fst_finish ..

theorem concluded_of_not_isCovered (hc : ¬ t.isCovered) : t.concluded = t := by simp [concluded, hc]

theorem concluded_of_done (hd : t.phase = .done) : t.concluded = t := by simp [concluded, hd]

theorem concluded_concluded (t : Trader) : t.concluded.concluded = t.concluded := by
  by_cases hc : t.isCovered
  · apply concluded_of_done
    by_cases hd : t.phase = .done <;> simp [concluded, hc, hd]
  · rw [concluded_of_not_isCovered hc, concluded_of_not_isCovered hc]

@[simp] theorem concluded_closing (t : Trader) : t.concluded.closing = t.closing := by
  unfold concluded
  split <;> rfl

@[simp] theorem concluded_inbox (t : Trader) : t.concluded.inbox = t.inbox := by
  unfold concluded
  split <;> rfl

theorem heard_finish (t u : Trader) (f : Floor) (i : Nat) :
    ((t.finish f).2.bus.queued i).foldl hearEvent u = (f.bus.queued i).foldl hearEvent u := by
  rcases finish_cases t f with ⟨-, -, he⟩ | ⟨-, he⟩
  · rw [he]
    dsimp only
    rw [Bus.queued_publish, Bus.queued_leave]
    split
    · rw [List.foldl_append]
      rfl
    · rfl
  · rw [he]

theorem watch_of_done (hd : t.phase = .done) : t.watch = t := by simp [watch, isFree, hd]

theorem order?_of_done (hd : t.phase = .done) (tick : Tick) : t.order? tick = none := by simp [order?, isFree, hd]

/-! ## Hearing what does not concern -/

theorem hearEvent_of_no_news {e : DeskEvent} (h : ∀ id, (t.closing.find? id).isSome → e.news? id = none) :
    t.hearEvent e = t := by
  cases e with
  | placed _ | assistDone _ | assistFailed _ _ => rfl
  | orderStatus o =>
    rcases hear_cases t o with ⟨-, he⟩ | ⟨leg, hl, -⟩
    · exact he
    · have hnone := h o.id (by simp [hl])
      simp [DeskEvent.news?] at hnone

theorem heard_of_no_news (h : ∀ id, (t.closing.find? id).isSome → news id queue = []) :
    queue.foldl hearEvent t = t := by
  induction queue with
  | nil => rfl
  | cons e queue ih =>
    have hboth : ∀ id, (t.closing.find? id).isSome → e.news? id = none ∧ news id queue = [] := by
      intro id hid
      have hn := h id hid
      rw [news_cons] at hn
      simpa using hn
    rw [List.foldl_cons, hearEvent_of_no_news fun id hid => (hboth id hid).1]
    exact ih fun id hid => (hboth id hid).2

theorem Sound.no_news_of_isCovered (h : Sound t queue known) (hq : 0 < t.primary.quantity) (hc : t.isCovered) :
    ∀ id, (t.closing.find? id).isSome → news id queue = [] := by
  intro id hid
  obtain ⟨leg, hl⟩ := Option.isSome_iff_exists.mp hid
  obtain ⟨filled, b, hb, hf⟩ := (h.isCovered_iff hq).mp hc
  refine ((h.leg id leg hl).settled ?_).1
  intro hlive
  have he := h.one filled b id leg hb hl (by simp [hf, Status.isVoid]) (Status.not_isVoid_of_isCancellable hlive)
  subst he
  rw [hb, Option.some.injEq] at hl
  subst hl
  simp [hf, Status.isCancellable] at hlive

/-- It makes no difference whether a trader looks for its end before it hears
of the rest as well, or only after. -/
theorem Sound.concluded_heard (h : Sound t queue known) (hq : 0 < t.primary.quantity) :
    (queue.foldl Trader.hearEvent t.concluded).concluded = (queue.foldl Trader.hearEvent t).concluded := by
  by_cases hc : t.isCovered
  · have hn := h.no_news_of_isCovered hq hc
    have hn' : ∀ id, (t.concluded.closing.find? id).isSome → news id queue = [] := by simpa using hn
    rw [heard_of_no_news hn, heard_of_no_news hn', concluded_concluded]
  · rw [concluded_of_not_isCovered hc]

theorem Sound.heard_before {rest : List DeskEvent} (h : Sound t (queue ++ rest) known) :
    Sound (queue.foldl Trader.hearEvent t) rest known := by
  induction queue generalizing t with
  | nil => exact h
  | cons e queue ih => exact ih (Sound.hearEvent h)

theorem InStep.hear_of_done (h : t.InStep f.bus known) (hv : f.registry.Views known) (hd : t.phase = .done)
    {now : UInt64} {u : StatusUpdate} {o : Order} (hm : (f.registry.merge now u).2 = some o) : t.hear o = t := by
  obtain ⟨old, hold, rfl, -, -, hlive, -⟩ := Registry.of_merge_some hm
  have hid : (old.merged now u).id = u.orderId := (Order.merged_id ..).trans (hv.keyed _ _ hold)
  have hk : known u.orderId = some old.status := hv.held _ _ (Registry.status?_eq_some.mpr ⟨old, hold, rfl⟩)
  rcases hear_cases t (old.merged now u) with ⟨-, he⟩ | ⟨leg, hl, -⟩
  · exact he
  · rw [hid] at hl
    have hleg := h.sound.leg _ leg hl
    rw [hk] at hleg
    have hc : old.status.isCancellable := Status.isCancellable_iff.mpr ⟨hleg.known_ne_unknown, hlive⟩
    exact absurd hd (h.not_done_of_live (by simp [hl]) hk hc)

/-! ## What a tick looks at -/

theorem submit_congr (hr : f.registry = f'.registry) (t : Trader) (now : UInt64) (o : Order) (answer : Answer) :
    (t.submit f now o answer).1 = (t.submit f' now o answer).1 ∧
      (t.submit f now o answer).2.1.registry = (t.submit f' now o answer).2.1.registry := by
  unfold submit
  rw [hr]
  generalize f'.registry.place now o answer = placement
  obtain ⟨r, o, result⟩ := placement
  cases result <;> exact ⟨rfl, rfl⟩

theorem onTick_congr (ht : (t.catchUp f).1 = (t'.catchUp f').1) (hr : f.registry = f'.registry) (now : UInt64)
    (tick : Tick) (answer : Answer) :
    (t.onTick f now tick answer).1 = (t'.onTick f' now tick answer).1 ∧
      (t.onTick f now tick answer).2.1.registry = (t'.onTick f' now tick answer).2.1.registry := by
  have hreg : (t.catchUp f).2.registry = (t'.catchUp f').2.registry := by
    rw [registry_catchUp, registry_catchUp, hr]
  have he := onTick_eq t f now tick answer
  have he' := onTick_eq t' f' now tick answer
  cases ho : (t'.catchUp f').1.order? tick with
  | none =>
    rw [ht, ho] at he
    rw [ho] at he'
    rw [he, he']
    dsimp only
    exact ⟨rfl, hreg⟩
  | some o =>
    rw [ht, ho] at he
    rw [ho] at he'
    rw [he, he']
    exact submit_congr hreg ..

theorem news_onTick (t : Trader) (f : Floor) (now : UInt64) (tick : Tick) (answer : Answer) (id : String) :
    news id ((t.onTick f now tick answer).2.1.bus.queued (t.onTick f now tick answer).1.inbox) = [] := by
  have hempty := news_catchUp t f id
  obtain ⟨-, hi, -⟩ := watch_keeps (t.catchUp f).1
  rcases onTick_cases t f now tick answer with ⟨-, he⟩ | ⟨o, reason, -, -, he⟩ | ⟨o, reply, -, -, he⟩
  · rw [he]
    dsimp only
    rwa [hi]
  · rw [he]
    dsimp only
    rw [news_publish rfl, hi]
    exact hempty
  · rw [he]
    dsimp only
    rw [news_publish rfl, hi]
    exact hempty

end

end Trader

namespace Post

instance : DecidablePred Step.isOwn
  | .tick .. | .event => inferInstanceAs (Decidable True)
  | .status .. | .sweep .. | .place .. | .publish _ => inferInstanceAs (Decidable False)

/-- The task of a trader: one that is done takes no more ticks and events. -/
def attend (p : Post) (st : Step) : Post := if p.trader.phase = .done ∧ st.isOwn then p else p.step st

def attended (p : Post) (steps : List Step) : Post := steps.foldl attend p

def Attends (p : Post) : List Step → Prop
  | [] => True
  | st :: steps => st.fits p ∧ (p.attend st).Attends steps

def Step.isEvent : Step → Bool
  | .event => true
  | .tick .. | .status .. | .sweep .. | .place .. | .publish _ => false

theorem isEvent_iff {st : Step} : st.isEvent ↔ st = .event := by
  cases st <;> simp [Step.isEvent]

/-- The schedule in which all events are left to the ticks. -/
def lazily (steps : List Step) : List Step := steps.filter fun st => !st.isEvent

def submission? (p : Post) : Step → Option Order
  | .tick _ t _ => p.trader.submission? p.floor t
  | .event | .status .. | .sweep .. | .place .. | .publish _ => none

def submitted (p : Post) : List Step → List Order
  | [] => []
  | st :: steps => (p.submission? st).toList ++ (p.attend st).submitted steps

def settled (p : Post) : Trader := (p.trader.catchUp p.floor).1

/-- Two posts that a tick cannot tell apart. -/
structure Alike (p q : Post) : Prop where
  registry : p.floor.registry = q.floor.registry
  settled : p.settled = q.settled

section
variable {f : Floor} {target : AssistTarget} {p q : Post}

theorem settled_eq (p : Post) :
    p.settled = ((p.floor.bus.queued p.trader.inbox).foldl Trader.hearEvent p.trader).concluded :=
  Trader.fst_catchUp ..

theorem settled_of_no_news
    (h : ∀ id, (p.trader.closing.find? id).isSome → news id (p.floor.bus.queued p.trader.inbox) = []) :
    p.settled = p.trader.concluded := by
  rw [settled_eq, Trader.heard_of_no_news h]

theorem Sound.settled_of_done (h : p.Sound target) (hq : 0 < target.order.quantity) (hd : p.trader.phase = .done) :
    p.settled = p.trader := by
  have hin := h.inStep hq
  have hc := (hin.sound.isCovered_iff hin.positive).mpr (hin.sound.done hd)
  rw [settled_of_no_news (hin.sound.no_news_of_isCovered hin.positive hc), Trader.concluded_of_done hd]

theorem Reachable.attend (h : p.Reachable f target) {st : Step} (hfits : st.fits p) :
    (p.attend st).Reachable f target := by
  unfold Post.attend
  split
  · exact h
  · exact h.step st hfits

/-! ## Ticks -/

theorem Sound.attend_tick (h : p.Sound target) (hq : 0 < target.order.quantity) (now : UInt64) (t : Tick)
    (answer : Answer) :
    (p.attend (.tick now t answer)).trader = (p.step (.tick now t answer)).trader ∧
      (p.attend (.tick now t answer)).floor.registry = (p.step (.tick now t answer)).floor.registry ∧
      (p.attend (.tick now t answer)).settled = (p.attend (.tick now t answer)).trader.concluded := by
  by_cases hd : p.trader.phase = .done
  · have hown : p.trader.phase = .done ∧ (Step.tick now t answer).isOwn := ⟨hd, trivial⟩
    have hsettled : (p.trader.catchUp p.floor).1 = p.trader := h.settled_of_done hq hd
    rw [attend, if_pos hown]
    refine ⟨?_, ?_, ?_⟩
    · change p.trader = (p.trader.onTick p.floor now t answer).1
      rw [Trader.onTick_eq, hsettled, Trader.order?_of_done hd]
      exact (Trader.watch_of_done hd).symm
    · exact (((done_step hd _).2 hown.2).1).symm
    · rw [Trader.concluded_of_done hd]
      exact hsettled
  · rw [attend, if_neg fun h => hd h.1]
    exact ⟨rfl, rfl, settled_of_no_news fun id _ => Trader.news_onTick ..⟩

theorem Alike.ticked (h : p.Alike q) (hp : p.Sound target) (hq : q.Sound target) (hpos : 0 < target.order.quantity)
    (now : UInt64) (t : Tick) (answer : Answer) :
    (p.attend (.tick now t answer)).trader = (q.attend (.tick now t answer)).trader ∧
      (p.attend (.tick now t answer)).Alike (q.attend (.tick now t answer)) := by
  obtain ⟨htp, hrp, hsp⟩ := hp.attend_tick hpos now t answer
  obtain ⟨htq, hrq, hsq⟩ := hq.attend_tick hpos now t answer
  obtain ⟨htrader, hregistry⟩ := Trader.onTick_congr h.settled h.registry now t answer
  have heq : (p.attend (.tick now t answer)).trader = (q.attend (.tick now t answer)).trader := by
    rw [htp, htq]
    exact htrader
  refine ⟨heq, ?_, ?_⟩
  · rw [hrp, hrq]
    exact hregistry
  · rw [hsp, hsq, heq]

/-! ## Events -/

theorem Sound.settled_takeEvent (h : p.Sound target) (hq : 0 < target.order.quantity) :
    p.takeEvent.settled = p.settled := by
  unfold takeEvent
  cases htake : p.floor.bus.take p.trader.inbox with
  | mk bus receipt =>
  cases receipt with
  | ended | waits => rfl
  | event e =>
  obtain ⟨rfl, hqueue⟩ := Bus.queued_of_take htake
  have hin := h.inStep hq
  have htail : (p.floor.bus.take p.trader.inbox).1.queued p.trader.inbox =
      (p.floor.bus.queued p.trader.inbox).tail := by
    rw [Bus.queued_take, if_pos rfl]
  have hs := hin.sound
  rw [hqueue] at hs
  rw [settled_eq, settled_eq p, hqueue, List.foldl_cons]
  cases e with
  | placed _ | assistDone _ | assistFailed _ _ =>
    change (List.foldl Trader.hearEvent p.trader
      ((p.floor.bus.take p.trader.inbox).1.queued p.trader.inbox)).concluded = _
    rw [htail]
    rfl
  | orderStatus o =>
    have hheard := hs.hear
    have hpos : 0 < (p.trader.hear o).primary.quantity := by rw [Trader.hear_primary]; exact hin.positive
    change (List.foldl Trader.hearEvent ((p.trader.hear o).finish _).1 (((p.trader.hear o).finish _).2.bus.queued
      ((p.trader.hear o).finish _).1.inbox)).concluded = _
    rw [Trader.fst_finish, Trader.concluded_inbox, Trader.hear_inbox, Trader.heard_finish]
    dsimp only
    rw [htail]
    exact hheard.concluded_heard hpos

theorem Alike.evented (h : p.Alike q) (hp : p.Sound target) (hpos : 0 < target.order.quantity) :
    (p.attend .event).Alike q := by
  unfold attend
  split
  · exact h
  · refine ⟨?_, (hp.settled_takeEvent hpos).trans h.settled⟩
    rw [← h.registry]
    change p.takeEvent.floor.registry = _
    unfold takeEvent
    split
    · exact Trader.registry_onEvent ..
    · rfl

/-! ## What happens around the trader -/

theorem attend_of_not_isOwn {st : Step} (h : ¬ st.isOwn) (p : Post) : p.attend st = p.step st := by
  simp [attend, h]

theorem Sound.settled_status (h : p.Sound target) (hq : 0 < target.order.quantity) (now : UInt64) (u : StatusUpdate) :
    (p.step (.status now u)).settled =
      match (p.floor.registry.merge now u).2 with
      | none => p.settled
      | some o => (p.settled.hear o).concluded := by
  have hin := h.inStep hq
  have hupdated := h.updated now u
  cases hm : (p.floor.registry.merge now u).2 with
  | none =>
    rw [settled_eq, settled_eq]
    change (List.foldl Trader.hearEvent p.trader ((p.floor.status now u).bus.queued p.trader.inbox)).concluded = _
    rw [Floor.status_of_none hm]
  | some o =>
    by_cases hd : p.trader.phase = .done
    · rw [hupdated.settled_of_done hq hd, h.settled_of_done hq hd]
      dsimp only
      rw [hin.hear_of_done h.views hd hm, Trader.concluded_of_done hd]
      rfl
    · have hqueue : (p.floor.status now u).bus.queued p.trader.inbox =
          p.floor.bus.queued p.trader.inbox ++ [.orderStatus o] := by
        rw [Floor.status_of_some hm]
        change (p.floor.bus.publish _).queued _ = _
        rw [Bus.queued_publish, if_pos (hin.listed hd)]
      have hs : p.trader.Sound ((p.floor.status now u).bus.queued p.trader.inbox) _ := (hupdated.inStep hq).sound
      rw [hqueue] at hs
      have hpos : 0 < (List.foldl Trader.hearEvent p.trader (p.floor.bus.queued p.trader.inbox)).primary.quantity := by
        rw [Trader.primary, (Trader.foldl_hearEvent_keeps _ _).1]
        exact hin.positive
      rw [settled_eq, settled_eq p]
      change (List.foldl Trader.hearEvent p.trader ((p.floor.status now u).bus.queued p.trader.inbox)).concluded = _
      rw [hqueue, List.foldl_append]
      exact (hs.heard_before.concluded_heard hpos).symm

theorem settled_publish {e : DeskEvent} (he : ∀ id, e.news? id = none) (p : Post) :
    (p.step (.publish e)).settled = p.settled := by
  rw [settled_eq, settled_eq]
  change (List.foldl Trader.hearEvent p.trader ((p.floor.bus.publish e).queued p.trader.inbox)).concluded = _
  rw [Bus.queued_publish]
  split
  · rw [List.foldl_append, List.foldl_cons, Trader.hearEvent_of_no_news fun id _ => he id]
    rfl
  · rfl

theorem Alike.fits (h : p.Alike q) (st : Step) : st.fits p ↔ st.fits q := by
  have hclosing : ∀ id, p.trader.closing.find? id = none ↔ q.trader.closing.find? id = none := by
    intro id
    have hp := (Trader.catchUp_keeps p.trader p.floor).2.2.2 id
    have hq := (Trader.catchUp_keeps q.trader q.floor).2.2.2 id
    have hsettled : (p.trader.catchUp p.floor).1 = (q.trader.catchUp q.floor).1 := h.settled
    rw [hsettled, hq] at hp
    rw [← Option.not_isSome_iff_eq_none, ← Option.not_isSome_iff_eq_none, hp]
  cases st with
  | place now o answer => simp only [Step.fits, hclosing]
  | tick now t answer | event | status now u | sweep now answer | publish e => exact Iff.rfl

/-- **Posts that are alike stay so**, but for events taken, of which each may
take its own. -/
theorem Alike.attend (h : p.Alike q) (hp : p.Sound target) (hq : q.Sound target) (hpos : 0 < target.order.quantity)
    {st : Step} (hst : ¬ st.isEvent) (hfits : st.fits p) : (p.attend st).Alike (q.attend st) := by
  cases st with
  | tick now t answer => exact (h.ticked hp hq hpos now t answer).2
  | event => exact absurd rfl hst
  | status now u =>
    rw [attend_of_not_isOwn id, attend_of_not_isOwn id]
    refine ⟨?_, ?_⟩
    · change (p.floor.status now u).registry = (q.floor.status now u).registry
      rw [Floor.registry_status, Floor.registry_status, h.registry]
    · rw [hp.settled_status hpos, hq.settled_status hpos, h.registry, h.settled]
  | sweep now answer =>
    rw [attend_of_not_isOwn id, attend_of_not_isOwn id]
    have hsame : ∀ p : Post, (p.step (.sweep now answer)).settled = p.settled := fun p =>
      (settled_eq _).trans (settled_eq p).symm
    refine ⟨?_, by rw [hsame, hsame, h.settled]⟩
    change (p.floor.registry.sweep now answer).1 = (q.floor.registry.sweep now answer).1
    rw [h.registry]
  | place now o answer =>
    rw [attend_of_not_isOwn id, attend_of_not_isOwn id]
    have hsame : ∀ p : Post, (p.step (.place now o answer)).settled = p.settled := fun p =>
      (settled_eq _).trans (settled_eq p).symm
    refine ⟨?_, by rw [hsame, hsame, h.settled]⟩
    change (p.floor.registry.place now o answer).registry = (q.floor.registry.place now o answer).registry
    rw [h.registry]
  | publish e =>
    rw [attend_of_not_isOwn id, attend_of_not_isOwn id]
    exact ⟨h.registry, by rw [settled_publish hfits, settled_publish hfits, h.settled]⟩

theorem Alike.submission?_eq (h : p.Alike q) (st : Step) : p.submission? st = q.submission? st := by
  cases st with
  | tick now t answer => exact congrArg (·.order? t) h.settled
  | event | status now u | sweep now answer | place now o answer | publish e => rfl

/-! ## Schedules -/

theorem Reachable.attended (h : p.Reachable f target) {steps : List Step} (ha : p.Attends steps) :
    (p.attended steps).Reachable f target := by
  induction steps generalizing p with
  | nil => exact h
  | cons st steps ih => exact ih (h.attend ha.1) ha.2

theorem attended_snoc (p : Post) (steps : List Step) (st : Step) :
    p.attended (steps ++ [st]) = (p.attended steps).attend st := List.foldl_append ..

theorem submitted_snoc (p : Post) (steps : List Step) (st : Step) :
    p.submitted (steps ++ [st]) = p.submitted steps ++ ((p.attended steps).submission? st).toList := by
  induction steps generalizing p with
  | nil => simp [submitted, attended]
  | cons s steps ih =>
    have hrest := ih (p.attend s)
    simp only [List.cons_append, submitted, hrest, List.append_assoc]
    rfl

/-- A schedule comes to the same as the one that leaves all events to the ticks. -/
theorem Alike.lazily (hf : f.Tidy) (hpos : 0 < target.order.quantity) {steps : List Step} (h : p.Alike q)
    (hp : p.Reachable f target) (hq : q.Reachable f target)
    (ha : p.Attends steps ∨ q.Attends (Post.lazily steps)) :
    p.Attends steps ∧ q.Attends (Post.lazily steps) ∧ (p.attended steps).Alike (q.attended (Post.lazily steps)) ∧
      p.submitted steps = q.submitted (Post.lazily steps) := by
  induction steps generalizing p q with
  | nil => exact ⟨trivial, trivial, h, rfl⟩
  | cons st steps ih =>
    by_cases hev : st.isEvent
    · obtain rfl := isEvent_iff.mp hev
      have hlazy : Post.lazily (.event :: steps) = Post.lazily steps := rfl
      rw [hlazy] at ha ⊢
      obtain ⟨hap, haq, halike, hsub⟩ := ih (h.evented (hp.sound hf) hpos) (hp.attend trivial) hq (ha.imp_left (·.2))
      exact ⟨⟨trivial, hap⟩, haq, halike, hsub⟩
    · have hlazy : Post.lazily (st :: steps) = st :: Post.lazily steps := by simp [Post.lazily, hev]
      rw [hlazy] at ha ⊢
      have hfits : st.fits p := ha.elim (·.1) fun haq => (h.fits st).mpr haq.1
      have hfitsq := (h.fits st).mp hfits
      obtain ⟨hap, haq, halike, hsub⟩ :=
        ih (h.attend (hp.sound hf) (hq.sound hf) hpos hev hfits) (hp.attend hfits) (hq.attend hfitsq)
          (ha.imp (·.2) (·.2))
      refine ⟨⟨hfits, hap⟩, ⟨hfitsq, haq⟩, halike, ?_⟩
      rw [submitted, submitted, h.submission?_eq st, hsub]

/-! ## The end told -/

def heeded (p : Post) : List Step → List Step
  | [] => []
  | st :: steps => if p.trader.phase = .done ∧ st.isOwn then p.heeded steps else st :: (p.step st).heeded steps

theorem run_heeded (p : Post) (steps : List Step) : p.run (p.heeded steps) = p.attended steps := by
  induction steps generalizing p with
  | nil => rfl
  | cons st steps ih =>
    change _ = (p.attend st).attended steps
    unfold heeded attend
    split
    · exact ih p
    · exact ih (p.step st)

theorem announced_of_isOwn {st : Step} (h : st.isOwn) : st.announced = [] := by
  cases st with
  | tick now t answer | event => rfl
  | status now u | sweep now answer | place now o answer | publish e => exact h.elim

theorem announced_heeded (p : Post) (steps : List Step) :
    (p.heeded steps).flatMap Step.announced = steps.flatMap Step.announced := by
  induction steps generalizing p with
  | nil => rfl
  | cons st steps ih =>
    unfold heeded
    split
    · rename_i h
      rw [List.flatMap_cons, announced_of_isOwn h.2]
      exact ih p
    · rw [List.flatMap_cons, List.flatMap_cons, ih]

theorem announced_lazily (steps : List Step) :
    (lazily steps).flatMap Step.announced = steps.flatMap Step.announced := by
  induction steps with
  | nil => rfl
  | cons st steps ih =>
    unfold lazily at ih ⊢
    by_cases hev : st.isEvent
    · obtain rfl := isEvent_iff.mp hev
      simpa [Step.isEvent, Step.announced] using ih
    · simp [hev, ih]

theorem ends_attended (target : AssistTarget) (hf : f.Tidy) {j : Nat} (hj : f.bus.isListed j) (steps : List Step) :
    ends target.order.id (((start f target).attended steps).floor.bus.queued j) =
      ends target.order.id (f.bus.queued j) + (steps.flatMap Step.announced).count target.order.id +
        if ((start f target).attended steps).trader.phase = .done then 1 else 0 := by
  have hne : j ≠ (start f target).trader.inbox := Nat.ne_of_lt (hf.bus.lt_of_isListed hj)
  have hl : (start f target).floor.bus.isListed j := by
    change f.bus.subscribe.1.isListed j
    rw [Bus.isListed_subscribe hf.bus, hj, Bool.or_true]
  have hqueue : (start f target).floor.bus.queued j = f.bus.queued j := Bus.queued_subscribe hf.bus j
  have harmed : (start f target).trader.phase ≠ .done := by simp [start, Trader.start]
  have hid : (start f target).trader.primary.id = target.order.id := rfl
  have h := ends_run hne hl ((start f target).heeded steps)
  rw [run_heeded, announced_heeded, hqueue, hid] at h
  simpa [harmed] using h

/-- **A trader's two ways of reading updates agree.** Of two schedules that
differ only in how many of the waiting events the trader takes between ticks,
and end with the same tick, both come to the same closing orders, the same
quantity filled and the same orders submitted, and the trader is done after both
or after neither; if it is, both have told the end of the position once. -/
theorem schedules_agree (hf : f.Tidy) (hq : 0 < target.order.quantity) {steps steps' : List Step}
    (ha : (start f target).Attends steps) (hs : lazily steps = lazily steps') {j : Nat} (hj : f.bus.isListed j)
    {now : UInt64} {t : Tick} {answer : Answer} (hp : p = (start f target).attended (steps ++ [.tick now t answer]))
    (hq' : q = (start f target).attended (steps' ++ [.tick now t answer])) :
    p.trader.closing = q.trader.closing ∧ p.trader.filledQuantity = q.trader.filledQuantity ∧
      (p.trader.phase = .done ↔ q.trader.phase = .done) ∧ p.floor.registry = q.floor.registry ∧
      (start f target).submitted (steps ++ [.tick now t answer]) =
        (start f target).submitted (steps' ++ [.tick now t answer]) ∧
      ends target.order.id (p.floor.bus.queued j) = ends target.order.id (q.floor.bus.queued j) ∧
      ends target.order.id (p.floor.bus.queued j) =
        ends target.order.id (f.bus.queued j) + (steps.flatMap Step.announced).count target.order.id +
          if p.trader.phase = .done then 1 else 0 := by
  have hstart : (start f target).Reachable f target := .start
  have hself : (start f target).Alike (start f target) := ⟨rfl, rfl⟩
  obtain ⟨-, hlazy, halike, hsub⟩ := hself.lazily hf hq hstart hstart (Or.inl ha)
  rw [hs] at hlazy halike hsub
  obtain ⟨ha', -, halike', hsub'⟩ := hself.lazily hf hq hstart hstart (Or.inr hlazy)
  -- both schedules are alike before the last tick, for both are like the lazy one
  have hboth : ((start f target).attended steps).Alike ((start f target).attended steps') :=
    ⟨halike.registry.trans halike'.registry.symm, halike.settled.trans halike'.settled.symm⟩
  obtain ⟨htrader, hafter⟩ :=
    hboth.ticked ((hstart.attended ha).sound hf) ((hstart.attended ha').sound hf) hq now t answer
  have hends := ends_attended target hf hj (steps ++ [.tick now t answer])
  have hends' := ends_attended target hf hj (steps' ++ [.tick now t answer])
  rw [← hp] at hends
  rw [← hq'] at hends'
  rw [attended_snoc] at hp hq'
  rw [← hp, ← hq'] at htrader hafter
  have hannounced : steps.flatMap Step.announced = steps'.flatMap Step.announced := by
    rw [← announced_lazily steps, hs, announced_lazily]
  have htick : ∀ steps : List Step, (steps ++ [Step.tick now t answer]).flatMap Step.announced =
      steps.flatMap Step.announced := by
    intro steps
    simp [List.flatMap_append, Step.announced]
  rw [htick] at hends hends'
  refine ⟨by rw [htrader], by rw [htrader], by rw [htrader], hafter.registry, ?_, ?_, hends⟩
  · rw [submitted_snoc, submitted_snoc, hsub.trans hsub'.symm, hboth.submission?_eq]
  · rw [hends, hends', htrader, hannounced]

end

/-- A closing order that fills at once, its fill left to the tick. -/
def filledUnread : List Step :=
  [.tick 9000 lateTick (.reply { orderId := "c1", status := .submitted }), .status 9500 ⟨"c1", .filled, 0, none⟩]

theorem schedules_agree_unread :
    ((start overheardFloor longOfThree).attended
        (filledUnread ++ [.event, .event] ++ [.tick 9600 lateTick (.failure "late")])).trader.phase = .done ∧
      ((start overheardFloor longOfThree).attended
        (filledUnread ++ [.tick 9600 lateTick (.failure "late")])).trader.phase = .done ∧
      ends "p1" (((start overheardFloor longOfThree).attended
        (filledUnread ++ [.tick 9600 lateTick (.failure "late")])).floor.bus.queued 0) = 1 := by
  have ha : (start overheardFloor longOfThree).Attends (filledUnread ++ [.event, .event]) :=
    ⟨trivial, trivial, trivial, trivial, trivial⟩
  obtain ⟨-, -, hdone, -, -, hends, htold⟩ :=
    schedules_agree overheardFloor_tidy (by decide) ha (show _ = lazily filledUnread from rfl)
      (show overheardFloor.bus.isListed 0 from rfl) (Eq.refl ((start overheardFloor longOfThree).attended
        (filledUnread ++ [.event, .event] ++ [.tick 9600 lateTick (.failure "late")]))) rfl
  have heager : ((start overheardFloor longOfThree).attended
      (filledUnread ++ [.event, .event] ++ [.tick 9600 lateTick (.failure "late")])).trader.phase = .done := by rfl
  refine ⟨heager, hdone.mp heager, ?_⟩
  rw [if_pos heager] at htold
  exact hends.symm.trans htold

end Post

end FuturesDesk
