import Mathlib.Data.List.Induction
import FuturesDesk.Proofs.Announcements
import FuturesDesk.Proofs.OneInFlight
import FuturesDesk.Proofs.TrackedStatus

/-!
# Order frames

The client is shown its own orders and all updates at once, but a closing order
only when the relay comes to the event of its placement. Of every order it sees
rising statuses, unless an update overtakes that event.
-/

namespace FuturesDesk

namespace Status

def Rises (ss : List Status) : Prop := ss.Pairwise fun a b => a.rank < b.rank

instance (ss : List Status) : Decidable (Rises ss) :=
  inferInstanceAs (Decidable (ss.Pairwise fun a b => a.rank < b.rank))

theorem Rises.snoc {s t : Status} {ss : List Status} (h : Rises (s :: ss)) (ht : (ss.getLastD s).rank < t.rank) :
    Rises (s :: (ss ++ [t])) := by
  induction ss generalizing s with
  | nil => simpa [Rises] using ht
  | cons u ss ih =>
    rw [List.getLastD_cons] at ht
    have htail := ih (List.pairwise_cons.mp h).2 ht
    have hu : s.rank < u.rank := (List.pairwise_cons.mp h).1 u (List.mem_cons_self ..)
    refine List.pairwise_cons.mpr ⟨fun a ha => ?_, htail⟩
    rcases List.mem_cons.mp ha with rfl | ha
    · exact hu
    · exact Nat.lt_trans hu ((List.pairwise_cons.mp htail).1 a ha)

theorem rises_insert_iff {s : Status} {as bs : List Status} (h : Rises (s :: (as ++ bs))) :
    Rises (as ++ s :: bs) ↔ as = [] := by
  constructor
  · intro hr
    cases as with
    | nil => rfl
    | cons a as =>
      have hsa : s.rank < a.rank := (List.pairwise_cons.mp h).1 a (List.mem_cons_self ..)
      have has : a.rank < s.rank := (List.pairwise_append.mp hr).2.2 a (List.mem_cons_self ..) s (List.mem_cons_self ..)
      omega
  · rintro rfl
    exact h

end Status

def Order.statusOf? (id : String) (o : Order) : Option Status := if o.id = id then some o.status else none

def Frame.order? : Frame → Option Order
  | .message (.order o) => some o
  | .message _ | .pong => none

namespace Session

open Status

/-- The statuses in which the client was shown an order, oldest first. -/
def shown (s : Session) (id : String) : List Status := (s.out.filterMap Frame.order?).filterMap (Order.statusOf? id)

def notices (s : Session) (r : Nat) (id : String) : List Status :=
  ((s.floor.bus.queued r).filterMap DeskEvent.placed?).filterMap (Order.statusOf? id)

def update? (s : Session) (id : String) : Step → Option Status
  | .status now u => (s.registry.merge now u).2.bind (Order.statusOf? id)
  | _ => none

def delivery? (s : Session) (id : String) : Step → Option Status
  | .relay inbox =>
    if inbox ∈ s.relays then
      match s.floor.bus.peek inbox with
      | .event e => e.placed?.bind (Order.statusOf? id)
      | _ => none
    else none
  | _ => none

def Updated (s : Session) (id : String) (steps : List Step) : Prop :=
  ∃ before st after, steps = before ++ st :: after ∧ ((s.run before).update? id st).isSome

/-- An update of an order is merged before its placement is passed on. -/
def Overtaken (s : Session) (id : String) (steps : List Step) : Prop :=
  ∃ before st after, steps = before ++ st :: after ∧
    Updated s id before ∧ ((s.run before).delivery? id st).isSome

/-! ## Turns -/

/-- One relay is at work, and it is on the list of the bus. -/
structure Wired (s : Session) (r : Nat) : Prop where
  relays : s.relays = [r]
  listed : s.floor.bus.isListed r

/-- What a step does to one order, with the update it merges and the placement
it passes on. -/
inductive Turn (r : Nat) (id : String) (s s' : Session) : Option Status → Option Status → Prop
  | beside (given : id ∈ s'.registry.given → id ∈ s.registry.given)
      (status : ∀ t, s'.registry.status? id = some t → s.registry.status? id = some t)
      (notices : s'.notices r id = s.notices r id) (shown : s'.shown id = s.shown id) : Turn r id s s' none none
  /-- The order is the client's own. -/
  | accepted (t : Status) (fresh : id ∉ s.registry.given) (given : id ∈ s'.registry.given)
      (status : s'.registry.status? id = some t) (notices : s'.notices r id = s.notices r id)
      (shown : s'.shown id = s.shown id ++ [t]) : Turn r id s s' none none
  | placed (t : Status) (fresh : id ∉ s.registry.given) (given : id ∈ s'.registry.given)
      (status : s'.registry.status? id = some t) (notices : s'.notices r id = s.notices r id ++ [t])
      (shown : s'.shown id = s.shown id) : Turn r id s s' none none
  | updated (t₀ t : Status) (given : s'.registry.given = s.registry.given) (before : s.registry.status? id = some t₀)
      (rises : t₀.rank < t.rank) (status : s'.registry.status? id = some t)
      (notices : s'.notices r id = s.notices r id) (shown : s'.shown id = s.shown id ++ [t]) :
      Turn r id s s' (some t) none
  | delivered (t : Status) (registry : s'.registry = s.registry) (notices : s.notices r id = t :: s'.notices r id)
      (shown : s'.shown id = s.shown id ++ [t]) : Turn r id s s' none (some t)

section
variable {s s' : Session} {known : String → Option Status} {r : Nat} {id : String}

theorem turn_of_same (hreg : s'.registry = s.registry) (hn : s'.notices r id = s.notices r id)
    (ho : s'.shown id = s.shown id) : Turn r id s s' none none :=
  .beside (by rw [hreg]; exact fun h => h) (by rw [hreg]; exact fun _ h => h) hn ho

theorem shown_push (s : Session) (f : Frame) (id : String) :
    (s.push f).shown id = s.shown id ++ (f.order?.bind (Order.statusOf? id)).toList := by
  simp only [shown, push, List.filterMap_append, List.filterMap_cons, List.filterMap_nil]
  cases f.order? with
  | none => rfl
  | some o =>
    simp only [List.filterMap_cons, List.filterMap_nil, Option.bind_some]
    cases o.statusOf? id <;> rfl

theorem shown_push_of_none (s : Session) {f : Frame} (hf : f.order? = none) (id : String) :
    (s.push f).shown id = s.shown id := by
  rw [shown_push, hf]
  exact List.append_nil _

theorem shown_append {fs : List Frame} (ho : s'.out = s.out ++ fs) (hf : ∀ f ∈ fs, f.order? = none) (id : String) :
    s'.shown id = s.shown id := by
  have hnone : fs.filterMap Frame.order? = [] := List.filterMap_eq_nil_iff.mpr hf
  rw [shown, ho, List.filterMap_append, hnone, List.append_nil]
  rfl

theorem Wired.of_floor (h : s.Wired r) (hr : s'.relays = s.relays)
    (hl : s'.floor.bus.isListed r = s.floor.bus.isListed r) : s'.Wired r :=
  ⟨hr.trans h.relays, hl.trans h.listed⟩

/-! ## Commands -/

/-- A session after a command of the client, for one order: it is not concerned,
or it has just been accepted as the client's own. -/
structure Commanded (id : String) (s s' : Session) : Prop where
  bus : s'.floor.bus = s.floor.bus
  relays : s'.relays = s.relays
  order : (id ∈ s'.registry.given → id ∈ s.registry.given) ∧ s'.registry.status? id = s.registry.status? id ∧
      s'.shown id = s.shown id ∨
    id ∉ s.registry.given ∧ id ∈ s'.registry.given ∧
      ∃ t, s'.registry.status? id = some t ∧ s'.shown id = s.shown id ++ [t]

theorem commanded_placeUnit (s : Session) (now : UInt64) (c : Command) (ticket : Ticket)
    (hn : (s.placeUnit now c ticket).1.registry.given.Nodup) : Commanded id s (s.placeUnit now c ticket).1 := by
  have hf := filed_placeUnit s now c ticket
  have hreg := hf.registry_eq
  have hgiven := hf.given
  have hfresh := hf.grown.fresh (hreg ▸ hn)
  have hst := hf.grown.status?_eq id
  rw [← hreg] at hst
  refine ⟨by rw [hf.floor], hf.relays, ?_⟩
  rcases placeUnit_cases s now c ticket with ⟨ha, text, he⟩ | ⟨reply, ha, he⟩
  · left
    rw [Registry.accepted_of_refused _ _ _ ha] at hgiven hst
    refine ⟨?_, hst, ?_⟩
    · rw [hgiven]
      simp
    · rw [he]
      exact shown_push_of_none s rfl id
  · rw [Registry.accepted_of_accepted _ _ _ ha] at hgiven hst hfresh
    have hshown : (s.placeUnit now c ticket).1.shown id =
        s.shown id ++ (((unitOrder c ticket.group).accepted reply now).statusOf? id).toList := by
      rw [he]
      exact shown_push s (.message (.order ((unitOrder c ticket.group).accepted reply now))) id
    by_cases hid : ((unitOrder c ticket.group).accepted reply now).id = id
    · right
      refine ⟨hid ▸ hfresh _ (List.mem_singleton.mpr rfl), ?_,
        ((unitOrder c ticket.group).accepted reply now).status, ?_, ?_⟩
      · rw [hgiven]
        simp [hid]
      · rw [hst]
        simp [hid]
      · rw [hshown, Order.statusOf?, if_pos hid]
        rfl
    · left
      refine ⟨?_, ?_, ?_⟩
      · rw [hgiven]
        intro hm
        rcases List.mem_append.mp hm with hm | hm
        · exact hm
        · exact absurd (List.mem_singleton.mp hm).symm hid
      · rw [hst]
        simp [hid]
      · rw [hshown, Order.statusOf?, if_neg hid]
        exact List.append_nil _

theorem commanded_placeUnits (s : Session) (now : UInt64) (c : Command) (tickets : List Ticket)
    (hn : (s.placeUnits now c tickets).1.registry.given.Nodup) : Commanded id s (s.placeUnits now c tickets).1 := by
  induction tickets generalizing s with
  | nil => exact ⟨rfl, rfl, Or.inl ⟨fun h => h, rfl, rfl⟩⟩
  | cons ticket tickets ih =>
    have hgrow := given_placeUnits (s.placeUnit now c ticket).1 now c tickets
    have hunit : Commanded id s (s.placeUnit now c ticket).1 :=
      commanded_placeUnit s now c ticket (hgrow.sublist.nodup hn)
    have hrest := ih (s.placeUnit now c ticket).1 hn
    refine ⟨hrest.bus.trans hunit.bus, hrest.relays.trans hunit.relays, ?_⟩
    rcases hunit.order with ⟨hg, hs, ho⟩ | ⟨hfresh, hg, t, hs, ho⟩
    · rcases hrest.order with ⟨hg', hs', ho'⟩ | ⟨hfresh', hg', t, hs', ho'⟩
      · exact Or.inl ⟨fun h => hg (hg' h), hs'.trans hs, ho'.trans ho⟩
      · refine Or.inr ⟨?_, hg', t, hs', ho'.trans (by rw [ho])⟩
        intro hm
        exact hfresh' ((given_placeUnits s now c [ticket]).subset hm)
    · -- no later unit is given the same id
      rcases hrest.order with ⟨-, hs', ho'⟩ | ⟨hfresh', -⟩
      · exact Or.inr ⟨hfresh, hgrow.subset hg, t, hs'.trans hs, ho'.trans ho⟩
      · exact absurd hg hfresh'

theorem commanded_text (s : Session) (now : UInt64) (t : String) (ticket : Nat → Ticket)
    (hn : (s.text now t ticket).registry.given.Nodup) : Commanded id s (s.text now t ticket) := by
  have told : ∀ f : Frame, f.order? = none → Commanded id s (s.push f) := by
    intro f hf
    exact ⟨rfl, rfl, Or.inl ⟨fun h => h, rfl, shown_push_of_none s hf id⟩⟩
  unfold text at hn ⊢
  split
  · exact told _ rfl
  · rename_i hping
    rw [if_neg hping] at hn
    cases hc : Command.ofText t with
    | error flaw => exact told _ rfl
    | ok c =>
      rw [hc] at hn
      dsimp only at hn ⊢
      unfold command at hn ⊢
      cases hr : (s.admission now).refusal? c with
      | some r => exact told _ rfl
      | none =>
        rw [hr] at hn
        exact commanded_placeUnits s now c _ hn

theorem turn_commanded (hw : s.Wired r) (hc : Commanded id s s') : s'.Wired r ∧ Turn r id s s' none none := by
  have hnotices : s'.notices r id = s.notices r id := by unfold notices; rw [hc.bus]
  refine ⟨hw.of_floor hc.relays (by rw [hc.bus]), ?_⟩
  rcases hc.order with ⟨hg, hs, hshown⟩ | ⟨hfresh, hg, t, hs, hshown⟩
  · exact .beside hg (by rw [hs]; exact fun _ h => h) hnotices hshown
  · exact .accepted t hfresh hg hs hnotices hshown

/-! ## Updates and promotions -/

theorem turn_status (h : s.Sound known) (hw : s.Wired r) (now : UInt64) (u : StatusUpdate) :
    (s.status now u).Wired r ∧ Turn r id s (s.status now u) (s.update? id (.status now u)) none := by
  have hreg := registry_status s now u
  rcases status_cases s now u with ⟨hm, he⟩ | ⟨o, hm, he⟩
  · have hup : s.update? id (.status now u) = none := by rw [update?, hm]; rfl
    have hst := Registry.status?_of_merge_none hm id
    rw [hup]
    refine ⟨hw.of_floor (by rw [he]; rfl) (by rw [he]; rfl), .beside ?_ ?_ (by rw [he]; rfl) (by rw [he]; rfl)⟩
    · rw [hreg, Registry.given_merge]
      exact fun hg => hg
    · rw [hreg, hst]
      exact fun _ hs => hs
  · obtain ⟨o₀, ho₀, rfl, hs, hu, hterm, hne⟩ := Registry.of_merge_some hm
    have hoid : (o₀.merged now u).id = u.orderId := (Order.merged_id ..).trans (h.views.keyed _ _ ho₀)
    have hbus : (s.status now u).floor.bus = s.floor.bus.publish (.orderStatus (o₀.merged now u)) := by
      rw [floor_status, Floor.status_of_some hm]
      rfl
    have hn : (s.status now u).notices r id = s.notices r id := by
      unfold notices
      rw [hbus, Bus.queued_publish, if_pos hw.listed]
      simp [DeskEvent.placed?]
    have ho : (s.status now u).shown id = s.shown id ++ ((o₀.merged now u).statusOf? id).toList := by
      rw [he]
      exact shown_push s (.message (.order (o₀.merged now u))) id
    have hup : s.update? id (.status now u) = (o₀.merged now u).statusOf? id := by rw [update?, hm]; rfl
    refine ⟨hw.of_floor (by rw [he]) (by rw [hbus, Bus.isListed_publish]), ?_⟩
    rw [hup]
    by_cases hid : (o₀.merged now u).id = id
    · have hsome : (o₀.merged now u).statusOf? id = some u.status := by rw [Order.statusOf?, if_pos hid, hs]
      rw [hsome] at ho ⊢
      have hidu : id = u.orderId := hid.symm.trans hoid
      have hst₀ : s.registry.status? id = some o₀.status := Registry.status?_eq_some.mpr ⟨o₀, hidu ▸ ho₀, rfl⟩
      have hst : (s.registry.merge now u).1.status? id = some (o₀.status.next u.status) := by
        rw [Registry.status?_merge, if_pos hidu, hst₀]
        rfl
      rw [Order.merged_status] at hs
      rw [hs] at hst
      refine .updated o₀.status u.status ?_ hst₀ ?_ (hreg ▸ hst) hn ho
      · rw [hreg, Registry.given_merge]
      · have hle : o₀.status.rank ≤ u.status.rank := hs ▸ Status.rank_le_next o₀.status u.status
        have hneq : o₀.status.rank ≠ u.status.rank := fun hr => hne (Status.eq_of_rank_eq hterm hr)
        omega
    · have hnone : (o₀.merged now u).statusOf? id = none := by rw [Order.statusOf?, if_neg hid]
      rw [hnone] at ho ⊢
      refine .beside ?_ ?_ hn (by rw [ho]; exact List.append_nil _)
      · rw [hreg, Registry.given_merge]
        exact fun hg => hg
      · rw [hreg, Registry.status?_merge, if_neg fun hidu => hid (hoid.trans hidu.symm)]
        exact fun _ ht => ht

theorem turn_startAssist (h : s.floor.bus.Tidy) (hw : s.Wired r) (target : AssistTarget) (id : String) :
    (s.startAssist target).floor.bus.Tidy ∧ (s.startAssist target).Wired r ∧
      (s.startAssist target).notices r id = s.notices r id ∧ (s.startAssist target).shown id = s.shown id := by
  obtain ⟨queues, workers, out, he, -, hout⟩ := s.startAssist_parts target
  have hbus : (s.startAssist target).floor.bus = s.floor.bus.subscribe.1 := by rw [he]
  have hl : (s.startAssist target).floor.bus.isListed r = s.floor.bus.isListed r := by
    rw [hbus, Bus.isListed_subscribe h, hw.listed, Bool.or_true]
  refine ⟨by rw [hbus]; exact h.subscribe, hw.of_floor (by rw [he]) hl, ?_, ?_⟩
  · unfold notices
    rw [hbus, Bus.queued_subscribe h]
  · rw [he]
    refine shown_append rfl (fun f hf => ?_) id
    rw [hout f hf]
    rfl

theorem turn_startAll (h : s.floor.bus.Tidy) (hw : s.Wired r) (targets : List AssistTarget) (id : String) :
    (targets.foldl startAssist s).Wired r ∧ (targets.foldl startAssist s).notices r id = s.notices r id ∧
      (targets.foldl startAssist s).shown id = s.shown id := by
  induction targets generalizing s with
  | nil => exact ⟨hw, rfl, rfl⟩
  | cons target targets ih =>
    obtain ⟨ht, hw', hn, ho⟩ := turn_startAssist h hw target id
    obtain ⟨hw'', hn', ho'⟩ := ih ht hw'
    exact ⟨hw'', hn'.trans hn, ho'.trans ho⟩

theorem turn_promote (h : s.floor.bus.Tidy) (hw : s.Wired r) : s.promote.Wired r ∧ Turn r id s s.promote none none := by
  obtain ⟨hw', hn, ho⟩ := turn_startAll (r := r)
    (s := { s with pending := s.pending.filter fun _ t => t.order.status.isCancellable }) h ⟨hw.relays, hw.listed⟩
    s.ready id
  exact ⟨hw', turn_of_same (registry_startAll ..) hn ho⟩

/-- A session that lets go of ended orders and pushes no order. -/
theorem turn_shed (hw : s.Wired r) {r' : Registry} (hs : s.registry.Sheds r') {fs : List Frame}
    (hf : ∀ f ∈ fs, f.order? = none) :
    ({ s.setRegistry r' with out := s.out ++ fs } : Session).Wired r ∧
      Turn r id s { s.setRegistry r' with out := s.out ++ fs } none none :=
  ⟨⟨hw.relays, hw.listed⟩, .beside (fun hg => hs.given ▸ hg) (hs.status id) rfl (shown_append rfl hf id)⟩

theorem turn_supervise (hw : s.Wired r) (now : UInt64) (answer : String → Answer) :
    (s.supervise now answer).Wired r ∧ Turn r id s (s.supervise now answer) none none := by
  rw [supervise_eq]
  refine turn_shed hw (s.registry.sheds_sweep now answer) fun f hf => ?_
  obtain ⟨text, rfl⟩ := error_of_mem_frames hf
  rfl

/-! ## Relays -/

theorem shown_event (s : Session) (e : DeskEvent) (id : String) :
    (s.event e).shown id = s.shown id ++ (e.placed?.bind (Order.statusOf? id)).toList := by
  cases e with
  | orderStatus o => exact (List.append_nil _).symm
  | placed o => exact shown_push _ (.message (.order o)) id
  | assistFailed primary reason => exact (shown_push_of_none _ rfl id).trans (List.append_nil _).symm
  | assistDone primary =>
    obtain ⟨queues, workers, out, he, -, hout⟩ := s.release_parts primary
    refine Eq.trans ?_ (List.append_nil _).symm
    rw [event, he]
    refine shown_append rfl (fun f hf => ?_) id
    rw [hout f hf]
    rfl

theorem turn_relay (hw : s.Wired r) (inbox : Nat) :
    (s.relay inbox).Wired r ∧ Turn r id s (s.relay inbox) none (s.delivery? id (.relay inbox)) := by
  rcases relay_cases s inbox with ⟨he, hno⟩ | ⟨bus, e, hr, ht, he⟩
  · have hnone : s.delivery? id (.relay inbox) = none := by
      simp only [delivery?]
      by_cases hr : inbox ∈ s.relays
      · rw [if_pos hr]
        cases hp : s.floor.bus.peek inbox with
        | event e => exact absurd hp (hno hr e)
        | ended | waits => rfl
      · exact if_neg hr
    rw [hnone, he]
    exact ⟨hw, turn_of_same rfl rfl rfl⟩
  · have hir : inbox = r := by
      rw [hw.relays] at hr
      exact List.mem_singleton.mp hr
    subst hir
    have hd : s.delivery? id (.relay inbox) = e.placed?.bind (Order.statusOf? id) := by
      have hp : s.floor.bus.peek inbox = .event e := congrArg (·.2) ht
      simp only [delivery?]
      rw [if_pos hr, hp]
    obtain ⟨rfl, hq⟩ := Bus.queued_of_take ht
    obtain ⟨hf, hrel, -, -⟩ := event_keeps { s with floor := { s.floor with bus := (s.floor.bus.take inbox).1 } } e
    have hshown := shown_event { s with floor := { s.floor with bus := (s.floor.bus.take inbox).1 } } e id
    rw [← he] at hf hrel hshown
    have hreg : (s.relay inbox).registry = s.registry := by rw [registry, hf]; rfl
    have hnotices : s.notices inbox id =
        (e.placed?.bind (Order.statusOf? id)).toList ++ (s.relay inbox).notices inbox id := by
      unfold notices
      rw [hf, Bus.queued_take, if_pos rfl, hq]
      simp only [List.tail_cons, List.filterMap_cons]
      cases e.placed? with
      | none => rfl
      | some o =>
        simp only [List.filterMap_cons, Option.bind_some]
        cases o.statusOf? id <;> rfl
    refine ⟨hw.of_floor hrel (by rw [hf, Bus.isListed_take]), ?_⟩
    rw [hd]
    cases hp : e.placed?.bind (Order.statusOf? id) with
    | none =>
      rw [hp] at hshown hnotices
      exact turn_of_same hreg hnotices.symm (hshown.trans (List.append_nil _))
    | some t =>
      rw [hp] at hshown hnotices
      exact .delivered t hreg hnotices hshown

/-! ## Traders -/

theorem tells_settleWorker (s : Session) (w : Worker) (f : Floor) :
    Bus.Tells w.trader.inbox [] f.bus (s.settleWorker w f).floor.bus ∧
      (s.settleWorker w f).relays = s.relays ∧ (s.settleWorker w f).out = s.out := by
  unfold settleWorker
  dsimp only
  split
  · exact ⟨Bus.tells_drop _ _, rfl, rfl⟩
  · exact ⟨Bus.tells_refl _ _, rfl, rfl⟩

theorem turn_settleWorker (h : s.Sound known) (hw : s.Wired r) {w w' : Worker} (hmem : w ∈ s.workers)
    (hi : w'.trader.inbox = w.trader.inbox) {f : Floor} {new : Option Order} {es : List DeskEvent}
    (hg : s.registry.Grown f.registry new.toList) (hes : es.filterMap DeskEvent.placed? = new.toList)
    (htell : Bus.Tells w.trader.inbox es s.floor.bus f.bus) (hn : f.registry.given.Nodup) :
    (s.settleWorker w' f).Wired r ∧ Turn r id s (s.settleWorker w' f) none none := by
  obtain ⟨hsettle, hrel, hout⟩ := tells_settleWorker s w' f
  rw [hi] at hsettle
  have hall := htell.trans hsettle
  have hreg : (s.settleWorker w' f).registry = f.registry := registry_settleWorker s w' f
  have hne : r ≠ w.trader.inbox := by
    have hr : r ∈ s.relays := by rw [hw.relays]; exact List.mem_singleton.mpr rfl
    exact fun he => (h.staffed.relays r hr).2 w.trader (List.mem_map_of_mem hmem) he.symm
  have hshown : (s.settleWorker w' f).shown id = s.shown id := by rw [shown, hout]; rfl
  have hnotices : (s.settleWorker w' f).notices r id =
      s.notices r id ++ new.toList.filterMap (Order.statusOf? id) := by
    unfold notices
    rw [hall.queued r hne, if_pos hw.listed, List.append_nil, List.filterMap_append, List.filterMap_append, hes]
  have hgiven := hg.given
  have hst := hg.status?_eq id
  have hfresh := hg.fresh hn
  rw [← hreg] at hgiven hst
  refine ⟨hw.of_floor hrel (hall.listed r hne), ?_⟩
  cases new with
  | none =>
    refine .beside ?_ ?_ (by simpa using hnotices) hshown
    · rw [hgiven]
      simp
    · rw [hst]
      exact fun _ ht => ht
  | some o =>
    by_cases hid : o.id = id
    · refine .placed o.status (hid ▸ hfresh o (List.mem_singleton.mpr rfl)) ?_ ?_ ?_ hshown
      · rw [hgiven]
        simp [hid]
      · rw [hst]
        simp [hid]
      · rw [hnotices]
        simp [Order.statusOf?, hid]
    · refine .beside ?_ ?_ ?_ hshown
      · rw [hgiven]
        intro hm
        rcases List.mem_append.mp hm with hm | hm
        · exact hm
        · exact absurd (List.mem_singleton.mp hm).symm hid
      · rw [hst]
        simp [hid]
      · rw [hnotices]
        simp [Order.statusOf?, hid]

theorem turn_traderTick (h : s.Sound known) (hw : s.Wired r) (inbox : Nat) (now : UInt64) (answer : Answer)
    (hn : (s.traderTick inbox now answer).registry.given.Nodup) :
    (s.traderTick inbox now answer).Wired r ∧ Turn r id s (s.traderTick inbox now answer) none none := by
  rcases traderTick_cases h.staffed inbox now answer with he | ⟨w, hmem, t, ticks, he⟩
  · rw [he]
    exact ⟨hw, turn_of_same rfl rfl rfl⟩
  · rw [he, registry_settleWorker] at hn
    rw [he]
    obtain ⟨es, hsays, htell⟩ := Trader.tells_onTick w.trader s.floor now t answer
    have hi := (Trader.onTick_keeps w.trader s.floor now t answer).2
    exact turn_settleWorker h hw hmem hi (Trader.grown_onTick ..) hsays.placed htell hn

theorem turn_traderEvent (h : s.Sound known) (hw : s.Wired r) (inbox : Nat)
    (hn : (s.traderEvent inbox).registry.given.Nodup) :
    (s.traderEvent inbox).Wired r ∧ Turn r id s (s.traderEvent inbox) none none := by
  rcases traderEvent_cases s inbox with he | ⟨w, hmem, bus, e, htake, he⟩
  · rw [he]
    exact ⟨hw, turn_of_same rfl rfl rfl⟩
  · rw [he, registry_settleWorker] at hn
    rw [he]
    obtain ⟨rfl, -⟩ := Bus.queued_of_take htake
    obtain ⟨es, hsays, htell⟩ :=
      Trader.tells_onEvent w.trader { s.floor with bus := (s.floor.bus.take w.trader.inbox).1 } e
    have hi := (Trader.onEvent_keeps w.trader { s.floor with bus := (s.floor.bus.take w.trader.inbox).1 } e).2
    have hg : s.registry.Grown
        (w.trader.onEvent { s.floor with bus := (s.floor.bus.take w.trader.inbox).1 } e).2.registry
        (none : Option Order).toList := by
      rw [Trader.registry_onEvent]
      exact Registry.grown_refl _
    exact turn_settleWorker h hw hmem hi hg hsays.placed ((Bus.tells_take _ _).trans htell) hn

/-- **What a step does to one order.** -/
theorem turn_step (h : s.Sound known) (hw : s.Wired r) {st : Step} (hr : ∀ i, st ≠ .release i)
    (ho : st ≠ .openRelay) (hn : (s.step st).registry.given.Nodup) :
    (s.step st).Wired r ∧ Turn r id s (s.step st) (s.update? id st) (s.delivery? id st) := by
  cases st with
  | text now t ticket => exact turn_commanded hw (commanded_text s now t ticket hn)
  | status now u => exact turn_status h hw now u
  | tick t => exact ⟨⟨hw.relays, hw.listed⟩, turn_of_same rfl rfl (shown_push_of_none (s.offer t) rfl id)⟩
  | prune => exact ⟨⟨hw.relays, hw.listed⟩, turn_of_same rfl rfl rfl⟩
  | promote => exact turn_promote h.staffed.tidy hw
  | supervise now answer => exact turn_supervise hw now answer
  | release i => exact absurd rfl (hr i)
  | openRelay => exact absurd rfl ho
  | relay inbox => exact turn_relay hw inbox
  | traderTick inbox now answer => exact turn_traderTick h hw inbox now answer hn
  | traderEvent inbox => exact turn_traderEvent h hw inbox hn

/-! ## Courses -/

/-- An order accepted in status `t₀`, with the updates merged since. -/
structure Course (s : Session) (id : String) (t₀ : Status) (updates : List Status) : Prop where
  given : id ∈ s.registry.given
  rises : Rises (t₀ :: updates)
  current : ∀ t, s.registry.status? id = some t → t = updates.getLastD t₀

structure Unborn (s : Session) (r : Nat) (id : String) : Prop where
  fresh : id ∉ s.registry.given
  status : s.registry.status? id = none
  notices : s.notices r id = []
  shown : s.shown id = []

/-- The placement waits for the relay; the updates are shown already. -/
structure Heralded (s : Session) (r : Nat) (id : String) (t₀ : Status) (updates : List Status) : Prop
    extends Course s id t₀ updates where
  notices : s.notices r id = [t₀]
  shown : s.shown id = updates

/-- The placement was shown after some of the updates. -/
structure Presented (s : Session) (r : Nat) (id : String) (t₀ : Status) (early late : List Status) : Prop
    extends Course s id t₀ (early ++ late) where
  notices : s.notices r id = []
  shown : s.shown id = early ++ t₀ :: late

section
variable {t₀ : Status} {us early late : List Status} {u d : Option Status} {U O : Prop}

theorem course_new {t : Status} (hg : id ∈ s.registry.given) (hs : s.registry.status? id = some t) :
    Course s id t [] := by
  refine ⟨hg, List.pairwise_singleton .., fun t' ht' => ?_⟩
  rw [hs] at ht'
  exact (Option.some.inj ht').symm

theorem Course.kept (h : Course s id t₀ us) (hg : id ∈ s'.registry.given)
    (hs : ∀ t, s'.registry.status? id = some t → s.registry.status? id = some t) : Course s' id t₀ us :=
  ⟨hg, h.rises, fun t ht => h.current t (hs t ht)⟩

theorem Course.extended (h : Course s id t₀ us) (hg : id ∈ s'.registry.given) {t₁ t : Status}
    (hs : s.registry.status? id = some t₁) (hlt : t₁.rank < t.rank) (hs' : s'.registry.status? id = some t) :
    Course s' id t₀ (us ++ [t]) := by
  refine ⟨hg, h.rises.snoc (h.current t₁ hs ▸ hlt), fun t' ht' => ?_⟩
  rw [hs', Option.some.injEq] at ht'
  simp [ht']

theorem Presented.turn (h : Presented s r id t₀ early late) (ht : Turn r id s s' u d)
    (hg : id ∈ s'.registry.given) : d = none ∧ ∃ late', Presented s' r id t₀ early late' := by
  cases ht with
  | beside _ hs hn ho => exact ⟨rfl, late, h.toCourse.kept hg hs, hn.trans h.notices, ho.trans h.shown⟩
  | accepted t hfresh _ _ _ _ => exact absurd h.given hfresh
  | placed t hfresh _ _ _ _ => exact absurd h.given hfresh
  | updated t₁ t _ hs hlt hs' hn ho =>
    refine ⟨rfl, late ++ [t], ?_, hn.trans h.notices, ?_⟩
    · rw [← List.append_assoc]
      exact h.toCourse.extended hg hs hlt hs'
    · rw [ho, h.shown]
      simp
  | delivered t _ hn _ =>
    rw [h.notices] at hn
    cases hn

/-- How far an order has come, after a run in which it was updated or not and
overtaken or not. -/
def Stage (r : Nat) (id : String) (s : Session) (U O : Prop) : Prop :=
  (Unborn s r id ∧ ¬ U ∧ ¬ O) ∨ (∃ t₀ us, Heralded s r id t₀ us ∧ (U ↔ us ≠ []) ∧ ¬ O) ∨
    ∃ t₀ early late, Presented s r id t₀ early late ∧ (O ↔ early ≠ [])

theorem Unborn.turn (h : Unborn s r id) (ht : Turn r id s s' u d) (hu : ¬ U) (ho : ¬ O) :
    Stage r id s' (U ∨ u.isSome) (O ∨ U ∧ d.isSome) := by
  cases ht with
  | beside hg hs hn hshown =>
    refine Or.inl ⟨⟨fun hm => h.fresh (hg hm), ?_, hn.trans h.notices, hshown.trans h.shown⟩, by simp [hu],
      by simp [ho]⟩
    cases hst : s'.registry.status? id with
    | none => rfl
    | some t =>
      have := hs t hst
      rw [h.status] at this
      cases this
  | accepted t _ hg hs hn hshown =>
    refine Or.inr (Or.inr ⟨t, [], [], ⟨course_new hg hs, hn.trans h.notices, ?_⟩, by simp [ho]⟩)
    rw [hshown, h.shown]
  | placed t _ hg hs hn hshown =>
    refine Or.inr (Or.inl ⟨t, [], ⟨course_new hg hs, ?_, hshown.trans h.shown⟩, by simp [hu], by simp [ho]⟩)
    rw [hn, h.notices]
    rfl
  | updated t₁ t _ hs _ _ _ _ =>
    rw [h.status] at hs
    cases hs
  | delivered t _ hn _ =>
    rw [h.notices] at hn
    cases hn

theorem Unborn.presented (h : Unborn s r id) (hc : Commanded id s s') (hg : id ∈ s'.registry.given) :
    ∃ t, Presented s' r id t [] [] := by
  rcases hc.order with ⟨hold, -⟩ | ⟨-, -, t, hs, ho⟩
  · exact absurd (hold hg) h.fresh
  · refine ⟨t, course_new hg hs, ?_, ?_⟩
    · have hn := h.notices
      rw [Session.notices] at hn ⊢
      rwa [hc.bus]
    · rw [ho, h.shown]

theorem Heralded.turn (h : Heralded s r id t₀ us) (ht : Turn r id s s' u d) (hg : id ∈ s'.registry.given)
    (hu : U ↔ us ≠ []) (ho : ¬ O) : Stage r id s' (U ∨ u.isSome) (O ∨ U ∧ d.isSome) := by
  cases ht with
  | beside _ hs hn hshown =>
    exact Or.inr (Or.inl ⟨t₀, us, ⟨h.toCourse.kept hg hs, hn.trans h.notices, hshown.trans h.shown⟩,
      by simp [hu], by simp [ho]⟩)
  | accepted t hfresh _ _ _ _ => exact absurd h.given hfresh
  | placed t hfresh _ _ _ _ => exact absurd h.given hfresh
  | updated t₁ t _ hs hlt hs' hn hshown =>
    refine Or.inr (Or.inl ⟨t₀, us ++ [t], ⟨h.toCourse.extended hg hs hlt hs', hn.trans h.notices, ?_⟩,
      by simp, by simp [ho]⟩)
    rw [hshown, h.shown]
  | delivered t hreg hn hshown =>
    -- the placement comes now, after whatever updates were shown in the meantime
    rw [h.notices] at hn
    obtain ⟨rfl, hrest⟩ := List.cons.inj hn
    have hc : Course s' id t₀ (us ++ []) := by
      rw [List.append_nil]
      exact h.toCourse.kept hg (by rw [hreg]; exact fun _ ht => ht)
    refine Or.inr (Or.inr ⟨t₀, us, [], ⟨hc, hrest.symm, ?_⟩, by simp [ho, hu]⟩)
    rw [hshown, h.shown]

theorem Stage.turn (h : Stage r id s U O) (ht : Turn r id s s' u d) (hg : s.registry.given <+: s'.registry.given) :
    Stage r id s' (U ∨ u.isSome) (O ∨ U ∧ d.isSome) := by
  rcases h with ⟨hun, hu, ho⟩ | ⟨t₀, us, hh, hu, ho⟩ | ⟨t₀, early, late, hp, ho⟩
  · exact hun.turn ht hu ho
  · exact hh.turn ht (hg.subset hh.given) hu ho
  · obtain ⟨rfl, late', hp'⟩ := hp.turn ht (hg.subset hp.given)
    exact Or.inr (Or.inr ⟨t₀, early, late', hp', by simp [ho]⟩)

theorem Stage.rises_iff (h : Stage r id s U O) : Rises (s.shown id) ↔ ¬ O := by
  rcases h with ⟨hun, -, ho⟩ | ⟨t₀, us, hh, -, ho⟩ | ⟨t₀, early, late, hp, ho⟩
  · rw [hun.shown]
    simp [ho, Rises]
  · rw [hh.shown]
    have := (List.pairwise_cons.mp hh.rises).2
    simp [ho, Rises, this]
  · rw [hp.shown, rises_insert_iff hp.rises, ho]
    simp

theorem Stage.unborn (h : Stage r id s U O) (hfresh : id ∉ s.registry.given) : Unborn s r id := by
  rcases h with ⟨hun, -⟩ | ⟨t₀, us, hh, -⟩ | ⟨t₀, early, late, hp, -⟩
  · exact hun
  · exact absurd hh.given hfresh
  · exact absurd hp.given hfresh

theorem Stage.updates_rise (h : Stage r id s U O) :
    ∃ us, Rises us ∧ us.Sublist (s.shown id) ∧ (s.shown id).length ≤ us.length + 1 := by
  rcases h with ⟨hun, -, -⟩ | ⟨t₀, us, hh, -, -⟩ | ⟨t₀, early, late, hp, -⟩
  · exact ⟨[], List.Pairwise.nil, List.nil_sublist _, by simp [hun.shown]⟩
  · exact ⟨us, (List.pairwise_cons.mp hh.rises).2, by rw [hh.shown], by simp [hh.shown]⟩
  · refine ⟨early ++ late, (List.pairwise_cons.mp hp.rises).2, ?_, ?_⟩
    · rw [hp.shown]
      exact List.Sublist.append_left (List.sublist_cons_self ..) _
    · rw [hp.shown, List.length_append, List.length_append, List.length_cons]
      omega

end

/-! ## Turns one after the other -/

/-- What is done in turn takes one turn at a time for an order, and takes back
no id. -/
def Turns {α : Type} (r : Nat) (id : String) (seen : List α → Session) (up del : List α → α → Option Status)
    (xs : List α) : Prop :=
  ∀ ys a, ys ++ [a] <+: xs → Turn r id (seen ys) (seen (ys ++ [a])) (up ys a) (del ys a) ∧
    (seen ys).registry.given <+: (seen (ys ++ [a])).registry.given

section
variable {α : Type} {a : α} {xs ys : List α} {seen : List α → Session} {up del : List α → α → Option Status}

theorem Turns.left (h : Turns r id seen up del (xs ++ ys)) : Turns r id seen up del xs :=
  fun zs b hp => h zs b (hp.trans (List.prefix_append ..))

theorem Turns.right (h : Turns r id seen up del (xs ++ ys)) :
    Turns r id (fun zs => seen (xs ++ zs)) (fun zs => up (xs ++ zs)) (fun zs => del (xs ++ zs)) ys := by
  intro zs b hp
  have hturn := h (xs ++ zs) b (by rw [List.append_assoc]; exact (List.prefix_append_right_inj xs).mpr hp)
  rwa [List.append_assoc] at hturn

theorem Turns.stage (h : Turns r id seen up del xs) (hun : Unborn (seen []) r id) :
    Stage r id (seen xs) (∃ ys a zs, xs = ys ++ a :: zs ∧ (up ys a).isSome)
      (∃ ys a zs, xs = ys ++ a :: zs ∧ (∃ ys' a' zs', ys = ys' ++ a' :: zs' ∧ (up ys' a').isSome) ∧
        (del ys a).isSome) := by
  induction xs using List.reverseRecOn with
  | nil => exact Or.inl ⟨hun, by simp, by simp⟩
  | append_singleton xs a ih =>
    obtain ⟨hturn, hgrow⟩ := h xs a (List.prefix_refl _)
    rw [exists_split_snoc, exists_split_snoc]
    exact (ih h.left).turn hturn hgrow

theorem Turns.presented (h : Turns r id seen up del xs) {t₀ : Status} {early late : List Status}
    (hp : Presented (seen []) r id t₀ early late) : ∃ late', Presented (seen xs) r id t₀ early late' := by
  induction xs using List.reverseRecOn with
  | nil => exact ⟨late, hp⟩
  | append_singleton xs a ih =>
    obtain ⟨hturn, hgrow⟩ := h xs a (List.prefix_refl _)
    obtain ⟨late', hp'⟩ := ih h.left
    exact (hp'.turn hturn (hgrow.subset hp'.given)).2

/-- An order of the client is shown from its placement on. -/
theorem Turns.rises_of_commanded (h : Turns r id seen up del (xs ++ a :: ys)) (hun : Unborn (seen []) r id)
    (hc : Commanded id (seen xs) (seen (xs ++ [a]))) (hfresh : id ∉ (seen xs).registry.given)
    (hgiven : id ∈ (seen (xs ++ [a])).registry.given) : Rises ((seen (xs ++ a :: ys)).shown id) := by
  -- nothing was known of the order before
  have hbefore := (h.left.stage hun).unborn hfresh
  obtain ⟨t₀, hp⟩ := hbefore.presented hc hgiven
  rw [List.append_cons] at h ⊢
  rw [← List.append_nil (xs ++ [a])] at hp
  obtain ⟨late, hp'⟩ := h.right.presented hp
  rw [hp'.shown]
  exact hp'.rises

end

/-! ## Runs -/

section
variable {steps : List Step} (h : s.Sound known) (hw : s.Wired r) (hr : ∀ i, Step.release i ∉ steps)
  (ho : Step.openRelay ∉ steps) (hn : (s.run steps).registry.given.Nodup)
include h hw hr ho hn

theorem wired_run : (s.run steps).Wired r := by
  induction steps generalizing s known with
  | nil => exact hw
  | cons st steps ih =>
    have hstep : (s.step st).registry.given.Nodup := (given_run (s.step st) steps).sublist.nodup hn
    have hst : ∀ i, st ≠ .release i := fun i he => hr i (he ▸ List.mem_cons_self ..)
    have hop : st ≠ .openRelay := fun he => ho (he ▸ List.mem_cons_self ..)
    obtain ⟨known', h'⟩ := h.step hst hstep
    obtain ⟨hw', -⟩ : (s.step st).Wired r ∧ Turn r "" s (s.step st) _ _ := turn_step h hw hst hop hstep
    exact ih h' hw' (fun i hm => hr i (List.mem_cons_of_mem _ hm)) (fun hm => ho (List.mem_cons_of_mem _ hm)) hn

theorem turns_run (id : String) : Turns r id s.run (fun before st => (s.run before).update? id st)
    (fun before st => (s.run before).delivery? id st) steps := by
  rintro before st ⟨after, rfl⟩
  rw [run_append] at hn
  have hst := (given_run (s.run (before ++ [st])) after).sublist.nodup hn
  rw [run_snoc] at hst ⊢
  have hbefore := (given_step (s.run before) st).sublist.nodup hst
  have hr' : ∀ i, Step.release i ∉ before := fun i hm => hr i (by simp [hm])
  obtain ⟨known', h'⟩ := h.run hr' hbefore
  have hw' := wired_run h hw hr' (fun hm => ho (by simp [hm])) hbefore
  exact ⟨(turn_step h' hw' (fun i he => hr i (by simp [he])) (fun he => ho (by simp [he])) hst).2, given_step ..⟩

theorem stage_run (hun : Unborn s r id) : Stage r id (s.run steps) (Updated s id steps) (Overtaken s id steps) :=
  (turns_run h hw hr ho hn id).stage hun

end

/-- **When the client sees an order go back.** With one relay at work and ids that
the brokerage gives but once, the statuses that the client is shown of an order
rise just if no update of it is merged between its placement by a trader and the
moment when the relay passes the placement on. That one frame aside they rise in
any case, and so they do for every order that the client placed itself. Commands
and sweeps are whole steps here; `Underway.rises_iff_of_moves` has what comes
between their units and cancels. -/
theorem shown_rises_iff (connId : String) (settings : Config.Trade) (hours : Hours) (zone : Zone) {steps : List Step}
    (hr : ∀ i, Step.release i ∉ steps) (ho : Step.openRelay ∉ steps)
    (hn : ((start connId settings hours zone).openRelay.run steps).registry.given.Nodup) (id : String) :
    (Rises (((start connId settings hours zone).openRelay.run steps).shown id) ↔
      ¬ Overtaken (start connId settings hours zone).openRelay id steps) ∧
    (∃ us, Rises us ∧ us.Sublist (((start connId settings hours zone).openRelay.run steps).shown id) ∧
      (((start connId settings hours zone).openRelay.run steps).shown id).length ≤ us.length + 1) ∧
    ∀ before now t ticket after, steps = before ++ .text now t ticket :: after →
      id ∉ ((start connId settings hours zone).openRelay.run before).registry.given →
      id ∈ ((start connId settings hours zone).openRelay.run (before ++ [.text now t ticket])).registry.given →
      Rises (((start connId settings hours zone).openRelay.run steps).shown id) := by
  have h := (sound_start connId settings hours zone).openRelay
  have hw : (start connId settings hours zone).openRelay.Wired 0 := ⟨rfl, rfl⟩
  have hun : Unborn (start connId settings hours zone).openRelay 0 id := ⟨List.not_mem_nil, rfl, rfl, rfl⟩
  have hstage := stage_run h hw hr ho hn hun
  refine ⟨hstage.rises_iff, hstage.updates_rise, ?_⟩
  rintro before now t ticket after rfl hfresh hgiven
  refine (turns_run h hw hr ho hn id).rises_of_commanded hun ?_ hfresh hgiven
  rw [List.append_cons, run_append] at hn
  have hn' := (given_run _ after).sublist.nodup hn
  rw [run_snoc] at hn' ⊢
  exact commanded_text _ now t ticket hn'

end

def placedClosing : List Step :=
  [.text 1000 ("\x7b\"instrumentCode\":\"MXFL1\",\"action\":\"Buy\",\"price\":100,\"quantity\":1," ++
      "\"automationOption\":\x7b\"automationType\":\"ByTimePeriod\",\"byTimePeriodSecs\":5\x7d\x7d")
     fun _ => ⟨"g1", .reply { orderId := "p1", status := .submitted }⟩,
   .status 1500 ⟨"p1", .filled, 0, none⟩, .promote, .tick { time := 9000, close := 101 },
   .traderTick 1 9000 (.reply { orderId := "c1", status := .pendingSubmit })]

/-- The relay is prompt. -/
def shownInOrder : List Step :=
  placedClosing ++ [.relay 0, .relay 0, .status 9100 ⟨"c1", .submitted, 0, none⟩, .relay 0,
    .status 9200 ⟨"c1", .filled, 0, none⟩]

theorem shown_rises_iff_shownInOrder :
    ((start "conn-1" {} .alwaysOpen).openRelay.run shownInOrder).shown "c1" = [.pendingSubmit, .submitted, .filled] ∧
      ¬ Overtaken (start "conn-1" {} .alwaysOpen).openRelay "c1" shownInOrder := by
  have hr : ∀ i, Step.release i ∉ shownInOrder := by simp [shownInOrder, placedClosing]
  have ho : Step.openRelay ∉ shownInOrder := by simp [shownInOrder, placedClosing]
  obtain ⟨hgiven, hshown⟩ :
      ((start "conn-1" {} .alwaysOpen).openRelay.run shownInOrder).registry.given = ["p1", "c1"] ∧
        ((start "conn-1" {} .alwaysOpen).openRelay.run shownInOrder).shown "c1" =
          [.pendingSubmit, .submitted, .filled] := by decide +kernel
  have h := shown_rises_iff "conn-1" {} .alwaysOpen .utc hr ho (by rw [hgiven]; decide) "c1"
  exact ⟨hshown, h.1.mp (by rw [hshown]; decide)⟩

/-- The status relay comes before the relay of the bus. -/
def shownLate : List Step :=
  placedClosing ++ [.status 9100 ⟨"c1", .submitted, 0, none⟩, .relay 0, .relay 0]

theorem not_rises_shownLate :
    ((start "conn-1" {} .alwaysOpen).openRelay.run shownLate).registry.given = ["p1", "c1"] ∧
      ((start "conn-1" {} .alwaysOpen).openRelay.run shownLate).shown "c1" = [.submitted, .pendingSubmit] ∧
      ¬ Rises (((start "conn-1" {} .alwaysOpen).openRelay.run shownLate).shown "c1") := by
  obtain ⟨hgiven, hshown⟩ :
      ((start "conn-1" {} .alwaysOpen).openRelay.run shownLate).registry.given = ["p1", "c1"] ∧
        ((start "conn-1" {} .alwaysOpen).openRelay.run shownLate).shown "c1" = [.submitted, .pendingSubmit] := by
    decide +kernel
  refine ⟨hgiven, hshown, ?_⟩
  rw [hshown]
  decide

end Session

end FuturesDesk
