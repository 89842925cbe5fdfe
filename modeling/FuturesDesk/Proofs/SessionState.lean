import FuturesDesk.Desk.Session
import FuturesDesk.Proofs.Bystanders

/-!
# The state of a session

Where a session keeps track of what is live: every live order of the registry
is waited for, or pending with a live copy, or a closing order of a trader at
work; and every trader at work has an open queue.
-/

namespace FuturesDesk

/-- A trader that has not closed its position yet, on its floor. -/
structure Trader.AtWork (t : Trader) (f : Floor) (known : String → Option Status) : Prop where
  inStep : t.InStep f.bus known
  busy : t.phase ≠ .done
  closing : ∀ id, (t.closing.find? id).isSome → id ∈ f.registry.given

theorem Trader.AtWork.grown {t : Trader} {f f' : Floor} {known : String → Option Status} {new : List Order}
    (h : t.AtWork f known) (hv : f.registry.Views known) (hg : f.registry.Grown f'.registry new)
    (hn : f'.registry.given.Nodup) (hs : ∀ id, news id (f'.bus.queued t.inbox) = news id (f.bus.queued t.inbox))
    (hl : f'.bus.isListed t.inbox = f.bus.isListed t.inbox) : t.AtWork f' (f'.registry.lastView known) where
  inStep := by
    refine h.inStep.frame (fun id _ => hs id) hl fun id hid => hv.lastView_eq (Or.inl (hg.status?_of_ne ?_))
    rintro o ho rfl
    exact hg.fresh hn o ho (h.closing _ hid)
  busy := h.busy
  closing id hid := by
    rw [hg.given]
    exact List.mem_append_left _ (h.closing id hid)

namespace Session

def traders (s : Session) : List Trader := s.workers.map (·.trader)

/-- A target whose trader can be started: it is not at work and has not been. -/
structure Startable (s : Session) (target : AssistTarget) : Prop where
  quantity : 0 < target.order.quantity
  given : target.order.id ∈ s.registry.given
  closed : s.queues.find? target.order.id = none
  unended : ∀ i, DeskEvent.assistDone target.order.id ∉ s.floor.bus.queued i

/-- Every trader at work is fed by the open queue of its primary order. The end
of a position is told only after its trader has left. -/
structure Staffed (s : Session) : Prop where
  tidy : s.floor.bus.Tidy
  fed : ∀ w ∈ s.workers, w.fed
  queue : ∀ t ∈ s.traders, s.queues.find? t.primary.id = some t.inbox
  inboxes : (s.traders.map (·.inbox)).Nodup
  relays : ∀ r ∈ s.relays, r < s.floor.bus.nextId ∧ ∀ t ∈ s.traders, t.inbox ≠ r
  queues : ∀ id i, s.queues.find? id = some i → id ∈ s.registry.given ∧ i < s.floor.bus.nextId
  distinct : ∀ id id' i, s.queues.find? id = some i → s.queues.find? id' = some i → id = id'
  pending : ∀ id target, s.pending.find? id = some target → target.order.id = id ∧ s.Startable target
  ended : ∀ i id, DeskEvent.assistDone id ∈ s.floor.bus.queued i →
    id ∈ s.registry.given ∧ ∀ t ∈ s.traders, t.primary.id ≠ id

/-- The invariant of a session, for the last view of every order. -/
structure Sound (s : Session) (known : String → Option Status) : Prop where
  views : s.registry.Views known
  named : ∀ id st, s.registry.status? id = some st → st ≠ .unknown
  staffed : s.Staffed
  atWork : ∀ t ∈ s.traders, t.AtWork s.floor known
  held : ∀ id, s.isLive id → s.waiting.contains id ∨
    (∃ target, s.pending.find? id = some target ∧ target.order.status.isCancellable) ∨
    ∃ t ∈ s.traders, (t.closing.find? id).isSome

section
variable {s s' : Session} {known : String → Option Status}

theorem isLive_iff {id : String} : s.isLive id ↔ ∃ st, s.registry.status? id = some st ∧ st.isCancellable := by
  unfold isLive Registry.status?
  rw [Option.any_eq_true]
  constructor
  · rintro ⟨o, ho, hc⟩
    exact ⟨o.status, by rw [ho]; rfl, hc⟩
  · rintro ⟨st, hs, hc⟩
    obtain ⟨o, ho, rfl⟩ := Option.map_eq_some_iff.mp hs
    exact ⟨o, ho, hc⟩

theorem sound_start (connId : String) (settings : Config.Trade) (hours : Hours) (zone : Zone) :
    (start connId settings hours zone).Sound fun _ => none where
  views :=
    { keyed := Registry.keyed_empty _
      held := fun id st h => by cases h
      gone := fun id st _ h => by cases h }
  named id st h := by cases h
  staffed :=
    { tidy := Bus.tidy_empty
      fed := fun w hw => by cases hw
      queue := fun t ht => by cases ht
      inboxes := List.nodup_nil
      relays := fun r hr => by cases hr
      queues := fun id i h => by cases h
      distinct := fun id id' i h => by cases h
      pending := fun id target h => by cases h
      ended := fun i id h => by cases h }
  atWork t ht := by cases ht
  held id h := by cases h

/-! ## Changes beside the traders -/

/-- Neither the traders nor their queues are touched, and at most pending
targets are dropped or changed. -/
theorem Staffed.frame (h : s.Staffed) (hb : Bus.Keeps [] s.floor.bus s'.floor.bus)
    (hg : ∀ id ∈ s.registry.given, id ∈ s'.registry.given) (hw : s'.traders = s.traders)
    (hfed : ∀ w ∈ s'.workers, w.fed) (hq : s'.queues = s.queues) (hr : s'.relays = s.relays)
    (hp : ∀ id target', s'.pending.find? id = some target' → ∃ target, s.pending.find? id = some target ∧
      target'.order.id = target.order.id ∧ target'.order.quantity = target.order.quantity) : s'.Staffed where
  tidy := hb.tidy h.tidy
  fed := hfed
  queue := by rw [hw, hq]; exact h.queue
  inboxes := by rw [hw]; exact h.inboxes
  relays := by
    rw [hr, hw]
    exact fun r hr => (h.relays r hr).imp_left fun hlt => Nat.lt_of_lt_of_le hlt hb.nextId
  queues id i hi := by
    rw [hq] at hi
    exact (h.queues id i hi).imp (hg id) fun hlt => Nat.lt_of_lt_of_le hlt hb.nextId
  distinct := by rw [hq]; exact h.distinct
  pending id target' ht := by
    obtain ⟨target, ht, hid, hqty⟩ := hp id target' ht
    obtain ⟨hkey, hst⟩ := h.pending id target ht
    refine ⟨hid.trans hkey, ?_, ?_, ?_, fun i hm => ?_⟩
    · rw [hqty]; exact hst.quantity
    · rw [hid]; exact hg _ hst.given
    · rw [hid, hq]; exact hst.closed
    · rw [hid] at hm
      rcases hb.ended i _ hm with hm | hm
      · exact hst.unended i hm
      · cases hm
  ended i id hm := by
    rw [hw]
    rcases hb.ended i id hm with hm | hm
    · exact (h.ended i id hm).imp_left (hg id)
    · cases hm

theorem Staffed.same (h : s.Staffed) (hb : Bus.Keeps [] s.floor.bus s'.floor.bus)
    (hg : ∀ id ∈ s.registry.given, id ∈ s'.registry.given) (hw : s'.traders = s.traders)
    (hfed : ∀ w ∈ s'.workers, w.fed) (hq : s'.queues = s.queues) (hr : s'.relays = s.relays)
    (hp : s'.pending = s.pending) : s'.Staffed :=
  h.frame hb hg hw hfed hq hr fun _ target ht => ⟨target, hp ▸ ht, rfl, rfl⟩

theorem Staffed.inbox_lt (h : s.Staffed) {t : Trader} (ht : t ∈ s.traders) : t.inbox < s.floor.bus.nextId :=
  (h.queues _ _ (h.queue t ht)).2

theorem Sound.rebus (h : s.Sound known) {b : Bus DeskEvent} (hb : Bus.Keeps [] s.floor.bus b)
    (hs : ∀ t ∈ s.traders, ∀ id, news id (b.queued t.inbox) = news id (s.floor.bus.queued t.inbox))
    (hl : ∀ t ∈ s.traders, b.isListed t.inbox = s.floor.bus.isListed t.inbox) :
    ({ s with floor := { s.floor with bus := b } } : Session).Sound known where
  views := h.views
  named := h.named
  staffed := h.staffed.same hb (fun _ hid => hid) rfl h.staffed.fed rfl rfl rfl
  atWork t ht :=
    { inStep := (h.atWork t ht).inStep.frame (fun id _ => hs t ht id) (hl t ht) fun _ _ => rfl
      busy := (h.atWork t ht).busy
      closing := (h.atWork t ht).closing }
  held := h.held

theorem Sound.named_grown (h : s.Sound known) {r : Registry} {new : List Order} (hg : s.registry.Grown r new)
    (id : String) (st : Status) (hs : r.status? id = some st) : st ≠ .unknown := hg.named_status h.named id st hs

theorem Sound.push (h : s.Sound known) (f : Frame) : (s.push f).Sound known where
  views := h.views
  named := h.named
  staffed := h.staffed.same (Bus.keeps_refl _) (fun _ hid => hid) rfl h.staffed.fed rfl rfl rfl
  atWork := h.atWork
  held := h.held

theorem Sound.pushes (h : s.Sound known) (fs : List Frame) : (fs.foldl Session.push s).Sound known := by
  induction fs generalizing s with
  | nil => exact h
  | cons f fs ih => exact ih (h.push f)

theorem traders_offer (s : Session) (t : Tick) : (s.offer t).traders = s.traders := by
  unfold traders offer
  rw [List.map_map]
  refine List.map_congr_left fun w _ => ?_
  simp only [Function.comp_apply]
  split <;> rfl

theorem Sound.offer (h : s.Sound known) (t : Tick) : (s.offer t).Sound known := by
  have hw := s.traders_offer t
  have hfed : ∀ w ∈ (s.offer t).workers, w.fed := by
    intro w hw
    obtain ⟨v, hv, rfl⟩ := List.mem_map.mp hw
    split <;> exact h.staffed.fed v hv
  refine ⟨h.views, h.named, ?_, ?_, ?_⟩
  · exact h.staffed.same (Bus.keeps_refl _) (fun _ hid => hid) hw hfed rfl rfl rfl
  · rw [hw]; exact h.atWork
  · rw [hw]; exact h.held

theorem Sound.tick (h : s.Sound known) (t : Tick) : (s.tick t).Sound known := (h.offer t).push _

theorem Sound.prune (h : s.Sound known) : s.prune.Sound known where
  views := h.views
  named := h.named
  staffed := h.staffed.same (Bus.keeps_refl _) (fun _ hid => hid) rfl h.staffed.fed rfl rfl rfl
  atWork := h.atWork
  held id hid := by
    refine (h.held id hid).imp_left fun hw => ?_
    have hl : s.isLive id := hid
    simp only [Session.prune, IdSet.contains_filter, hw, hl, Bool.and_self]

/-! ## Updates and sweeps -/

/-- What an update comes to: nothing but in the registry, or a change that is
passed on. -/
theorem status_cases (s : Session) (now : UInt64) (u : StatusUpdate) :
    ((s.registry.merge now u).2 = none ∧ s.status now u = s.setRegistry (s.registry.merge now u).1) ∨
    ∃ o, (s.registry.merge now u).2 = some o ∧ s.status now u =
      { s with
        floor := s.floor.status now u
        waiting := if o.status.isCancellable then s.waiting else s.waiting.remove o.id
        pending := s.pending.modify o.id (follow now o)
        out := s.out ++ [.message (.order o)] } := by
  unfold Session.status
  split
  · rename_i r hm
    rw [hm]
    exact Or.inl ⟨rfl, rfl⟩
  · rename_i r o hm
    have hm' : s.floor.registry.merge now u = (r, some o) := hm
    refine Or.inr ⟨o, congrArg (·.2) hm, ?_⟩
    rw [Floor.status_of_some (congrArg (·.2) hm'), hm']
    by_cases hc : o.status.isCancellable
    · simp only [if_pos hc]; rfl
    · simp only [if_neg hc]; rfl

theorem Sound.isLive_of_merge (h : s.Sound known) (now : UInt64) (u : StatusUpdate) {id : String} {st : Status}
    (hs : (s.registry.merge now u).1.status? id = some st) (hc : st.isCancellable) : s.isLive id := by
  rw [Registry.status?_merge] at hs
  by_cases hid : id = u.orderId
  · rw [if_pos hid] at hs
    obtain ⟨st₀, hs₀, rfl⟩ := Option.map_eq_some_iff.mp hs
    refine isLive_iff.mpr ⟨st₀, hs₀, Status.isCancellable_iff.mpr ⟨h.named id st₀ hs₀, fun ht => ?_⟩⟩
    rw [Status.next_of_isTerminal ht] at hc
    exact Status.not_isTerminal_of_isCancellable hc ht
  · rw [if_neg hid] at hs
    exact isLive_iff.mpr ⟨st, hs, hc⟩

theorem Sound.named_merge (h : s.Sound known) (now : UInt64) (u : StatusUpdate) (id : String) (st : Status)
    (hs : (s.registry.merge now u).1.status? id = some st) : st ≠ .unknown :=
  Registry.named_merge h.named now u id st hs

theorem registry_status (s : Session) (now : UInt64) (u : StatusUpdate) :
    (s.status now u).registry = (s.registry.merge now u).1 := by
  rcases status_cases s now u with ⟨-, he⟩ | ⟨o, -, he⟩
  · rw [he]; rfl
  · rw [he]; exact s.floor.registry_status now u

theorem Staffed.updated (h : s.Staffed) (now : UInt64) (u : StatusUpdate) : (s.status now u).Staffed := by
  have hgiven : ∀ id ∈ s.registry.given, id ∈ (s.status now u).registry.given := by
    intro id hid
    rwa [registry_status, Registry.given_merge]
  rcases status_cases s now u with ⟨-, he⟩ | ⟨o, hm, he⟩
  · rw [he] at hgiven ⊢
    exact h.same (Bus.keeps_refl _) hgiven rfl h.fed rfl rfl rfl
  · rw [he] at hgiven ⊢
    refine h.frame ?_ hgiven rfl h.fed rfl rfl fun id target' ht => ?_
    · change Bus.Keeps [] s.floor.bus (s.floor.status now u).bus
      rw [Floor.status_of_some hm]
      exact Bus.keeps_publish _ fun id hid => by cases hid
    · change (s.pending.modify _ _).find? id = some target' at ht
      rw [Table.find?_modify] at ht
      split at ht
      · obtain ⟨target, hfind, rfl⟩ := Option.map_eq_some_iff.mp ht
        exact ⟨target, hfind, rfl, rfl⟩
      · exact ⟨target', ht, rfl, rfl⟩

theorem floor_status (s : Session) (now : UInt64) (u : StatusUpdate) :
    (s.status now u).floor = s.floor.status now u := by
  rcases status_cases s now u with ⟨hm, he⟩ | ⟨o, -, he⟩
  · rw [he, Floor.status_of_none hm]; rfl
  · rw [he]

theorem traders_status (s : Session) (now : UInt64) (u : StatusUpdate) : (s.status now u).traders = s.traders := by
  rcases status_cases s now u with ⟨-, he⟩ | ⟨o, -, he⟩ <;> rw [he] <;> rfl

theorem Sound.held_updated (h : s.Sound known) (now : UInt64) (u : StatusUpdate) {id : String} {st : Status}
    (hs : (s.registry.merge now u).1.status? id = some st) (hc : st.isCancellable) :
    (s.status now u).waiting.contains id ∨
      (∃ target, (s.status now u).pending.find? id = some target ∧ target.order.status.isCancellable) ∨
      ∃ t ∈ s.traders, (t.closing.find? id).isSome := by
  have hheld := h.held id (h.isLive_of_merge now u hs hc)
  rcases status_cases s now u with ⟨-, he⟩ | ⟨o, hm, he⟩
  · rw [he]; exact hheld
  obtain ⟨o₀, ho₀, rfl, -⟩ := Registry.of_merge_some hm
  have hoid : (o₀.merged now u).id = u.orderId := (Order.merged_id ..).trans (h.views.keyed _ _ ho₀)
  rw [he]
  dsimp only
  rw [Table.find?_modify, hoid]
  by_cases hu : id = u.orderId
  · -- the target pending under this id has followed the change
    subst hu
    have hlive : (o₀.merged now u).status.isCancellable := by
      have hl : (s.registry.merge now u).1.lookup u.orderId = some (o₀.merged now u) := by
        rw [Registry.lookup_merge, if_pos rfl, ho₀]; rfl
      rw [Registry.status?, hl, Option.map_some, Option.some.injEq] at hs
      exact hs ▸ hc
    rw [if_pos hlive, if_pos rfl]
    refine hheld.imp_right (Or.imp_left ?_)
    rintro ⟨target, ht, -⟩
    exact ⟨follow now (o₀.merged now u) target, by rw [ht]; rfl, hlive⟩
  · rw [if_neg hu]
    refine hheld.imp_left fun hw => ?_
    split
    · exact hw
    · simp [IdSet.contains_remove, hu, hw]

theorem Sound.updated (h : s.Sound known) (now : UInt64) (u : StatusUpdate) :
    (s.status now u).Sound ((s.registry.merge now u).1.lastView known) := by
  have hreg := registry_status s now u
  refine ⟨hreg ▸ h.views.merge now u, fun id st hs => h.named_merge now u id st (hreg ▸ hs), h.staffed.updated now u,
    fun t ht => ?_, fun id hid => ?_⟩
  · rw [traders_status] at ht
    have hat := h.atWork t ht
    have hin := hat.inStep.status h.views now u
    rw [Floor.registry_status] at hin
    rw [floor_status]
    refine ⟨hin, hat.busy, fun id hid => ?_⟩
    rw [Floor.registry_status, Registry.given_merge]
    exact hat.closing id hid
  · obtain ⟨st, hs, hc⟩ := isLive_iff.mp hid
    rw [traders_status]
    exact h.held_updated now u (hreg ▸ hs) hc

theorem Sound.shed (h : s.Sound known) {r : Registry} (hs : s.registry.Sheds r) : (s.setRegistry r).Sound known := by
  refine ⟨hs.views h.views, fun id st hst => h.named id st (hs.status id st hst), ?_, fun t ht => ?_, fun id hid => ?_⟩
  · exact h.staffed.same (Bus.keeps_refl _) (fun id hid => hs.given ▸ hid) rfl h.staffed.fed rfl rfl rfl
  · have hat := h.atWork t ht
    exact ⟨hat.inStep, hat.busy, fun id hid => hs.given ▸ hat.closing id hid⟩
  · obtain ⟨st, hst, hc⟩ := isLive_iff.mp hid
    exact h.held id (isLive_iff.mpr ⟨st, hs.status id st hst, hc⟩)

theorem Sound.supervise (h : s.Sound known) (now : UInt64) (answer : String → Answer) :
    (s.supervise now answer).Sound known := (h.shed (s.registry.sheds_sweep now answer)).pushes _

end

end Session

end FuturesDesk
