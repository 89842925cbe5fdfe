import FuturesDesk.Proofs.AssistOrders

/-!
# Waiting orders

The waiting list holds the unassisted orders of the client that are live. It
also holds those that were over when the brokerage accepted them, until a
pruning sees them.
-/

namespace FuturesDesk

theorem IdSet.size_pos_iff {s : IdSet} : 0 < s.size ↔ ∃ id, s.contains id := by
  unfold IdSet.size IdSet.contains
  rw [List.length_pos_iff_exists_mem]
  simp

theorem Registry.Grown.status?_of_mem {r r' : Registry} {new : List Order} (hg : r.Grown r' new) (hn : r'.given.Nodup)
    {o : Order} (ho : o ∈ new) : r'.status? o.id = some o.status := by
  rw [hg.given, List.nodup_append] at hn
  have hfind : new.find? (·.id = o.id) = some o := by
    cases hf : new.find? (·.id = o.id) with
    | none =>
      have hne := List.find?_eq_none.mp hf o ho
      simp at hne
    | some o' =>
      have hid : o'.id = o.id := by simpa using List.find?_some hf
      rw [List.inj_on_of_nodup_map hn.2.1 (List.mem_of_find?_eq_some hf) ho hid]
  rw [hg.status?_eq, hfind]
  rfl

namespace Session

def alone (c : Command) (orders : List Order) : List Order := if c.option.isNone then orders else []

def unassisted (s : Session) : Step → List Order
  | .text now t ticket =>
    if t = ping then []
    else match Command.ofText t with
      | .ok c =>
        match (s.command now c ticket).2 with
        | .ok orders => alone c orders
        | .error _ => []
      | .error _ => []
  | _ => []

def TookAlone (s : Session) (steps : List Step) (id : String) : Prop :=
  ∃ before st after, steps = before ++ st :: after ∧ ∃ o ∈ (s.run before).unassisted st, o.id = id

/-- An unassisted order was over when it was accepted, and no pruning came
after. -/
def Lingers (s : Session) (steps : List Step) (id : String) : Prop :=
  ∃ before st after, steps = before ++ st :: after ∧
    (∃ o ∈ (s.run before).unassisted st, o.id = id ∧ ¬ o.status.isCancellable) ∧ .prune ∉ after

structure WaitsFor (s : Session) (steps : List Step) : Prop where
  live : ∀ id, s.TookAlone steps id → (s.run steps).isLive id → (s.run steps).waiting.contains id
  pruned : ∀ id, (s.run steps).prune.waiting.contains id ↔ s.TookAlone steps id ∧ (s.run steps).isLive id
  dropped : (s.run steps).pruned =
    ((s.run steps).waiting.ids.filter fun id => !(s.run steps).prune.waiting.contains id).length
  exact : ∀ id, (s.run steps).waiting.contains id ↔
    s.TookAlone steps id ∧ ((s.run steps).isLive id ∨ s.Lingers steps id)
  refuses : ∀ now c, (∃ n, ((s.run steps).admission now).refusal? c = some (.orderPending n)) ↔
    (s.run steps).isOpenAt now ∧ ∃ id, s.TookAlone steps id ∧ ((s.run steps).isLive id ∨ s.Lingers steps id)
  free : (∀ id, s.TookAlone steps id → ¬ (s.run steps).isLive id) → (∀ id, ¬ s.Lingers steps id) →
    ∀ now c ticket n, ((s.run steps).command now c ticket).2 ≠ .error (.orderPending n)

/-- A session in which the orders `placed` were accepted unassisted, those in
`late` when they were over, with no pruning since. -/
structure Ledger (s : Session) (placed late : String → Prop) : Prop where
  keyed : s.registry.Keyed
  named : ∀ id st, s.registry.status? id = some st → st ≠ .unknown
  given : ∀ id, placed id → id ∈ s.registry.given
  ended : ∀ id, late id → placed id ∧ ¬ s.isLive id
  waiting : ∀ id, s.waiting.contains id ↔ placed id ∧ (s.isLive id ∨ late id)

section
variable {s s' : Session} {placed late placed' late' : String → Prop} {st : Step} {id : String}

theorem Ledger.congr (h : s.Ledger placed late) (hp : ∀ id, placed' id ↔ placed id) (ho : ∀ id, late' id ↔ late id) :
    s.Ledger placed' late' := by
  obtain rfl : placed' = placed := funext fun id => propext (hp id)
  obtain rfl : late' = late := funext fun id => propext (ho id)
  exact h

theorem isLive_congr (h : s'.registry.status? id = s.registry.status? id) : s'.isLive id = s.isLive id := by
  rw [Bool.eq_iff_iff, isLive_iff, isLive_iff, h]

/-! ## New orders -/

theorem Ledger.grown (h : s.Ledger placed late) {new added : List Order} (hg : s.registry.Grown s'.registry new)
    (hn : s'.registry.given.Nodup) (ha : added ⊆ new)
    (hw : ∀ id, s'.waiting.contains id ↔ s.waiting.contains id ∨ ∃ o ∈ added, o.id = id) :
    s'.Ledger (fun id => placed id ∨ ∃ o ∈ added, o.id = id)
      (fun id => late id ∨ ∃ o ∈ added, o.id = id ∧ ¬ o.status.isCancellable) := by
  have hfresh := hg.fresh hn
  have hold : ∀ id, placed id → s'.isLive id = s.isLive id := fun id hid =>
    isLive_congr (hg.status?_of_ne fun o ho he => hfresh o ho (he ▸ h.given id hid))
  have hnew : ∀ o ∈ added, s'.isLive o.id ↔ o.status.isCancellable := by
    intro o ho
    rw [isLive_iff, hg.status?_of_mem hn (ha ho)]
    simp
  refine ⟨hg.keyed h.keyed, hg.named_status h.named, fun id hid => ?_, fun id hid => ?_, fun id => ?_⟩
  · rw [hg.given]
    rcases hid with hid | ⟨o, ho, rfl⟩
    · exact List.mem_append_left _ (h.given id hid)
    · exact List.mem_append_right _ (List.mem_map_of_mem (ha ho))
  · rcases hid with hid | ⟨o, ho, rfl, hc⟩
    · obtain ⟨hplaced, hlive⟩ := h.ended id hid
      refine ⟨Or.inl hplaced, ?_⟩
      rw [hold id hplaced]
      exact hlive
    · exact ⟨Or.inr ⟨o, ho, rfl⟩, fun hl => hc ((hnew o ho).mp hl)⟩
  · rw [hw, h.waiting]
    constructor
    · rintro (⟨hplaced, hlive⟩ | ⟨o, ho, rfl⟩)
      · rw [hold id hplaced]
        exact ⟨Or.inl hplaced, hlive.imp_right Or.inl⟩
      · refine ⟨Or.inr ⟨o, ho, rfl⟩, ?_⟩
        by_cases hc : o.status.isCancellable
        · exact Or.inl ((hnew o ho).mpr hc)
        · exact Or.inr (Or.inr ⟨o, ho, rfl, hc⟩)
    · rintro ⟨hplaced | hadded, hlive⟩
      · rw [hold id hplaced] at hlive
        rcases hlive with hlive | hlate | ⟨o, ho, rfl, -⟩
        · exact Or.inl ⟨hplaced, Or.inl hlive⟩
        · exact Or.inl ⟨hplaced, Or.inr hlate⟩
        · exact Or.inr ⟨o, ho, rfl⟩
      · exact Or.inr hadded

theorem Ledger.beside (h : s.Ledger placed late) {new : List Order} (hg : s.registry.Grown s'.registry new)
    (hn : s'.registry.given.Nodup) (hw : s'.waiting = s.waiting) : s'.Ledger placed late := by
  have hsame : ∀ id, s'.waiting.contains id ↔ s.waiting.contains id ∨ ∃ o ∈ ([] : List Order), o.id = id := by
    intro id
    simp [hw]
  exact (h.grown hg hn (List.nil_subset _) hsame).congr (by simp) (by simp)

theorem Ledger.of_same (h : s.Ledger placed late) (hr : s'.registry = s.registry) (hw : s'.waiting = s.waiting) :
    s'.Ledger placed late := by
  have hlive : ∀ id, s'.isLive id = s.isLive id := fun id => isLive_congr (by rw [hr])
  refine ⟨hr ▸ h.keyed, hr ▸ h.named, hr ▸ h.given, fun id hid => ?_, fun id => ?_⟩
  · rw [hlive]
    exact h.ended id hid
  · rw [hw, hlive]
    exact h.waiting id

/-! ## Commands -/

theorem mem_alone {c : Command} {orders : List Order} {o : Order} :
    o ∈ alone c orders ↔ c.option = none ∧ o ∈ orders := by
  unfold alone
  split
  · rename_i hnone
    simp [Option.isNone_iff_eq_none.mp hnone]
  · rename_i hsome
    simp only [List.not_mem_nil, false_iff, not_and]
    intro hnone
    simp [hnone] at hsome

theorem Ledger.placeUnit (h : s.Ledger placed late) (now : UInt64) (c : Command) (ticket : Ticket)
    (hn : (s.placeUnit now c ticket).1.registry.given.Nodup) :
    (s.placeUnit now c ticket).1.Ledger
      (fun id => placed id ∨ ∃ o ∈ alone c (s.placeUnit now c ticket).2.toList, o.id = id)
      (fun id => late id ∨
        ∃ o ∈ alone c (s.placeUnit now c ticket).2.toList, o.id = id ∧ ¬ o.status.isCancellable) := by
  have hf := filed_placeUnit s now c ticket
  have hg := hf.grown
  rw [← hf.registry_eq] at hg
  rcases placeUnit_cases s now c ticket with ⟨ha, text, he⟩ | ⟨reply, ha, he⟩
  · rw [Registry.accepted_of_refused _ _ _ ha] at hg
    rw [he] at hg hn ⊢
    exact h.grown hg hn (by simp [alone]) (by simp [alone])
  · rw [Registry.accepted_of_accepted _ _ _ ha] at hg
    rw [he] at hg hn ⊢
    refine h.grown hg hn (fun o ho => by simpa using (mem_alone.mp ho).2) fun id => ?_
    cases hc : c.option with
    | some option => simp [mem_alone, hc]
    | none =>
      have hid : ((unitOrder c ticket.group).accepted reply now).id = reply.orderId := rfl
      simp only [IdSet.contains_add, Bool.or_eq_true, decide_eq_true_eq, mem_alone, hc, true_and, Option.toList_some,
        List.mem_singleton, exists_eq_left, hid]
      exact ⟨fun h => h.symm.imp_right Eq.symm, fun h => h.symm.imp_left Eq.symm⟩

theorem Ledger.placeUnits (h : s.Ledger placed late) (now : UInt64) (c : Command) (tickets : List Ticket)
    (hn : (s.placeUnits now c tickets).1.registry.given.Nodup) :
    (s.placeUnits now c tickets).1.Ledger
      (fun id => placed id ∨ ∃ o ∈ alone c (s.placeUnits now c tickets).2, o.id = id)
      (fun id => late id ∨ ∃ o ∈ alone c (s.placeUnits now c tickets).2, o.id = id ∧ ¬ o.status.isCancellable) := by
  induction tickets generalizing s placed late with
  | nil => exact h.congr (by simp [Session.placeUnits, mem_alone]) (by simp [Session.placeUnits, mem_alone])
  | cons ticket tickets ih =>
    have hunit := (given_placeUnits (s.placeUnit now c ticket).1 now c tickets).sublist.nodup hn
    refine (ih (h.placeUnit now c ticket hunit) hn).congr (fun id => ?_) fun id => ?_
    · rw [placeUnits_cons]
      simp only [mem_alone, List.mem_append, and_or_left, or_and_right, exists_or, or_assoc]
    · rw [placeUnits_cons]
      simp only [mem_alone, List.mem_append, and_or_left, or_and_right, exists_or, or_assoc]

theorem unassisted_of_admits {now : UInt64} {t : String} {ticket : Nat → Ticket} {c : Command} (hp : t ≠ ping)
    (hread : Command.ofText t = .ok c) (ha : (s.admission now).refusal? c = none) :
    s.unassisted (.text now t ticket) = alone c (s.placeUnits now c ((List.range (unitCount c)).map ticket)).2 := by
  simp only [unassisted, if_neg hp, hread, command_of_refusal?_none ha]

theorem unassisted_of_not_admits {now : UInt64} {t : String} (h : ¬ s.Admits now t) (ticket : Nat → Ticket) :
    s.unassisted (.text now t ticket) = [] := by
  unfold unassisted
  dsimp only
  split
  · rfl
  · rename_i hp
    split
    · rename_i c hread
      have hrefused : (s.admission now).refusal? c ≠ none := fun hnone =>
        h ⟨hp, c, hread, refusal?_eq_none_iff.mp hnone⟩
      unfold command
      cases hr : (s.admission now).refusal? c with
      | none => exact absurd hr hrefused
      | some r => rfl
    · rfl

theorem Ledger.text (h : s.Ledger placed late) (now : UInt64) (t : String) (ticket : Nat → Ticket)
    (hn : (s.text now t ticket).registry.given.Nodup) :
    (s.text now t ticket).Ledger (fun id => placed id ∨ ∃ o ∈ s.unassisted (.text now t ticket), o.id = id)
      (fun id => late id ∨ ∃ o ∈ s.unassisted (.text now t ticket), o.id = id ∧ ¬ o.status.isCancellable) := by
  by_cases ha : s.Admits now t
  · have ⟨hping, c, hread, hpass⟩ := ha
    have hadmit := refusal?_eq_none_iff.mpr hpass
    have htext : s.text now t ticket = (s.command now c ticket).1 := text_of_ofText hping hread
    rw [command_of_refusal?_none hadmit] at htext
    rw [htext] at hn ⊢
    rw [unassisted_of_admits hping hread hadmit]
    exact h.placeUnits now c _ hn
  · obtain ⟨f, -, he⟩ := text_of_not_admits ha ticket
    rw [he, unassisted_of_not_admits ha]
    have hpushed : (s.push f).Ledger placed late := h.of_same rfl rfl
    exact hpushed.congr (by simp) (by simp)

/-! ## The status relay -/

theorem Ledger.status (h : s.Ledger placed late) (now : UInt64) (u : StatusUpdate) :
    (s.status now u).Ledger placed late := by
  have hreg := registry_status s now u
  have hkeyed : (s.status now u).registry.Keyed := hreg ▸ h.keyed.merge now u
  have hgiven : (s.status now u).registry.given = s.registry.given := by rw [hreg, Registry.given_merge]
  have hnamed : ∀ id st, (s.status now u).registry.status? id = some st → st ≠ .unknown :=
    hreg ▸ Registry.named_merge h.named now u
  rcases status_cases s now u with ⟨hm, he⟩ | ⟨o, hm, he⟩
  · have hlive : ∀ id, (s.status now u).isLive id = s.isLive id := fun id =>
      isLive_congr (by rw [hreg, Registry.status?_of_merge_none hm])
    have hwaiting : (s.status now u).waiting = s.waiting := by rw [he]; rfl
    refine ⟨hkeyed, hnamed, hgiven ▸ h.given, fun id hid => ?_, fun id => ?_⟩
    · rw [hlive]
      exact h.ended id hid
    · rw [hwaiting, hlive]
      exact h.waiting id
  · obtain ⟨o₀, ho₀, rfl, hst, hu, hterm, -⟩ := Registry.of_merge_some hm
    have hoid : (o₀.merged now u).id = u.orderId := (Order.merged_id ..).trans (h.keyed _ _ ho₀)
    -- the order whose change is passed on was live before
    have hwas : s.isLive u.orderId := isLive_iff.mpr ⟨o₀.status, Registry.status?_eq_some.mpr ⟨o₀, ho₀, rfl⟩,
      Status.isCancellable_iff.mpr ⟨h.named _ _ (Registry.status?_eq_some.mpr ⟨o₀, ho₀, rfl⟩), hterm⟩⟩
    have hlate : ¬ late u.orderId := fun hl => (h.ended _ hl).2 hwas
    have hother : ∀ id, id ≠ u.orderId → (s.status now u).isLive id = s.isLive id := fun id hid =>
      isLive_congr (by rw [hreg, Registry.status?_merge, if_neg hid])
    have hnow : (s.status now u).isLive u.orderId ↔ (o₀.merged now u).status.isCancellable := by
      have hs : (s.status now u).registry.status? u.orderId = some (o₀.merged now u).status := by
        rw [hreg, Registry.status?, Registry.lookup_merge, if_pos rfl, ho₀]
        rfl
      rw [isLive_iff, hs]
      simp
    have hwaiting : (s.status now u).waiting =
        if (o₀.merged now u).status.isCancellable then s.waiting else s.waiting.remove u.orderId := by
      rw [he, hoid]
    refine ⟨hkeyed, hnamed, hgiven ▸ h.given, fun id hid => ?_, fun id => ?_⟩
    · have hne : id ≠ u.orderId := fun heq => hlate (heq ▸ hid)
      rw [hother id hne]
      exact h.ended id hid
    · rw [hwaiting]
      by_cases hid : id = u.orderId
      · subst hid
        have hlisted := h.waiting u.orderId
        simp only [hwas, hlate, or_false, and_true] at hlisted
        rw [hnow]
        by_cases hc : (o₀.merged now u).status.isCancellable
        · simp [hc, hlisted, hlate]
        · simp [hc, hlate, IdSet.contains_remove]
      · rw [hother id hid, ← h.waiting id]
        split
        · rfl
        · simp [IdSet.contains_remove, hid]

/-! ## Sweeps and prunings -/

theorem isLive_shed (h : s.registry.Sheds s'.registry) (id : String) : s'.isLive id = s.isLive id := by
  rw [Bool.eq_iff_iff, isLive_iff, isLive_iff]
  constructor
  · rintro ⟨st, hs, hc⟩
    exact ⟨st, h.status id st hs, hc⟩
  · rintro ⟨st, hs, hc⟩
    exact ⟨st, h.live id st hs hc, hc⟩

theorem Ledger.shed (h : s.Ledger placed late) (hs : s.registry.Sheds s'.registry) (hw : s'.waiting = s.waiting) :
    s'.Ledger placed late := by
  refine ⟨hs.keyed h.keyed, fun id st hst => h.named id st (hs.status id st hst), fun id hid => ?_, fun id hid => ?_,
    fun id => ?_⟩
  · rw [hs.given]
    exact h.given id hid
  · rw [isLive_shed hs]
    exact h.ended id hid
  · rw [hw, isLive_shed hs]
    exact h.waiting id

theorem Ledger.supervise (h : s.Ledger placed late) (now : UInt64) (answer : String → Answer) :
    (s.supervise now answer).Ledger placed late := by
  rw [supervise_eq]
  exact h.shed (s.registry.sheds_sweep now answer) rfl

theorem Ledger.contains_prune (h : s.Ledger placed late) (id : String) :
    s.prune.waiting.contains id ↔ placed id ∧ s.isLive id := by
  change (s.waiting.filter s.isLive).contains id ↔ _
  rw [IdSet.contains_filter, Bool.and_eq_true, h.waiting]
  exact ⟨fun hl => ⟨hl.1.1, hl.2⟩, fun hl => ⟨⟨hl.1, Or.inl hl.2⟩, hl.2⟩⟩

theorem Ledger.prune (h : s.Ledger placed late) : s.prune.Ledger placed fun _ => False where
  keyed := h.keyed
  named := h.named
  given := h.given
  ended _ hid := hid.elim
  waiting id := by
    rw [h.contains_prune, or_false]
    rfl

/-! ## Traders -/

theorem waiting_settleWorker (s : Session) (w : Worker) (f : Floor) : (s.settleWorker w f).waiting = s.waiting := by
  unfold settleWorker
  dsimp only
  split <;> rfl

theorem Ledger.traderTick (h : s.Ledger placed late) (inbox : Nat) (now : UInt64) (answer : Answer)
    (hn : (s.traderTick inbox now answer).registry.given.Nodup) :
    (s.traderTick inbox now answer).Ledger placed late := by
  rcases traderTick_moves s inbox now answer with he | ⟨w, -, -, he⟩ | ⟨w, t, ticks, -, -, he⟩
  · rw [he]
    exact h
  · rw [he]
    exact h.of_same rfl rfl
  · have hreg : (s.traderTick inbox now answer).registry = (w.trader.onTick s.floor now t answer).2.1.registry := by
      rw [he, registry_settleWorker]
    have hwaiting : (s.traderTick inbox now answer).waiting = s.waiting := by rw [he, waiting_settleWorker]
    have hg := Trader.grown_onTick w.trader s.floor now t answer
    rw [← hreg] at hg
    exact h.beside hg hn hwaiting

theorem Ledger.traderEvent (h : s.Ledger placed late) (inbox : Nat) : (s.traderEvent inbox).Ledger placed late := by
  refine h.of_same (registry_traderEvent s inbox) ?_
  rcases traderEvent_cases s inbox with he | ⟨w, -, bus, e, -, he⟩
  · rw [he]
  · rw [he, waiting_settleWorker]

theorem waiting_release (s : Session) (primary : String) : (s.release primary).1.waiting = s.waiting := by
  obtain ⟨queues, workers, out, he, -⟩ := s.release_parts primary
  rw [he]

theorem waiting_relay (s : Session) (inbox : Nat) : (s.relay inbox).waiting = s.waiting := by
  rcases relay_cases s inbox with ⟨he, -⟩ | ⟨bus, e, -, -, he⟩
  · rw [he]
  · rw [he]
    cases e with
    | assistDone primary => exact waiting_release _ primary
    | orderStatus _ | placed _ | assistFailed _ _ => rfl

theorem waiting_promote (s : Session) : s.promote.waiting = s.waiting := by
  have hall : ∀ (targets : List AssistTarget) (s : Session), (targets.foldl startAssist s).waiting = s.waiting := by
    intro targets
    induction targets with
    | nil => exact fun _ => rfl
    | cons target targets ih =>
      intro s
      obtain ⟨queues, workers, out, he, -⟩ := s.startAssist_parts target
      rw [List.foldl_cons, ih, he]
  exact hall ..

/-! ## Steps -/

theorem Ledger.step (h : s.Ledger placed late) (st : Step) (hn : (s.step st).registry.given.Nodup) :
    (s.step st).Ledger (fun id => placed id ∨ ∃ o ∈ s.unassisted st, o.id = id)
      (fun id => late id ∧ st ≠ .prune ∨ ∃ o ∈ s.unassisted st, o.id = id ∧ ¬ o.status.isCancellable) := by
  have hbeside : (s.step st).Ledger placed late → s.unassisted st = [] → st ≠ .prune → (s.step st).Ledger
      (fun id => placed id ∨ ∃ o ∈ s.unassisted st, o.id = id)
      (fun id => late id ∧ st ≠ .prune ∨ ∃ o ∈ s.unassisted st, o.id = id ∧ ¬ o.status.isCancellable) := by
    intro h hu hp
    rw [hu]
    exact h.congr (by simp) (by simp [hp])
  cases st with
  | text now t ticket => exact (h.text now t ticket hn).congr (fun _ => Iff.rfl) (by simp)
  | prune => exact h.prune.congr (by simp [unassisted]) (by simp [unassisted])
  | status now u => exact hbeside (h.status now u) rfl (by simp)
  | tick t => exact hbeside (h.of_same rfl rfl) rfl (by simp)
  | promote => exact hbeside (h.of_same (registry_startAll ..) s.waiting_promote) rfl (by simp)
  | supervise now answer => exact hbeside (h.supervise now answer) rfl (by simp)
  | release primary => exact hbeside (h.of_same (registry_release ..) (s.waiting_release primary)) rfl (by simp)
  | openRelay => exact hbeside (h.of_same rfl rfl) rfl (by simp)
  | relay inbox => exact hbeside (h.of_same (registry_relay ..) (s.waiting_relay inbox)) rfl (by simp)
  | traderTick inbox now answer => exact hbeside (h.traderTick inbox now answer hn) rfl (by simp)
  | traderEvent inbox => exact hbeside (h.traderEvent inbox) rfl (by simp)

/-! ## Runs -/

theorem tookAlone_snoc {steps : List Step} : s.TookAlone (steps ++ [st]) id ↔
    s.TookAlone steps id ∨ ∃ o ∈ (s.run steps).unassisted st, o.id = id := exists_split_snoc

theorem lingers_snoc {steps : List Step} : s.Lingers (steps ++ [st]) id ↔
    s.Lingers steps id ∧ st ≠ .prune ∨
      ∃ o ∈ (s.run steps).unassisted st, o.id = id ∧ ¬ o.status.isCancellable := exists_split_since_snoc

theorem ledger_start (connId : String) (settings : Config.Trade) (hours : Hours) (zone : Zone) :
    (start connId settings hours zone).Ledger ((start connId settings hours zone).TookAlone [])
      ((start connId settings hours zone).Lingers []) where
  keyed := Registry.keyed_empty _
  named id st h := by cases h
  given id h := by
    obtain ⟨before, st, after, hsplit, -⟩ := h
    simp at hsplit
  ended id h := by
    obtain ⟨before, st, after, hsplit, -⟩ := h
    simp at hsplit
  waiting id := by
    constructor
    · intro h
      cases h
    · rintro ⟨⟨before, st, after, hsplit, -⟩, -⟩
      simp at hsplit

theorem ledger_run (connId : String) (settings : Config.Trade) (hours : Hours) (zone : Zone) {steps : List Step}
    (hn : ((start connId settings hours zone).run steps).registry.given.Nodup) :
    ((start connId settings hours zone).run steps).Ledger ((start connId settings hours zone).TookAlone steps)
      ((start connId settings hours zone).Lingers steps) := by
  induction steps using List.reverseRecOn with
  | nil => exact ledger_start connId settings hours zone
  | append_singleton steps st ih =>
    rw [run_snoc] at hn ⊢
    have hbefore := (given_step _ st).sublist.nodup hn
    exact ((ih hbefore).step st hn).congr (fun _ => tookAlone_snoc) fun _ => lingers_snoc

/-! ## What the list is good for -/

theorem pruned_eq (s : Session) :
    s.pruned = (s.waiting.ids.filter fun id => !s.prune.waiting.contains id).length := by
  have hkept : s.prune.waiting.ids = s.waiting.ids.filter s.isLive := rfl
  have hdropped : (s.waiting.ids.filter fun id => !s.prune.waiting.contains id) =
      s.waiting.ids.filter fun id => !s.isLive id := by
    apply List.filter_congr
    intro id hid
    have hlisted : s.waiting.contains id = true := by simpa [IdSet.contains] using hid
    have hprune : s.prune.waiting.contains id = (s.waiting.contains id && s.isLive id) := IdSet.contains_filter ..
    rw [hprune, hlisted, Bool.true_and]
  have hlength := List.length_eq_length_filter_add (l := s.waiting.ids) s.isLive
  rw [hdropped]
  unfold pruned IdSet.size
  rw [hkept]
  omega

theorem refusal?_orderPending_iff (s : Session) (now : UInt64) (c : Command) (n : Nat) :
    (s.admission now).refusal? c = some (.orderPending n) ↔
      s.isOpenAt now ∧ 0 < s.waiting.size ∧ s.waiting.size = n := by
  unfold Admission.refusal? admission
  dsimp only
  by_cases ho : s.isOpenAt now
  · by_cases hw : 0 < s.waiting.size
    · simp [ho, hw]
    · simp only [ho, hw, Bool.not_true, Bool.false_eq_true, if_false, false_and, and_false, iff_false]
      split
      · simp
      · split
        · simp
        · split <;> simp
  · simp [ho]

theorem refusal?_of_command_error {now : UInt64} {c : Command} {ticket : Nat → Ticket} {r : Rejection}
    (h : (s.command now c ticket).2 = .error r) : (s.admission now).refusal? c = some r := by
  unfold command at h
  cases hr : (s.admission now).refusal? c with
  | none =>
    rw [hr] at h
    cases h
  | some r' =>
    rw [hr] at h
    cases h
    rfl

end

/-- **The waiting list blocks no longer than it must.** With ids that the
brokerage gives but once: the list holds the unassisted orders that are live and
those that were over when they were accepted, the latter until the next pruning.
After a pruning it holds the live ones alone. Commands are whole steps here, and
`Underway.waiting_iff_of_moves` takes them unit by unit. -/
theorem waits_for_live_orders (connId : String) (settings : Config.Trade) (hours : Hours) (zone : Zone)
    {steps : List Step} (hn : ((start connId settings hours zone).run steps).registry.given.Nodup) :
    (start connId settings hours zone).WaitsFor steps := by
  have h := ledger_run connId settings hours zone hn
  have hblocked : 0 < ((start connId settings hours zone).run steps).waiting.size ↔ _ :=
    IdSet.size_pos_iff.trans (exists_congr h.waiting)
  refine ⟨fun id hp hl => (h.waiting id).mpr ⟨hp, Or.inl hl⟩, h.contains_prune, pruned_eq _, h.waiting,
    fun now c => ?_, fun hlive hlingers now c ticket n he => ?_⟩
  · rw [← hblocked]
    constructor
    · rintro ⟨n, hr⟩
      obtain ⟨ho, hw, -⟩ := (refusal?_orderPending_iff _ now c n).mp hr
      exact ⟨ho, hw⟩
    · rintro ⟨ho, hw⟩
      exact ⟨_, (refusal?_orderPending_iff _ now c _).mpr ⟨ho, hw, rfl⟩⟩
  · obtain ⟨-, hw, -⟩ := (refusal?_orderPending_iff _ now c n).mp (refusal?_of_command_error he)
    obtain ⟨id, hp, hl | hl⟩ := hblocked.mp hw
    · exact hlive id hp hl
    · exact hlingers id hl

/-- After a pruning an order is accepted as filled; a sweep forgets it, and its
update comes too late. -/
def filledOnArrival : List Step :=
  [.prune,
   .text 1000 "\x7b\"instrumentCode\":\"MXFL1\",\"action\":\"Buy\",\"price\":100,\"quantity\":1\x7d"
     fun _ => ⟨"g1", .reply { orderId := "p1", status := .filled }⟩,
   .supervise 1100 fun _ => .failure "down", .status 1200 ⟨"p1", .filled, 0, none⟩]

theorem not_isLive_filledOnArrival (id : String) :
    ((start "conn-1" {} .alwaysOpen).run filledOnArrival).isLive id = false := by
  have hnone : ((start "conn-1" {} .alwaysOpen).run filledOnArrival).registry.orders.entries.isEmpty := by
    decide +kernel
  have hlookup : ((start "conn-1" {} .alwaysOpen).run filledOnArrival).registry.lookup id = none := by
    unfold Registry.lookup Table.find?
    rw [List.isEmpty_iff.mp hnone]
    rfl
  rw [isLive, hlookup]
  rfl

/-- Nothing is live, and still the next command is refused. -/
theorem blocked_by_filledOnArrival :
    ((start "conn-1" {} .alwaysOpen).run filledOnArrival).registry.given = ["p1"] ∧
      (∀ id, ((start "conn-1" {} .alwaysOpen).run filledOnArrival).isLive id = false) ∧
      (((start "conn-1" {} .alwaysOpen).run filledOnArrival).command 1300 ⟨"MXFL1", .buy, 100, 1, none⟩
        fun _ => ⟨"g2", .reply { orderId := "p2", status := .submitted }⟩).2 = .error (.orderPending 1) := by
  have hrefused : (((start "conn-1" {} .alwaysOpen).run filledOnArrival).admission 1300).refusal?
      ⟨"MXFL1", .buy, 100, 1, none⟩ = some (.orderPending 1) := by decide +kernel
  refine ⟨by decide +kernel, not_isLive_filledOnArrival, ?_⟩
  rw [command, hrefused]

theorem waits_for_live_orders_filledOnArrival :
    ((start "conn-1" {} .alwaysOpen).run (filledOnArrival ++ [.prune])).registry.given = ["p1"] ∧
      ∀ n, (((start "conn-1" {} .alwaysOpen).run (filledOnArrival ++ [.prune])).command 1300
        ⟨"MXFL1", .buy, 100, 1, none⟩ fun _ => ⟨"g2", .reply { orderId := "p2", status := .submitted }⟩).2 ≠
          .error (.orderPending n) := by
  have hgiven : ((start "conn-1" {} .alwaysOpen).run (filledOnArrival ++ [.prune])).registry.given = ["p1"] := by
    decide +kernel
  refine ⟨hgiven, fun n => ?_⟩
  apply (waits_for_live_orders _ _ _ _ (by rw [hgiven]; simp)).free
  · intro id _
    have hpruned : ∀ s : Session, (s.step .prune).isLive id = s.isLive id := fun _ => rfl
    rw [run_snoc, hpruned, not_isLive_filledOnArrival]
    exact Bool.false_ne_true
  · intro id h
    rw [lingers_snoc] at h
    simp [unassisted] at h

end Session

end FuturesDesk
