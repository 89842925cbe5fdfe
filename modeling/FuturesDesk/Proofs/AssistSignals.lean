import Mathlib.Data.List.Induction
import FuturesDesk.Proofs.AssistOrders
import FuturesDesk.Proofs.DeclinedFrames

/-!
# Signals of assistance

A client is told when the first queue of a trader opens and when the last one is
closed. Ids may be given twice and queues closed by hand: an order is pending only
while its queue is not open, so no queue is opened twice, and the signals
alternate.
-/

namespace FuturesDesk

def Frame.assist? : Frame → Option Bool
  | .message (.assistStatus running) => some running
  | _ => none

namespace Table

variable {α : Type} {t : Table α} {id : String}

theorem size_insert (h : t.find? id = none) (a : α) : (t.insert id a).size = t.size + 1 := by
  simp [size, entries_insert h]

theorem size_pos_of_find? {a : α} (h : t.find? id = some a) : 0 < t.size :=
  List.length_pos_of_mem (mem_entries_iff.mpr h)

theorem find?_of_size_eq_zero (h : t.size = 0) (id : String) : t.find? id = none := by
  cases hf : t.find? id with
  | none => rfl
  | some a => exact absurd (size_pos_of_find? hf) (by omega)

end Table

def alternating (n : Nat) : List Bool := (List.range n).map (· % 2 == 0)

@[simp] theorem length_alternating (n : Nat) : (alternating n).length = n := by simp [alternating]

theorem alternating_succ (n : Nat) : alternating (n + 1) = alternating n ++ [n % 2 == 0] := by
  simp [alternating, List.range_succ]

namespace Session

def isAssisting (s : Session) : Bool := decide (0 < s.queues.size)

def signals (s : Session) : List Bool := s.out.filterMap Frame.assist?

/-- The client is told of the first queue that opens and of the last that is
closed, and of nothing else. -/
def Signals (s s' : Session) : Prop :=
  s'.signals = s.signals ++ if s'.isAssisting = s.isAssisting then [] else [s'.isAssisting]

/-- Where a session stands with its signals: they begin with an opening and
alternate, the last says what is so, and every change is told. -/
structure Signalled (s : Session) : Prop where
  alternate : s.signals = alternating s.signals.length
  last : s.signals.getLast?.getD false = s.isAssisting
  told : ∀ st, Signals s (s.step st)
  once : ∀ id, (s.release id).1.release id = ((s.release id).1, false)

/-- Targets are pending under the ids of their orders, and have no queue. -/
def Apart (s : Session) : Prop :=
  ∀ id target, s.pending.find? id = some target → target.order.id = id ∧ s.queues.find? id = none

section
variable {s s' s'' : Session} {st : Step}

/-! ## Frames and queues -/

theorem signals_append (s : Session) {fs : List Frame} (h : ∀ f ∈ fs, f.assist? = none) :
    ({ s with out := s.out ++ fs } : Session).signals = s.signals := by
  have hfs : fs.filterMap Frame.assist? = [] := List.filterMap_eq_nil_iff.mpr h
  simp [signals, hfs]

theorem Signals.of_same (hs : s'.signals = s.signals) (hq : s'.queues = s.queues) : Signals s s' := by
  simp [Signals, isAssisting, hs, hq]

/-- Two changes in a row, of which one at most opens the first queue or closes
the last. -/
theorem Signals.trans (h : Signals s s') (h' : Signals s' s'')
    (hsame : s'.isAssisting = s.isAssisting ∨ s''.isAssisting = s'.isAssisting) : Signals s s'' := by
  unfold Signals at h h' ⊢
  rw [h', h]
  rcases hsame with hsame | hsame <;> simp [hsame]

theorem Apart.frame (h : s.Apart) (hq : ∀ id, s.queues.find? id = none → s'.queues.find? id = none)
    (hp : ∀ id target, s'.pending.find? id = some target → ∃ old, s.pending.find? id = some old ∧
      target.order.id = old.order.id) : s'.Apart := by
  intro id target ht
  obtain ⟨old, hold, hid⟩ := hp id target ht
  obtain ⟨hkey, hnone⟩ := h id old hold
  exact ⟨hid.trans hkey, hq id hnone⟩

theorem Apart.of_same (h : s.Apart) (hq : s'.queues = s.queues) (hp : s'.pending = s.pending) : s'.Apart := by
  unfold Apart
  rw [hq, hp]
  exact h

/-! ## Commands -/

theorem signals_placeUnit (s : Session) (now : UInt64) (c : Command) (ticket : Ticket) :
    (s.placeUnit now c ticket).1.signals = s.signals ∧ (s.placeUnit now c ticket).1.queues = s.queues := by
  rcases placeUnit_cases s now c ticket with ⟨-, text, he⟩ | ⟨reply, -, he⟩
  · rw [he]
    exact ⟨s.signals_append (by simp [Frame.assist?]), rfl⟩
  · rw [he]
    exact ⟨s.signals_append (by simp [Frame.assist?]), rfl⟩

theorem signals_placeUnits (s : Session) (now : UInt64) (c : Command) (tickets : List Ticket) :
    (s.placeUnits now c tickets).1.signals = s.signals ∧ (s.placeUnits now c tickets).1.queues = s.queues := by
  induction tickets generalizing s with
  | nil => exact ⟨rfl, rfl⟩
  | cons ticket tickets ih =>
    obtain ⟨hsignals, hqueues⟩ := ih (s.placeUnit now c ticket).1
    have hunit := signals_placeUnit s now c ticket
    exact ⟨hsignals.trans hunit.1, hqueues.trans hunit.2⟩

theorem Declines.assist? {now : UInt64} {t : String} {f : Frame} (h : s.Declines now t f) : f.assist? = none := by
  cases h with
  | _ => rfl

theorem signals_text (h : s.Apart) (now : UInt64) (t : String) (ticket : Nat → Ticket) :
    Signals s (s.text now t ticket) ∧ (s.text now t ticket).Apart := by
  by_cases ha : s.Admits now t
  · obtain ⟨hping, c, hread, hpass⟩ := ha
    have hadmit := refusal?_eq_none_iff.mpr hpass
    rw [text_of_ofText hping hread, command_of_refusal?_none hadmit]
    obtain ⟨hsignals, hqueues⟩ := signals_placeUnits s now c ((List.range (unitCount c)).map ticket)
    refine ⟨.of_same hsignals hqueues, fun id target ht => ?_⟩
    rw [hqueues]
    rcases pending_placeUnits s now c _ ht with ht | ⟨-, hid, -⟩
    · exact h id target ht
    · exact ⟨hid, Table.find?_of_size_eq_zero (idle_of_refusal?_none hadmit).2.1 id⟩
  · obtain ⟨f, hf, he⟩ := text_of_not_admits ha ticket
    rw [he]
    exact ⟨.of_same (s.signals_append (by simpa using hf.assist?)) rfl, h⟩

/-! ## Queues that open and close -/

theorem signals_startAssist {target : AssistTarget} (h : s.queues.find? target.order.id = none) :
    Signals s (s.startAssist target) ∧ (s.startAssist target).isAssisting = true ∧
      ∀ id, id ≠ target.order.id → (s.startAssist target).queues.find? id = s.queues.find? id := by
  have hsize := Table.size_insert h (Trader.start s.floor target).1.inbox
  have hfind : ∀ id, id ≠ target.order.id →
      (s.queues.insert target.order.id (Trader.start s.floor target).1.inbox).find? id = s.queues.find? id := by
    intro id hid
    rw [Table.find?_insert, if_neg hid]
  unfold startAssist
  dsimp only
  by_cases hzero : s.queues.size = 0
  · rw [if_pos (by omega)]
    refine ⟨?_, ?_, hfind⟩
    · simp [Signals, signals, isAssisting, send, push, hsize, hzero, Frame.assist?]
    · simp [isAssisting, send, push, hsize]
  · rw [if_neg (by omega)]
    refine ⟨?_, ?_, hfind⟩
    · simp [Signals, signals, isAssisting, hsize, Nat.pos_of_ne_zero hzero]
    · simp [isAssisting, hsize]

theorem signals_startAll {targets : List AssistTarget} (h : ∀ t ∈ targets, s.queues.find? t.order.id = none)
    (hn : (targets.map (·.order.id)).Nodup) :
    Signals s (targets.foldl startAssist s) ∧
      (s.isAssisting = true → (targets.foldl startAssist s).isAssisting = true) ∧
      ∀ id, id ∉ targets.map (·.order.id) → (targets.foldl startAssist s).queues.find? id = s.queues.find? id := by
  induction targets generalizing s with
  | nil => exact ⟨.of_same rfl rfl, fun h => h, fun id _ => rfl⟩
  | cons target targets ih =>
    rw [List.map_cons, List.nodup_cons] at hn
    obtain ⟨hsignals, hopen, hfind⟩ := signals_startAssist (h target (List.mem_cons_self ..))
    have hrest : ∀ t ∈ targets, (s.startAssist target).queues.find? t.order.id = none := by
      intro t ht
      have hne : t.order.id ≠ target.order.id := fun he => hn.1 (he ▸ List.mem_map_of_mem ht)
      rw [hfind _ hne]
      exact h t (List.mem_cons_of_mem _ ht)
    obtain ⟨hsignals', hopen', hfind'⟩ := ih hrest hn.2
    -- the first queue is open by now, so the others are no news
    have hstays := hopen' hopen
    refine ⟨hsignals.trans hsignals' (Or.inr (hstays.trans hopen.symm)), fun _ => hstays, fun id hid => ?_⟩
    rw [List.map_cons, List.mem_cons, not_or] at hid
    exact (hfind' id hid.2).trans (hfind id hid.1)

theorem signals_promote (h : s.Apart) : Signals s s.promote ∧ s.promote.Apart := by
  have hkey : ∀ id target, s.pending.find? id = some target → target.order.id = id := fun id target ht =>
    (h id target ht).1
  have hclosed : ∀ t ∈ s.ready, s.queues.find? t.order.id = none := fun t ht =>
    (h _ _ (pending_of_ready hkey ht).1).2
  obtain ⟨hsignals, -, hfind⟩ := signals_startAll
    (s := { s with pending := s.pending.filter fun _ t => t.order.status.isCancellable }) hclosed (nodup_ready hkey)
  refine ⟨hsignals, fun id target ht => ?_⟩
  rw [pending_promote, Table.find?_filter, Option.filter_eq_some_iff] at ht
  obtain ⟨hpending, hlive⟩ := ht
  obtain ⟨hid, hnone⟩ := h id target hpending
  refine ⟨hid, (hfind id ?_).trans hnone⟩
  -- a target that is still pending is live, and those that were started are filled
  rw [List.mem_map]
  rintro ⟨t, hready, rfl⟩
  obtain ⟨hfound, hfilled⟩ := pending_of_ready hkey hready
  rw [hpending, Option.some.injEq] at hfound
  rw [hfound, hfilled] at hlive
  exact absurd hlive (by decide)

theorem signals_release (s : Session) (id : String) : Signals s (s.release id).1 := by
  unfold release
  cases hfind : s.queues.find? id with
  | none => exact .of_same rfl rfl
  | some inbox =>
    have hopen : s.queues.size ≠ 0 := Nat.ne_of_gt (Table.size_pos_of_find? hfind)
    dsimp only
    by_cases hzero : (s.queues.erase id).size = 0
    · rw [if_pos hzero]
      simp [Signals, hopen, signals, isAssisting, send, push, hzero, Frame.assist?]
    · rw [if_neg hzero]
      simp [Signals, hopen, signals, isAssisting, Nat.pos_of_ne_zero hzero]

theorem Apart.release (h : s.Apart) (id : String) : (s.release id).1.Apart := by
  unfold Session.release
  cases hfind : s.queues.find? id with
  | none => exact h
  | some inbox =>
    have hclosed : ∀ k, s.queues.find? k = none → (s.queues.erase id).find? k = none := by
      intro k hk
      rw [Table.find?_erase, hk, ite_self]
    dsimp only
    split
    · exact h.frame hclosed fun k target ht => ⟨target, ht, rfl⟩
    · exact h.frame hclosed fun k target ht => ⟨target, ht, rfl⟩

theorem release_release (s : Session) (id : String) : (s.release id).1.release id = ((s.release id).1, false) := by
  have hnone : (s.release id).1.queues.find? id = none := by
    unfold release
    cases hfind : s.queues.find? id with
    | none => exact hfind
    | some inbox =>
      have herased : (s.queues.erase id).find? id = none := by rw [Table.find?_erase, if_pos rfl]
      dsimp only
      split
      · exact herased
      · exact herased
  rw [release, hnone]

theorem queues_release {id primary : String} (h : ((s.release primary).1.queues.find? id).isSome) :
    (s.queues.find? id).isSome := by
  unfold release at h
  cases hfind : s.queues.find? primary with
  | none =>
    rw [hfind] at h
    exact h
  | some inbox =>
    rw [hfind] at h
    have herased : ((s.queues.erase primary).find? id).isSome := by
      dsimp only at h
      split at h <;> exact h
    rw [Table.find?_erase] at herased
    split at herased
    · cases herased
    · exact herased

theorem queues_startAll {targets : List AssistTarget} {id : String}
    (h : ((targets.foldl startAssist s).queues.find? id).isSome) :
    (s.queues.find? id).isSome ∨ ∃ t ∈ targets, t.order.id = id := by
  induction targets generalizing s with
  | nil => exact Or.inl h
  | cons target targets ih =>
    rcases ih h with hopen | ⟨t, ht, hid⟩
    · have hqueues : (s.startAssist target).queues =
          s.queues.insert target.order.id (Trader.start s.floor target).1.inbox := by
        unfold startAssist
        dsimp only
        split <;> rfl
      rw [hqueues, Table.find?_insert] at hopen
      split at hopen
      · rename_i hid
        exact Or.inr ⟨target, List.mem_cons_self .., hid.symm⟩
      · exact Or.inl hopen
    · exact Or.inr ⟨t, List.mem_cons_of_mem _ ht, hid⟩

/-! ## Steps -/

theorem pending_of_follow {now : UInt64} {o : Order} {id : String} {target : AssistTarget}
    (ht : (s.pending.modify o.id (follow now o)).find? id = some target) :
    ∃ old, s.pending.find? id = some old ∧ target.order.id = old.order.id := by
  rw [Table.find?_modify] at ht
  split at ht
  · obtain ⟨old, hold, rfl⟩ := Option.map_eq_some_iff.mp ht
    exact ⟨old, hold, rfl⟩
  · exact ⟨target, ht, rfl⟩

theorem signals_step (h : s.Apart) (st : Step) : Signals s (s.step st) ∧ (s.step st).Apart := by
  have hsame : ∀ {s' : Session}, s'.signals = s.signals → s'.queues = s.queues → s'.pending = s.pending →
      Signals s s' ∧ s'.Apart := fun hs hq hp => ⟨.of_same hs hq, h.of_same hq hp⟩
  have hsettled : ∀ (w : Worker) (f : Floor), Signals s (s.settleWorker w f) ∧ (s.settleWorker w f).Apart := by
    intro w f
    unfold settleWorker
    dsimp only
    split
    · exact hsame rfl rfl rfl
    · exact hsame rfl rfl rfl
  cases st with
  | text now t ticket => exact signals_text h now t ticket
  | status now u =>
    rw [step]
    rcases status_cases s now u with ⟨-, he⟩ | ⟨o, -, he⟩
    · rw [he]
      exact hsame rfl rfl rfl
    · rw [he]
      refine ⟨.of_same (s.signals_append ?_) rfl, h.frame (fun _ hid => hid) fun _ _ => pending_of_follow⟩
      simp [Frame.assist?]
  | tick t => exact hsame (signals_append (s.offer t) (by simp [Frame.assist?])) rfl rfl
  | prune => exact hsame rfl rfl rfl
  | promote => exact signals_promote h
  | supervise now answer =>
    rw [step, supervise_eq]
    refine hsame (signals_append (s.setRegistry _) ?_) rfl rfl
    intro f hf
    obtain ⟨text, rfl⟩ := error_of_mem_frames hf
    rfl
  | release id => exact ⟨signals_release s id, h.release id⟩
  | openRelay => exact hsame rfl rfl rfl
  | relay inbox =>
    rw [step]
    rcases relay_cases s inbox with ⟨he, -⟩ | ⟨bus, e, -, -, he⟩
    · rw [he]
      exact hsame rfl rfl rfl
    · rw [he]
      cases e with
      | orderStatus o => exact hsame rfl rfl rfl
      | placed o => exact hsame (s.signals_append (by simp [Frame.assist?])) rfl rfl
      | assistFailed primary reason => exact hsame (s.signals_append (by simp [Frame.assist?])) rfl rfl
      | assistDone primary =>
        have hbus : ({ s with floor := { s.floor with bus } } : Session).Apart := h
        exact ⟨signals_release _ primary, hbus.release primary⟩
  | traderTick inbox now answer =>
    rw [step]
    rcases traderTick_moves s inbox now answer with he | ⟨w, -, -, he⟩ | ⟨w, t, ticks, -, -, he⟩
    · rw [he]
      exact hsame rfl rfl rfl
    · rw [he]
      exact hsame rfl rfl rfl
    · rw [he]
      exact hsettled _ _
  | traderEvent inbox =>
    rw [step]
    rcases traderEvent_cases s inbox with he | ⟨w, -, bus, e, -, he⟩
    · rw [he]
      exact hsame rfl rfl rfl
    · rw [he]
      exact hsettled _ _

/-- A queue that is open after a step was open before, or is opened for a filled
target. -/
theorem queues_step {id : String} (h : ((s.step st).queues.find? id).isSome) :
    (s.queues.find? id).isSome ∨ ∃ t ∈ s.ready, t.order.id = id := by
  have hsame : (s.step st).queues = s.queues → (s.queues.find? id).isSome := fun he => he ▸ h
  have hsettled : ∀ (w : Worker) (f : Floor), (s.settleWorker w f).queues = s.queues := by
    intro w f
    unfold settleWorker
    dsimp only
    split <;> rfl
  cases st with
  | text now t ticket =>
    refine Or.inl (hsame ?_)
    change (s.text now t ticket).queues = _
    rcases text_cases s now t ticket with ⟨f, he⟩ | ⟨c, tickets, -, he⟩
    · rw [he]
      rfl
    · rw [he, (signals_placeUnits s now c tickets).2]
  | status now u =>
    refine Or.inl (hsame ?_)
    change (s.status now u).queues = _
    rcases status_cases s now u with ⟨-, he⟩ | ⟨o, -, he⟩
    · rw [he]
      rfl
    · rw [he]
  | promote =>
    have hopen : ((s.ready.foldl startAssist
        { s with pending := s.pending.filter fun _ t => t.order.status.isCancellable }).queues.find? id).isSome := h
    have hcases := queues_startAll hopen
    exact hcases
  | supervise now answer =>
    refine Or.inl (hsame ?_)
    change (s.supervise now answer).queues = _
    rw [supervise_eq]
    rfl
  | release primary => exact Or.inl (queues_release h)
  | relay inbox =>
    left
    change ((s.relay inbox).queues.find? id).isSome at h
    rcases relay_cases s inbox with ⟨he, -⟩ | ⟨bus, e, -, -, he⟩
    · rwa [he] at h
    · rw [he] at h
      cases e with
      | assistDone primary =>
        have hopen := queues_release h
        exact hopen
      | orderStatus _ | placed _ | assistFailed _ _ => exact h
  | traderTick inbox now answer =>
    refine Or.inl (hsame ?_)
    change (s.traderTick inbox now answer).queues = _
    rcases traderTick_moves s inbox now answer with he | ⟨w, -, -, he⟩ | ⟨w, t, ticks, -, -, he⟩
    · rw [he]
    · rw [he]
      rfl
    · rw [he, hsettled]
  | traderEvent inbox =>
    refine Or.inl (hsame ?_)
    change (s.traderEvent inbox).queues = _
    rcases traderEvent_cases s inbox with he | ⟨w, -, bus, e, -, he⟩
    · rw [he]
    · rw [he, hsettled]
  | tick _ | prune | openRelay => exact Or.inl h

/-! ## Runs -/

/-- The number of signals says what is so. -/
structure InPhase (s : Session) : Prop where
  apart : s.Apart
  alternate : s.signals = alternating s.signals.length
  current : s.isAssisting = (s.signals.length % 2 == 1)

theorem InPhase.signalled (h : s.InPhase) (hsignals : Signals s s') (hapart : s'.Apart) : s'.InPhase := by
  unfold Signals at hsignals
  by_cases hsame : s'.isAssisting = s.isAssisting
  · rw [if_pos hsame, List.append_nil] at hsignals
    refine ⟨hapart, ?_, ?_⟩
    · rw [hsignals]
      exact h.alternate
    · rw [hsignals, hsame]
      exact h.current
  · -- one more signal, and the opposite of what was so
    rw [if_neg hsame] at hsignals
    have hnext : s'.isAssisting = (s.signals.length % 2 == 0) := by
      rw [h.current] at hsame
      rw [Bool.eq_not_of_ne hsame]
      rcases Nat.mod_two_eq_zero_or_one s.signals.length with hl | hl <;> simp [hl]
    refine ⟨hapart, ?_, ?_⟩
    · rw [hsignals, List.length_append, List.length_singleton, alternating_succ, ← h.alternate, hnext]
    · rw [hsignals, hnext, List.length_append, List.length_singleton]
      rcases Nat.mod_two_eq_zero_or_one s.signals.length with hl | hl <;> simp [hl, Nat.add_mod]

theorem InPhase.step (h : s.InPhase) (st : Step) : (s.step st).InPhase := by
  obtain ⟨hsignals, hapart⟩ := signals_step h.apart st
  exact h.signalled hsignals hapart

theorem InPhase.last (h : s.InPhase) : s.signals.getLast?.getD false = s.isAssisting := by
  rw [h.current, h.alternate]
  cases hl : s.signals.length with
  | zero => rfl
  | succ n =>
    rcases Nat.mod_two_eq_zero_or_one n with hn | hn <;> simp [alternating_succ, hn, Nat.add_mod]

theorem inPhase_run (connId : String) (settings : Config.Trade) (hours : Hours) (zone : Zone) (steps : List Step) :
    ((start connId settings hours zone).run steps).InPhase := by
  induction steps using List.reverseRecOn with
  | nil =>
    refine ⟨?_, rfl, rfl⟩
    intro id target ht
    cases ht
  | append_singleton steps st ih =>
    rw [run_snoc]
    exact ih.step st

end

/-- **Signals of assistance.** Whatever steps a session has made, whatever ids
the brokerage gave and whatever queues were closed by hand: the client was told
of every opening and closing in turn. A command is one step with all its units;
where other steps come between them, the ids have to be given but once
(`Underway.signals_of_moves`). -/
theorem assist_signals_alternate (connId : String) (settings : Config.Trade) (hours : Hours) (zone : Zone)
    (steps : List Step) :
    ((start connId settings hours zone).run steps).Signalled where
  alternate := (inPhase_run connId settings hours zone steps).alternate
  last := (inPhase_run connId settings hours zone steps).last
  told st := (signals_step (inPhase_run connId settings hours zone steps).apart st).1
  once id := release_release _ id

/-- A queue opens for a filled order, takes ticks, and is closed once its trader
is done. -/
example :
    ((start "conn-1" {} .alwaysOpen).run (closedPosition.take 4)).signals = [true] ∧
      ((start "conn-1" {} .alwaysOpen).run (closedPosition.take 4)).queues.size = 1 ∧
      ((start "conn-1" {} .alwaysOpen).run closedPosition).signals = [true, false] ∧
      ((start "conn-1" {} .alwaysOpen).run closedPosition).queues.size = 0 := by
  decide +kernel

end Session

end FuturesDesk
