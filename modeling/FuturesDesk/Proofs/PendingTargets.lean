import FuturesDesk.Proofs.OneInFlight

/-!
# Pending targets

The target of an assisted order is a second copy of it, which follows the
registry by updates alone. The two agree after every step, also where a sweep
has dropped the order from the registry, and a trader is put to work for a
target only when it is filled and promoted.
-/

namespace FuturesDesk

theorem Table.filter_values_of_keyed {α : Type} (t : Table α) {key : α → String}
    (hk : ∀ i a, t.find? i = some a → key a = i) (p : α → Bool) (id : String) :
    (t.values.filter p).filter (fun a => key a = id) = ((t.find? id).filter p).toList := by
  obtain ⟨es, hn⟩ := t
  have hkey : ∀ e ∈ es, key e.2 = e.1 := fun e he => hk e.1 e.2 (lookup_of_mem hn he)
  change ((es.map (·.2)).filter p).filter _ = ((es.lookup id).filter p).toList
  clear hk
  induction es with
  | nil => rfl
  | cons e es ih =>
    simp only [List.map_cons, List.nodup_cons] at hn
    have htail := ih hn.2 fun e' he' => hkey e' (List.mem_cons_of_mem _ he')
    have he := hkey e (List.mem_cons_self ..)
    rw [lookup_cons, List.map_cons, List.filter_cons]
    by_cases hid : id = e.1
    · -- the id is told by no later entry
      have hnone : es.lookup id = none := lookup_eq_none_iff.mpr (hid ▸ hn.1)
      rw [hnone] at htail
      rw [if_pos hid, Option.filter_some]
      by_cases hp : p e.2
      · rw [if_pos hp, if_pos hp, List.filter_cons, if_pos (decide_eq_true (he.trans hid.symm)), htail]
        rfl
      · rw [if_neg hp, if_neg hp, htail]
        rfl
    · have hne : ¬ decide (key e.2 = id) := by simpa using fun h => hid (h.symm.trans he)
      rw [if_neg hid, ← htail]
      by_cases hp : p e.2
      · rw [if_pos hp, List.filter_cons, if_neg hne]
      · rw [if_neg hp]

/-- A registry after a step that changed neither the status nor the price of an
order, but may have dropped it if it had ended. -/
structure Registry.Kept (id : String) (r r' : Registry) : Prop where
  tracked : ∀ o', r'.lookup id = some o' → ∃ o, r.lookup id = some o ∧ o.status = o'.status ∧ o.price = o'.price
  gone : r'.lookup id = none → ∀ o, r.lookup id = some o → ¬ o.status.isCancellable

theorem Registry.kept_of_lookup {id : String} {r r' : Registry} (h : r'.lookup id = r.lookup id) : r.Kept id r' where
  tracked o' ho' := ⟨o', h ▸ ho', rfl, rfl⟩
  gone hn o ho := by
    rw [h, ho] at hn
    cases hn

namespace Session

structure Agrees (r : Registry) (id : String) (target : AssistTarget) : Prop where
  named : target.order.status ≠ .unknown
  tracked : ∀ o, r.lookup id = some o → o.status = target.order.status ∧ o.price = target.order.price
  gone : r.lookup id = none → ¬ target.order.status.isCancellable

def hired (s : Session) (st : Step) : List AssistTarget :=
  ((s.step st).traders.filter fun t => s.floor.bus.nextId ≤ t.inbox).map (·.target)

def hiredIn (s : Session) : List Step → List AssistTarget
  | [] => []
  | st :: steps => s.hired st ++ (s.step st).hiredIn steps

def InAgreement (s : Session) : Prop := ∀ id target, s.pending.find? id = some target → Agrees s.registry id target

/-- A unit as the brokerage accepted it, right after its command. -/
structure Taken (s s' : Session) (c : Command) (o : Order) : Prop where
  fresh : o.id ∉ s.registry.given
  given : o.id ∈ s'.registry.given
  named : o.status ≠ .unknown
  tracked : s'.registry.lookup o.id = some o
  pending : ∀ option, c.option = some option → s'.pending.find? o.id = some ⟨o, option⟩

/-- What a step does to the target pending under an id. -/
inductive Shift (id : String) (s s' : Session) : Step → Prop
  | beside {st : Step} (hst : st ≠ .promote) (pending : s'.pending.find? id = s.pending.find? id)
      (kept : id ∈ s.registry.given → s.registry.Kept id s'.registry) : Shift id s s' st
  | taken {now : UInt64} {t : String} {ticket : Nat → Ticket} (fresh : id ∉ s.registry.given)
      (pending : ∀ target, s'.pending.find? id = some target →
        s'.registry.lookup id = some target.order ∧ target.order.status ≠ .unknown) :
      Shift id s s' (.text now t ticket)
  | followed {now : UInt64} {u : StatusUpdate} {o o' : Order} (before : s.registry.lookup id = some o)
      (live : ¬ o.status.isTerminal) (after : s'.registry.lookup id = some o') (named : o'.status ≠ .unknown)
      (pending : s'.pending.find? id = (s.pending.find? id).map (follow now o')) : Shift id s s' (.status now u)
  | promoted (registry : s'.registry = s.registry)
      (pending : s'.pending.find? id = (s.pending.find? id).filter (·.order.status.isCancellable)) :
      Shift id s s' .promote

section
variable {s s' : Session} {known : String → Option Status} {id : String} {target : AssistTarget}

/-! ## Traders put to work -/

theorem traders_startAll (s : Session) (targets : List AssistTarget) :
    ∃ new, (targets.foldl startAssist s).traders = s.traders ++ new ∧ new.map (·.target) = targets ∧
      ∀ t ∈ new, s.floor.bus.nextId ≤ t.inbox := by
  induction targets generalizing s with
  | nil => exact ⟨[], (List.append_nil _).symm, rfl, fun t ht => by cases ht⟩
  | cons target targets ih =>
    obtain ⟨queues, workers, out, he, ht, -⟩ := s.startAssist_parts target
    obtain ⟨new, hnew, hmap, hlt⟩ := ih (s.startAssist target)
    have htraders : (s.startAssist target).traders = s.traders ++ [{ target, inbox := s.floor.bus.nextId }] := by
      rw [he]
      exact ht
    have hnext : (s.startAssist target).floor.bus.nextId = s.floor.bus.nextId + 1 := by
      rw [he]
      rfl
    refine ⟨{ target, inbox := s.floor.bus.nextId } :: new, ?_, by rw [List.map_cons, hmap], fun t hm => ?_⟩
    · rw [List.foldl_cons, hnew, htraders, List.append_assoc]
      rfl
    · rcases List.mem_cons.mp hm with rfl | hm
      · exact Nat.le_refl _
      · have := hlt t hm
        omega

theorem Staffed.filter_old (h : s.Staffed) {ts : List Trader} (ht : ∀ t ∈ ts, ∃ v ∈ s.traders, t.inbox = v.inbox) :
    ts.filter (fun t => s.floor.bus.nextId ≤ t.inbox) = [] := by
  refine List.filter_eq_nil_iff.mpr fun t hm => ?_
  obtain ⟨v, hv, hi⟩ := ht t hm
  have hlt := h.inbox_lt hv
  rw [decide_eq_true_eq]
  omega

theorem Staffed.hired_eq_nil (h : s.Staffed) {st : Step}
    (ht : ∀ t ∈ (s.step st).traders, ∃ v ∈ s.traders, t.inbox = v.inbox) : s.hired st = [] := by
  rw [hired, h.filter_old ht]
  rfl

theorem Staffed.hired_of_same (h : s.Staffed) {st : Step} (ht : (s.step st).traders = s.traders) : s.hired st = [] :=
  h.hired_eq_nil fun t hm => ⟨t, ht ▸ hm, rfl⟩

theorem Staffed.hired_promote (h : s.Staffed) : s.hired .promote = s.ready := by
  obtain ⟨new, hnew, hmap, hle⟩ := traders_startAll
    { s with pending := s.pending.filter fun _ t => t.order.status.isCancellable } s.ready
  have hold : s.traders.filter (fun t => s.floor.bus.nextId ≤ t.inbox) = [] := h.filter_old fun t ht => ⟨t, ht, rfl⟩
  have hall : new.filter (fun t => s.floor.bus.nextId ≤ t.inbox) = new :=
    List.filter_eq_self.mpr fun t hm => by simpa using hle t hm
  have htraders : (s.step .promote).traders = s.traders ++ new := hnew
  rw [hired, htraders, List.filter_append, hold, List.nil_append, hall, hmap]

theorem Staffed.filter_ready (h : s.Staffed) (id : String) :
    s.ready.filter (fun t => t.order.id = id) =
      ((s.pending.find? id).filter fun t => decide (t.order.status = .filled)).toList :=
  Table.filter_values_of_keyed s.pending (fun i t ht => (h.pending i t ht).1) _ id

/-! ## Steps -/

theorem lookup_of_grown {r : Registry} {new : List Order} (hg : s.registry.Grown r new) (hn : r.given.Nodup)
    (hid : id ∈ s.registry.given) : r.lookup id = s.registry.lookup id := by
  have hf : new.find? (·.id = id) = none := by
    refine List.find?_eq_none.mpr fun o ho => ?_
    have hne : o.id ≠ id := fun he => hg.fresh hn o ho (he ▸ hid)
    simpa using hne
  rw [hg.lookup, hf]
  rfl

theorem placeUnits_cons (s : Session) (now : UInt64) (c : Command) (ticket : Ticket) (tickets : List Ticket) :
    (s.placeUnits now c (ticket :: tickets)).2 =
      (s.placeUnit now c ticket).2.toList ++ ((s.placeUnit now c ticket).1.placeUnits now c tickets).2 := rfl

theorem kept_placeUnit (s : Session) (now : UInt64) (c : Command) (ticket : Ticket)
    (hn : (s.placeUnit now c ticket).1.registry.given.Nodup) (hid : id ∈ s.registry.given) :
    (s.placeUnit now c ticket).1.pending.find? id = s.pending.find? id ∧
      (s.placeUnit now c ticket).1.registry.lookup id = s.registry.lookup id := by
  have hf := filed_placeUnit s now c ticket
  have hlookup : (s.placeUnit now c ticket).1.registry.lookup id = s.registry.lookup id := by
    rw [hf.registry_eq] at hn ⊢
    exact lookup_of_grown hf.grown hn hid
  refine ⟨?_, hlookup⟩
  rw [hf.registry_eq] at hn
  rcases placeUnit_cases s now c ticket with ⟨-, text, he⟩ | ⟨reply, ha, he⟩
  · rw [he]
  · have hne : id ≠ ((unitOrder c ticket.group).accepted reply now).id := by
      have hfresh := hf.grown.fresh hn
      rw [Registry.accepted_of_accepted _ _ _ ha] at hfresh
      exact fun hi => hfresh _ (List.mem_singleton.mpr rfl) (hi ▸ hid)
    rw [he]
    cases c.option with
    | none => rfl
    | some option => exact (Table.find?_insert ..).trans (if_neg hne)

theorem taken_placeUnit (s : Session) (now : UInt64) (c : Command) (ticket : Ticket)
    (hn : (s.placeUnit now c ticket).1.registry.given.Nodup) {o : Order}
    (ho : o ∈ (s.placeUnit now c ticket).2) : Taken s (s.placeUnit now c ticket).1 c o := by
  have hf := filed_placeUnit s now c ticket
  have hreg := hf.registry_eq
  have hgiven := hf.given
  rw [hreg] at hn
  rcases placeUnit_cases s now c ticket with ⟨-, text, he⟩ | ⟨reply, ha, he⟩
  · rw [he] at ho
    cases ho
  · have hnew := Registry.accepted_of_accepted s.registry now (unitOrder c ticket.group) ha
    have hmem : (unitOrder c ticket.group).accepted reply now ∈
        (s.registry.place now (unitOrder c ticket.group) ticket.answer).accepted := by
      rw [hnew]
      exact List.mem_singleton.mpr rfl
    have hoe : o = (unitOrder c ticket.group).accepted reply now := by
      rw [he] at ho
      exact (Option.some.inj ho).symm
    subst hoe
    refine ⟨hf.grown.fresh hn _ hmem, ?_, hf.grown.named _ hmem, ?_, fun option hoption => ?_⟩
    · rw [hgiven]
      exact List.mem_append_right _ (List.mem_map_of_mem hmem)
    · rw [hreg, hf.grown.lookup, hnew]
      simp
    · rw [he, hoption]
      exact (Table.find?_insert ..).trans (if_pos rfl)

theorem kept_placeUnits (s : Session) (now : UInt64) (c : Command) (tickets : List Ticket)
    (hn : (s.placeUnits now c tickets).1.registry.given.Nodup) (hid : id ∈ s.registry.given) :
    (s.placeUnits now c tickets).1.pending.find? id = s.pending.find? id ∧
      (s.placeUnits now c tickets).1.registry.lookup id = s.registry.lookup id := by
  induction tickets generalizing s with
  | nil => exact ⟨rfl, rfl⟩
  | cons ticket tickets ih =>
    have hunit := (given_placeUnits (s.placeUnit now c ticket).1 now c tickets).sublist.nodup hn
    have hid' : id ∈ (s.placeUnit now c ticket).1.registry.given := by
      rw [(filed_placeUnit s now c ticket).given]
      exact List.mem_append_left _ hid
    obtain ⟨hp, hl⟩ := kept_placeUnit s now c ticket hunit hid
    obtain ⟨hp', hl'⟩ := ih (s.placeUnit now c ticket).1 hn hid'
    exact ⟨hp'.trans hp, hl'.trans hl⟩

theorem taken_placeUnits (s : Session) (now : UInt64) (c : Command) (tickets : List Ticket)
    (hn : (s.placeUnits now c tickets).1.registry.given.Nodup) :
    ∀ o ∈ (s.placeUnits now c tickets).2, Taken s (s.placeUnits now c tickets).1 c o := by
  induction tickets generalizing s with
  | nil =>
    intro o ho
    cases ho
  | cons ticket tickets ih =>
    intro o ho
    have hgrows := given_placeUnits (s.placeUnit now c ticket).1 now c tickets
    have hunit := hgrows.sublist.nodup hn
    rw [placeUnits_cons, List.mem_append, Option.mem_toList] at ho
    rcases ho with ho | ho
    · have ht := taken_placeUnit s now c ticket hunit ho
      obtain ⟨hp, hl⟩ := kept_placeUnits (s.placeUnit now c ticket).1 now c tickets hn ht.given
      exact ⟨ht.fresh, hgrows.subset ht.given, ht.named, hl.trans ht.tracked,
        fun option hoption => hp.trans (ht.pending option hoption)⟩
    · have ht := ih (s.placeUnit now c ticket).1 hn o ho
      refine ⟨fun hm => ht.fresh ?_, ht.given, ht.named, ht.tracked, ht.pending⟩
      rw [(filed_placeUnit s now c ticket).given]
      exact List.mem_append_left _ hm

theorem pending_placeUnits (s : Session) (now : UInt64) (c : Command) (tickets : List Ticket)
    (ht : (s.placeUnits now c tickets).1.pending.find? id = some target) :
    s.pending.find? id = some target ∨
      target.order ∈ (s.placeUnits now c tickets).2 ∧ target.order.id = id ∧ c.option = some target.option := by
  induction tickets generalizing s with
  | nil => exact Or.inl ht
  | cons ticket tickets ih =>
    rw [placeUnits_cons, List.mem_append, Option.mem_toList]
    rcases ih (s.placeUnit now c ticket).1 ht with ht | ⟨ho, hid, hoption⟩
    · rcases placeUnit_cases s now c ticket with ⟨-, text, he⟩ | ⟨reply, ha, he⟩
      · rw [he] at ht
        exact Or.inl ht
      · have hplaced : (s.placeUnit now c ticket).2 = some ((unitOrder c ticket.group).accepted reply now) := by rw [he]
        rw [he] at ht
        cases hoption : c.option with
        | none =>
          rw [hoption] at ht
          exact Or.inl ht
        | some option =>
          rw [hoption] at ht
          replace ht := (Table.find?_insert ..).symm.trans ht
          by_cases hid : id = ((unitOrder c ticket.group).accepted reply now).id
          · rw [if_pos hid, Option.some.injEq] at ht
            subst ht
            exact Or.inr ⟨Or.inl hplaced, hid.symm, rfl⟩
          · rw [if_neg hid] at ht
            exact Or.inl ht
    · exact Or.inr ⟨Or.inr ho, hid, hoption⟩

theorem workers_placeUnits (s : Session) (now : UInt64) (c : Command) (tickets : List Ticket) :
    (s.placeUnits now c tickets).1.workers = s.workers := by
  induction tickets generalizing s with
  | nil => rfl
  | cons ticket tickets ih => exact (ih _).trans (filed_placeUnit s now c ticket).workers

theorem shift_text (h : s.Staffed) (now : UInt64) (t : String) (ticket : Nat → Ticket) (id : String)
    (hn : (s.text now t ticket).registry.given.Nodup) :
    Shift id s (s.text now t ticket) (.text now t ticket) ∧ s.hired (.text now t ticket) = [] := by
  rcases text_cases s now t ticket with ⟨f, he⟩ | ⟨c, tickets, -, he⟩
  · refine ⟨?_, h.hired_of_same ?_⟩
    · rw [he]
      exact .beside (by simp) rfl fun _ => Registry.kept_of_lookup rfl
    · change (s.text now t ticket).traders = _
      rw [he]
      rfl
  · rw [he] at hn
    refine ⟨?_, h.hired_of_same ?_⟩
    · rw [he]
      by_cases hid : id ∈ s.registry.given
      · obtain ⟨hp, hl⟩ := kept_placeUnits s now c tickets hn hid
        exact .beside (by simp) hp fun _ => Registry.kept_of_lookup hl
      · refine .taken hid fun target ht => ?_
        rcases pending_placeUnits s now c tickets ht with ht | ⟨ho, rfl, -⟩
        · -- what was pending before had its id before
          obtain ⟨rfl, hs⟩ := h.pending id target ht
          exact absurd hs.given hid
        · have htaken := taken_placeUnits s now c tickets hn _ ho
          exact ⟨htaken.tracked, htaken.named⟩
    · change (s.text now t ticket).traders = _
      rw [he]
      exact congrArg (·.map (·.trader)) (workers_placeUnits s now c tickets)

theorem shift_status (h : s.Sound known) (now : UInt64) (u : StatusUpdate) :
    Shift id s (s.status now u) (.status now u) := by
  have hreg := registry_status s now u
  have hlookup := s.registry.lookup_merge now u id
  rw [← hreg] at hlookup
  rcases status_cases s now u with ⟨hm, he⟩ | ⟨o', hm, he⟩
  · -- neither status nor price of any order is touched
    refine .beside (by simp) (by rw [he]; rfl) fun _ => ⟨fun o' ho' => ?_, fun hgone o ho => ?_⟩
    · rw [hlookup] at ho'
      split at ho'
      · rename_i hid
        obtain ⟨o, ho, rfl⟩ := Option.map_eq_some_iff.mp ho'
        refine ⟨o, ho, ?_⟩
        rw [Registry.merge_result, ← hid, ho] at hm
        have hno : ¬ (o.hears u && o.changesBy u) := by simpa using hm
        unfold Order.merged
        by_cases hh : o.hears u
        · have hc : ¬ o.changesBy u := fun hc => hno (by rw [hh, hc]; rfl)
          rw [if_pos hh, if_neg hc]
          unfold Order.rearmed
          split <;> exact ⟨rfl, rfl⟩
        · rw [if_neg hh]
          exact ⟨rfl, rfl⟩
      · exact ⟨o', ho', rfl, rfl⟩
    · rw [hlookup, ho] at hgone
      split at hgone <;> cases hgone
  · obtain ⟨o, ho, rfl, hs, hu, hterm, -⟩ := Registry.of_merge_some hm
    have hoid : (o.merged now u).id = u.orderId := (Order.merged_id ..).trans (h.views.keyed _ _ ho)
    have hpending : (s.status now u).pending.find? id =
        if id = u.orderId then (s.pending.find? id).map (follow now (o.merged now u)) else s.pending.find? id := by
      rw [he, ← hoid]
      exact Table.find?_modify ..
    by_cases hid : id = u.orderId
    · rw [if_pos hid] at hlookup hpending
      subst hid
      rw [ho] at hlookup
      exact .followed ho hterm hlookup (hs ▸ hu) hpending
    · rw [if_neg hid] at hlookup hpending
      exact .beside (by simp) hpending fun _ => Registry.kept_of_lookup hlookup

theorem pending_promote (s : Session) :
    s.promote.pending = s.pending.filter fun _ t => t.order.status.isCancellable := by
  have hp : ∀ (s : Session) (targets : List AssistTarget), (targets.foldl startAssist s).pending = s.pending := by
    intro s targets
    induction targets generalizing s with
    | nil => rfl
    | cons target targets ih => exact (ih _).trans (pending_startAssist s target)
  exact hp ..

theorem shift_promote (s : Session) (id : String) : Shift id s s.promote .promote := by
  refine .promoted (registry_startAll ..) ?_
  rw [pending_promote]
  exact Table.find?_filter ..

theorem shift_supervise (h : s.Staffed) (now : UInt64) (answer : String → Answer) (id : String) :
    Shift id s (s.supervise now answer) (.supervise now answer) ∧ s.hired (.supervise now answer) = [] := by
  have he := supervise_eq s now answer
  have ht : (s.supervise now answer).traders = s.traders := by rw [he]; rfl
  refine ⟨?_, h.hired_of_same ht⟩
  rw [he]
  refine .beside (by simp) rfl fun _ => ⟨fun o' ho' => ?_, fun hgone o ho => ?_⟩
  · replace ho' := (Registry.lookup_sweep ..).symm.trans ho'
    obtain ⟨o, ho, rfl⟩ := Option.map_eq_some_iff.mp ho'
    refine ⟨o, (Option.filter_eq_some_iff.mp ho).1, ?_⟩
    split <;> exact ⟨rfl, rfl⟩
  · replace hgone := (Registry.lookup_sweep ..).symm.trans hgone
    rw [ho] at hgone
    intro hc
    simp [Option.filter, hc] at hgone

theorem shift_idle (h : s.Staffed) (st : Step) (he : s.step st = s) (hst : st ≠ .promote) (id : String) :
    Shift id s (s.step st) st ∧ s.hired st = [] := by
  refine ⟨?_, h.hired_of_same (by rw [he])⟩
  rw [he]
  exact .beside hst rfl fun _ => Registry.kept_of_lookup rfl

theorem shift_relay (h : s.Staffed) (inbox : Nat) (id : String) :
    Shift id s (s.relay inbox) (.relay inbox) ∧ s.hired (.relay inbox) = [] := by
  rcases relay_cases s inbox with ⟨he, -⟩ | ⟨bus, e, -, -, he⟩
  · exact shift_idle h (.relay inbox) he (by simp) id
  · obtain ⟨hf, -, hp, ht⟩ := event_keeps { s with floor := { s.floor with bus } } e
    rw [← he] at hf hp ht
    have hreg := registry_relay s inbox
    exact ⟨.beside (by simp) (congrArg (·.find? id) hp) fun _ => Registry.kept_of_lookup (by rw [hreg]),
      h.hired_of_same ht⟩

theorem shift_moved {t t' : Trader} {f : Floor} {new : List Order} (h : s.Staffed) (st : Step)
    (hm : Moved s (s.step st) t t' f new) (hst : st ≠ .promote) (hn : (s.step st).registry.given.Nodup)
    (id : String) : Shift id s (s.step st) st ∧ s.hired st = [] := by
  have hreg : (s.step st).registry = f.registry := hm.registry
  refine ⟨.beside hst (congrArg (·.find? id) hm.pending) fun hid => Registry.kept_of_lookup ?_,
    h.hired_eq_nil fun u hu => ?_⟩
  · rw [hreg] at hn ⊢
    exact lookup_of_grown hm.move.grown hn hid
  · obtain ⟨v, hv, hi, -⟩ := hm.traders_cases hu
    exact ⟨v, hv, hi⟩

theorem shift_traderTick (h : s.Staffed) (inbox : Nat) (now : UInt64) (answer : Answer)
    (hn : (s.traderTick inbox now answer).registry.given.Nodup) (id : String) :
    Shift id s (s.traderTick inbox now answer) (.traderTick inbox now answer) ∧
      s.hired (.traderTick inbox now answer) = [] := by
  rcases traderTick_cases h inbox now answer with he | ⟨w, hw, t, ticks, he⟩
  · exact shift_idle h (.traderTick inbox now answer) he (by simp) id
  · have hm := h.moved_settleWorker hw { w with trader := (w.trader.onTick s.floor now t answer).1, ticks }
      (Trader.move_onTick w.trader s.floor now t answer) rfl
    rw [← he] at hm
    exact shift_moved h (.traderTick inbox now answer) hm (by simp) hn id

theorem shift_traderEvent (h : s.Staffed) (inbox : Nat) (hn : (s.traderEvent inbox).registry.given.Nodup)
    (id : String) :
    Shift id s (s.traderEvent inbox) (.traderEvent inbox) ∧ s.hired (.traderEvent inbox) = [] := by
  rcases traderEvent_cases s inbox with he | ⟨w, hw, bus, e, htake, he⟩
  · exact shift_idle h (.traderEvent inbox) he (by simp) id
  · have hm := h.moved_settleWorker hw { w with trader := (w.trader.onEvent { s.floor with bus } e).1 }
      (Trader.move_onEvent htake) rfl
    rw [← he] at hm
    exact shift_moved h (.traderEvent inbox) hm (by simp) hn id

/-- **What a step does to one target**; only a promotion puts traders to work. -/
theorem shift_step (h : s.Sound known) {st : Step} (hr : ∀ i, st ≠ .release i)
    (hn : (s.step st).registry.given.Nodup) (id : String) :
    Shift id s (s.step st) st ∧ (st ≠ .promote → s.hired st = []) := by
  have hst := h.staffed
  cases st with
  | text now t ticket =>
    obtain ⟨hs, hh⟩ := shift_text hst now t ticket id hn
    exact ⟨hs, fun _ => hh⟩
  | status now u => exact ⟨shift_status h now u, fun _ => hst.hired_of_same (traders_status s now u)⟩
  | tick t =>
    have ht : (s.tick t).traders = s.traders := by
      change (s.workers.map _).map _ = _
      rw [List.map_map]
      refine List.map_congr_left fun w _ => ?_
      simp only [Function.comp_apply]
      split <;> rfl
    exact ⟨.beside (by simp) rfl fun _ => Registry.kept_of_lookup rfl, fun _ => hst.hired_of_same ht⟩
  | prune => exact ⟨.beside (by simp) rfl fun _ => Registry.kept_of_lookup rfl, fun _ => hst.hired_of_same rfl⟩
  | promote => exact ⟨shift_promote s id, fun hp => absurd rfl hp⟩
  | supervise now answer =>
    obtain ⟨hs, hh⟩ := shift_supervise hst now answer id
    exact ⟨hs, fun _ => hh⟩
  | release i => exact absurd rfl (hr i)
  | openRelay => exact ⟨.beside (by simp) rfl fun _ => Registry.kept_of_lookup rfl, fun _ => hst.hired_of_same rfl⟩
  | relay inbox =>
    obtain ⟨hs, hh⟩ := shift_relay hst inbox id
    exact ⟨hs, fun _ => hh⟩
  | traderTick inbox now answer =>
    obtain ⟨hs, hh⟩ := shift_traderTick hst inbox now answer hn id
    exact ⟨hs, fun _ => hh⟩
  | traderEvent inbox =>
    obtain ⟨hs, hh⟩ := shift_traderEvent hst inbox hn id
    exact ⟨hs, fun _ => hh⟩

/-! ## Agreement -/

theorem Agrees.kept {r r' : Registry} (h : Agrees r id target) (hk : r.Kept id r') : Agrees r' id target where
  named := h.named
  tracked o' ho' := by
    obtain ⟨o, ho, hs, hp⟩ := hk.tracked o' ho'
    rw [← hs, ← hp]
    exact h.tracked o ho
  gone hgone := by
    cases hl : r.lookup id with
    | none => exact h.gone hl
    | some o =>
      rw [← (h.tracked o hl).1]
      exact hk.gone hgone o hl

theorem agrees_of_lookup {r : Registry} {o : Order} (hn : target.order.status ≠ .unknown) (ho : r.lookup id = some o)
    (hs : o.status = target.order.status) (hp : o.price = target.order.price) : Agrees r id target where
  named := hn
  tracked o' ho' := by
    rw [ho, Option.some.injEq] at ho'
    subst ho'
    exact ⟨hs, hp⟩
  gone hgone := by
    rw [ho] at hgone
    cases hgone

theorem agrees_follow {r : Registry} {o : Order} (hn : o.status ≠ .unknown) (ho : r.lookup id = some o) (now : UInt64) :
    Agrees r id (follow now o target) := agrees_of_lookup hn ho rfl rfl

/-- **Every step keeps the copies in agreement**, also one that drops an order. -/
theorem InAgreement.step (ha : s.InAgreement) (h : s.Sound known) {st : Step} (hr : ∀ i, st ≠ .release i)
    (hn : (s.step st).registry.given.Nodup) : (s.step st).InAgreement := by
  intro id target' ht
  cases (shift_step h hr hn id).1 with
  | beside hst hp hk =>
    rw [hp] at ht
    obtain ⟨rfl, hstart⟩ := h.staffed.pending id target' ht
    exact (ha _ _ ht).kept (hk hstart.given)
  | taken fresh hp =>
    obtain ⟨ho, hnamed⟩ := hp target' ht
    exact agrees_of_lookup hnamed ho rfl rfl
  | followed before live after named hp =>
    rw [hp] at ht
    obtain ⟨target, -, rfl⟩ := Option.map_eq_some_iff.mp ht
    exact agrees_follow named after _
  | promoted hreg hp =>
    rw [hp] at ht
    rw [hreg]
    exact ha id target' (Option.filter_eq_some_iff.mp ht).1

theorem InAgreement.run (ha : s.InAgreement) (h : s.Sound known) {steps : List Step}
    (hr : ∀ id, Step.release id ∉ steps) (hn : (s.run steps).registry.given.Nodup) : (s.run steps).InAgreement := by
  induction steps generalizing s known with
  | nil => exact ha
  | cons st steps ih =>
    have hstep : (s.step st).registry.given.Nodup := (given_run (s.step st) steps).sublist.nodup hn
    have hrst : ∀ id, st ≠ .release id := fun id he => hr id (he ▸ List.mem_cons_self ..)
    obtain ⟨known', h'⟩ := h.step hrst hstep
    exact ih (ha.step h hrst hstep) h' (fun id hm => hr id (List.mem_cons_of_mem _ hm)) hn

theorem InAgreement.tracked_promote (ha : s.InAgreement) {id : String}
    (ht : s.promote.pending.find? id = some target) :
    ∃ o, s.promote.registry.lookup id = some o ∧ o.status = target.order.status ∧ o.status.isCancellable := by
  have hp : s.promote.pending.find? id = (s.pending.find? id).filter (·.order.status.isCancellable) := by
    cases shift_promote s id with
    | promoted _ hp => exact hp
    | beside hst => exact absurd rfl hst
  have hreg : s.promote.registry = s.registry := registry_startAll ..
  rw [hp] at ht
  obtain ⟨ht, hlive⟩ := Option.filter_eq_some_iff.mp ht
  have hagrees := ha id target ht
  rw [hreg]
  cases ho : s.registry.lookup id with
  | none => exact absurd hlive (hagrees.gone ho)
  | some o =>
    have hs := (hagrees.tracked o ho).1
    exact ⟨o, rfl, hs, hs ▸ hlive⟩

end

end Session

end FuturesDesk
