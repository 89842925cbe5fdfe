import FuturesDesk.Brokerage.Gateway
import FuturesDesk.Proofs.CancelWindows
import FuturesDesk.Proofs.CommandGuards
import FuturesDesk.Proofs.PendingTargets
import FuturesDesk.Proofs.ReadCommands

/-!
# The orders of a command

A command is sent to the brokerage unit by unit, whatever came of the units
before. A unit that fails leaves a call and a message to the client; one that is
accepted is tracked, and waits for its end or is pending for its trader.
-/

namespace FuturesDesk

namespace Table

variable {α : Type}

theorem put_of_lookup_eq_none {id : String} {a : α} {es : List (String × α)} (h : es.lookup id = none) :
    put id a es = es ++ [(id, a)] := by
  induction es with
  | nil => rfl
  | cons e es ih =>
    rw [lookup_cons] at h
    by_cases hid : id = e.1
    · simp [hid] at h
    · rw [if_neg hid] at h
      rw [put, if_neg (Ne.symm hid), ih h]
      rfl

theorem entries_insert {t : Table α} {id : String} (h : t.find? id = none) (a : α) :
    (t.insert id a).entries = t.entries ++ [(id, a)] := put_of_lookup_eq_none h

theorem find?_append {t t' : Table α} {es : List (String × α)} (h : t'.entries = t.entries ++ es) {id : String}
    (ht : t.find? id = none) (he : id ∉ es.map (·.1)) : t'.find? id = none := by
  apply lookup_eq_none_iff.mpr
  rw [h, List.map_append, List.mem_append]
  exact not_or.mpr ⟨lookup_eq_none_iff.mp ht, he⟩

end Table

theorem IdSet.ids_add {s : IdSet} {id : String} (h : s.contains id = false) : (s.add id).ids = s.ids ++ [id] := by
  have hid : id ∉ s.ids := by simpa [IdSet.contains] using h
  unfold add
  rw [dif_neg hid]

/-! ## Answers -/

def Answer.verdict : Answer → Except String Reply
  | .failure reason => .error reason
  | .reply r =>
    match r.refusal? with
    | some reason => .error reason
    | none => .ok r

def Answer.givenIds (answers : List Answer) : List String := (answers.filterMap accepted?).map (·.orderId)

theorem Answer.accepted?_eq (a : Answer) : a.accepted? = a.verdict.toOption := by
  cases a with
  | failure reason => rfl
  | reply r => cases h : r.refusal? <;> simp [accepted?, verdict, h, Except.toOption]

theorem Registry.place_eq (r : Registry) (now : UInt64) (o : Order) (a : Answer) :
    r.place now o a =
      match a.verdict with
      | .ok reply => ⟨(r.noteCall (.submit o a)).record (o.accepted reply now), o.accepted reply now, .ok reply⟩
      | .error reason => ⟨r.noteCall (.submit o a), { o with status := .failed }, .error (.gateway reason)⟩ := by
  cases a with
  | failure reason => rfl
  | reply r' => cases h : r'.refusal? <;> simp only [place, Answer.verdict, h]

theorem Registry.record_accepted {a : Answer} {reply : Reply} (h : a.accepted? = some reply) (r : Registry) (o : Order)
    (now : UInt64) :
    r.record (o.accepted reply now) = { r with orders := r.orders.insert reply.orderId (o.accepted reply now) } := by
  obtain ⟨-, hid, -⟩ := Answer.accepted?_eq_some h
  have haccepted : (o.accepted reply now).isAccepted := by simp [Order.isAccepted, Order.accepted, hid]
  unfold record
  rw [if_pos haccepted]
  rfl

namespace Session

def unitFrame (now : UInt64) (o : Order) (a : Answer) : Frame :=
  match a.verdict with
  | .ok reply => .message (.order (o.accepted reply now))
  | .error reason => .message (.error .placeOrderFailed
      (o.action.name ++ " " ++ o.code ++ " " ++ plainText o.price ++ ": " ++ (Fault.gateway reason).message))

def acceptedUnits (now : UInt64) (units : List Order) (answers : List Answer) : List Order :=
  (units.zip answers).filterMap fun p => p.2.accepted?.map fun reply => p.1.accepted reply now

def unitsOf (c : Command) (tickets : List Ticket) : List Order := tickets.map fun t => unitOrder c t.group

def unplaced (s : Session) : Session :=
  { s with
    floor := { s.floor with registry := { s.registry with orders := ∅, journal := [] } }
    waiting := ∅
    pending := ∅
    out := [] }

/-- A session after units were sent: one call and one frame for each, in turn. -/
structure Sent (s s' : Session) (now : UInt64) (units : List Order) (answers : List Answer) : Prop where
  calls : s'.registry.journal = s.registry.journal ++ List.zipWith .submit units answers
  frames : s'.out = s.out ++ List.zipWith (unitFrame now) units answers
  rest : s'.unplaced = s.unplaced

/-- The accepted units stand at the end of the registry, and of either the
waiting orders or the pending targets. -/
structure Stored (s s' : Session) (c : Command) (accepted : List Order) : Prop where
  orders : s'.registry.orders.entries = s.registry.orders.entries ++ accepted.map fun o => (o.id, o)
  waiting : s'.waiting.ids = s.waiting.ids ++
    match c.option with
    | some _ => []
    | none => accepted.map (·.id)
  pending : s'.pending.entries = s.pending.entries ++
    match c.option with
    | some option => accepted.map fun o => (o.id, ⟨o, option⟩)
    | none => []

structure Vacant (s : Session) (id : String) : Prop where
  untracked : s.registry.lookup id = none
  waiting : s.waiting.contains id = false
  pending : s.pending.find? id = none

section
variable {s s₁ s₂ : Session} {now : UInt64} {c : Command} {units units' accepted accepted' : List Order}
  {answers answers' : List Answer}

/-! ## Calls and frames -/

theorem sent_nil (s : Session) (now : UInt64) : Sent s s now [] [] where
  calls := (List.append_nil _).symm
  frames := (List.append_nil _).symm
  rest := rfl

theorem Sent.trans (h : Sent s s₁ now units answers) (h' : Sent s₁ s₂ now units' answers')
    (hl : units.length = answers.length) : Sent s s₂ now (units ++ units') (answers ++ answers') where
  calls := by rw [h'.calls, h.calls, List.append_assoc, List.zipWith_append hl]
  frames := by rw [h'.frames, h.frames, List.append_assoc, List.zipWith_append hl]
  rest := h'.rest.trans h.rest

theorem sent_placeUnit (s : Session) (now : UInt64) (c : Command) (ticket : Ticket) :
    Sent s (s.placeUnit now c ticket).1 now [unitOrder c ticket.group] [ticket.answer] := by
  unfold placeUnit submitUnit
  rw [Registry.place_eq]
  cases hv : ticket.answer.verdict with
  | error reason =>
    refine ⟨rfl, ?_, rfl⟩
    simp only [List.zipWith_cons_cons, List.zipWith_nil_left, unitFrame, hv]
    rfl
  | ok reply =>
    have ha : ticket.answer.accepted? = some reply := by rw [Answer.accepted?_eq, hv]; rfl
    dsimp only
    rw [Registry.record_accepted ha]
    unfold fileUnit
    refine ⟨?_, ?_, ?_⟩
    · cases c.option <;> rfl
    · simp only [List.zipWith_cons_cons, List.zipWith_nil_left, unitFrame, hv]
      cases c.option <;> rfl
    · cases c.option <;> rfl

theorem sent_placeUnits (s : Session) (now : UInt64) (c : Command) (tickets : List Ticket) :
    Sent s (s.placeUnits now c tickets).1 now (unitsOf c tickets) (tickets.map (·.answer)) := by
  induction tickets generalizing s with
  | nil => exact sent_nil s now
  | cons ticket tickets ih => exact (sent_placeUnit s now c ticket).trans (ih (s.placeUnit now c ticket).1) rfl

/-! ## Accepted units -/

theorem acceptedUnits_append (hl : units.length = answers.length) :
    acceptedUnits now (units ++ units') (answers ++ answers') =
      acceptedUnits now units answers ++ acceptedUnits now units' answers' := by
  unfold acceptedUnits
  rw [List.zip_append hl, List.filterMap_append]

theorem acceptedUnits_singleton (now : UInt64) (o : Order) (a : Answer) :
    acceptedUnits now [o] [a] = (a.accepted?.map (o.accepted · now)).toList := by
  unfold acceptedUnits
  cases h : a.accepted? <;> simp [h]

theorem ids_acceptedUnits (hl : units.length = answers.length) :
    (acceptedUnits now units answers).map (·.id) = Answer.givenIds answers := by
  induction units generalizing answers with
  | nil => rw [List.eq_nil_of_length_eq_zero hl.symm]; rfl
  | cons o units ih =>
    cases answers with
    | nil => cases hl
    | cons a answers =>
      have htail := ih (Nat.succ.inj hl)
      unfold acceptedUnits Answer.givenIds at htail ⊢
      rw [List.zip_cons_cons, List.filterMap_cons, List.filterMap_cons]
      cases a.accepted? with
      | none => exact htail
      | some reply => exact congrArg (reply.orderId :: ·) htail

theorem stored_nil (s : Session) (c : Command) : Stored s s c [] where
  orders := (List.append_nil _).symm
  waiting := by cases c.option <;> exact (List.append_nil _).symm
  pending := by cases c.option <;> exact (List.append_nil _).symm

theorem Stored.trans (h : Stored s s₁ c accepted) (h' : Stored s₁ s₂ c accepted') :
    Stored s s₂ c (accepted ++ accepted') where
  orders := by rw [h'.orders, h.orders, List.append_assoc, List.map_append]
  waiting := by
    rw [h'.waiting, h.waiting, List.append_assoc]
    cases c.option <;> simp
  pending := by
    rw [h'.pending, h.pending, List.append_assoc]
    cases c.option <;> simp

theorem Stored.vacant (h : Stored s s₁ c accepted) {id : String} (hv : s.Vacant id)
    (hid : id ∉ accepted.map (·.id)) : s₁.Vacant id := by
  refine ⟨Table.find?_append h.orders hv.untracked ?_, ?_, ?_⟩
  · rwa [List.map_map]
  · have hold : id ∉ s.waiting.ids := by simpa [IdSet.contains] using hv.waiting
    have hnew := h.waiting
    cases hc : c.option with
    | some option => simpa [IdSet.contains, hnew, hc] using hold
    | none => simpa [IdSet.contains, hnew, hc] using ⟨hold, by simpa using hid⟩
  · apply Table.find?_append h.pending hv.pending
    cases c.option with
    | some option => rwa [List.map_map]
    | none => exact List.not_mem_nil

theorem stored_placeUnit (s : Session) (now : UInt64) (c : Command) (ticket : Ticket)
    (hv : ∀ id ∈ Answer.givenIds [ticket.answer], s.Vacant id) :
    Stored s (s.placeUnit now c ticket).1 c (acceptedUnits now [unitOrder c ticket.group] [ticket.answer]) ∧
      (s.placeUnit now c ticket).2.toList = acceptedUnits now [unitOrder c ticket.group] [ticket.answer] := by
  rw [acceptedUnits_singleton]
  rcases placeUnit_cases s now c ticket with ⟨ha, text, he⟩ | ⟨reply, ha, he⟩
  · obtain ⟨reason, hp⟩ := s.registry.place_refused now (unitOrder c ticket.group) ha
    rw [he, hp, ha]
    refine ⟨⟨(List.append_nil _).symm, ?_, ?_⟩, rfl⟩
    · cases c.option <;> exact (List.append_nil _).symm
    · cases c.option <;> exact (List.append_nil _).symm
  · have hvacant : s.Vacant reply.orderId := by
      apply hv
      simp [Answer.givenIds, ha]
    rw [he, s.registry.place_accepted now _ ha, ha]
    refine ⟨⟨?_, ?_, ?_⟩, rfl⟩
    · dsimp only [registry]
      rw [Registry.record_accepted ha]
      exact Table.entries_insert hvacant.untracked _
    · cases c.option with
      | some option => exact (List.append_nil _).symm
      | none => exact IdSet.ids_add hvacant.waiting
    · cases c.option with
      | some option => exact Table.entries_insert hvacant.pending _
      | none => exact (List.append_nil _).symm

theorem stored_placeUnits (s : Session) (now : UInt64) (c : Command) (tickets : List Ticket)
    (hn : (Answer.givenIds (tickets.map (·.answer))).Nodup)
    (hv : ∀ id ∈ Answer.givenIds (tickets.map (·.answer)), s.Vacant id) :
    Stored s (s.placeUnits now c tickets).1 c
        (acceptedUnits now (unitsOf c tickets) (tickets.map (·.answer))) ∧
      (s.placeUnits now c tickets).2 = acceptedUnits now (unitsOf c tickets) (tickets.map (·.answer)) := by
  induction tickets generalizing s with
  | nil => exact ⟨stored_nil s c, rfl⟩
  | cons ticket tickets ih =>
    have hids : Answer.givenIds ((ticket :: tickets).map (·.answer)) =
        Answer.givenIds [ticket.answer] ++ Answer.givenIds (tickets.map (·.answer)) := by
      unfold Answer.givenIds
      rw [← List.map_append, ← List.filterMap_append]
      rfl
    rw [hids, List.nodup_append] at hn
    obtain ⟨-, hn, hne⟩ := hn
    obtain ⟨hone, hplaced⟩ :=
      stored_placeUnit s now c ticket fun id hid => hv id (hids ▸ List.mem_append_left _ hid)
    -- the ids of later units are still free after this one
    have hlater : ∀ id ∈ Answer.givenIds (tickets.map (·.answer)), (s.placeUnit now c ticket).1.Vacant id := by
      intro id hid
      apply hone.vacant (hv id (hids ▸ List.mem_append_right _ hid))
      rw [ids_acceptedUnits rfl]
      intro hmem
      exact hne id hmem id hid rfl
    obtain ⟨hrest, hothers⟩ := ih (s.placeUnit now c ticket).1 hn hlater
    have hone_length : [unitOrder c ticket.group].length = [ticket.answer].length := rfl
    have hunits : acceptedUnits now (unitsOf c (ticket :: tickets)) ((ticket :: tickets).map (·.answer)) =
        acceptedUnits now [unitOrder c ticket.group] [ticket.answer] ++
          acceptedUnits now (unitsOf c tickets) (tickets.map (·.answer)) :=
      acceptedUnits_append hone_length
    rw [hunits, placeUnits_cons, hplaced, hothers]
    exact ⟨hone.trans hrest, rfl⟩

/-! ## Commands -/

theorem vacant_of_refusal?_none (h : (s.admission now).refusal? c = none) {id : String}
    (hid : s.registry.lookup id = none) : s.Vacant id := by
  obtain ⟨hw, -, hp⟩ := idle_of_refusal?_none h
  refine ⟨hid, ?_, ?_⟩
  · rw [IdSet.contains, List.eq_nil_of_length_eq_zero hw]
    rfl
  · rw [Table.find?, List.eq_nil_of_length_eq_zero hp]
    rfl

theorem command_of_refusal?_none (h : (s.admission now).refusal? c = none) (ticket : Nat → Ticket) :
    s.command now c ticket =
      ((s.placeUnits now c ((List.range (unitCount c)).map ticket)).1,
        .ok (s.placeUnits now c ((List.range (unitCount c)).map ticket)).2) := by
  unfold command
  rw [h]

/-- A unit is one piece of what its command asks for, sent to the side of the
command's action. -/
structure IsUnit (c : Command) (o : Order) : Prop where
  quantity : o.quantity = 1
  code : o.code = c.code
  action : o.action = c.action
  price : o.price = c.price
  side : Gateway.Errand.submit o = if c.action.isBuySide then .buy o else .sell o

theorem isUnit_of_mem_unitsOf {o : Order} {tickets : List Ticket} (h : o ∈ unitsOf c tickets) : IsUnit c o := by
  obtain ⟨k, -, rfl⟩ := List.mem_map.mp h
  exact ⟨rfl, rfl, rfl, rfl, rfl⟩

theorem unitFrame_shows (now : UInt64) (o : Order) (a : Answer) :
    (unitFrame now o a).order? = a.accepted?.map (o.accepted · now) ∧
      (unitFrame now o a).errorCode? = if a.accepted?.isSome then none else some (-6) := by
  rw [Answer.accepted?_eq]
  unfold unitFrame
  cases a.verdict with
  | ok reply => exact ⟨rfl, rfl⟩
  | error reason => exact ⟨rfl, rfl⟩

/-- **Unit expansion.** A command for `n` units that is admitted makes `n`
calls, one for each unit in turn and whatever the answers. Every unit is in the
group drawn for it. The command pushes `n` frames, the order accepted or the
error -6, and what is accepted, no more and no less, is tracked and either waited
for or pending. -/
theorem command_expands {s : Session} {now : UInt64} {c : Command} {n : Nat} (hq : c.quantity.toInt = n)
    (ha : (s.admission now).refusal? c = none) (ticket : Nat → Ticket)
    (hn : (Answer.givenIds ((List.range n).map fun k => (ticket k).answer)).Nodup)
    (hf : ∀ id ∈ Answer.givenIds ((List.range n).map fun k => (ticket k).answer), s.registry.lookup id = none) :
    (∀ t, Command.ofText t = .ok c → 1 ≤ n) ∧ n ≤ s.settings.maxOrderQuantity.toInt ∧
    ∃ units accepted s', units.length = n ∧ (∀ o ∈ units, IsUnit c o) ∧
      units.map (·.group) = (List.range n).map (fun k => (ticket k).group) ∧
      accepted = acceptedUnits now units ((List.range n).map fun k => (ticket k).answer) ∧
      s.command now c ticket = (s', .ok accepted) ∧
      Sent s s' now units ((List.range n).map fun k => (ticket k).answer) ∧ Stored s s' c accepted ∧
      ∀ o a, (unitFrame now o a).order? = a.accepted?.map (o.accepted · now) ∧
        (unitFrame now o a).errorCode? = if a.accepted?.isSome then none else some (-6) := by
  have hcount : unitCount c = n := by
    unfold unitCount
    rw [hq, Int.toNat_natCast]
  have hanswers : ((List.range n).map ticket).map (·.answer) = (List.range n).map fun k => (ticket k).answer :=
    List.map_map ..
  have hsent := sent_placeUnits s now c ((List.range n).map ticket)
  have hstored := stored_placeUnits s now c ((List.range n).map ticket)
  rw [hanswers] at hsent hstored
  obtain ⟨hstored, hplaced⟩ := hstored hn fun id hid => vacant_of_refusal?_none ha (hf id hid)
  have hcommand := command_of_refusal?_none ha ticket
  rw [hcount, hplaced] at hcommand
  have hpositive : ∀ t, Command.ofText t = .ok c → 1 ≤ n := by
    intro t ht
    have hpos := Int64.lt_iff_toInt_lt.mp (Command.quantity_pos_of_ofText ht)
    rw [hq] at hpos
    exact Int.ofNat_lt.mp hpos
  have hlimit := Int64.le_iff_toInt_le.mp (quantity_le_of_passed (refusal?_eq_none_iff.mp ha))
  rw [hq] at hlimit
  have hlength : (unitsOf c ((List.range n).map ticket)).length = n := by simp [unitsOf]
  have hgroups : (unitsOf c ((List.range n).map ticket)).map (·.group) =
      (List.range n).map fun k => (ticket k).group := by
    simp [unitsOf, unitOrder]
  exact ⟨hpositive, hlimit, _, _, _, hlength, fun o => isUnit_of_mem_unitsOf, hgroups, rfl, hcommand, hsent, hstored,
    unitFrame_shows now⟩

end

def mixedTickets : Nat → Ticket
  | 0 => ⟨"g1", .reply { orderId := "p1", status := .submitted }⟩
  | 1 => ⟨"g2", .reply { orderId := "p9", status := .failed }⟩
  | 2 => ⟨"g3", .failure "down"⟩
  | _ => ⟨"g4", .reply { orderId := "p2", status := .filled }⟩

theorem command_expands_mixed :
    ∃ accepted s', (start "conn-1" {} .alwaysOpen).command 1000 ⟨"MXFL1", .buy, 100, 4, none⟩ mixedTickets =
        (s', .ok accepted) ∧
      accepted.map (·.id) = ["p1", "p2"] ∧ s'.waiting.ids = ["p1", "p2"] ∧ s'.pending.entries = [] ∧
      s'.registry.orders.entries = accepted.map (fun o => (o.id, o)) ∧
      s'.registry.journal.length = 4 ∧ s'.out.length = 4 := by
  have hadmitted : ((start "conn-1" {} .alwaysOpen).admission 1000).refusal? ⟨"MXFL1", .buy, 100, 4, none⟩ = none :=
    rfl
  have hdistinct : (Answer.givenIds ((List.range 4).map fun k => (mixedTickets k).answer)).Nodup := by decide
  obtain ⟨-, -, units, accepted, s', hlength, -, -, haccepted, hcommand, hsent, hstored, -⟩ :=
    command_expands rfl hadmitted mixedTickets hdistinct fun _ _ => rfl
  have hids : accepted.map (·.id) = ["p1", "p2"] := by
    rw [haccepted, ids_acceptedUnits hlength]
    rfl
  refine ⟨accepted, s', hcommand, hids, ?_, hstored.pending, hstored.orders, ?_, ?_⟩
  · rw [← hids]
    exact hstored.waiting
  · rw [hsent.calls, List.length_append, List.length_zipWith, hlength]
    rfl
  · rw [hsent.frames, List.length_append, List.length_zipWith, hlength]
    rfl

end Session

end FuturesDesk
