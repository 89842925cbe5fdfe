import FuturesDesk.Proofs.Mailboxes

/-!
# Histories of a bus

What a subscriber has taken, together with what waits for it, is what was
published from its subscription until it was removed. Whoever else subscribes,
leaves or takes events makes no difference to it.
-/

namespace FuturesDesk

def Receipt.event? {ε : Type} : Receipt ε → Option ε
  | .event e => some e
  | _ => none

namespace Bus

inductive Op (ε : Type) where
  | subscribe
  | publish (e : ε)
  | unlist (id : Nat)
  | leave (id : Nat)
  | drop (id : Nat)
  | take (id : Nat)

variable {ε : Type}

namespace Op

def removes (id : Nat) : Op ε → Bool
  | .unlist k | .leave k | .drop k => k == id
  | _ => false

@[simp] theorem removes_unlist (id k : Nat) : (.unlist k : Op ε).removes id = (k == id) := rfl

@[simp] theorem removes_leave (id k : Nat) : (.leave k : Op ε).removes id = (k == id) := rfl

@[simp] theorem removes_drop (id k : Nat) : (.drop k : Op ε).removes id = (k == id) := rfl

def isSubscribe : Op ε → Bool
  | .subscribe => true
  | _ => false

def event? : Op ε → Option ε
  | .publish e => some e
  | _ => none

end Op

def step (b : Bus ε) : Op ε → Bus ε
  | .subscribe => b.subscribe.1
  | .publish e => b.publish e
  | .unlist id => (b.unlist id).1
  | .leave id => b.leave id
  | .drop id => b.drop id
  | .take id => (b.take id).1

def run (b : Bus ε) (ops : List (Op ε)) : Bus ε := ops.foldl step b

def reached (ops : List (Op ε)) : Bus ε := ({} : Bus ε).run ops

/-! ## What a history promises -/

def due (id : Nat) (ops : List (Op ε)) : List ε := (ops.takeWhile fun op => !op.removes id).filterMap Op.event?

def live : Nat → List (Op ε) → Nat
  | _, [] => 0
  | n, .subscribe :: ops => (if ops.any (·.removes n) then 0 else 1) + live (n + 1) ops
  | n, _ :: ops => live n ops

def taken (b : Bus ε) (id : Nat) : Op ε → List ε
  | .take k => if k = id then (b.take k).2.event?.toList else []
  | _ => []

def received (b : Bus ε) (id : Nat) : List (Op ε) → List ε
  | [] => []
  | op :: ops => b.taken id op ++ (b.step op).received id ops

def next (removed : Bool) : List ε → Receipt ε
  | e :: _ => .event e
  | [] => if removed then .ended else .waits

/-! ## Sound buses -/

/-- Ids are the bus's own and distinct, and who has left is not on the list. -/
structure Sound (b : Bus ε) : Prop where
  tidy : b.Tidy
  distinct : (b.mailboxes.map (·.id)).Nodup
  settled : ∀ m ∈ b.mailboxes, m.listed = true → m.active = true

theorem sound_empty : ({} : Bus ε).Sound := ⟨tidy_empty, List.nodup_nil, fun _ hm => by cases hm⟩

section
variable {b : Bus ε} {id : Nat}

theorem Sound.map (h : b.Sound) {f : Mailbox ε → Mailbox ε} (hid : ∀ m, (f m).id = m.id)
    (hf : ∀ m, (m.listed = true → m.active = true) → (f m).listed = true → (f m).active = true) :
    ({ b with mailboxes := b.mailboxes.map f } : Bus ε).Sound where
  tidy m hm := by
    obtain ⟨m', hm', rfl⟩ := List.mem_map.mp hm
    exact (hid m').symm ▸ h.tidy m' hm'
  distinct := by
    have hids : (b.mailboxes.map f).map (·.id) = b.mailboxes.map (·.id) := by
      rw [List.map_map]
      exact List.map_congr_left fun m _ => hid m
    exact hids.symm ▸ h.distinct
  settled m hm := by
    obtain ⟨m', hm', rfl⟩ := List.mem_map.mp hm
    exact hf m' (h.settled m' hm')

theorem Sound.modify (h : b.Sound) (id : Nat) {f : Mailbox ε → Mailbox ε} (hid : ∀ m, (f m).id = m.id)
    (hf : ∀ m, (m.listed = true → m.active = true) → (f m).listed = true → (f m).active = true) :
    (b.modify id f).Sound := by
  refine h.map (fun m => ?_) fun m hm => ?_
  · split
    · exact hid m
    · rfl
  · split
    · exact hf m hm
    · exact hm

theorem Sound.subscribe (h : b.Sound) : b.subscribe.1.Sound where
  tidy := h.tidy.subscribe
  distinct := by
    have hnew : b.nextId ∉ b.mailboxes.map (·.id) := by
      intro hmem
      obtain ⟨m, hm, hid⟩ := List.mem_map.mp hmem
      have hlt := h.tidy m hm
      omega
    unfold Bus.subscribe
    rw [List.map_append, List.nodup_append]
    refine ⟨h.distinct, List.pairwise_singleton .., fun a ha c hc he => ?_⟩
    rw [he, List.mem_singleton.mp hc] at ha
    exact hnew ha
  settled m hm hl := by
    rcases List.mem_append.mp hm with hm | hm
    · exact h.settled m hm hl
    · rw [List.mem_singleton.mp hm]

theorem Sound.publish (h : b.Sound) (e : ε) : (b.publish e).Sound := by
  refine h.map (fun m => ?_) fun m hm => ?_
  · split <;> rfl
  · split <;> exact hm

theorem Sound.drop (h : b.Sound) (id : Nat) : (b.drop id).Sound where
  tidy := h.tidy.drop id
  distinct := List.Pairwise.sublist (List.filter_sublist.map _) h.distinct
  settled m hm := h.settled m (List.mem_filter.mp hm).1

theorem Sound.step (h : b.Sound) (op : Op ε) : (b.step op).Sound := by
  cases op with
  | subscribe => exact h.subscribe
  | publish e => exact h.publish e
  | unlist k => exact h.modify k (fun _ => rfl) fun _ _ hl => by cases hl
  | leave k =>
    refine h.modify k (fun m => ?_) fun m hm hl => ?_
    · split <;> rfl
    · split at hl
      · cases hl
      · rename_i ha
        exact absurd (hm hl) ha
  | drop k => exact h.drop k
  | take k => exact h.modify k (fun _ => rfl) fun _ hm => hm

theorem Sound.run (h : b.Sound) (ops : List (Op ε)) : (b.run ops).Sound := by
  induction ops generalizing b with
  | nil => exact h
  | cons op ops ih => exact ih (h.step op)

/-! ## Numbers -/

theorem nextId_step (b : Bus ε) (op : Op ε) : (b.step op).nextId = b.nextId + [op].countP Op.isSubscribe := by
  cases op <;> rfl

theorem nextId_run (b : Bus ε) (ops : List (Op ε)) : (b.run ops).nextId = b.nextId + ops.countP Op.isSubscribe := by
  induction ops generalizing b with
  | nil => rfl
  | cons op ops ih =>
    change ((b.step op).run ops).nextId = _
    rw [ih, nextId_step, Nat.add_assoc, ← List.countP_append]
    rfl

theorem lt_nextId_step (h : id < b.nextId) (op : Op ε) : id < (b.step op).nextId := by
  rw [nextId_step]
  omega

/-! ## One step of a history -/

theorem peek_eq (b : Bus ε) (id : Nat) : b.peek id = next (!b.isListed id) (b.queued id) := by
  unfold peek isListed queued
  cases b.find? id with
  | none => rfl
  | some m =>
    dsimp only [Option.map_some, Option.getD_some]
    cases m.queue with
    | cons e es => rfl
    | nil => cases m.listed <;> rfl

theorem event?_peek (b : Bus ε) (id : Nat) : (b.peek id).event? = (b.queued id).head? := by
  rw [peek_eq]
  cases b.queued id with
  | cons e es => rfl
  | nil => cases b.isListed id <;> rfl

theorem taken_take (b : Bus ε) (id k : Nat) :
    b.taken id (.take k) = if k = id then (b.queued k).head?.toList else [] := by
  change (if k = id then (b.peek k).event?.toList else []) = _
  rw [event?_peek]

theorem find?_unlist (b : Bus ε) (id other : Nat) : (b.unlist id).1.find? other =
    if other = id then (b.find? other).map fun m => { m with listed := false } else b.find? other :=
  find?_modify b _ (by intro m; rfl) id other

theorem queued_unlist (b : Bus ε) (id other : Nat) : (b.unlist id).1.queued other = b.queued other := by
  unfold queued
  rw [find?_unlist]
  by_cases h : other = id
  · rw [if_pos h]
    cases b.find? other <;> rfl
  · rw [if_neg h]

theorem isListed_unlist (b : Bus ε) (id other : Nat) :
    (b.unlist id).1.isListed other = (!(id == other) && b.isListed other) := by
  unfold isListed
  rw [find?_unlist]
  by_cases h : other = id
  · rw [if_pos h, h, beq_self_eq_true]
    cases b.find? id <;> rfl
  · rw [if_neg h, beq_false_of_ne (Ne.symm h)]
    rfl

theorem Sound.isListed_leave (h : b.Sound) (id other : Nat) :
    (b.leave id).isListed other = (!(id == other) && b.isListed other) := by
  by_cases ho : other = id
  · rw [ho, beq_self_eq_true]
    unfold isListed
    rw [find?_leave, if_pos rfl]
    cases hm : b.find? id with
    | none => rfl
    | some m =>
      have hsettled := h.settled m (List.mem_of_find?_eq_some hm)
      cases ha : m.active
      · cases hl : m.listed
        · simp [ha, hl]
        · rw [hsettled hl] at ha
          cases ha
      · simp [ha]
  · rw [isListed_leave_of_ne b id other ho, beq_false_of_ne (Ne.symm ho)]
    rfl

theorem isListed_drop (b : Bus ε) (id other : Nat) :
    (b.drop id).isListed other = (!(id == other) && b.isListed other) := by
  by_cases ho : other = id
  · have hgone : (b.drop id).find? id = none :=
      List.find?_eq_none.mpr fun m hm => by simpa [drop] using (List.mem_filter.mp hm).2
    rw [ho, beq_self_eq_true]
    unfold isListed
    rw [hgone]
    rfl
  · rw [isListed_drop_of_ne b id other ho, beq_false_of_ne (Ne.symm ho)]
    rfl

theorem Sound.isListed_step (h : b.Sound) (hid : id < b.nextId) (op : Op ε) :
    (b.step op).isListed id = (!op.removes id && b.isListed id) := by
  cases op with
  | subscribe =>
    refine (isListed_subscribe h.tidy id).trans ?_
    rw [decide_eq_false (Nat.ne_of_lt hid)]
    rfl
  | publish e => exact isListed_publish b id e
  | unlist k => exact isListed_unlist b k id
  | leave k => exact h.isListed_leave k id
  | drop k => exact isListed_drop b k id
  | take k => exact isListed_take b k id

/-- What is taken in a step comes off the queue, and what is published goes on it
as long as the subscriber is on the list. -/
theorem Sound.queued_step (h : b.Sound) {op : Op ε} (hop : op ≠ .drop id) :
    b.taken id op ++ (b.step op).queued id = b.queued id ++ if b.isListed id then op.event?.toList else [] := by
  have hquiet : ∀ l : List ε, l = l ++ if b.isListed id then [] else [] := fun l => by simp
  cases op with
  | subscribe => exact (queued_subscribe h.tidy id).trans (hquiet _)
  | publish e =>
    refine (queued_publish b id e).trans ?_
    cases b.isListed id with
    | true => rfl
    | false => exact (List.append_nil _).symm
  | unlist k => exact (queued_unlist b k id).trans (hquiet _)
  | leave k => exact (queued_leave b k id).trans (hquiet _)
  | drop k =>
    have hk : id ≠ k := fun he => hop (he ▸ rfl)
    exact (queued_drop_of_ne b k id hk).trans (hquiet _)
  | take k =>
    refine Eq.trans ?_ (hquiet _)
    change b.taken id (.take k) ++ (b.take k).1.queued id = _
    rw [queued_take, taken_take]
    by_cases hk : id = k
    · rw [if_pos hk.symm, if_pos hk, hk]
      cases b.queued k <;> rfl
    · rw [if_neg (Ne.symm hk), if_neg hk]
      rfl

/-! ## What a subscriber gets -/

/-- What waits for a subscriber and what will be published for it. -/
def pending (b : Bus ε) (id : Nat) (ops : List (Op ε)) : List ε :=
  b.queued id ++ if b.isListed id then due id ops else []

theorem due_cons (id : Nat) (op : Op ε) (ops : List (Op ε)) :
    due id (op :: ops) = if op.removes id then [] else op.event?.toList ++ due id ops := by
  unfold due
  cases hr : op.removes id with
  | true => rw [List.takeWhile_cons_of_neg (by simp [hr])]; rfl
  | false =>
    rw [List.takeWhile_cons_of_pos (by simp [hr]), List.filterMap_cons]
    cases op.event? <;> rfl

theorem Sound.pending_step (h : b.Sound) (hid : id < b.nextId) {op : Op ε} (hop : op ≠ .drop id) (ops : List (Op ε)) :
    b.taken id op ++ (b.step op).pending id ops = b.pending id (op :: ops) := by
  unfold pending
  rw [← List.append_assoc, h.queued_step hop, h.isListed_step hid, due_cons, List.append_assoc]
  congr 1
  cases b.isListed id with
  | false => simp
  | true =>
    cases hr : op.removes id with
    | false => simp
    | true =>
      have hquiet : op.event? = none := by cases op <;> first | rfl | cases hr
      simp [hquiet]

theorem pending_drop (b : Bus ε) (id : Nat) (ops : List (Op ε)) : (b.drop id).pending id ops = [] := by
  unfold pending
  rw [queued_drop, isListed_drop, beq_self_eq_true]
  rfl

/-- **Nothing is lost, repeated or put out of order.** What a subscriber has taken
and what waits for it is what was pending at first. -/
theorem Sound.received_run (h : b.Sound) (hid : id < b.nextId) {ops : List (Op ε)} (hops : .drop id ∉ ops) :
    b.received id ops ++ (b.run ops).queued id = b.pending id ops := by
  induction ops generalizing b with
  | nil =>
    change b.queued id = b.queued id ++ if b.isListed id then [] else []
    simp
  | cons op ops ih =>
    rw [List.mem_cons, not_or] at hops
    obtain ⟨hop, hrest⟩ := hops
    rw [← h.pending_step hid (Ne.symm hop), ← ih (h.step op) (lt_nextId_step hid op) hrest, ← List.append_assoc]
    rfl

theorem Sound.received_prefix (h : b.Sound) (hid : id < b.nextId) (ops : List (Op ε)) :
    b.received id ops <+: b.pending id ops := by
  induction ops generalizing b with
  | nil => exact List.nil_prefix
  | cons op ops ih =>
    have hnow := ih (h.step op) (lt_nextId_step hid op)
    by_cases hop : op = .drop id
    · subst hop
      have hnothing : (b.drop id).received id ops = [] := List.prefix_nil.mp (pending_drop b id ops ▸ hnow)
      change [] ++ (b.drop id).received id ops <+: _
      rw [hnothing]
      exact List.nil_prefix
    · rw [← h.pending_step hid hop]
      exact (List.prefix_append_right_inj _).mpr hnow

theorem Sound.isListed_run (h : b.Sound) (hid : id < b.nextId) (ops : List (Op ε)) :
    (b.run ops).isListed id = (!ops.any (·.removes id) && b.isListed id) := by
  induction ops generalizing b with
  | nil => rfl
  | cons op ops ih =>
    change ((b.step op).run ops).isListed id = _
    rw [ih (h.step op) (lt_nextId_step hid op), h.isListed_step hid, List.any_cons]
    cases op.removes id <;> cases ops.any (·.removes id) <;> rfl

/-! ## Subscribers counted -/

def staying (b : Bus ε) (ops : List (Op ε)) : Nat :=
  b.mailboxes.countP fun m => m.listed && !ops.any (·.removes m.id)

theorem countP_map_congr {l : List (Mailbox ε)} {f : Mailbox ε → Mailbox ε} {p q : Mailbox ε → Bool}
    (h : ∀ m ∈ l, p (f m) = q m) : (l.map f).countP p = l.countP q := by
  rw [List.countP_map]
  exact List.countP_congr fun m hm => by rw [Function.comp_apply, h m hm]

theorem Sound.staying_step (h : b.Sound) (op : Op ε) (ops : List (Op ε)) :
    (b.step op).staying ops + live (b.step op).nextId ops = b.staying (op :: ops) + live b.nextId (op :: ops) := by
  cases op with
  | subscribe =>
    change (b.mailboxes ++ [({ id := b.nextId } : Mailbox ε)]).countP _ + live (b.nextId + 1) ops =
      b.staying ops + ((if ops.any (·.removes b.nextId) then 0 else 1) + live (b.nextId + 1) ops)
    rw [List.countP_append, Nat.add_assoc]
    congr 2
    cases hr : ops.any (·.removes b.nextId) <;> simp [hr]
  | publish e =>
    refine congrArg (· + _) (countP_map_congr fun m _ => ?_)
    split <;> rfl
  | unlist k =>
    refine congrArg (· + _) (countP_map_congr fun m _ => ?_)
    by_cases hk : m.id = k
    · simp [hk]
    · simp [hk, beq_false_of_ne (Ne.symm hk)]
  | leave k =>
    refine congrArg (· + _) (countP_map_congr fun m hm => ?_)
    by_cases hk : m.id = k
    · have hsettled := h.settled m hm
      cases ha : m.active <;> cases hl : m.listed <;> simp_all
    · simp [hk, beq_false_of_ne (Ne.symm hk)]
  | drop k =>
    refine congrArg (· + _) ?_
    change (b.mailboxes.filter (·.id != k)).countP _ = _
    rw [List.countP_filter]
    refine List.countP_congr fun m _ => ?_
    by_cases hk : m.id = k
    · simp [hk]
    · simp [hk, beq_false_of_ne (Ne.symm hk)]
  | take k =>
    refine congrArg (· + _) (countP_map_congr fun m _ => ?_)
    split <;> rfl

theorem Sound.count_run (h : b.Sound) (ops : List (Op ε)) : (b.run ops).count = b.staying ops + live b.nextId ops := by
  induction ops generalizing b with
  | nil =>
    change (b.mailboxes.filter _).length = _
    rw [← List.countP_eq_length_filter]
    simp [staying, live]
  | cons op ops ih => exact (ih (h.step op)).trans (h.staying_step op ops)

theorem count_publish (b : Bus ε) (e : ε) : (b.publish e).count = b.count := by
  unfold count
  rw [← List.countP_eq_length_filter, ← List.countP_eq_length_filter]
  refine countP_map_congr fun m _ => ?_
  split <;> rfl

/-! ## Removed once more -/

theorem Sound.find?_of_mem (h : b.Sound) {m : Mailbox ε} (hm : m ∈ b.mailboxes) : b.find? m.id = some m := by
  obtain ⟨front, back, hsplit⟩ := List.append_of_mem hm
  have hdistinct := h.distinct
  rw [hsplit, List.map_append, List.map_cons, List.nodup_append] at hdistinct
  refine List.find?_eq_some_iff_append.mpr ⟨beq_self_eq_true _, front, back, hsplit, fun m' hm' => ?_⟩
  have hne := hdistinct.2.2 m'.id (List.mem_map_of_mem hm') m.id (List.mem_cons_self ..)
  simpa using hne

theorem Sound.listed_of_mem (h : b.Sound) {m : Mailbox ε} (hm : m ∈ b.mailboxes) : m.listed = b.isListed m.id := by
  unfold isListed
  rw [h.find?_of_mem hm]
  rfl

theorem modify_eq_self {f : Mailbox ε → Mailbox ε} (h : ∀ m ∈ b.mailboxes, m.id = id → f m = m) :
    b.modify id f = b := by
  have hmap : (b.mailboxes.map fun m => if m.id = id then f m else m) = b.mailboxes := by
    refine (List.map_congr_left fun m hm => ?_).trans (List.map_id _)
    split
    · rename_i hid
      exact h m hm hid
    · rfl
  unfold modify
  rw [hmap]

theorem Sound.unlist_of_unlisted (h : b.Sound) (hl : b.isListed id = false) : b.unlist id = (b, false) := by
  refine Prod.ext (modify_eq_self fun m hm hid => ?_) hl
  have hlisted : m.listed = false := by rw [h.listed_of_mem hm, hid, hl]
  rw [← hlisted]

theorem Sound.leave_of_unlisted (h : b.Sound) (hl : b.isListed id = false) :
    (∀ k, (b.leave id).peek k = b.peek k) ∧ (b.leave id).count = b.count := by
  refine ⟨fun k => ?_, ?_⟩
  · rw [peek_eq, peek_eq, queued_leave, h.isListed_leave]
    by_cases hk : id = k
    · rw [← hk, hl, Bool.and_false]
    · rw [beq_false_of_ne hk]
      rfl
  · unfold count
    rw [← List.countP_eq_length_filter, ← List.countP_eq_length_filter]
    refine countP_map_congr fun m hm => ?_
    split
    · rename_i hid
      have hlisted : m.listed = false := by rw [h.listed_of_mem hm, hid, hl]
      cases ha : m.active <;> simp [ha, hlisted]
    · rfl

/-- A subscriber has left by itself, if it has a mailbox still. -/
def HasLeft (b : Bus ε) (id : Nat) : Prop := ∀ m ∈ b.mailboxes, m.id = id → m.active = false

theorem HasLeft.leave_eq (hl : b.HasLeft id) : b.leave id = b :=
  modify_eq_self fun m hm hid => by simp [hl m hm hid]

theorem hasLeft_leave (b : Bus ε) (id : Nat) : (b.leave id).HasLeft id := by
  intro m hm hid
  obtain ⟨m', -, rfl⟩ := List.mem_map.mp hm
  by_cases hm' : m'.id = id
  · cases ha : m'.active <;> simp [hm', ha]
  · rw [if_neg hm'] at hid
    exact absurd hid hm'

theorem HasLeft.map (hl : b.HasLeft id) {f : Mailbox ε → Mailbox ε} (hid : ∀ m, (f m).id = m.id)
    (hf : ∀ m, m.active = false → (f m).active = false) :
    ({ b with mailboxes := b.mailboxes.map f } : Bus ε).HasLeft id := by
  intro m hm hm'
  obtain ⟨m₀, hm₀, rfl⟩ := List.mem_map.mp hm
  exact hf m₀ (hl m₀ hm₀ ((hid m₀).symm.trans hm'))

theorem HasLeft.step (hl : b.HasLeft id) (hid : id < b.nextId) (op : Op ε) : (b.step op).HasLeft id := by
  cases op with
  | subscribe =>
    intro m hm hm'
    rcases List.mem_append.mp hm with hm | hm
    · exact hl m hm hm'
    · rw [List.mem_singleton.mp hm] at hm'
      exact absurd hm' (Nat.ne_of_gt hid)
  | publish e => exact hl.map (fun m => by split <;> rfl) fun m ha => by split <;> exact ha
  | unlist k | take k => exact hl.map (fun m => by split <;> rfl) fun m ha => by split <;> exact ha
  | leave k =>
    refine hl.map (fun m => ?_) fun m ha => ?_
    · cases ha : m.active <;> by_cases hk : m.id = k <;> simp [hk, ha]
    · by_cases hk : m.id = k <;> simp [hk, ha]
  | drop k => exact fun m hm hm' => hl m (List.mem_filter.mp hm).1 hm'

theorem hasLeft_run {ops : List (Op ε)} (hid : id < b.nextId) (hops : b.HasLeft id ∨ .leave id ∈ ops) :
    (b.run ops).HasLeft id := by
  induction ops generalizing b with
  | nil => exact hops.resolve_right List.not_mem_nil
  | cons op ops ih =>
    refine ih (lt_nextId_step hid op) ?_
    rcases hops with hl | hmem
    · exact Or.inl (hl.step hid op)
    · rcases List.mem_cons.mp hmem with rfl | hmem
      · exact Or.inl (hasLeft_leave b id)
      · exact Or.inr hmem

end

/-! ## Subscribers served -/

/-- What a history holds for a subscriber that has just been given its id. The
mailbox of one that is dropped goes, with what was left in it. -/
structure Serves (b : Bus ε) (id : Nat) (ops : List (Op ε)) : Prop where
  inOrder : b.received id ops <+: due id ops
  complete : .drop id ∉ ops → b.received id ops ++ (b.run ops).queued id = due id ops
  /-- What it finds next is the first event it has not taken; after the last it
  waits, or finds the end once it is removed. -/
  found : .drop id ∉ ops →
    (b.run ops).peek id = next (ops.any (·.removes id)) ((due id ops).drop (b.received id ops).length)
  answered : ((b.run ops).unlist id).2 = !ops.any (·.removes id)
  unlistedAgain : ops.any (·.removes id) = true → ((b.run ops).unlist id).1 = b.run ops
  leftAgain : .leave id ∈ ops → (b.run ops).leave id = b.run ops
  /-- Leaving after a removal by others is noticed by nobody else. -/
  leftLate : ops.any (·.removes id) = true →
    (∀ k, ((b.run ops).leave id).peek k = (b.run ops).peek k) ∧ ((b.run ops).leave id).count = (b.run ops).count

theorem Sound.serves {b : Bus ε} (h : b.Sound) (ops : List (Op ε)) : b.subscribe.1.Serves b.nextId ops := by
  have hsound := h.subscribe
  have hid : b.nextId < b.subscribe.1.nextId := Nat.lt_succ_self _
  have hlisted : b.subscribe.1.isListed b.nextId = true := by rw [isListed_subscribe h.tidy, decide_eq_true rfl]; rfl
  have hqueued : b.subscribe.1.queued b.nextId = [] := by rw [queued_subscribe h.tidy, queued_nextId h.tidy]
  have hpending : b.subscribe.1.pending b.nextId ops = due b.nextId ops := by
    unfold pending
    rw [hlisted, hqueued]
    rfl
  have hstay : (b.subscribe.1.run ops).isListed b.nextId = !ops.any (·.removes b.nextId) := by
    rw [hsound.isListed_run hid, hlisted, Bool.and_true]
  have hgone : ops.any (·.removes b.nextId) = true → (b.subscribe.1.run ops).isListed b.nextId = false := by
    intro hr
    rw [hstay, hr]
    rfl
  have hcomplete : .drop b.nextId ∉ ops →
      b.subscribe.1.received b.nextId ops ++ (b.subscribe.1.run ops).queued b.nextId = due b.nextId ops := by
    intro hdrop
    rw [hsound.received_run hid hdrop, hpending]
  exact {
    inOrder := hpending ▸ hsound.received_prefix hid ops
    complete := hcomplete
    found := fun hdrop => by
      rw [peek_eq, hstay, Bool.not_not, ← hcomplete hdrop, List.drop_left]
    answered := hstay
    unlistedAgain := fun hr => by rw [(hsound.run ops).unlist_of_unlisted (hgone hr)]
    leftAgain := fun hleave => (hasLeft_run hid (Or.inr hleave)).leave_eq
    leftLate := fun hr => (hsound.run ops).leave_of_unlisted (hgone hr) }

/-- **The bus serves its subscribers.** A subscriber gets an id that no one had
before, and whatever is done before and after, it is served what was published
while it was there. An event that is published reaches those who are. Ids are
natural numbers here, so of 64-bit ids this holds for fewer than 2 ^ 64
subscriptions. -/
theorem subscribers_served (before : List (Op ε)) :
    (reached before).subscribe.2 = before.countP Op.isSubscribe ∧
      (∀ after, (reached before).subscribe.1.Serves (reached before).subscribe.2 after) ∧
      ∀ e, ((reached before).publish e).count = live 0 before := by
  have hsound : (reached before).Sound := sound_empty.run before
  refine ⟨?_, hsound.serves, fun e => ?_⟩
  · exact (nextId_run {} before).trans (Nat.zero_add _)
  · rw [count_publish]
    exact (sound_empty.count_run before).trans (Nat.zero_add _)

end Bus

end FuturesDesk
