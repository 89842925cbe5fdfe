import FuturesDesk.Desk.Event

/-!
# Mailboxes

What each operation of a bus leaves in the mailbox of one subscriber. Taking
and leaving concern the subscriber's own mailbox only; a published event
reaches every mailbox on the list.
-/

namespace FuturesDesk

namespace Bus

variable {ε : Type}

/-- Whether the events published from now on reach a subscriber. -/
def isListed (b : Bus ε) (id : Nat) : Bool := ((b.find? id).map (·.listed)).getD false

def Tidy (b : Bus ε) : Prop := ∀ m ∈ b.mailboxes, m.id < b.nextId

/-! ## Looking mailboxes up -/

theorem find?_map (b : Bus ε) (f : Mailbox ε → Mailbox ε) (hf : ∀ m, (f m).id = m.id) (id : Nat) :
    (b.mailboxes.map f).find? (·.id == id) = (b.find? id).map f := by
  rw [List.find?_map]
  have h : ((fun m : Mailbox ε => m.id == id) ∘ f) = fun m => m.id == id := by
    funext m; simp [hf]
  rw [h]; rfl

theorem id_of_find? {b : Bus ε} {id : Nat} {m : Mailbox ε} (h : b.find? id = some m) : m.id = id := by
  simpa using List.find?_some h

theorem find?_modify (b : Bus ε) (f : Mailbox ε → Mailbox ε) (hf : ∀ m, (f m).id = m.id) (id other : Nat) :
    (b.modify id f).find? other = if other = id then (b.find? other).map f else b.find? other := by
  have h := find?_map b (fun m => if m.id = id then f m else m) (by intro m; split <;> simp [hf]) other
  change (b.mailboxes.map _).find? _ = _
  rw [h]
  cases hm : b.find? other with
  | none => simp
  | some m =>
    have hid := id_of_find? hm
    subst hid
    by_cases he : m.id = id <;> simp [he]

theorem find?_publish (b : Bus ε) (e : ε) (id : Nat) :
    (b.publish e).find? id = (b.find? id).map fun m => if m.listed then { m with queue := m.queue ++ [e] } else m :=
  find?_map b _ (by intro m; split <;> rfl) id

theorem find?_take (b : Bus ε) (id other : Nat) :
    (b.take id).1.find? other =
      if other = id then (b.find? other).map fun m => { m with queue := m.queue.tail } else b.find? other :=
  find?_modify b _ (by intro m; rfl) id other

theorem find?_takeAll (b : Bus ε) (id other : Nat) :
    (b.takeAll id).1.find? other =
      if other = id then (b.find? other).map fun m => { m with queue := [] } else b.find? other :=
  find?_modify b _ (by intro m; rfl) id other

theorem find?_leave (b : Bus ε) (id other : Nat) :
    (b.leave id).find? other =
      if other = id then
        (b.find? other).map fun m => if m.active then { m with listed := false, active := false } else m
      else b.find? other :=
  find?_modify b _ (by intro m; split <;> rfl) id other

theorem find?_subscribe (b : Bus ε) (id : Nat) :
    b.subscribe.1.find? id = (b.find? id).or (if b.nextId = id then some { id := b.nextId } else none) := by
  change (b.mailboxes ++ [_]).find? _ = _
  rw [List.find?_append]
  by_cases h : b.nextId = id
  · simp [find?, h]
  · simp [find?, h]

theorem find?_drop (b : Bus ε) (id other : Nat) (h : other ≠ id) : (b.drop id).find? other = b.find? other := by
  unfold find? drop
  rw [List.find?_filter]
  congr 1; funext m
  by_cases hm : m.id = other
  · subst hm; simp [h]
  · simp [hm]

theorem find?_nextId {b : Bus ε} (h : b.Tidy) : b.find? b.nextId = none := by
  refine List.find?_eq_none.mpr fun m hm => ?_
  have := h m hm
  simp only [beq_iff_eq]
  omega

/-! ## Queues -/

section
variable (b : Bus ε) (id other : Nat)

theorem queued_publish (e : ε) :
    (b.publish e).queued id = if b.isListed id then b.queued id ++ [e] else b.queued id := by
  unfold queued isListed
  rw [find?_publish]
  cases b.find? id with
  | none => rfl
  | some m => by_cases hl : m.listed <;> simp [hl]

theorem isListed_publish (e : ε) : (b.publish e).isListed id = b.isListed id := by
  unfold isListed
  rw [find?_publish]
  cases b.find? id with
  | none => rfl
  | some m => by_cases hl : m.listed <;> simp [hl]

theorem queued_take : (b.take id).1.queued other = if other = id then (b.queued other).tail else b.queued other := by
  unfold queued
  rw [find?_take]
  by_cases h : other = id
  · subst h; cases b.find? other <;> simp
  · simp [h]

theorem isListed_take : (b.take id).1.isListed other = b.isListed other := by
  unfold isListed
  rw [find?_take]
  by_cases h : other = id
  · subst h; cases b.find? other <;> simp
  · simp [h]

theorem queued_takeAll : (b.takeAll id).1.queued other = if other = id then [] else b.queued other := by
  unfold queued
  rw [find?_takeAll]
  by_cases h : other = id
  · subst h; cases b.find? other <;> simp
  · simp [h]

theorem isListed_takeAll : (b.takeAll id).1.isListed other = b.isListed other := by
  unfold isListed
  rw [find?_takeAll]
  by_cases h : other = id
  · subst h; cases b.find? other <;> simp
  · simp [h]

theorem queued_leave : (b.leave id).queued other = b.queued other := by
  unfold queued
  rw [find?_leave]
  by_cases h : other = id
  · subst h
    cases b.find? other with
    | none => simp
    | some m => by_cases ha : m.active <;> simp [ha]
  · simp [h]

theorem isListed_leave_of_ne (h : other ≠ id) : (b.leave id).isListed other = b.isListed other := by
  unfold isListed
  rw [find?_leave, if_neg h]

theorem queued_drop_of_ne (h : other ≠ id) : (b.drop id).queued other = b.queued other := by
  unfold queued
  rw [find?_drop b id other h]

theorem queued_drop : (b.drop id).queued id = [] := by
  have h : (b.drop id).find? id = none := List.find?_eq_none.mpr fun m hm => by
    simpa [drop] using (List.mem_filter.mp hm).2
  unfold queued
  rw [h]; rfl

theorem isListed_drop_of_ne (h : other ≠ id) : (b.drop id).isListed other = b.isListed other := by
  unfold isListed
  rw [find?_drop b id other h]

end

theorem queued_subscribe {b : Bus ε} (h : b.Tidy) (id : Nat) :
    b.subscribe.1.queued id = b.queued id := by
  unfold queued
  rw [find?_subscribe]
  by_cases hid : b.nextId = id
  · subst hid; simp [find?_nextId h]
  · simp [hid]

theorem isListed_subscribe {b : Bus ε} (h : b.Tidy) (id : Nat) :
    b.subscribe.1.isListed id = (decide (id = b.nextId) || b.isListed id) := by
  unfold isListed
  rw [find?_subscribe]
  by_cases hid : b.nextId = id
  · subst hid; simp [find?_nextId h]
  · simp [hid, Ne.symm hid]

theorem queued_nextId {b : Bus ε} (h : b.Tidy) : b.queued b.nextId = [] := by
  simp [queued, find?_nextId h]

theorem queued_of_take {b b' : Bus ε} {id : Nat} {e : ε} (h : b.take id = (b', .event e)) :
    b' = (b.take id).1 ∧ b.queued id = e :: (b.queued id).tail := by
  have h₂ : b.peek id = .event e := congrArg (·.2) h
  refine ⟨by rw [h], ?_⟩
  unfold peek at h₂
  unfold queued
  cases hm : b.find? id with
  | none => simp [hm] at h₂
  | some m =>
    rw [hm] at h₂
    cases hq : m.queue with
    | nil => simp only [hq] at h₂; split at h₂ <;> cases h₂
    | cons x xs => simp only [hq] at h₂; cases h₂; simp [hq]

/-! ## Ids -/

theorem tidy_empty : ({} : Bus ε).Tidy := by intro m hm; cases hm

theorem Tidy.modify {b : Bus ε} (h : b.Tidy) (id : Nat) {f : Mailbox ε → Mailbox ε} (hf : ∀ m, (f m).id = m.id) :
    (b.modify id f).Tidy := by
  intro m hm
  obtain ⟨m', hm', rfl⟩ := List.mem_map.mp hm
  have := h m' hm'
  split
  · rw [hf]; exact this
  · exact this

theorem Tidy.publish {b : Bus ε} (h : b.Tidy) (e : ε) : (b.publish e).Tidy := by
  intro m hm
  obtain ⟨m', hm', rfl⟩ := List.mem_map.mp hm
  have := h m' hm'
  split <;> exact this

theorem Tidy.take {b : Bus ε} (h : b.Tidy) (id : Nat) : (b.take id).1.Tidy := h.modify id fun _ => rfl

theorem Tidy.takeAll {b : Bus ε} (h : b.Tidy) (id : Nat) : (b.takeAll id).1.Tidy := h.modify id fun _ => rfl

theorem Tidy.leave {b : Bus ε} (h : b.Tidy) (id : Nat) : (b.leave id).Tidy :=
  h.modify id (by intro m; split <;> rfl)

theorem Tidy.drop {b : Bus ε} (h : b.Tidy) (id : Nat) : (b.drop id).Tidy :=
  fun m hm => h m ((List.mem_filter.mp hm).1)

theorem Tidy.subscribe {b : Bus ε} (h : b.Tidy) : b.subscribe.1.Tidy := by
  intro m hm
  rcases List.mem_append.mp hm with hm | hm
  · exact Nat.lt_succ_of_lt (h m hm)
  · simp only [List.mem_singleton] at hm
    subst hm; exact Nat.lt_succ_self _

end Bus

end FuturesDesk
