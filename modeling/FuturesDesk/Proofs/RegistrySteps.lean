import FuturesDesk.Desk.Sweep

/-!
# Steps of a registry

What each operation of a registry leaves under an id, and the ids the
brokerage has given so far. Everything later is said through these lemmas.
-/

namespace FuturesDesk

def Answer.accepted? : Answer → Option Reply
  | .reply r => if r.refusal?.isNone then some r else none
  | .failure _ => none

def Call.acceptance? : Call → Option (String × Status)
  | .submit o answer => answer.accepted?.map fun reply => (reply.orderId, (o.accepted reply 0).status)
  | .cancel .. => none

namespace Reply

theorem accepts_iff {r : Reply} :
    r.refusal? = none ↔ r.isError = false ∧ r.orderId ≠ "" ∧ r.status ≠ .failed := by
  unfold refusal?
  cases r.isError with
  | true => simp
  | false =>
    by_cases hid : r.orderId = ""
    · simp [hid]
    · simp [hid]

end Reply

theorem Answer.accepted?_eq_some {a : Answer} {r : Reply} (h : a.accepted? = some r) :
    a = .reply r ∧ r.orderId ≠ "" ∧ r.status ≠ .failed := by
  cases a with
  | failure reason => cases h
  | reply r' =>
    simp only [accepted?, Option.ite_none_right_eq_some, Option.isNone_iff_eq_none, Option.some.injEq] at h
    obtain ⟨hr, rfl⟩ := h
    exact ⟨rfl, (Reply.accepts_iff.mp hr).2⟩

/-! ## Statuses -/

namespace Status

def next (s u : Status) : Status := if u ≠ .unknown ∧ s.rank ≤ u.rank ∧ ¬ s.isTerminal then u else s

@[simp] theorem next_unknown (s : Status) : s.next .unknown = s := by simp [next]

theorem next_of_isTerminal {s : Status} (h : s.isTerminal) (u : Status) : s.next u = s := by simp [next, h]

theorem rank_le_next (s u : Status) : s.rank ≤ (s.next u).rank := by
  unfold next
  split
  · rename_i h; exact h.2.1
  · exact Nat.le_refl _

theorem next_ne_unknown {s : Status} (h : s ≠ .unknown) (u : Status) : s.next u ≠ .unknown := by
  unfold next
  split
  · rename_i hu; exact hu.1
  · exact h

theorem isCancellable_iff {s : Status} : s.isCancellable ↔ s ≠ .unknown ∧ ¬ s.isTerminal := by
  cases s <;> simp [isCancellable, isTerminal]

end Status

namespace Order

def merged (o : Order) (now : UInt64) (u : StatusUpdate) : Order :=
  if o.hears u then if o.changesBy u then (o.rearmed now).updated u else o.rearmed now else o

section
variable (o : Order) (now : UInt64) (u : StatusUpdate)

@[simp] theorem rearmed_id : (o.rearmed now).id = o.id := by unfold rearmed; split <;> rfl

@[simp] theorem rearmed_status : (o.rearmed now).status = o.status := by unfold rearmed; split <;> rfl

theorem changesBy_rearmed : (o.rearmed now).changesBy u = o.changesBy u := by simp [changesBy]

@[simp] theorem merged_id : (o.merged now u).id = o.id := by
  unfold merged
  split
  · split
    · exact rearmed_id o now
    · exact rearmed_id o now
  · rfl

theorem merged_status : (o.merged now u).status = o.status.next u.status := by
  unfold merged Status.next hears changesBy
  by_cases hu : u.status = .unknown
  · simp [hu]
  · by_cases hr : o.status.rank ≤ u.status.rank
    · by_cases ht : o.status.isTerminal
      · simp [hu, hr, ht]
      · by_cases he : o.status = u.status
        · simp [hu, he]
        · simp [hu, hr, ht, he, updated]
    · simp [hu, hr]

end

end Order

def Placement.accepted (p : Placement) : List Order :=
  match p.result with
  | .ok _ => [p.order]
  | .error _ => []

/-! ## Splits of a list that grew at its end -/

theorem snoc_eq_split {α : Type} {xs ys zs : List α} {a b : α} (h : xs ++ [b] = ys ++ a :: zs) :
    zs = [] ∧ ys = xs ∧ a = b ∨ ∃ zs', zs = zs' ++ [b] ∧ xs = ys ++ a :: zs' := by
  rcases List.eq_nil_or_concat zs with rfl | ⟨zs', c, rfl⟩
  · obtain ⟨hx, hb⟩ := List.append_inj' h rfl
    simp only [List.cons.injEq, and_true] at hb
    exact Or.inl ⟨rfl, hx.symm, hb.symm⟩
  · rw [List.concat_eq_append, ← List.cons_append, ← List.append_assoc] at h
    obtain ⟨hx, hb⟩ := List.append_inj' h rfl
    simp only [List.cons.injEq, and_true] at hb
    subst hb
    exact Or.inr ⟨zs', List.concat_eq_append .., hx⟩

theorem exists_split_snoc {α : Type} {xs : List α} {b : α} {Q : List α → α → Prop} :
    (∃ ys a zs, xs ++ [b] = ys ++ a :: zs ∧ Q ys a) ↔ (∃ ys a zs, xs = ys ++ a :: zs ∧ Q ys a) ∨ Q xs b := by
  constructor
  · rintro ⟨ys, a, zs, h, hq⟩
    rcases snoc_eq_split h with ⟨-, rfl, rfl⟩ | ⟨zs', -, hx⟩
    · exact Or.inr hq
    · exact Or.inl ⟨ys, a, zs', hx, hq⟩
  · rintro (⟨ys, a, zs, rfl, hq⟩ | hq)
    · exact ⟨ys, a, zs ++ [b], by simp, hq⟩
    · exact ⟨xs, b, [], rfl, hq⟩

/-- The same for an entry that none of the kind `p` has followed. -/
theorem exists_split_since_snoc {α : Type} {xs : List α} {b p : α} {Q : List α → α → Prop} :
    (∃ ys a zs, xs ++ [b] = ys ++ a :: zs ∧ Q ys a ∧ p ∉ zs) ↔
      (∃ ys a zs, xs = ys ++ a :: zs ∧ Q ys a ∧ p ∉ zs) ∧ b ≠ p ∨ Q xs b := by
  constructor
  · rintro ⟨ys, a, zs, h, hq, hp⟩
    rcases snoc_eq_split h with ⟨rfl, rfl, rfl⟩ | ⟨zs', rfl, rfl⟩
    · exact Or.inr hq
    · rw [List.mem_append, List.mem_singleton, not_or] at hp
      exact Or.inl ⟨⟨ys, a, zs', rfl, hq, hp.1⟩, Ne.symm hp.2⟩
  · rintro (⟨⟨ys, a, zs, rfl, hq, hp⟩, hb⟩ | hq)
    · refine ⟨ys, a, zs ++ [b], by simp, hq, ?_⟩
      rw [List.mem_append, List.mem_singleton, not_or]
      exact ⟨hp, Ne.symm hb⟩
    · exact ⟨xs, b, [], rfl, hq, List.not_mem_nil⟩

namespace Registry

def status? (r : Registry) (id : String) : Option Status := (r.lookup id).map (·.status)

/-- The ids the brokerage has given to orders, each with the first status of
its order, oldest first. -/
def acceptances (r : Registry) : List (String × Status) := r.journal.filterMap Call.acceptance?

def given (r : Registry) : List String := r.acceptances.map (·.1)

def acceptedAs? (r : Registry) (id : String) : Option Status := r.acceptances.reverse.lookup id

/-- Every order is tracked under its own id. -/
def Keyed (r : Registry) : Prop := ∀ id o, r.lookup id = some o → o.id = id

theorem status?_eq_some {r : Registry} {id : String} {s : Status} :
    r.status? id = some s ↔ ∃ o, r.lookup id = some o ∧ o.status = s := by
  simp [status?]

theorem status?_eq_none {r : Registry} {id : String} : r.status? id = none ↔ r.lookup id = none := by
  simp [status?]

/-! ## Placement -/

section
variable (r : Registry) (now : UInt64) (o : Order) {answer : Answer}

theorem acceptances_noteCall (c : Call) : (r.noteCall c).acceptances = r.acceptances ++ c.acceptance?.toList := by
  simp only [acceptances, noteCall, List.filterMap_append, List.filterMap_cons, List.filterMap_nil]
  cases c.acceptance? <;> rfl

theorem lookup_record (id : String) :
    (r.record o).lookup id = if o.isAccepted ∧ id = o.id then some o else r.lookup id := by
  unfold record lookup
  by_cases h : o.isAccepted
  · simp [h, Table.find?_insert]
  · simp [h]

theorem place_accepted {reply : Reply} (h : answer.accepted? = some reply) :
    r.place now o answer =
      ⟨(r.noteCall (.submit o answer)).record (o.accepted reply now), o.accepted reply now, .ok reply⟩ := by
  obtain ⟨rfl, hid, hs⟩ := Answer.accepted?_eq_some h
  have hr : reply.refusal? = none := by
    simpa [Answer.accepted?] using h
  simp only [place, hr]

theorem place_refused (h : answer.accepted? = none) :
    ∃ reason, r.place now o answer =
      ⟨r.noteCall (.submit o answer), { o with status := .failed }, .error (.gateway reason)⟩ := by
  cases answer with
  | failure reason => exact ⟨reason, rfl⟩
  | reply reply =>
    cases hr : reply.refusal? with
    | none => simp [Answer.accepted?, hr] at h
    | some reason => exact ⟨reason, by simp only [place, hr]⟩

theorem place_cases (answer : Answer) :
    (answer.accepted? = none ∧ (∃ reason, (r.place now o answer).result = .error (.gateway reason)) ∧
      (r.place now o answer).registry.acceptances = r.acceptances ∧
      ∀ id, (r.place now o answer).registry.lookup id = r.lookup id) ∨
    ∃ reply, answer.accepted? = some reply ∧ (r.place now o answer).result = .ok reply ∧
      (r.place now o answer).order = o.accepted reply now ∧
      (r.place now o answer).registry.acceptances =
        r.acceptances ++ [(reply.orderId, (o.accepted reply now).status)] ∧
      ∀ id, (r.place now o answer).registry.lookup id =
        if id = reply.orderId then some (o.accepted reply now) else r.lookup id := by
  cases h : answer.accepted? with
  | none =>
    obtain ⟨reason, hp⟩ := r.place_refused now o h
    refine Or.inl ⟨rfl, ⟨reason, by rw [hp]⟩, ?_, fun id => by rw [hp]; rfl⟩
    rw [hp]
    simp [acceptances_noteCall, Call.acceptance?, h]
  | some reply =>
    have hp := r.place_accepted now o h
    obtain ⟨-, hid, -⟩ := Answer.accepted?_eq_some h
    refine Or.inr ⟨reply, rfl, by rw [hp], by rw [hp], ?_, fun id => ?_⟩
    · rw [hp]
      have hg : ∀ (r : Registry) (o : Order), (r.record o).acceptances = r.acceptances := by
        intro r o; unfold record acceptances; split <;> rfl
      simp [hg, acceptances_noteCall, Call.acceptance?, h, Order.accepted]
    · rw [hp, lookup_record]
      have ha : (o.accepted reply now).isAccepted := by simp [Order.isAccepted, Order.accepted, hid]
      simp only [ha, true_and]
      rfl

theorem lookup_place_of_ne {id : String} (h : answer.accepted?.map (·.orderId) ≠ some id) :
    (r.place now o answer).registry.lookup id = r.lookup id := by
  rcases r.place_cases now o answer with ⟨-, -, -, hl⟩ | ⟨reply, ha, -, -, -, hl⟩
  · exact hl id
  · have hid : id ≠ reply.orderId := by
      simpa [ha, eq_comm] using h
    exact (hl id).trans (if_neg hid)

theorem lookup_remove (i id : String) : (r.remove i).lookup id = if id = i then none else r.lookup id :=
  Table.find?_erase ..

end

theorem accepted_status_ne_unknown (o : Order) (reply : Reply) (now : UInt64) :
    (o.accepted reply now).status ≠ .unknown := by
  unfold Order.accepted
  by_cases h : reply.status = .unknown <;> simp [h]

/-! ## Updates -/

section
variable (r : Registry) (now : UInt64) (u : StatusUpdate)

theorem lookup_merge (id : String) :
    (r.merge now u).1.lookup id =
      if id = u.orderId then (r.lookup id).map (·.merged now u) else r.lookup id := by
  unfold merge
  cases hl : r.lookup u.orderId with
  | none =>
    by_cases hid : id = u.orderId
    · subst hid; simp [hl]
    · simp [hid]
  | some o =>
    by_cases hh : o.hears u
    · by_cases hid : id = u.orderId
      · subst hid
        rw [if_pos rfl, hl]
        simp only [hh, if_true, lookup, Table.find?_insert, Order.merged, Order.changesBy_rearmed, Option.map_some]
      · simp only [hh, if_true, lookup, Table.find?_insert, if_neg hid]
    · by_cases hid : id = u.orderId
      · subst hid; simp [hl, hh, Order.merged]
      · simp [hh, hid]

theorem merge_result :
    (r.merge now u).2 =
      (r.lookup u.orderId).bind fun o => if o.hears u && o.changesBy u then some (o.merged now u) else none := by
  unfold merge
  cases hl : r.lookup u.orderId with
  | none => rfl
  | some o =>
    by_cases hh : o.hears u
    · by_cases hc : o.changesBy u <;> simp [hh, hc, Order.merged, Order.changesBy_rearmed]
    · simp [hh]

theorem acceptances_merge : (r.merge now u).1.acceptances = r.acceptances := by
  unfold merge
  cases r.lookup u.orderId with
  | none => rfl
  | some o => by_cases hh : o.hears u <;> simp only [hh] <;> rfl

theorem given_merge : (r.merge now u).1.given = r.given := congrArg (·.map (·.1)) (r.acceptances_merge now u)

theorem status?_merge (id : String) :
    (r.merge now u).1.status? id = if id = u.orderId then (r.status? id).map (·.next u.status) else r.status? id := by
  unfold status?
  rw [lookup_merge]
  split
  · cases r.lookup id <;> simp [Order.merged_status]
  · rfl

end

theorem of_merge_some {r : Registry} {now : UInt64} {u : StatusUpdate} {o' : Order}
    (h : (r.merge now u).2 = some o') :
    ∃ o, r.lookup u.orderId = some o ∧ o' = o.merged now u ∧ o'.status = u.status ∧
      u.status ≠ .unknown ∧ ¬ o.status.isTerminal ∧ o.status ≠ u.status := by
  rw [merge_result] at h
  cases hl : r.lookup u.orderId with
  | none => rw [hl] at h; cases h
  | some o =>
    simp only [hl, Option.bind_some, Option.ite_none_right_eq_some, Bool.and_eq_true, Option.some.injEq] at h
    obtain ⟨⟨hh, hc⟩, rfl⟩ := h
    simp only [Order.hears, Order.changesBy, Bool.and_eq_true, decide_eq_true_eq, Bool.not_eq_true'] at hh hc
    have ht : ¬ o.status.isTerminal := by simp [hc.2]
    refine ⟨o, rfl, rfl, ?_, hh.1, ht, hc.1⟩
    rw [Order.merged_status, Status.next, if_pos ⟨hh.1, hh.2, ht⟩]

theorem status?_of_merge_none {r : Registry} {now : UInt64} {u : StatusUpdate} (h : (r.merge now u).2 = none)
    (id : String) : (r.merge now u).1.status? id = r.status? id := by
  rw [status?_merge]
  split
  · rename_i hid
    subst hid
    rw [merge_result] at h
    unfold status?
    cases hl : r.lookup u.orderId with
    | none => rfl
    | some o =>
      simp only [hl, Option.bind_some, ite_eq_right_iff, reduceCtorEq, imp_false, Bool.and_eq_true, not_and,
        Order.hears, Order.changesBy, decide_eq_true_eq, Bool.not_eq_true', Bool.not_eq_false] at h
      simp only [Option.map_some, Option.some.injEq, Status.next, ite_eq_right_iff]
      rintro ⟨hu, hr, ht⟩
      by_cases he : o.status = u.status
      · exact he.symm
      · exact absurd (h ⟨hu, hr⟩ he) ht
  · rfl

/-! ## Sweeps -/

section
variable (r : Registry) (now : UInt64) (answer : String → Answer) (id : String)

theorem lookup_evict : r.evict.lookup id = (r.lookup id).filter (·.status.isCancellable) := Table.find?_filter ..

theorem lookup_mark (other : String) :
    (r.mark id).lookup other =
      if other = id then (r.lookup other).map fun o => { o with tradeTime := 0 } else r.lookup other :=
  Table.find?_modify ..

theorem lookup_foldl_mark (ids : List String) :
    (ids.foldl mark r).lookup id = (r.lookup id).map fun o => if id ∈ ids then { o with tradeTime := 0 } else o := by
  induction ids generalizing r with
  | nil => simp
  | cons i ids ih =>
    rw [List.foldl_cons, ih, lookup_mark]
    by_cases hi : id = i
    · subst hi; cases r.lookup id <;> simp
    · simp [hi]

theorem acceptances_foldl_mark (ids : List String) : (ids.foldl mark r).acceptances = r.acceptances := by
  induction ids generalizing r with
  | nil => rfl
  | cons i ids ih => rw [List.foldl_cons, ih]; rfl

theorem lookup_settle (i : String) (a : Answer) : (r.settle i a).1.lookup id = r.lookup id := by
  unfold settle
  cases a.cancelFailure? <;> rfl

theorem acceptances_settle (i : String) (a : Answer) : (r.settle i a).1.acceptances = r.acceptances := by
  have h : (r.noteCall (.cancel i a)).acceptances = r.acceptances := by
    simp [acceptances_noteCall, Call.acceptance?]
  unfold settle
  cases a.cancelFailure? <;> exact h

theorem lookup_settleAll (ids : List String) : (r.settleAll answer ids).1.lookup id = r.lookup id := by
  induction ids generalizing r with
  | nil => rfl
  | cons i ids ih => exact (ih _).trans (lookup_settle r id i (answer i))

theorem acceptances_settleAll (ids : List String) : (r.settleAll answer ids).1.acceptances = r.acceptances := by
  induction ids generalizing r with
  | nil => rfl
  | cons i ids ih => exact (ih _).trans (acceptances_settle r i (answer i))

theorem lookup_sweep :
    (r.sweep now answer).1.lookup id =
      ((r.lookup id).filter (·.status.isCancellable)).map fun o =>
        if id ∈ r.evict.overdue now then { o with tradeTime := 0 } else o := by
  change (Registry.settleAll _ _ _).1.lookup id = _
  rw [lookup_settleAll, lookup_foldl_mark, lookup_evict]

theorem acceptances_sweep : (r.sweep now answer).1.acceptances = r.acceptances := by
  change (Registry.settleAll _ _ _).1.acceptances = _
  rw [acceptances_settleAll, acceptances_foldl_mark]
  rfl

theorem given_sweep : (r.sweep now answer).1.given = r.given :=
  congrArg (·.map (·.1)) (r.acceptances_sweep now answer)

theorem status?_sweep : (r.sweep now answer).1.status? id = (r.status? id).filter (·.isCancellable) := by
  unfold status?
  rw [lookup_sweep]
  cases r.lookup id with
  | none => rfl
  | some o =>
    by_cases h : o.status.isCancellable
    · simp only [Option.filter_some, h, if_true, Option.map_some]
      split <;> rfl
    · simp [Option.filter, h]

end

/-! ## Orders under their own id -/

theorem keyed_empty (d : Deadlines) : ({ deadlines := d } : Registry).Keyed := by
  intro id o h
  cases h

theorem Keyed.place {r : Registry} (h : r.Keyed) (now : UInt64) (o : Order) (answer : Answer) :
    (r.place now o answer).registry.Keyed := by
  intro id o' ho'
  rcases r.place_cases now o answer with ⟨-, -, -, hl⟩ | ⟨reply, -, -, -, -, hl⟩
  · rw [hl] at ho'; exact h id o' ho'
  · rw [hl] at ho'
    split at ho'
    · rename_i hid; cases ho'; exact hid.symm
    · exact h id o' ho'

theorem Keyed.merge {r : Registry} (h : r.Keyed) (now : UInt64) (u : StatusUpdate) : (r.merge now u).1.Keyed := by
  intro id o' ho'
  rw [lookup_merge] at ho'
  split at ho'
  · obtain ⟨o, ho, rfl⟩ := Option.map_eq_some_iff.mp ho'
    rw [Order.merged_id]; exact h id o ho
  · exact h id o' ho'

theorem Keyed.sweep {r : Registry} (h : r.Keyed) (now : UInt64) (answer : String → Answer) :
    (r.sweep now answer).1.Keyed := by
  intro id o' ho'
  rw [lookup_sweep] at ho'
  obtain ⟨o, ho, rfl⟩ := Option.map_eq_some_iff.mp ho'
  have hid := h id o (Option.filter_eq_some_iff.mp ho).1
  split <;> exact hid

/-! ## New orders -/

/-- A registry that tracks some more orders, under ids just given. -/
structure Grown (r r' : Registry) (new : List Order) : Prop where
  acceptances : r'.acceptances = r.acceptances ++ new.map fun o => (o.id, o.status)
  lookup : ∀ id, r'.lookup id = (new.find? (·.id = id)).or (r.lookup id)
  named : ∀ o ∈ new, o.status ≠ .unknown

theorem Grown.given {r r' : Registry} {new : List Order} (h : Grown r r' new) :
    r'.given = r.given ++ new.map (·.id) := by
  unfold Registry.given
  rw [h.acceptances, List.map_append, List.map_map]
  rfl

theorem Grown.fresh {r r' : Registry} {new : List Order} (h : Grown r r' new) (hn : r'.given.Nodup) :
    ∀ o ∈ new, o.id ∉ r.given := by
  rw [h.given, List.nodup_append] at hn
  intro o ho hm
  exact hn.2.2 o.id hm o.id (List.mem_map_of_mem ho) rfl

theorem Grown.status?_eq {r r' : Registry} {new : List Order} (h : Grown r r' new) (id : String) :
    r'.status? id = ((new.find? (·.id = id)).map (·.status)).or (r.status? id) := by
  unfold status?
  rw [h.lookup]
  cases new.find? (·.id = id) <;> rfl

theorem grown_refl (r : Registry) : Grown r r [] := ⟨by simp, by simp, by simp⟩

theorem accepted_of_refused (r : Registry) (now : UInt64) (o : Order) {answer : Answer} (h : answer.accepted? = none) :
    (r.place now o answer).accepted = [] := by
  obtain ⟨reason, hp⟩ := r.place_refused now o h
  rw [hp]; rfl

theorem accepted_of_accepted (r : Registry) (now : UInt64) (o : Order) {answer : Answer} {reply : Reply}
    (h : answer.accepted? = some reply) : (r.place now o answer).accepted = [o.accepted reply now] := by
  rw [r.place_accepted now o h]; rfl

theorem grown_place (r : Registry) (now : UInt64) (o : Order) (answer : Answer) :
    Grown r (r.place now o answer).registry (r.place now o answer).accepted := by
  rcases r.place_cases now o answer with ⟨ha, -, hg, hl⟩ | ⟨reply, ha, -, -, hg, hl⟩
  · rw [accepted_of_refused r now o ha]
    exact ⟨by simpa using hg, by simpa using hl, by simp⟩
  · rw [accepted_of_accepted r now o ha]
    refine ⟨hg, fun id => ?_, by simpa using accepted_status_ne_unknown o reply now⟩
    rw [hl]
    by_cases hid : id = reply.orderId
    · subst hid; simp [Order.accepted]
    · simp [Order.accepted, hid, Ne.symm hid]

/-! ## First statuses -/

theorem accepted_status_ne_failed {answer : Answer} {reply : Reply} (h : answer.accepted? = some reply) (o : Order)
    (now : UInt64) : (o.accepted reply now).status ≠ .failed := by
  obtain ⟨-, -, hs⟩ := Answer.accepted?_eq_some h
  unfold Order.accepted
  by_cases hu : reply.status = .unknown <;> simp [hu, hs]

theorem acceptedAs?_ne_failed (r : Registry) (id : String) : r.acceptedAs? id ≠ some .failed := by
  intro h
  have hm := List.mem_reverse.mp (Table.mem_of_lookup h)
  obtain ⟨c, -, hc⟩ := List.mem_filterMap.mp hm
  cases c with
  | submit o answer =>
    obtain ⟨reply, hr, he⟩ := Option.map_eq_some_iff.mp hc
    exact accepted_status_ne_failed hr o 0 (congrArg (·.2) he)
  | cancel i a => cases hc

theorem acceptedAs?_place (r : Registry) (now : UInt64) (o : Order) {answer : Answer} {reply : Reply}
    (h : answer.accepted? = some reply) (id : String) :
    (r.place now o answer).registry.acceptedAs? id =
      if id = reply.orderId then some (o.accepted reply now).status else r.acceptedAs? id := by
  rcases r.place_cases now o answer with ⟨hn, -⟩ | ⟨reply', hr, -, -, ha, -⟩
  · rw [h] at hn; cases hn
  · rw [h, Option.some.injEq] at hr
    subst hr
    unfold acceptedAs?
    rw [ha, List.reverse_append, List.reverse_singleton, List.singleton_append, Table.lookup_cons]

theorem acceptedAs?_place_of_refused (r : Registry) (now : UInt64) (o : Order) {answer : Answer}
    (h : answer.accepted? = none) (id : String) :
    (r.place now o answer).registry.acceptedAs? id = r.acceptedAs? id := by
  rcases r.place_cases now o answer with ⟨-, -, ha, -⟩ | ⟨reply, hr, -⟩
  · unfold acceptedAs?; rw [ha]
  · rw [h] at hr; cases hr

/-! ## What was last known -/

/-- What is known of an order: how it is tracked, or else what was known before. -/
def lastView (r : Registry) (known : String → Option Status) (id : String) : Option Status :=
  (r.status? id).or (known id)

/-- The last view of every order the registry tracks or tracked: an order that
is not tracked any more had ended. -/
structure Views (r : Registry) (known : String → Option Status) : Prop where
  keyed : r.Keyed
  held : ∀ id s, r.status? id = some s → known id = some s
  gone : ∀ id s, r.status? id = none → known id = some s → ¬ s.isCancellable

section
variable {r r' : Registry} {known : String → Option Status} {id : String}

theorem Views.lastView_eq (h : r.Views known) (hs : r'.status? id = r.status? id ∨ r'.status? id = none) :
    r'.lastView known id = known id := by
  unfold lastView
  rcases hs with hs | hs
  · rw [hs]
    cases hr : r.status? id with
    | none => rfl
    | some s => rw [h.held id s hr]; rfl
  · rw [hs]; rfl

theorem Views.carried (h : r.Views known) (hk : r'.Keyed)
    (hgone : ∀ id s, r.status? id = some s → r'.status? id = none → ¬ s.isCancellable) :
    r'.Views (r'.lastView known) where
  keyed := hk
  held id s hs := by simp [lastView, hs]
  gone id s hs hn := by
    rw [lastView, hs, Option.none_or] at hn
    cases hr : r.status? id with
    | none => exact h.gone id s hr hn
    | some s' =>
      have he := h.held id s' hr
      rw [hn, Option.some.injEq] at he
      exact he ▸ hgone id s' hr hs

theorem Grown.status?_of_ne {new : List Order} (hg : Grown r r' new) (hn : ∀ o ∈ new, o.id ≠ id) :
    r'.status? id = r.status? id := by
  have hf : new.find? (·.id = id) = none := List.find?_eq_none.mpr fun o ho => by simpa using hn o ho
  rw [hg.status?_eq, hf]; rfl

theorem Grown.named_status {new : List Order} (hg : Grown r r' new) (h : ∀ id s, r.status? id = some s → s ≠ .unknown)
    (id : String) (s : Status) (hs : r'.status? id = some s) : s ≠ .unknown := by
  rw [hg.status?_eq] at hs
  cases hfind : new.find? (·.id = id) with
  | none => exact h id s (by simpa [hfind] using hs)
  | some o =>
    rw [hfind, Option.map_some, Option.some_or, Option.some.injEq] at hs
    exact hs ▸ hg.named o (List.mem_of_find?_eq_some hfind)

theorem named_merge (h : ∀ id s, r.status? id = some s → s ≠ .unknown) (now : UInt64) (u : StatusUpdate) (id : String)
    (s : Status) (hs : (r.merge now u).1.status? id = some s) : s ≠ .unknown := by
  rw [status?_merge] at hs
  split at hs
  · obtain ⟨s₀, hs₀, rfl⟩ := Option.map_eq_some_iff.mp hs
    exact Status.next_ne_unknown (h id s₀ hs₀) u.status
  · exact h id s hs

theorem Grown.keyed {new : List Order} (hg : Grown r r' new) (h : r.Keyed) : r'.Keyed := by
  intro id o ho
  rw [hg.lookup] at ho
  cases hf : new.find? (·.id = id) with
  | none => exact h id o (by simpa [hf] using ho)
  | some o' =>
    rw [hf, Option.some_or, Option.some.injEq] at ho
    subst ho
    simpa using List.find?_some hf

theorem Grown.views {new : List Order} (hg : Grown r r' new) (h : r.Views known) : r'.Views (r'.lastView known) := by
  refine h.carried (hg.keyed h.keyed) fun id s hs hn => ?_
  obtain ⟨o, ho, -⟩ := status?_eq_some.mp hs
  rw [status?_eq_none, hg.lookup, ho] at hn
  cases hf : new.find? (·.id = id) <;> simp [hf] at hn

theorem Views.merge (h : r.Views known) (now : UInt64) (u : StatusUpdate) :
    (r.merge now u).1.Views ((r.merge now u).1.lastView known) := by
  refine h.carried (h.keyed.merge now u) fun id s hs hn => ?_
  rw [status?_merge] at hn
  split at hn <;> simp [hs] at hn

theorem Views.sweep (h : r.Views known) (now : UInt64) (answer : String → Answer) :
    (r.sweep now answer).1.Views ((r.sweep now answer).1.lastView known) := by
  refine h.carried (h.keyed.sweep now answer) fun id s hs hn => ?_
  rw [status?_sweep, hs] at hn
  simpa [Option.filter] using hn

/-- A registry that may have let go of orders that had ended. No other order
has changed its status, and none is new. -/
structure Sheds (r r' : Registry) : Prop where
  given : r'.given = r.given
  keyed : r.Keyed → r'.Keyed
  status : ∀ id s, r'.status? id = some s → r.status? id = some s
  live : ∀ id s, r.status? id = some s → s.isCancellable → r'.status? id = some s

theorem sheds_refl (r : Registry) : r.Sheds r := ⟨rfl, fun h => h, fun _ _ hs => hs, fun _ _ hs _ => hs⟩

theorem sheds_marked (r : Registry) (ids : List String) : r.Sheds (ids.foldl mark r.evict) := by
  have hl := r.evict.lookup_foldl_mark
  have hst : ∀ id, (ids.foldl mark r.evict).status? id = (r.status? id).filter (·.isCancellable) := by
    intro id
    unfold status?
    rw [hl, lookup_evict]
    cases r.lookup id with
    | none => rfl
    | some o =>
      by_cases hc : o.status.isCancellable
      · simp only [Option.filter_some, hc, if_true, Option.map_some]
        split <;> rfl
      · simp [Option.filter, hc]
  refine ⟨?_, fun hk id o ho => ?_, fun id s hs => ?_, fun id s hs hc => ?_⟩
  · exact congrArg (·.map (·.1)) (r.evict.acceptances_foldl_mark ids)
  · rw [hl, lookup_evict] at ho
    obtain ⟨o₀, ho₀, rfl⟩ := Option.map_eq_some_iff.mp ho
    have hid := hk id o₀ (Option.filter_eq_some_iff.mp ho₀).1
    split <;> exact hid
  · rw [hst] at hs
    exact (Option.filter_eq_some_iff.mp hs).1
  · rw [hst, hs, Option.filter_some, if_pos hc]

theorem sheds_settle (r : Registry) (i : String) (answer : Answer) : r.Sheds (r.settle i answer).1 := by
  have hl := fun id => r.lookup_settle id i answer
  have hst : ∀ id, (r.settle i answer).1.status? id = r.status? id := fun id =>
    congrArg (·.map (·.status)) (hl id)
  refine ⟨congrArg (·.map (·.1)) (r.acceptances_settle i answer), fun hk id o ho => hk id o (hl id ▸ ho),
    fun id s hs => hst id ▸ hs, fun id s hs _ => (hst id).trans hs⟩

theorem sheds_sweep (r : Registry) (now : UInt64) (answer : String → Answer) : r.Sheds (r.sweep now answer).1 where
  given := r.given_sweep now answer
  keyed h := h.sweep now answer
  status id s hs := by
    rw [status?_sweep] at hs
    exact (Option.filter_eq_some_iff.mp hs).1
  live id s hs hc := by rw [status?_sweep, hs, Option.filter_some, if_pos hc]

theorem Sheds.views (hs : r.Sheds r') (h : r.Views known) : r'.Views known where
  keyed := hs.keyed h.keyed
  held id s hst := h.held id s (hs.status id s hst)
  gone id s hst hn hc := by
    cases hr : r.status? id with
    | none => exact h.gone id s hr hn hc
    | some s' =>
      rw [h.held id s' hr, Option.some.injEq] at hn
      subst hn
      rw [hs.live id s' hr hc] at hst
      cases hst

theorem Views.lastView_sweep (h : r.Views known) (now : UInt64) (answer : String → Answer) :
    (r.sweep now answer).1.lastView known = known := by
  funext id
  refine h.lastView_eq ?_
  rw [status?_sweep]
  cases r.status? id with
  | none => exact Or.inl rfl
  | some s => by_cases hs : s.isCancellable <;> simp [Option.filter, hs]

end

/-! ## Runs -/

/-- Everything that can happen to a registry, the brokerage's answers included. -/
inductive Step where
  | place (now : UInt64) (o : Order) (answer : Answer)
  | record (o : Order)
  | remove (id : String)
  | merge (now : UInt64) (u : StatusUpdate)
  | sweep (now : UInt64) (answer : String → Answer)

def step (r : Registry) : Step → Registry
  | .place now o answer => (r.place now o answer).registry
  | .record o => r.record o
  | .remove id => r.remove id
  | .merge now u => (r.merge now u).1
  | .sweep now answer => (r.sweep now answer).1

def run (r : Registry) (steps : List Step) : Registry := steps.foldl step r

/-- Whether a step puts an order under an id, or takes it away, whatever
becomes of the order tracked there. -/
def Step.replaces (id : String) : Step → Prop
  | .place _ _ answer => answer.accepted?.map (·.orderId) = some id
  | .record o => o.id = id
  | .remove i => i = id
  | .merge .. | .sweep .. => False

instance (id : String) : (st : Step) → Decidable (st.replaces id)
  | .place _ _ answer => inferInstanceAs (Decidable (answer.accepted?.map (·.orderId) = some id))
  | .record o => inferInstanceAs (Decidable (o.id = id))
  | .remove i => inferInstanceAs (Decidable (i = id))
  | .merge .. | .sweep .. => inferInstanceAs (Decidable False)

def Step.delivered? (id : String) : Step → Option Status
  | .merge _ u => if u.orderId = id then some u.status else none
  | .place .. | .record _ | .remove _ | .sweep .. => none

def delivered (id : String) (steps : List Step) : List Status := steps.filterMap (Step.delivered? id)

/-- A step that leaves an order tracked has merged what it delivered for it. -/
theorem status?_step {r : Registry} {id : String} {st : Step} (h : ¬ st.replaces id) {s : Status}
    (hs : (r.step st).status? id = some s) :
    ∃ s₀, r.status? id = some s₀ ∧ s = (st.delivered? id).elim s₀ s₀.next := by
  cases st with
  | place now o answer => exact ⟨s, by simpa [status?, step, r.lookup_place_of_ne now o h] using hs, rfl⟩
  | record o =>
    have hid : id ≠ o.id := Ne.symm h
    exact ⟨s, by simpa [status?, step, lookup_record, hid] using hs, rfl⟩
  | remove i =>
    have hid : id ≠ i := Ne.symm h
    exact ⟨s, by simpa [status?, step, lookup_remove, hid] using hs, rfl⟩
  | merge now u =>
    rw [step, status?_merge] at hs
    by_cases hid : id = u.orderId
    · subst hid
      rw [if_pos rfl] at hs
      obtain ⟨s₀, h₀, rfl⟩ := Option.map_eq_some_iff.mp hs
      exact ⟨s₀, h₀, by simp [Step.delivered?]⟩
    · rw [if_neg hid] at hs
      exact ⟨s, hs, by simp [Step.delivered?, Ne.symm hid]⟩
  | sweep now answer =>
    rw [step, status?_sweep] at hs
    exact ⟨s, (Option.filter_eq_some_iff.mp hs).1, rfl⟩

/-- While an order stays tracked its status is what the delivered ones make of
the first one, merged in turn. -/
theorem status?_run {r : Registry} {id : String} {steps : List Step} (h : ∀ st ∈ steps, ¬ st.replaces id) {s : Status}
    (hs : (r.run steps).status? id = some s) :
    ∃ s₀, r.status? id = some s₀ ∧ s = (delivered id steps).foldl Status.next s₀ := by
  induction steps generalizing r with
  | nil => exact ⟨s, hs, rfl⟩
  | cons st steps ih =>
    obtain ⟨s₁, h₁, hr⟩ := ih (fun st' hm => h st' (List.mem_cons_of_mem _ hm)) hs
    obtain ⟨s₀, h₀, rfl⟩ := status?_step (h st (List.mem_cons_self ..)) h₁
    refine ⟨s₀, h₀, ?_⟩
    rw [hr, delivered, delivered, List.filterMap_cons]
    cases st.delivered? id <;> rfl

end Registry

end FuturesDesk
