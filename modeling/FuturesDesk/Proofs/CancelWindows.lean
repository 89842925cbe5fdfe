import FuturesDesk.Proofs.RegistrySteps

/-!
# Windows of cancels

The window of an order is armed by its placement, and again by the first update
heard after a cancel has set its trade time to zero. In one window all cancels
but the last have failed, and the first of them is not sent before the deadline.
-/

namespace FuturesDesk

def Call.cancelled? (id : String) : Call → Option Answer
  | .submit .. => none
  | .cancel i answer => if i = id then some answer else none

/-- What bears on the cancels of an order. -/
inductive Moment where
  /-- Its window opens, with the deadline of the order. -/
  | armed (now : UInt64) (deadline : Nat)
  /-- An update for it is heard. -/
  | heard
  | cancelled (now : UInt64) (answer : Answer)

namespace Moment

def answer? : Moment → Option Answer
  | .cancelled _ answer => some answer
  | .armed .. | .heard => none

/-! ## Histories -/

/-- Every cancel so far has failed or was followed by an update. -/
def Settled (xs : List Moment) : Prop :=
  ∀ ys t a zs, xs = ys ++ .cancelled t a :: zs → a.cancelFailure?.isSome ∨ .heard ∈ zs

/-- The deadline has passed, or a cancel has failed since the window was armed. -/
def Due (xs : List Moment) (t : UInt64) : Prop :=
  ∃ ys t₀ deadline zs, xs = ys ++ .armed t₀ deadline :: zs ∧ (∀ t' d', .armed t' d' ∉ zs) ∧
    (t₀.toNat + deadline < t.toNat ∨ ∃ t' a, .cancelled t' a ∈ zs ∧ a.cancelFailure?.isSome)

/-- Every cancel was due, and all cancels before it were settled. -/
def Lawful (xs : List Moment) : Prop := ∀ ys t a zs, xs = ys ++ .cancelled t a :: zs → Settled ys ∧ Due ys t

theorem settled_nil : Settled [] := by
  intro ys t a zs h
  simp at h

theorem lawful_nil : Lawful [] := by
  intro ys t a zs h
  simp at h

theorem settled_heard (xs : List Moment) : Settled (xs ++ [.heard]) := by
  intro ys t a zs h
  rcases snoc_eq_split h with ⟨-, -, he⟩ | ⟨zs', rfl, -⟩
  · cases he
  · exact Or.inr (by simp)

theorem Settled.snoc {xs : List Moment} (h : Settled xs) {m : Moment}
    (hm : ∀ t a, m = .cancelled t a → a.cancelFailure?.isSome) : Settled (xs ++ [m]) := by
  intro ys t a zs hx
  rcases snoc_eq_split hx with ⟨-, -, he⟩ | ⟨zs', rfl, hx'⟩
  · exact Or.inl (hm t a he.symm)
  · rcases h ys t a zs' hx' with hf | hh
    · exact Or.inl hf
    · exact Or.inr (List.mem_append_left _ hh)

theorem Lawful.snoc {xs : List Moment} (h : Lawful xs) {m : Moment}
    (hm : ∀ t a, m = .cancelled t a → Settled xs ∧ Due xs t) : Lawful (xs ++ [m]) := by
  intro ys t a zs hx
  rcases snoc_eq_split hx with ⟨-, rfl, he⟩ | ⟨zs', rfl, hx'⟩
  · exact hm t a he.symm
  · exact h ys t a zs' hx'

end Moment

namespace Registry

open Moment

def asked (r : Registry) (st : Step) : List Call := (r.step st).journal.drop r.journal.length

def moments (r : Registry) (id : String) : Step → List Moment
  | .place now o answer =>
    if answer.accepted?.map (·.orderId) = some id then [.armed now (r.deadlines.forOrder o)] else []
  | .merge now u =>
    match r.lookup id with
    | none => []
    | some o =>
      if u.orderId = id ∧ o.hears u then
        .heard :: if o.tradeTime = 0 then [.armed now (r.deadlines.forOrder o)] else []
      else []
  | .sweep now answer => ((r.asked (.sweep now answer)).filterMap (Call.cancelled? id)).map (.cancelled now)
  | .record _ | .remove _ => []

def history (r : Registry) (id : String) : List Step → List Moment
  | [] => []
  | st :: steps => r.moments id st ++ (r.step st).history id steps

/-! ## Calls -/

section
variable (r : Registry) (now : UInt64) (answer : String → Answer) (id : String)

theorem journal_record (o : Order) : (r.record o).journal = r.journal := by
  unfold record
  split <;> rfl

theorem journal_place (o : Order) (a : Answer) :
    (r.place now o a).registry.journal = r.journal ++ [.submit o a] := by
  cases h : a.accepted? with
  | none =>
    obtain ⟨reason, hp⟩ := r.place_refused now o h
    rw [hp]; rfl
  | some reply =>
    rw [r.place_accepted now o h, journal_record]; rfl

theorem journal_merge (u : StatusUpdate) : (r.merge now u).1.journal = r.journal := by
  unfold merge
  cases r.lookup u.orderId with
  | none => rfl
  | some o => by_cases hh : o.hears u <;> simp only [hh] <;> rfl

theorem journal_foldl_mark (ids : List String) : (ids.foldl mark r).journal = r.journal := by
  induction ids generalizing r with
  | nil => rfl
  | cons i ids ih => rw [List.foldl_cons, ih]; rfl

theorem journal_settle (i : String) (a : Answer) : (r.settle i a).1.journal = r.journal ++ [.cancel i a] := by
  unfold settle
  cases a.cancelFailure? <;> rfl

theorem journal_settleAll (ids : List String) :
    (r.settleAll answer ids).1.journal = r.journal ++ ids.map fun i => .cancel i (answer i) := by
  induction ids generalizing r with
  | nil => simp [settleAll]
  | cons i ids ih =>
    change ((r.settle i (answer i)).1.settleAll answer ids).1.journal = _
    rw [ih, journal_settle, List.append_assoc]; rfl

theorem journal_sweep :
    (r.sweep now answer).1.journal = r.journal ++ (r.evict.overdue now).map fun i => .cancel i (answer i) := by
  change (Registry.settleAll _ _ _).1.journal = _
  rw [journal_settleAll, journal_foldl_mark]; rfl

theorem journal_step (st : Step) : (r.step st).journal = r.journal ++ r.asked st := by
  have h : r.journal <+: (r.step st).journal := by
    cases st with
    | place now o a => exact journal_place r now o a ▸ List.prefix_append ..
    | record o => exact (journal_record r o).symm ▸ List.prefix_refl _
    | remove i => exact List.prefix_refl _
    | merge now u => exact (journal_merge r now u).symm ▸ List.prefix_refl _
    | sweep now answer => exact journal_sweep r now answer ▸ List.prefix_append ..
  obtain ⟨calls, hc⟩ := h
  rw [asked, ← hc, List.drop_left]

theorem asked_sweep :
    r.asked (.sweep now answer) = (r.evict.overdue now).map fun i => .cancel i (answer i) := by
  rw [asked, step, journal_sweep, List.drop_left]

theorem nodup_overdue : (r.overdue now).Nodup := (r.orders.filter (r.isOverdue now)).nodup

theorem filterMap_cancelled? {ids : List String} (hn : ids.Nodup) :
    (ids.map fun i => Call.cancel i (answer i)).filterMap (Call.cancelled? id) =
      if id ∈ ids then [answer id] else [] := by
  induction ids with
  | nil => rfl
  | cons i ids ih =>
    rw [List.nodup_cons] at hn
    rw [List.map_cons, List.filterMap_cons, ih hn.2]
    by_cases hi : i = id
    · subst hi; simp [Call.cancelled?, hn.1]
    · simp [Call.cancelled?, hi, Ne.symm hi]

theorem moments_sweep :
    r.moments id (.sweep now answer) = if id ∈ r.evict.overdue now then [.cancelled now (answer id)] else [] := by
  rw [moments, asked_sweep, filterMap_cancelled? answer id (nodup_overdue r.evict now)]
  split <;> rfl

theorem filterMap_asked (st : Step) :
    (r.asked st).filterMap (Call.cancelled? id) = (r.moments id st).filterMap Moment.answer? := by
  cases st with
  | place now o a =>
    rw [asked, step, journal_place, List.drop_left, moments]
    split <;> rfl
  | record o => rw [asked, step, journal_record, List.drop_length]; rfl
  | remove i => rw [asked, step, remove, List.drop_length]; rfl
  | merge now u =>
    rw [asked, step, journal_merge, List.drop_length, moments]
    split
    · rfl
    · split
      · split <;> rfl
      · rfl
  | sweep now answer =>
    rw [moments_sweep, asked_sweep, filterMap_cancelled? answer id (nodup_overdue r.evict now)]
    split <;> rfl

theorem filterMap_journal_run (steps : List Step) :
    (r.run steps).journal.filterMap (Call.cancelled? id) =
      r.journal.filterMap (Call.cancelled? id) ++ (r.history id steps).filterMap Moment.answer? := by
  induction steps generalizing r with
  | nil => simp [run, history]
  | cons st steps ih =>
    have h := ih (r.step st)
    rw [journal_step, List.filterMap_append, filterMap_asked] at h
    rw [history, List.filterMap_append, ← List.append_assoc]
    exact h

end

/-! ## Marks and deadlines -/

section
variable (r : Registry) (now : UInt64) (answer : String → Answer) (id : String)

theorem deadlines_foldl_mark (ids : List String) : (ids.foldl mark r).deadlines = r.deadlines := by
  induction ids generalizing r with
  | nil => rfl
  | cons i ids ih => rw [List.foldl_cons, ih]; rfl

theorem deadlines_settleAll (ids : List String) : (r.settleAll answer ids).1.deadlines = r.deadlines := by
  induction ids generalizing r with
  | nil => rfl
  | cons i ids ih =>
    have h : (r.settle i (answer i)).1.deadlines = r.deadlines := by
      unfold settle
      cases (answer i).cancelFailure? <;> rfl
    exact (ih _).trans h

theorem deadlines_step (st : Step) : (r.step st).deadlines = r.deadlines := by
  cases st with
  | place now o a =>
    cases h : a.accepted? with
    | none =>
      obtain ⟨reason, hp⟩ := r.place_refused now o h
      rw [step, hp]; rfl
    | some reply =>
      rw [step, r.place_accepted now o h]
      unfold record
      split <;> rfl
  | record o => rw [step, record]; split <;> rfl
  | remove i => rfl
  | merge now u =>
    rw [step, merge]
    cases r.lookup u.orderId with
    | none => rfl
    | some o => by_cases hh : o.hears u <;> simp only [hh] <;> rfl
  | sweep now answer =>
    change (Registry.settleAll _ _ _).1.deadlines = _
    rw [deadlines_settleAll, deadlines_foldl_mark]; rfl

theorem marks_place (o : Order) (a : Answer) : (r.place now o a).registry.marks = r.marks := by
  cases h : a.accepted? with
  | none =>
    obtain ⟨reason, hp⟩ := r.place_refused now o h
    rw [hp]; rfl
  | some reply =>
    rw [r.place_accepted now o h]
    unfold record
    split <;> rfl

theorem contains_marks_remove (i : String) :
    (r.remove i).marks.contains id = (decide (id ≠ i) && r.marks.contains id) := IdSet.contains_remove ..

theorem contains_marks_merge (u : StatusUpdate) :
    (r.merge now u).1.marks.contains id =
      (r.marks.contains id && !(decide (u.orderId = id) && (r.lookup u.orderId).any (·.hears u))) := by
  unfold merge
  cases r.lookup u.orderId with
  | none => simp
  | some o =>
    by_cases hh : o.hears u
    · by_cases hid : u.orderId = id
      · simp [hh, hid, IdSet.contains_remove]
      · simp [hh, hid, IdSet.contains_remove, Ne.symm hid]
    · simp [hh]

theorem contains_marks_foldl_mark (ids : List String) :
    (ids.foldl mark r).marks.contains id = (decide (id ∈ ids) || r.marks.contains id) := by
  induction ids generalizing r with
  | nil => simp
  | cons i ids ih =>
    rw [List.foldl_cons, ih, mark, IdSet.contains_add]
    by_cases hi : id = i
    · simp [hi]
    · simp [hi]

theorem contains_marks_settle (i : String) (a : Answer) :
    (r.settle i a).1.marks.contains id = (r.marks.contains id && !(decide (id = i) && a.cancelFailure?.isSome)) := by
  unfold settle
  cases a.cancelFailure? with
  | none => simp [noteCall]
  | some reason => simp [noteCall, IdSet.contains_remove, Bool.and_comm]

theorem contains_marks_settleAll (ids : List String) :
    (r.settleAll answer ids).1.marks.contains id =
      (r.marks.contains id && !(decide (id ∈ ids) && (answer id).cancelFailure?.isSome)) := by
  induction ids generalizing r with
  | nil => simp [settleAll]
  | cons i ids ih =>
    change ((r.settle i (answer i)).1.settleAll answer ids).1.marks.contains id = _
    rw [ih, contains_marks_settle]
    by_cases hi : id = i
    · subst hi
      cases r.marks.contains id <;> cases (answer id).cancelFailure?.isSome <;> simp
    · simp [hi]

theorem contains_marks_evict :
    r.evict.marks.contains id = (r.marks.contains id && !(r.lookup id).any fun o => !o.status.isCancellable) :=
  IdSet.contains_filter ..

theorem contains_marks_sweep :
    (r.sweep now answer).1.marks.contains id =
      if id ∈ r.evict.overdue now then !(answer id).cancelFailure?.isSome else r.evict.marks.contains id := by
  change (Registry.settleAll _ _ _).1.marks.contains id = _
  rw [contains_marks_settleAll, contains_marks_foldl_mark]
  by_cases hid : id ∈ r.evict.overdue now
  · simp [hid]
  · simp [hid]

theorem mem_overdue : id ∈ r.overdue now ↔ ∃ o, r.lookup id = some o ∧ r.marks.contains id = false ∧
    o.tradeTime.toNat + r.deadlines.forOrder o < now.toNat := by
  rw [overdue, Table.mem_ids_iff, Table.find?_filter]
  change ((r.lookup id).filter _).isSome ↔ _
  cases r.lookup id with
  | none => simp
  | some o =>
    have h : r.isOverdue now id o ↔
        r.marks.contains id = false ∧ o.tradeTime.toNat + r.deadlines.forOrder o < now.toNat := by
      rw [isOverdue, Bool.and_eq_true, Bool.not_eq_true', decide_eq_true_eq, Clock.elapsed, Nat.lt_sub_iff_add_lt']
    by_cases ho : r.isOverdue now id o
    · simp [Option.filter, ho, h.mp ho]
    · simp only [Option.filter, ho]
      simpa using fun hm hlt => ho (h.mpr ⟨hm, hlt⟩)

end

/-! ## Updates that are not heard -/

section
variable (r : Registry) (now : UInt64) {id : String} {u : StatusUpdate}

theorem lookup_of_unheard (hh : ∀ o, r.lookup id = some o → ¬ (u.orderId = id ∧ o.hears u)) :
    (r.merge now u).1.lookup id = r.lookup id := by
  rw [lookup_merge]
  by_cases hid : id = u.orderId
  · rw [if_pos hid]
    cases ho : r.lookup id with
    | none => rfl
    | some o =>
      have hn : ¬ o.hears u := fun hhear => hh o ho ⟨hid.symm, hhear⟩
      simp [Order.merged, hn]
  · rw [if_neg hid]

theorem contains_marks_of_unheard (hh : ∀ o, r.lookup id = some o → ¬ (u.orderId = id ∧ o.hears u)) :
    (r.merge now u).1.marks.contains id = r.marks.contains id := by
  rw [contains_marks_merge]
  by_cases hid : u.orderId = id
  · have hn : (r.lookup u.orderId).any (·.hears u) = false := by
      rw [hid, Option.any_eq_false]
      intro o ho
      simpa using fun hhear => hh o ho ⟨hid, hhear⟩
    rw [hn]
    simp
  · simp [hid]

end

/-! ## Windows -/

/-- The mark and the trade time of a tracked order agree with its history. -/
structure Windowed (r : Registry) (id : String) (xs : List Moment) : Prop where
  keyed : r.Keyed
  given : (r.lookup id).isSome → id ∈ r.given
  fresh : id ∉ r.given → xs = []
  marked : r.marks.contains id → ∃ o, r.lookup id = some o ∧ o.tradeTime = 0
  settled : (r.lookup id).isSome → r.marks.contains id = false → Settled xs
  armed : ∀ o, r.lookup id = some o → ∃ ys t₀ zs, xs = ys ++ .armed t₀ (r.deadlines.forOrder o) :: zs ∧
    (∀ t d, .armed t d ∉ zs) ∧
    (o.tradeTime = t₀ ∨ o.tradeTime = 0 ∧
      (r.marks.contains id ∨ ∃ t a, .cancelled t a ∈ zs ∧ a.cancelFailure?.isSome))
  lawful : Lawful xs

section
variable {r : Registry} {id : String} {xs : List Moment} {u : StatusUpdate}

theorem windowed_empty (d : Deadlines) (id : String) : ({ deadlines := d } : Registry).Windowed id [] where
  keyed := keyed_empty d
  given h := by cases h
  fresh _ := rfl
  marked h := by cases h
  settled h := by cases h
  armed o h := by cases h
  lawful := lawful_nil

theorem Windowed.frame (h : r.Windowed id xs) {r' : Registry} (hk : r'.Keyed)
    (hg : r.given <+: r'.given) (hl : r'.lookup id = r.lookup id)
    (hm : r'.marks.contains id = r.marks.contains id) (hd : r'.deadlines = r.deadlines) : r'.Windowed id xs where
  keyed := hk
  given ho := hg.subset (h.given (hl ▸ ho))
  fresh hf := h.fresh fun hid => hf (hg.subset hid)
  marked hid := by rw [hl]; exact h.marked (hm ▸ hid)
  settled ho hid := h.settled (hl ▸ ho) (hm ▸ hid)
  armed o ho := by rw [hd, hm]; exact h.armed o (hl ▸ ho)
  lawful := h.lawful

theorem Windowed.gone (h : r.Windowed id xs) {r' : Registry} (hk : r'.Keyed) (hg : r'.given = r.given)
    (hl : r'.lookup id = none) (hm : r'.marks.contains id = false) : r'.Windowed id xs where
  keyed := hk
  given ho := by rw [hl] at ho; cases ho
  fresh hf := h.fresh (hg ▸ hf)
  marked hid := by rw [hm] at hid; cases hid
  settled ho := by rw [hl] at ho; cases ho
  armed o ho := by rw [hl] at ho; cases ho
  lawful := h.lawful

theorem Windowed.unmarked (h : r.Windowed id xs) (hl : r.lookup id = none) : r.marks.contains id = false := by
  cases hc : r.marks.contains id with
  | false => rfl
  | true =>
    obtain ⟨o, ho, -⟩ := h.marked hc
    rw [hl] at ho
    cases ho

theorem Windowed.opened (h : r.Windowed id xs) (hnew : id ∉ r.given) {r' : Registry} (hk : r'.Keyed)
    (hg : id ∈ r'.given) {o : Order} (hl : r'.lookup id = some o)
    (hm : r'.marks.contains id = r.marks.contains id) :
    r'.Windowed id (xs ++ [.armed o.tradeTime (r'.deadlines.forOrder o)]) := by
  have hlook : r.lookup id = none := by
    cases ho : r.lookup id with
    | none => rfl
    | some o' => exact absurd (h.given (by rw [ho]; rfl)) hnew
  rw [h.unmarked hlook] at hm
  rw [h.fresh hnew, List.nil_append]
  refine ⟨hk, fun _ => hg, fun hf => absurd hg hf, fun hc => ?_, fun _ _ => ?_, fun o' ho' => ?_, ?_⟩
  · rw [hm] at hc
    cases hc
  · exact settled_nil.snoc fun t a hc => by cases hc
  · rw [hl, Option.some.injEq] at ho'
    subst ho'
    exact ⟨[], o.tradeTime, [], rfl, by simp, Or.inl rfl⟩
  · exact lawful_nil.snoc fun t a hc => by cases hc

theorem Windowed.placed (h : r.Windowed id xs) (now : UInt64) (o : Order) (a : Answer)
    (hn : (r.place now o a).registry.given.Nodup) :
    (r.place now o a).registry.Windowed id (xs ++ r.moments id (.place now o a)) := by
  have hgrown := r.grown_place now o a
  have hgiven : r.given <+: (r.place now o a).registry.given := hgrown.given ▸ List.prefix_append ..
  have hk := h.keyed.place now o a
  have hm : (r.place now o a).registry.marks.contains id = r.marks.contains id := by rw [marks_place]
  have hd : (r.place now o a).registry.deadlines = r.deadlines := r.deadlines_step (.place now o a)
  rcases r.place_cases now o a with ⟨ha, -, -, hl⟩ | ⟨reply, ha, -, -, -, hl⟩
  · have hmom : r.moments id (.place now o a) = [] := by simp [moments, ha]
    rw [hmom, List.append_nil]
    exact h.frame hk hgiven (hl id) hm hd
  · by_cases hid : reply.orderId = id
    · subst hid
      have hnew := accepted_of_accepted r now o ha
      have hmom : r.moments reply.orderId (.place now o a) = [.armed now (r.deadlines.forOrder o)] := by
        simp [moments, ha]
      have hfresh : reply.orderId ∉ r.given := by
        have hf := hgrown.fresh hn
        rw [hnew] at hf
        exact hf _ (List.mem_singleton.mpr rfl)
      have hg : reply.orderId ∈ (r.place now o a).registry.given := by
        rw [hgrown.given, hnew]
        exact List.mem_append_right _ (List.mem_singleton.mpr rfl)
      have hopen := h.opened hfresh hk hg ((hl _).trans (if_pos rfl)) hm
      rw [hd] at hopen
      rw [hmom]
      exact hopen
    · have hmom : r.moments id (.place now o a) = [] := by simp [moments, ha, hid]
      rw [hmom, List.append_nil]
      exact h.frame hk hgiven ((hl id).trans (if_neg (Ne.symm hid))) hm hd

theorem Windowed.removed (h : r.Windowed id xs) (i : String) : (r.remove i).Windowed id xs := by
  have hk : (r.remove i).Keyed := by
    intro other o ho
    rw [lookup_remove] at ho
    split at ho
    · cases ho
    · exact h.keyed other o ho
  by_cases hid : id = i
  · exact h.gone hk rfl ((r.lookup_remove i id).trans (if_pos hid)) (by simp [contains_marks_remove, hid])
  · refine h.frame hk (List.prefix_refl _) ((r.lookup_remove i id).trans (if_neg hid)) ?_ rfl
    simp [contains_marks_remove, hid]

theorem moments_of_heard {now : UInt64} {u : StatusUpdate} {o : Order} (ho : r.lookup u.orderId = some o)
    (hh : o.hears u) : r.moments u.orderId (.merge now u) =
      .heard :: if o.tradeTime = 0 then [.armed now (r.deadlines.forOrder o)] else [] := by
  simp only [moments, ho, hh, and_self, if_true]

/-- An update that is heard lifts the mark; where the trade time was zero it
arms the window again. -/
theorem Windowed.heard (h : r.Windowed u.orderId xs) (now : UInt64) {o : Order} (ho : r.lookup u.orderId = some o)
    (hh : o.hears u) : (r.merge now u).1.Windowed u.orderId (xs ++ r.moments u.orderId (.merge now u)) := by
  have hk := h.keyed.merge now u
  have hg : (r.merge now u).1.given = r.given := r.given_merge now u
  have hd : (r.merge now u).1.deadlines = r.deadlines := r.deadlines_step (.merge now u)
  have hl : (r.merge now u).1.lookup u.orderId = some (o.merged now u) := by rw [lookup_merge, if_pos rfl, ho]; rfl
  have hm : (r.merge now u).1.marks.contains u.orderId = false := by rw [contains_marks_merge]; simp [ho, hh]
  have htime : (o.merged now u).tradeTime = if o.tradeTime = 0 then now else o.tradeTime := by
    simp only [Order.merged, hh, if_true, Order.updated, Order.rearmed]
    split <;> split <;> rfl
  have haction : r.deadlines.forOrder (o.merged now u) = r.deadlines.forOrder o := by
    simp only [Deadlines.forOrder, Order.merged, hh, if_true, Order.updated, Order.rearmed]
    split <;> split <;> rfl
  have hgiven : u.orderId ∈ r.given := h.given (by rw [ho]; rfl)
  obtain ⟨ys, t₀, zs, rfl, hzs, htrade⟩ := h.armed o ho
  have hlawful : Lawful (ys ++ .armed t₀ (r.deadlines.forOrder o) :: zs ++ [.heard]) :=
    h.lawful.snoc fun t a hc => by cases hc
  have hsettled := settled_heard (ys ++ .armed t₀ (r.deadlines.forOrder o) :: zs)
  rw [moments_of_heard ho hh]
  by_cases hz : o.tradeTime = 0
  · -- the time without an answer is over
    rw [if_pos hz] at htime ⊢
    rw [List.append_cons _ Moment.heard]
    refine ⟨hk, fun _ => hg ▸ hgiven, fun hf => absurd hgiven (hg ▸ hf), fun hc => ?_, fun _ _ => ?_,
      fun o' ho' => ?_, ?_⟩
    · rw [hm] at hc
      cases hc
    · exact hsettled.snoc fun t a hc => by cases hc
    · rw [hl, Option.some.injEq] at ho'
      subst ho'
      rw [hd, haction]
      exact ⟨_, now, [], rfl, by simp, Or.inl htime⟩
    · exact hlawful.snoc fun t a hc => by cases hc
  · rw [if_neg hz] at htime ⊢
    refine ⟨hk, fun _ => hg ▸ hgiven, fun hf => absurd hgiven (hg ▸ hf), fun hc => ?_, fun _ _ => hsettled,
      fun o' ho' => ?_, hlawful⟩
    · rw [hm] at hc
      cases hc
    · rw [hl, Option.some.injEq] at ho'
      subst ho'
      rw [hd, haction, htime]
      exact ⟨ys, t₀, zs ++ [.heard], by simp, by simpa using hzs, Or.inl (htrade.resolve_right fun hn => hz hn.1)⟩

theorem Windowed.unheard (h : r.Windowed id xs) (now : UInt64)
    (hh : ∀ o, r.lookup id = some o → ¬ (u.orderId = id ∧ o.hears u)) :
    (r.merge now u).1.Windowed id (xs ++ r.moments id (.merge now u)) := by
  have hg : r.given <+: (r.merge now u).1.given := (r.given_merge now u).symm ▸ List.prefix_refl _
  have hd : (r.merge now u).1.deadlines = r.deadlines := r.deadlines_step (.merge now u)
  have hmom : r.moments id (.merge now u) = [] := by
    cases ho : r.lookup id with
    | none => simp only [moments, ho]
    | some o =>
      simp only [moments, ho]
      exact if_neg (hh o ho)
  rw [hmom, List.append_nil]
  exact h.frame (h.keyed.merge now u) hg (lookup_of_unheard r now hh) (contains_marks_of_unheard r now hh) hd

theorem Windowed.merged (h : r.Windowed id xs) (now : UInt64) (u : StatusUpdate) :
    (r.merge now u).1.Windowed id (xs ++ r.moments id (.merge now u)) := by
  by_cases hh : ∃ o, r.lookup id = some o ∧ u.orderId = id ∧ o.hears u
  · obtain ⟨o, ho, rfl, hh⟩ := hh
    exact h.heard now ho hh
  · exact h.unheard now fun o ho hhear => hh ⟨o, ho, hhear⟩

theorem Windowed.overdue (h : r.Windowed id xs) (now : UInt64) (answer : String → Answer)
    (hid : id ∈ r.evict.overdue now) :
    (r.sweep now answer).1.Windowed id (xs ++ [.cancelled now (answer id)]) := by
  have hk := h.keyed.sweep now answer
  have hg := r.given_sweep now answer
  have hd : (r.sweep now answer).1.deadlines = r.deadlines := r.deadlines_step (.sweep now answer)
  have hl := r.lookup_sweep now answer id
  have hm := r.contains_marks_sweep now answer id
  obtain ⟨o, ho, hunmarked, hlate⟩ := (r.evict.mem_overdue now id).mp hid
  rw [← lookup_evict, ho, Option.map_some, if_pos hid] at hl
  rw [if_pos hid] at hm
  rw [lookup_evict] at ho
  obtain ⟨hlook, hlive⟩ := Option.filter_eq_some_iff.mp ho
  have hmark : r.marks.contains id = false := by
    rw [contains_marks_evict, hlook] at hunmarked
    simpa [hlive] using hunmarked
  have hgiven : id ∈ r.given := h.given (by rw [hlook]; rfl)
  have hsettled := h.settled (by rw [hlook]; rfl) hmark
  obtain ⟨ys, t₀, zs, hxs, hzs, htrade⟩ := h.armed o hlook
  refine ⟨hk, fun _ => hg ▸ hgiven, fun hf => absurd hgiven (hg ▸ hf), fun _ => ⟨_, hl, rfl⟩, fun _ hc => ?_,
    fun o' ho' => ?_, ?_⟩
  · rw [hm] at hc
    refine hsettled.snoc fun t a hta => ?_
    cases hta
    simpa using hc
  · rw [hl, Option.some.injEq] at ho'
    subst ho'
    refine ⟨ys, t₀, zs ++ [.cancelled now (answer id)], ?_, by simpa using hzs, Or.inr ⟨rfl, ?_⟩⟩
    · rw [hxs, hd, List.append_assoc]
      rfl
    · rw [hm]
      cases hfail : (answer id).cancelFailure?.isSome with
      | false => exact Or.inl rfl
      | true => exact Or.inr ⟨now, answer id, by simp, hfail⟩
  · refine h.lawful.snoc fun t a hta => ?_
    cases hta
    refine ⟨hsettled, ys, t₀, _, zs, hxs, hzs, ?_⟩
    rcases htrade with ht | ⟨-, hc | hfail⟩
    · exact Or.inl (ht ▸ hlate)
    · rw [hmark] at hc
      cases hc
    · exact Or.inr hfail

theorem Windowed.evicted (h : r.Windowed id xs) (now : UInt64) (answer : String → Answer)
    (hid : id ∉ r.evict.overdue now) : (r.sweep now answer).1.Windowed id xs := by
  have hk := h.keyed.sweep now answer
  have hg := r.given_sweep now answer
  have hd : (r.sweep now answer).1.deadlines = r.deadlines := r.deadlines_step (.sweep now answer)
  have hl := r.lookup_sweep now answer id
  have hm := r.contains_marks_sweep now answer id
  simp only [hid, if_false, Option.map_id'] at hl
  rw [if_neg hid, contains_marks_evict] at hm
  cases ho : r.lookup id with
  | none => exact h.gone hk hg (by rw [hl, ho]; rfl) (by rw [hm, h.unmarked ho]; rfl)
  | some o =>
    rw [ho] at hl hm
    by_cases hlive : o.status.isCancellable
    · refine h.frame hk (hg ▸ List.prefix_refl _) ?_ ?_ hd
      · rw [hl, ho]
        simp [Option.filter, hlive]
      · rw [hm]
        simp [hlive]
    · refine h.gone hk hg ?_ ?_
      · rw [hl]
        simp [Option.filter, hlive]
      · rw [hm]
        simp [hlive]

theorem Windowed.swept (h : r.Windowed id xs) (now : UInt64) (answer : String → Answer) :
    (r.sweep now answer).1.Windowed id (xs ++ r.moments id (.sweep now answer)) := by
  rw [moments_sweep]
  by_cases hid : id ∈ r.evict.overdue now
  · rw [if_pos hid]
    exact h.overdue now answer hid
  · rw [if_neg hid, List.append_nil]
    exact h.evicted now answer hid

theorem given_step (r : Registry) {st : Step} (hst : ∀ o, st ≠ .record o) :
    r.given <+: (r.step st).given := by
  cases st with
  | place now o a => exact (r.grown_place now o a).given ▸ List.prefix_append ..
  | record o => exact absurd rfl (hst o)
  | remove i => exact List.prefix_refl _
  | merge now u => exact (r.given_merge now u).symm ▸ List.prefix_refl _
  | sweep now answer => exact (r.given_sweep now answer).symm ▸ List.prefix_refl _

theorem given_run {steps : List Step} (r : Registry) (hst : ∀ o, .record o ∉ steps) :
    r.given <+: (r.run steps).given := by
  induction steps generalizing r with
  | nil => exact List.prefix_refl _
  | cons st steps ih =>
    refine (r.given_step fun o ho => hst o ?_).trans (ih _ fun o ho => hst o (List.mem_cons_of_mem _ ho))
    exact ho ▸ List.mem_cons_self ..

theorem Windowed.step (h : r.Windowed id xs) {st : Step} (hst : ∀ o, st ≠ .record o)
    (hn : (r.step st).given.Nodup) : (r.step st).Windowed id (xs ++ r.moments id st) := by
  cases st with
  | place now o a => exact h.placed now o a hn
  | record o => exact absurd rfl (hst o)
  | remove i =>
    rw [moments, List.append_nil]
    exact h.removed i
  | merge now u => exact h.merged now u
  | sweep now answer => exact h.swept now answer

theorem Windowed.run (h : r.Windowed id xs) {steps : List Step} (hst : ∀ o, .record o ∉ steps)
    (hn : (r.run steps).given.Nodup) : (r.run steps).Windowed id (xs ++ r.history id steps) := by
  induction steps generalizing r xs with
  | nil =>
    rw [history, List.append_nil]
    exact h
  | cons st steps ih =>
    have hst' : ∀ o, .record o ∉ steps := fun o ho => hst o (List.mem_cons_of_mem _ ho)
    have hstep : (r.step st).given.Nodup := ((r.step st).given_run hst').sublist.nodup hn
    have hnext := h.step (fun o ho => hst o (ho ▸ List.mem_cons_self ..)) hstep
    rw [history, ← List.append_assoc]
    exact ih hnext hst' hn

/-- **At most one cancel for each armed window, and never early.** In a run
whose ids the brokerage gives but once, the cancels in the history of an order
are all that the brokerage was sent for it. Between two of them the earlier has
failed or an update was heard; and each one was sent after the deadline of the
window last armed, or after a cancel that failed in the same window. -/
theorem one_cancel_per_window (d : Deadlines) (id : String) {steps : List Step} (hst : ∀ o, .record o ∉ steps)
    (hn : (({ deadlines := d } : Registry).run steps).given.Nodup) :
    (({ deadlines := d } : Registry).run steps).journal.filterMap (Call.cancelled? id) =
      (({ deadlines := d } : Registry).history id steps).filterMap Moment.answer? ∧
    (∀ xs t a ys t' a' zs,
      ({ deadlines := d } : Registry).history id steps = xs ++ .cancelled t a :: (ys ++ .cancelled t' a' :: zs) →
      a.cancelFailure?.isSome ∨ .heard ∈ ys) ∧
    ∀ xs t a zs, ({ deadlines := d } : Registry).history id steps = xs ++ .cancelled t a :: zs →
      ∃ ws t₀ deadline ys, xs = ws ++ .armed t₀ deadline :: ys ∧ (∀ t' d', .armed t' d' ∉ ys) ∧
        (t₀.toNat + deadline < t.toNat ∨ ∃ t' a', .cancelled t' a' ∈ ys ∧ a'.cancelFailure?.isSome) := by
  have hw := (windowed_empty d id).run hst hn
  rw [List.nil_append] at hw
  refine ⟨?_, fun xs t a ys t' a' zs h => ?_, fun xs t a zs h => ?_⟩
  · rw [filterMap_journal_run]; rfl
  · rw [← List.cons_append, ← List.append_assoc] at h
    exact (hw.lawful _ t' a' zs h).1 xs t a ys rfl
  · exact (hw.lawful xs t a zs h).2

end

/-- An order whose first cancel fails and whose second is taken back by an
update, cancelled once more in its next window. -/
def cancelledThrice : List Step :=
  [.place 1000 { code := "MXFL1", action := .buy, price := 100, quantity := 1 }
      (.reply { orderId := "a", status := .submitted }),
   .sweep 11000 fun _ => .reply { status := .cancelled }, .sweep 11001 fun _ => .failure "down",
   .sweep 11002 fun _ => .reply { status := .cancelled }, .sweep 90000 fun _ => .reply { status := .cancelled },
   .merge 91000 ⟨"a", .submitted, 0, none⟩, .sweep 101000 fun _ => .reply { status := .cancelled },
   .sweep 101001 fun _ => .reply { status := .submitted }]

theorem one_cancel_per_window_cancelledThrice :
    ({ deadlines := ⟨10000, 30000⟩ } : Registry).history "a" cancelledThrice =
      [.armed 1000 10000, .cancelled 11001 (.failure "down"), .cancelled 11002 (.reply { status := .cancelled }),
       .heard, .armed 91000 10000, .cancelled 101001 (.reply { status := .submitted })] ∧
    ∀ xs t a ys t' a' zs, ({ deadlines := ⟨10000, 30000⟩ } : Registry).history "a" cancelledThrice =
      xs ++ .cancelled t a :: (ys ++ .cancelled t' a' :: zs) → a.cancelFailure?.isSome ∨ .heard ∈ ys := by
  have hst : ∀ o, .record o ∉ cancelledThrice := by simp [cancelledThrice]
  have h := one_cancel_per_window ⟨10000, 30000⟩ "a" hst (by decide +kernel)
  exact ⟨rfl, h.2.1⟩

end Registry

end FuturesDesk
