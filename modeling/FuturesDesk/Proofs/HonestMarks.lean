import Mathlib.Data.List.Induction
import FuturesDesk.Proofs.ExactSweeps

/-!
# Honest marks

A mark stands for a cancel that the brokerage has taken and nothing was heard of
since, so the order under it is live and has no trade time. Only an order that is
stored under a marked id can be another one: the mark is not lifted for it.
-/

namespace FuturesDesk

/-- What a mark says of its order. -/
def Order.AwaitsCancel (o : Order) : Prop := o.status.isCancellable = true ∧ o.tradeTime = 0

namespace Registry

/-! ## What steps do to marks -/

def Step.stored? : Step → Option Order
  | .place now o answer => answer.accepted?.map (o.accepted · now)
  | .record o => if o.isAccepted then some o else none
  | .remove _ | .merge .. | .sweep .. => none

def Acknowledges (id : String) (r : Registry) : Step → Prop
  | .sweep now answer => (∃ o, r.Late now id o) ∧ (answer id).Cancels
  | .place .. | .record _ | .remove _ | .merge .. => False

def Lifts (id : String) (r : Registry) : Step → Prop
  | .remove i => i = id
  | .merge _ u => u.orderId = id ∧ (r.lookup id).any (·.hears u)
  | .sweep .. => ∃ o, r.Ended id o
  | .place .. | .record _ => False

def Stale (r : Registry) (id : String) : Prop :=
  r.marks.contains id = true ∧ ∃ o, r.lookup id = some o ∧ ¬ o.AwaitsCancel

/-- An order that awaits no cancel is stored under a marked id. -/
def Spoils (id : String) (r : Registry) (st : Step) : Prop :=
  r.marks.contains id = true ∧ ∃ o, st.stored? = some o ∧ o.id = id ∧ ¬ o.AwaitsCancel

/-- The mark goes, or an order is stored that it is right for. -/
def Mends (id : String) (r : Registry) (st : Step) : Prop :=
  Lifts id r st ∨ ∃ o, st.stored? = some o ∧ o.id = id ∧ o.AwaitsCancel

section
variable {r : Registry} {id : String} {st : Step} {o : Order}

theorem marks_record (r : Registry) (o : Order) : (r.record o).marks = r.marks := by
  unfold record
  split <;> rfl

theorem contains_marks_step (r : Registry) (id : String) (st : Step) : (r.step st).marks.contains id = true ↔
    Acknowledges id r st ∨ r.marks.contains id = true ∧ ¬ Lifts id r st := by
  cases st with
  | place now o a => simp [step, marks_place, Acknowledges, Lifts]
  | record o => simp [step, marks_record, Acknowledges, Lifts]
  | remove i =>
    by_cases hid : i = id
    · simp [step, contains_marks_remove, Acknowledges, Lifts, hid]
    · simp [step, contains_marks_remove, Acknowledges, Lifts, hid, Ne.symm hid]
  | merge now u =>
    by_cases hid : u.orderId = id
    · simp [step, contains_marks_merge, Acknowledges, Lifts, hid]
    · simp [step, contains_marks_merge, Acknowledges, Lifts, hid]
  | sweep now answer =>
    simp only [step, Acknowledges, Lifts]
    by_cases hended : ∃ o, r.Ended id o
    · obtain ⟨o, ho⟩ := hended
      have hlate : ¬ ∃ o, r.Late now id o := mem_overdue_evict.not.mp ho.not_late
      rw [ho.contains_marks_sweep]
      simp only [hlate, false_and, false_or, Bool.false_eq_true, false_iff, not_and, not_not]
      exact fun _ => ⟨o, ho⟩
    · by_cases hlate : ∃ o, r.Late now id o
      · obtain ⟨o, ho⟩ := hlate
        rw [ho.contains_marks_sweep, ho.unmarked]
        simp only [Bool.false_eq_true, false_and, or_false, iff_and_self]
        exact fun _ => ⟨o, ho⟩
      · rw [contains_marks_sweep_of_neither (not_exists.mp hended) (not_exists.mp hlate)]
        simp [hended, hlate]

theorem lookup_of_stored (r : Registry) (id : String) (h : st.stored? = some o) :
    (r.step st).lookup id = if id = o.id then some o else r.lookup id := by
  cases st with
  | place now o' a =>
    obtain ⟨reply, ha, rfl⟩ := Option.map_eq_some_iff.mp h
    rcases r.place_cases now o' a with ⟨hn, -⟩ | ⟨reply', ha', -, -, -, hl⟩
    · cases hn.symm.trans ha
    · cases ha'.symm.trans ha
      exact hl id
  | record o' =>
    obtain ⟨hacc, he⟩ := Option.ite_none_right_eq_some.mp h
    cases he
    rw [step, lookup_record]
    simp only [hacc, true_and]
  | _ => cases h

theorem lookup_of_not_stored (r : Registry) (h : ∀ o, st.stored? = some o → o.id ≠ id) (hlift : ¬ Lifts id r st)
    (hmark : r.marks.contains id = true) : (r.step st).lookup id = r.lookup id := by
  cases st with
  | place now o a =>
    apply r.lookup_place_of_ne now o
    intro hid
    obtain ⟨reply, ha, rfl⟩ := Option.map_eq_some_iff.mp hid
    exact h (o.accepted reply now) (by rw [Step.stored?, ha]; rfl) rfl
  | record o =>
    rw [step, lookup_record]
    apply if_neg
    rintro ⟨hacc, hid⟩
    exact h o (if_pos hacc) hid.symm
  | remove i => exact (r.lookup_remove i id).trans (if_neg (Ne.symm hlift))
  | merge now u =>
    apply lookup_of_unheard r now
    rintro o ho ⟨hid, hhears⟩
    exact hlift ⟨hid, by rw [ho]; exact hhears⟩
  | sweep now answer =>
    apply lookup_sweep_of_neither (not_exists.mp hlift)
    intro o hlate
    rw [hlate.unmarked] at hmark
    cases hmark

theorem not_stale_of_acknowledges (h : Acknowledges id r st) :
    r.marks.contains id = false ∧ ¬ (r.step st).Stale id := by
  cases st with
  | sweep now answer =>
    obtain ⟨⟨o, ho⟩, -⟩ := h
    refine ⟨ho.unmarked, ?_⟩
    rintro ⟨-, o', ho', hawaits⟩
    cases ho.lookup_sweep.symm.trans ho'
    exact hawaits ⟨ho.live, rfl⟩
  | _ => cases h

theorem not_lifts_of_stored (h : st.stored? = some o) : ¬ Lifts id r st := by
  cases st with
  | place | record => exact not_false
  | _ => cases h

theorem marks_of_stored (r : Registry) (h : st.stored? = some o) : (r.step st).marks = r.marks := by
  cases st with
  | place now o' a => exact r.marks_place now o' a
  | record o' => exact r.marks_record o'
  | _ => cases h

theorem stale_step (r : Registry) (id : String) (st : Step) :
    (r.step st).Stale id ↔ Spoils id r st ∨ r.Stale id ∧ ¬ Mends id r st := by
  by_cases hstored : ∃ o, st.stored? = some o ∧ o.id = id
  · obtain ⟨o, ho, hid⟩ := hstored
    have hlook := r.lookup_of_stored id ho
    rw [if_pos hid.symm] at hlook
    simp only [Stale, Spoils, Mends, r.marks_of_stored ho, hlook, ho, not_lifts_of_stored ho, Option.some.injEq,
      exists_eq_left', hid, true_and, false_or]
    tauto
  · have hother : ∀ o, st.stored? = some o → o.id ≠ id := fun o ho hid => hstored ⟨o, ho, hid⟩
    have hspoils : ¬ Spoils id r st := fun ⟨_, o, ho, hid, _⟩ => hother o ho hid
    have hmends : Mends id r st ↔ Lifts id r st := or_iff_left fun ⟨o, ho, hid, _⟩ => hother o ho hid
    rw [hmends, or_iff_right hspoils]
    by_cases hack : Acknowledges id r st
    · obtain ⟨hmark, hstale⟩ := not_stale_of_acknowledges hack
      exact iff_of_false hstale fun h => by simp [Stale, hmark] at h
    · have hmarks := r.contains_marks_step id st
      rw [or_iff_right hack] at hmarks
      unfold Stale
      rw [hmarks]
      constructor
      · rintro ⟨⟨hmark, hlift⟩, hlook⟩
        rw [r.lookup_of_not_stored hother hlift hmark] at hlook
        exact ⟨⟨hmark, hlook⟩, hlift⟩
      · rintro ⟨⟨hmark, hlook⟩, hlift⟩
        rw [r.lookup_of_not_stored hother hlift hmark]
        exact ⟨⟨hmark, hlift⟩, hlook⟩

end

/-! ## What holds since a step -/

/-- Some step has begun it, and no step after that one has ended it. -/
def Since (r : Registry) (steps : List Step) (begins ends : Registry → Step → Prop) : Prop :=
  ∃ before st after, steps = before ++ st :: after ∧ begins (r.run before) st ∧
    ∀ seen st' rest, after = seen ++ st' :: rest → ¬ ends (r.run (before ++ st :: seen)) st'

section
variable {r : Registry} {begins ends : Registry → Step → Prop}

theorem run_snoc (r : Registry) (steps : List Step) (st : Step) : r.run (steps ++ [st]) = (r.run steps).step st :=
  List.foldl_append ..

theorem since_snoc (r : Registry) (steps : List Step) (st : Step) : r.Since (steps ++ [st]) begins ends ↔
    begins (r.run steps) st ∨ r.Since steps begins ends ∧ ¬ ends (r.run steps) st := by
  constructor
  · rintro ⟨before, st', after, hsplit, hbegins, hends⟩
    rcases snoc_eq_split hsplit with ⟨-, rfl, rfl⟩ | ⟨after', rfl, rfl⟩
    · exact Or.inl hbegins
    · refine Or.inr ⟨⟨before, st', after', rfl, hbegins, ?_⟩, hends after' st [] rfl⟩
      rintro seen st'' rest rfl
      exact hends seen st'' (rest ++ [st]) (by simp)
  · rintro (hbegins | ⟨⟨before, st', after, rfl, hbegins, hends⟩, hlast⟩)
    · exact ⟨steps, st, [], rfl, hbegins, fun seen st' rest h => by simp at h⟩
    · refine ⟨before, st', after ++ [st], by simp, hbegins, ?_⟩
      intro seen st'' rest hsplit
      rcases snoc_eq_split hsplit with ⟨-, rfl, rfl⟩ | ⟨rest', -, rfl⟩
      · exact hlast
      · exact hends seen st'' rest' rfl

theorem since_iff {p : Registry → Prop} (hstart : ¬ p r)
    (hstep : ∀ r st, p (r.step st) ↔ begins r st ∨ p r ∧ ¬ ends r st) (steps : List Step) :
    p (r.run steps) ↔ r.Since steps begins ends := by
  induction steps using List.reverseRecOn with
  | nil => exact iff_of_false hstart fun ⟨_, _, _, h, _⟩ => by simp at h
  | append_singleton steps st ih =>
    rw [since_snoc, ← ih, ← hstep, run_snoc]

end

/-! ## Entries and marks -/

/-- Orders are tracked under ids of their own, and so is what is marked. -/
structure Linked (r : Registry) : Prop where
  named : ∀ id o, r.lookup id = some o → o.id = id ∧ id ≠ ""
  tracked : ∀ id, r.marks.contains id = true → ∃ o, r.lookup id = some o

section
variable {r : Registry} {id : String} {st : Step} {o : Order}

theorem id_ne_empty_of_stored (h : st.stored? = some o) : o.id ≠ "" := by
  cases st with
  | place now o' a =>
    obtain ⟨reply, ha, rfl⟩ := Option.map_eq_some_iff.mp h
    exact (Answer.accepted?_eq_some ha).2.1
  | record o' =>
    obtain ⟨hacc, he⟩ := Option.ite_none_right_eq_some.mp h
    cases he
    simpa [Order.isAccepted] using hacc
  | _ => cases h

theorem lookup_step_cases (h : (r.step st).lookup id = some o) :
    st.stored? = some o ∧ o.id = id ∨ ∃ o', r.lookup id = some o' ∧ o.id = o'.id := by
  cases hst : st.stored? with
  | some o' =>
    rw [r.lookup_of_stored id hst] at h
    split at h
    · rename_i hid
      cases h
      exact Or.inl ⟨rfl, hid.symm⟩
    · exact Or.inr ⟨o, h, rfl⟩
  | none =>
    right
    cases st with
    | place now o' a =>
      have ha : a.accepted?.map (·.orderId) ≠ some id := by simp [Option.map_eq_none_iff.mp hst]
      exact ⟨o, (r.lookup_place_of_ne now o' ha).symm.trans h, rfl⟩
    | record o' =>
      have hacc : ¬ o'.isAccepted := by simpa [Step.stored?] using hst
      rw [step, lookup_record, if_neg fun hb => hacc hb.1] at h
      exact ⟨o, h, rfl⟩
    | remove i =>
      rw [step, lookup_remove, Option.ite_none_left_eq_some] at h
      exact ⟨o, h.2, rfl⟩
    | merge now u =>
      rw [step, lookup_merge] at h
      split at h
      · obtain ⟨o', ho', rfl⟩ := Option.map_eq_some_iff.mp h
        exact ⟨o', ho', o'.merged_id now u⟩
      · exact ⟨o, h, rfl⟩
    | sweep now answer =>
      rw [step, lookup_sweep] at h
      obtain ⟨o', ho', rfl⟩ := Option.map_eq_some_iff.mp h
      refine ⟨o', (Option.filter_eq_some_iff.mp ho').1, ?_⟩
      split <;> rfl

theorem linked_empty (d : Deadlines) : ({ deadlines := d } : Registry).Linked :=
  ⟨fun _ _ h => (nomatch h), fun _ h => (nomatch h)⟩

theorem Linked.step (h : r.Linked) (st : Step) : (r.step st).Linked where
  named id o ho := by
    rcases lookup_step_cases ho with ⟨hst, hid⟩ | ⟨o', ho', hid⟩
    · exact ⟨hid, hid ▸ id_ne_empty_of_stored hst⟩
    · exact hid ▸ h.named id o' ho'
  tracked id hmark := by
    rcases (r.contains_marks_step id st).mp hmark with hack | ⟨hmarked, hlift⟩
    · cases st with
      | sweep now answer =>
        obtain ⟨⟨o, ho⟩, -⟩ := hack
        exact ⟨_, ho.lookup_sweep⟩
      | _ => cases hack
    · by_cases hstored : ∃ o, st.stored? = some o ∧ o.id = id
      · obtain ⟨o, ho, hid⟩ := hstored
        exact ⟨o, (r.lookup_of_stored id ho).trans (if_pos hid.symm)⟩
      · have hother : ∀ o, st.stored? = some o → o.id ≠ id := fun o ho hid => hstored ⟨o, ho, hid⟩
        rw [r.lookup_of_not_stored hother hlift hmarked]
        exact h.tracked id hmarked

theorem Linked.run (h : r.Linked) (steps : List Step) : (r.run steps).Linked := by
  induction steps generalizing r with
  | nil => exact h
  | cons st steps ih => exact ih (h.step st)

end

/-- **Marks are honest unless an order was replaced.** In every run each order is
tracked under its own id, and a mark belongs to a tracked order: a cancel was
sent and taken for that id, and no update was heard of it since. The order is live
and without a trade time, except where another one was stored under the marked id. -/
theorem marks_honest_unless_replaced (d : Deadlines) (steps : List Step) (id : String) :
    (∀ o, (({ deadlines := d } : Registry).run steps).lookup id = some o → o.id = id ∧ id ≠ "") ∧
    ((({ deadlines := d } : Registry).run steps).marks.contains id = true →
      ∃ o, (({ deadlines := d } : Registry).run steps).lookup id = some o) ∧
    ((({ deadlines := d } : Registry).run steps).marks.contains id = true ↔
      ({ deadlines := d } : Registry).Since steps (Acknowledges id) (Lifts id)) ∧
    ((({ deadlines := d } : Registry).run steps).Stale id ↔
      ({ deadlines := d } : Registry).Since steps (Spoils id) (Mends id)) := by
  have hlinked := (linked_empty d).run steps
  refine ⟨hlinked.named id, hlinked.tracked id, ?_, ?_⟩
  · apply since_iff (p := fun r => r.marks.contains id = true)
    · simp
    · exact fun r st => r.contains_marks_step id st
  · apply since_iff (p := fun r => r.Stale id)
    · exact fun h => by simp [Stale] at h
    · exact fun r st => r.stale_step id st

def placedAgain : List Step :=
  [.place 1000 { code := "MXFL1", action := .buy, price := 100, quantity := 1 }
    (.reply { orderId := "p1", status := .submitted }),
   .sweep 12000 fun id => .reply { orderId := id, status := .cancelled },
   .place 30000 { code := "MXFL1", action := .buy, price := 100, quantity := 1 }
    (.reply { orderId := "p1", status := .submitted })]

def placedTwice : Registry := ({ deadlines := ⟨10000, 30000⟩ } : Registry).run placedAgain

theorem marks_honest_unless_replaced_placedAgain :
    placedTwice.Stale "p1" ∧
    ({ deadlines := ⟨10000, 30000⟩ } : Registry).Since placedAgain (Spoils "p1") (Mends "p1") := by
  have hstale : placedTwice.Stale "p1" := ⟨rfl, _, rfl, fun h => absurd h.2 (by decide)⟩
  obtain ⟨-, -, -, hsince⟩ := marks_honest_unless_replaced ⟨10000, 30000⟩ placedAgain "p1"
  exact ⟨hstale, hsince.mp hstale⟩

/-- The second order is live and was never asked to be cancelled, and no sweep
will ever ask: the mark left by the first one stands for a cancel. -/
theorem mark_left_placedAgain :
    placedTwice.marks.contains "p1" = true ∧ (placedTwice.lookup "p1").map (·.tradeTime) = some 30000 ∧
    placedTwice.status? "p1" = some .submitted ∧
    ∀ now answer, placedTwice.asked (.sweep now answer) = [] := by
  refine ⟨rfl, rfl, rfl, fun now answer => ?_⟩
  rw [asked_sweep]
  rfl

end Registry

end FuturesDesk
