import FuturesDesk.Proofs.RegistrySteps

/-!
# The status of a tracked order

However often and in whatever order updates arrive, the status of a tracked
order is the first terminal one among its first status and the delivered ones,
or, as long as there is none, the highest of them.
-/

namespace FuturesDesk

namespace Status

/-- What statuses come to, taken in this order: the first terminal one, or else
the highest. -/
structure Outcome (ss : List Status) (s : Status) : Prop where
  first : ∀ t, ss.find? isTerminal = some t → s = t
  highest : ss.find? isTerminal = none → s ∈ ss ∧ ∀ t ∈ ss, t.rank ≤ s.rank

theorem eq_of_rank_eq {s t : Status} (hs : ¬ s.isTerminal) (h : s.rank = t.rank) : s = t := by
  cases s <;> cases t <;> simp_all [rank, isTerminal]

theorem outcome_singleton (s : Status) : Outcome [s] s where
  first t ht := by
    simp only [List.find?_singleton, Option.ite_none_right_eq_some, Option.some.injEq] at ht
    exact ht.2
  highest _ := by simp

theorem Outcome.of_next {a u s : Status} {ss : List Status} (h : Outcome (a.next u :: ss) s) (hu : u ≠ .unknown) :
    Outcome (a :: u :: ss) s := by
  by_cases ha : a.isTerminal
  · rw [next_of_isTerminal ha] at h
    have hs : s = a := h.first a (by simp [ha])
    subst hs
    exact ⟨fun t ht => by simpa [ha] using ht, fun hn => by simp [ha] at hn⟩
  · by_cases hr : a.rank ≤ u.rank
    · have hnext : a.next u = u := if_pos ⟨hu, hr, ha⟩
      rw [hnext] at h
      have hf : (a :: u :: ss).find? isTerminal = (u :: ss).find? isTerminal := by simp [ha]
      refine ⟨fun t ht => h.first t (hf ▸ ht), fun hn => ?_⟩
      obtain ⟨hm, hmax⟩ := h.highest (hf ▸ hn)
      refine ⟨List.mem_cons_of_mem _ hm, fun t ht => ?_⟩
      rcases List.mem_cons.mp ht with rfl | ht
      · exact Nat.le_trans hr (hmax u (List.mem_cons_self ..))
      · exact hmax t ht
    · have hnext : a.next u = a := if_neg fun hc => hr hc.2.1
      rw [hnext] at h
      -- what ranks below another has not ended
      have hu' : ¬ u.isTerminal := fun ht => by
        have h₅ := isTerminal_iff_rank.mp ht
        have := rank_le_five a
        omega
      have hf : (a :: u :: ss).find? isTerminal = (a :: ss).find? isTerminal := by simp [ha, hu']
      refine ⟨fun t ht => h.first t (hf ▸ ht), fun hn => ?_⟩
      obtain ⟨hm, hmax⟩ := h.highest (hf ▸ hn)
      refine ⟨?_, fun t ht => ?_⟩
      · rcases List.mem_cons.mp hm with rfl | hm
        · exact List.mem_cons_self ..
        · exact List.mem_cons_of_mem _ (List.mem_cons_of_mem _ hm)
      · have hmax_a := hmax a (List.mem_cons_self ..)
        rcases List.mem_cons.mp ht with rfl | ht
        · exact hmax_a
        rcases List.mem_cons.mp ht with rfl | ht
        · omega
        · exact hmax t (List.mem_cons_of_mem _ ht)

theorem outcome_foldl_next (s₀ : Status) (ds : List Status) :
    Outcome (s₀ :: ds.filter (· ≠ .unknown)) (ds.foldl next s₀) := by
  induction ds generalizing s₀ with
  | nil => exact outcome_singleton s₀
  | cons u ds ih =>
    rw [List.foldl_cons]
    by_cases hu : u = .unknown
    · subst hu
      simpa using ih s₀
    · have h := (ih (s₀.next u)).of_next hu
      simpa [hu] using h

theorem rank_le_foldl_next (s₀ : Status) (ds : List Status) : s₀.rank ≤ (ds.foldl next s₀).rank := by
  induction ds generalizing s₀ with
  | nil => exact Nat.le_refl _
  | cons u ds ih => exact Nat.le_trans (rank_le_next s₀ u) (ih _)

/-- With at most one terminal status among them, statuses come to the same in
any order and number. -/
theorem Outcome.eq_of_mem_iff {ss ss' : List Status} {s s' : Status} (h : Outcome ss s) (h' : Outcome ss' s')
    (hm : ∀ t, t ∈ ss ↔ t ∈ ss') (h₁ : ∀ t ∈ ss, ∀ t' ∈ ss, t.isTerminal → t'.isTerminal → t = t') : s = s' := by
  cases hf : ss.find? isTerminal with
  | none =>
    have hnone := List.find?_eq_none.mp hf
    have hf' : ss'.find? isTerminal = none := List.find?_eq_none.mpr fun t ht => hnone t ((hm t).mpr ht)
    obtain ⟨hs, hmax⟩ := h.highest hf
    obtain ⟨hs', hmax'⟩ := h'.highest hf'
    exact eq_of_rank_eq (hnone s hs) (Nat.le_antisymm (hmax' s ((hm s).mp hs)) (hmax s' ((hm s').mpr hs')))
  | some t =>
    have ht := List.mem_of_find?_eq_some hf
    have htt := List.find?_some hf
    cases hf' : ss'.find? isTerminal with
    | none => exact absurd htt (List.find?_eq_none.mp hf' t ((hm t).mp ht))
    | some t' =>
      have ht' := (hm t').mpr (List.mem_of_find?_eq_some hf')
      rw [h.first t hf, h'.first t' hf']
      exact h₁ t ht t' ht' htt (List.find?_some hf')

end Status

namespace Registry

/-- **The tracked status in closed form.** While an order stays tracked, with
updates for it and anything to other orders and any sweeps in between, its
status is the outcome of the first status and the known ones delivered: the
rank never falls and an end is final. Where the delivered statuses name at most
one end, their order and number do not matter. -/
theorem tracked_status_outcome (r : Registry) (id : String) {o₀ : Order} (h₀ : r.lookup id = some o₀) :
    (∀ (steps : List Step) (o : Order), (∀ st ∈ steps, ¬ st.replaces id) → (r.run steps).lookup id = some o →
      Status.Outcome (o₀.status :: (delivered id steps).filter (· ≠ .unknown)) o.status ∧
        o₀.status.rank ≤ o.status.rank ∧ (o₀.status.isTerminal → o.status = o₀.status)) ∧
    ∀ (steps steps' : List Step) (o o' : Order),
      (∀ st ∈ steps, ¬ st.replaces id) → (r.run steps).lookup id = some o →
      (∀ st ∈ steps', ¬ st.replaces id) → (r.run steps').lookup id = some o' →
      ¬ o₀.status.isTerminal → (∀ s, s ∈ delivered id steps ↔ s ∈ delivered id steps') →
      (∀ s ∈ delivered id steps, ∀ s' ∈ delivered id steps, s.isTerminal → s'.isTerminal → s = s') →
      o.status = o'.status := by
  have hs₀ : r.status? id = some o₀.status := by simp [status?, h₀]
  have closed : ∀ (steps : List Step) (o : Order), (∀ st ∈ steps, ¬ st.replaces id) →
      (r.run steps).lookup id = some o → o.status = (delivered id steps).foldl Status.next o₀.status := by
    intro steps o hst ho
    obtain ⟨s, hs, he⟩ := status?_run hst (status?_eq_some.mpr ⟨o, ho, rfl⟩)
    rw [hs₀, Option.some.injEq] at hs
    rw [he, ← hs]
  have outcome : ∀ (steps : List Step) (o : Order), (∀ st ∈ steps, ¬ st.replaces id) →
      (r.run steps).lookup id = some o →
      Status.Outcome (o₀.status :: (delivered id steps).filter (· ≠ .unknown)) o.status := by
    intro steps o hst ho
    rw [closed steps o hst ho]
    exact Status.outcome_foldl_next ..
  refine ⟨fun steps o hst ho => ⟨outcome steps o hst ho, ?_, fun ht => ?_⟩, ?_⟩
  · rw [closed steps o hst ho]
    exact Status.rank_le_foldl_next ..
  · exact (outcome steps o hst ho).first _ (by simp [ht])
  · intro steps steps' o o' hst ho hst' ho' ht hm h₁
    refine (outcome steps o hst ho).eq_of_mem_iff (outcome steps' o' hst' ho') (fun t => ?_) ?_
    · simp only [List.mem_cons, List.mem_filter, hm t]
    · intro t hmem t' hmem' htt htt'
      have mem_delivered : ∀ t ∈ o₀.status :: (delivered id steps).filter (· ≠ .unknown),
          t.isTerminal → t ∈ delivered id steps := by
        intro t hmem htt
        rcases List.mem_cons.mp hmem with rfl | hmem
        · exact absurd htt ht
        · exact (List.mem_filter.mp hmem).1
      exact h₁ t (mem_delivered t hmem htt) t' (mem_delivered t' hmem' htt') htt htt'

def oneOut : Order :=
  { id := "a", code := "MXFL1", action := .buy, price := 100, quantity := 1, status := .pendingSubmit }

/-- Updates that overtake each other, among another order's and a sweep. -/
def overtaken : List Step :=
  [.merge 1 ⟨"a", .submitted, 0, none⟩, .place 2 oneOut (.reply { orderId := "b", status := .filled }),
   .merge 3 ⟨"a", .preSubmitted, 0, none⟩, .merge 4 ⟨"a", .unknown, 0, none⟩, .sweep 5 fun _ => .failure "down",
   .merge 6 ⟨"b", .cancelled, 0, none⟩, .merge 7 ⟨"a", .filled, 0, none⟩, .merge 8 ⟨"a", .filled, 0, none⟩]

def reordered : List Step :=
  [.merge 1 ⟨"a", .unknown, 0, none⟩, .merge 2 ⟨"a", .filled, 0, none⟩, .merge 3 ⟨"a", .preSubmitted, 0, none⟩,
   .merge 4 ⟨"a", .submitted, 0, none⟩]

theorem tracked_status_outcome_overtaken :
    ((({ deadlines := ⟨10000, 30000⟩ } : Registry).record oneOut).run overtaken).status? "a" = some .filled ∧
      Status.Outcome [.pendingSubmit, .submitted, .preSubmitted, .filled, .filled] .filled ∧
      ∀ o o', ((({ deadlines := ⟨10000, 30000⟩ } : Registry).record oneOut).run overtaken).lookup "a" = some o →
        ((({ deadlines := ⟨10000, 30000⟩ } : Registry).record oneOut).run reordered).lookup "a" = some o' →
        o.status = o'.status := by
  have h := tracked_status_outcome (({ deadlines := ⟨10000, 30000⟩ } : Registry).record oneOut) "a" rfl
  refine ⟨rfl, ?_, fun o o' ho ho' => ?_⟩
  · exact (h.1 overtaken _ (by decide +kernel) rfl).1
  · exact h.2 overtaken reordered o o' (by decide +kernel) ho (by decide +kernel) ho' (by decide)
      (by intro s; cases s <;> decide +kernel) (by decide +kernel)

end Registry

end FuturesDesk
