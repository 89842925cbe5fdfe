import FuturesDesk.Proofs.CancelWindows
import FuturesDesk.Proofs.OneInFlight

/-!
# Failed cancels

A sweep leaves an order whose cancel fails tracked, without a mark and with its
trade time at zero. It is overdue from then on, for the deadline was shorter
than the time of that sweep, and the next sweep sends another cancel.
-/

namespace FuturesDesk

def Call.failure? : Call → Option (String × String)
  | .submit .. => none
  | .cancel id answer => answer.cancelFailure?.map (id, ·)

def Answer.Cancels (a : Answer) : Prop := ∃ reply, a = .reply reply ∧ reply.isError = false ∧ reply.status = .cancelled

theorem Answer.cancelFailure?_eq_none_iff {a : Answer} : a.cancelFailure? = none ↔ a.Cancels := by
  cases a with
  | failure reason => simp [cancelFailure?, Cancels]
  | reply reply => cases he : reply.isError <;> simp [cancelFailure?, Cancels, he]

def Frame.ofFailure (p : String × String) : Frame :=
  .message (.error .cancelFailed ("cancel " ++ p.1 ++ " failed: " ++ p.2))

def SweepEvent.ofCancel (id : String) (answer : Answer) : SweepEvent :=
  match answer.cancelFailure? with
  | none => .cancelIssued id
  | some reason => .cancelFailed id reason

namespace Registry

def failures (r : Registry) (now : UInt64) (answer : String → Answer) : List (String × String) :=
  (r.asked (.sweep now answer)).filterMap Call.failure?

/-- An order to be cancelled by every sweep from `t` on. -/
structure Retryable (r : Registry) (id : String) (t : UInt64) : Prop where
  order : ∃ o, r.lookup id = some o ∧ o.status.isCancellable ∧ o.tradeTime = 0 ∧ r.deadlines.forOrder o < t.toNat
  unmarked : r.marks.contains id = false

section
variable {r : Registry} {id reason : String} {t now : UInt64} {answer : String → Answer} {st : Step}

/-! ## The sweep in which a cancel fails -/

theorem failures_eq (r : Registry) (now : UInt64) (answer : String → Answer) :
    r.failures now answer =
      (r.evict.overdue now).filterMap fun id => (answer id).cancelFailure?.map (id, ·) := by
  rw [failures, asked_sweep, List.filterMap_map]
  rfl

theorem nodup_failures (r : Registry) (now : UInt64) (answer : String → Answer) :
    ((r.failures now answer).map (·.1)).Nodup := by
  have hsub : ∀ ids : List String,
      (ids.filterMap fun id => (answer id).cancelFailure?.map (id, ·)).map (·.1) =
        ids.filter fun id => (answer id).cancelFailure?.isSome := by
    intro ids
    induction ids with
    | nil => rfl
    | cons id ids ih => cases hfail : (answer id).cancelFailure? <;> simp [hfail, ih]
  rw [failures_eq, hsub]
  exact (nodup_overdue r.evict now).filter _

theorem mem_failures : (id, reason) ∈ r.failures now answer ↔
    id ∈ r.evict.overdue now ∧ (answer id).cancelFailure? = some reason := by
  rw [failures_eq, List.mem_filterMap]
  constructor
  · rintro ⟨i, hi, hfail⟩
    obtain ⟨reason', hreason, he⟩ := Option.map_eq_some_iff.mp hfail
    cases he
    exact ⟨hi, hreason⟩
  · rintro ⟨hid, hreason⟩
    exact ⟨id, hid, by rw [hreason]; rfl⟩

theorem events_settleAll (r : Registry) (answer : String → Answer) (ids : List String) :
    (r.settleAll answer ids).2 = ids.map fun id => .ofCancel id (answer id) := by
  induction ids generalizing r with
  | nil => rfl
  | cons id ids ih =>
    have hfirst : (r.settle id (answer id)).2 = .ofCancel id (answer id) := by
      unfold settle SweepEvent.ofCancel
      cases (answer id).cancelFailure? <;> rfl
    change (r.settle id (answer id)).2 :: ((r.settle id (answer id)).1.settleAll answer ids).2 = _
    rw [hfirst, ih, List.map_cons]

theorem frames_settleAll (r : Registry) (answer : String → Answer) (ids : List String) :
    (r.settleAll answer ids).2.filterMap SweepEvent.frame? =
      (ids.filterMap fun id => (answer id).cancelFailure?.map (id, ·)).map .ofFailure := by
  have hframe : ∀ id, (SweepEvent.ofCancel id (answer id)).frame? =
      ((answer id).cancelFailure?.map (id, ·)).map .ofFailure := by
    intro id
    unfold SweepEvent.ofCancel
    cases (answer id).cancelFailure? <;> rfl
  rw [events_settleAll, List.filterMap_map, List.map_filterMap]
  exact List.filterMap_congr fun id _ => hframe id

theorem frames_sweep (r : Registry) (now : UInt64) (answer : String → Answer) :
    (r.sweep now answer).2.filterMap SweepEvent.frame? = (r.failures now answer).map .ofFailure := by
  have hevents : (r.sweep now answer).2 = r.ended.map SweepEvent.evicted ++
      (((r.evict.overdue now).foldl mark r.evict).settleAll answer (r.evict.overdue now)).2 := rfl
  have hended : (r.ended.map SweepEvent.evicted).filterMap SweepEvent.frame? = [] := by
    simp [SweepEvent.frame?]
  rw [hevents, List.filterMap_append, hended, List.nil_append, frames_settleAll, failures_eq]

theorem mem_failures_iff (r : Registry) (now : UInt64) (answer : String → Answer) (id : String) :
    id ∈ (r.failures now answer).map (·.1) ↔
      ∃ a, .cancel id a ∈ r.asked (.sweep now answer) ∧ ¬ a.Cancels := by
  have hasked : ∀ a, Call.cancel id a ∈ r.asked (.sweep now answer) ↔ id ∈ r.evict.overdue now ∧ answer id = a := by
    intro a
    simp [asked_sweep]
  rw [List.mem_map]
  constructor
  · rintro ⟨⟨i, reason⟩, hfail, rfl⟩
    obtain ⟨hid, hreason⟩ := mem_failures.mp hfail
    refine ⟨answer i, (hasked _).mpr ⟨hid, rfl⟩, ?_⟩
    rw [← Answer.cancelFailure?_eq_none_iff, hreason]
    simp
  · rintro ⟨a, ha, hfail⟩
    obtain ⟨hid, rfl⟩ := (hasked a).mp ha
    rw [← Answer.cancelFailure?_eq_none_iff] at hfail
    obtain ⟨reason, hreason⟩ := Option.ne_none_iff_exists'.mp hfail
    exact ⟨(id, reason), mem_failures.mpr ⟨hid, hreason⟩, rfl⟩

/-- A deadline that has passed since the trade time has passed since zero. -/
theorem retryable_sweep (h : (id, reason) ∈ r.failures t answer) : (r.sweep t answer).1.Retryable id t := by
  obtain ⟨hid, hfail⟩ := mem_failures.mp h
  obtain ⟨o, ho, -, hlate⟩ := (r.evict.mem_overdue t id).mp hid
  have hl := r.lookup_sweep t answer id
  have hm := r.contains_marks_sweep t answer id
  have hd : (r.sweep t answer).1.deadlines = r.deadlines := r.deadlines_step (.sweep t answer)
  rw [lookup_evict] at ho
  rw [ho, Option.map_some, if_pos hid] at hl
  rw [if_pos hid, hfail] at hm
  refine ⟨⟨_, hl, (Option.filter_eq_some_iff.mp ho).2, rfl, ?_⟩, hm⟩
  rw [hd]
  exact Nat.lt_of_le_of_lt (Nat.le_add_left ..) hlate

/-! ## Until the next sweep -/

theorem Retryable.frame (h : r.Retryable id t) {r' : Registry} (hl : r'.lookup id = r.lookup id)
    (hm : r'.marks.contains id = r.marks.contains id) (hd : r'.deadlines = r.deadlines) : r'.Retryable id t := by
  refine ⟨?_, hm.trans h.unmarked⟩
  rw [hl, hd]
  exact h.order

/-- What is left of an order by a step that neither puts another in its place
nor hears an update for it. -/
theorem kept_step (r : Registry) (hst : ¬ st.replaces id) (hsweep : ∀ now answer, st ≠ .sweep now answer)
    (hh : .heard ∉ r.moments id st) :
    (r.step st).lookup id = r.lookup id ∧ (r.step st).marks.contains id = r.marks.contains id := by
  cases st with
  | place now o a => exact ⟨r.lookup_place_of_ne now o hst, by rw [step, marks_place]⟩
  | record o =>
    have hid : id ≠ o.id := Ne.symm hst
    refine ⟨?_, ?_⟩
    · rw [step, lookup_record, if_neg fun h => hid h.2]
    · rw [step, record]
      split <;> rfl
  | remove i =>
    have hid : id ≠ i := Ne.symm hst
    exact ⟨(r.lookup_remove i id).trans (if_neg hid), by simp [step, contains_marks_remove, hid]⟩
  | merge now u =>
    have hunheard : ∀ o, r.lookup id = some o → ¬ (u.orderId = id ∧ o.hears u) := by
      intro o ho hhear
      apply hh
      simp [moments, ho, hhear]
    exact ⟨lookup_of_unheard r now hunheard, contains_marks_of_unheard r now hunheard⟩
  | sweep now answer => exact absurd rfl (hsweep now answer)

theorem Retryable.run (h : r.Retryable id t) {steps : List Step} (hst : ∀ st ∈ steps, ¬ st.replaces id)
    (hsweep : ∀ now answer, .sweep now answer ∉ steps) (hh : .heard ∉ r.history id steps) :
    (r.run steps).Retryable id t := by
  induction steps generalizing r with
  | nil => exact h
  | cons st steps ih =>
    rw [history, List.mem_append, not_or] at hh
    have hfirst : ∀ now answer, st ≠ .sweep now answer := by
      rintro now answer rfl
      exact hsweep now answer (List.mem_cons_self ..)
    obtain ⟨hl, hm⟩ := r.kept_step (hst st (List.mem_cons_self ..)) hfirst hh.1
    apply ih (h.frame hl hm (r.deadlines_step st)) _ _ hh.2
    · intro st' h'
      exact hst st' (List.mem_cons_of_mem _ h')
    · intro now answer h'
      exact hsweep now answer (List.mem_cons_of_mem _ h')

/-! ## The next sweep -/

theorem Retryable.asked (h : r.Retryable id t) {t' : UInt64} (ht : t ≤ t') (answer : String → Answer) :
    (r.asked (.sweep t' answer)).filterMap (Call.cancelled? id) = [answer id] := by
  obtain ⟨⟨o, ho, hlive, hzero, hlate⟩, hmark⟩ := h
  have hoverdue : id ∈ r.evict.overdue t' := by
    rw [mem_overdue]
    refine ⟨o, ?_, ?_, ?_⟩
    · rw [lookup_evict, ho]
      exact Option.filter_eq_some_iff.mpr ⟨rfl, hlive⟩
    · rw [contains_marks_evict, hmark, Bool.false_and]
    · rw [hzero]
      exact Nat.lt_of_lt_of_le ((Nat.zero_add _).symm ▸ hlate) (UInt64.le_iff_toNat_le.mp ht)
  rw [asked_sweep, filterMap_cancelled? answer id (nodup_overdue r.evict t'), if_pos hoverdue]

end

end Registry

namespace Session

/-- **No failed cancel is lost.** The client is told once of every order whose
cancel failed in a sweep, and of nothing else. The order stays, and the next
sweep sends one more cancel for it, however the clock stands, unless an update
was heard or the order was taken away or put there anew. -/
theorem failed_cancel_retried (s : Session) (t : UInt64) (answer : String → Answer) :
    ErrorCode.cancelFailed.code = -7 ∧
    (s.supervise t answer).out = s.out ++ (s.registry.failures t answer).map .ofFailure ∧
    ((s.registry.failures t answer).map (·.1)).Nodup ∧
    (∀ id, id ∈ (s.registry.failures t answer).map (·.1) ↔
      ∃ a, .cancel id a ∈ s.registry.asked (.sweep t answer) ∧ ¬ a.Cancels) ∧
    ∀ id ∈ (s.registry.failures t answer).map (·.1),
      (∃ o, (s.supervise t answer).registry.lookup id = some o ∧ o.status.isCancellable) ∧
      (s.supervise t answer).registry.marks.contains id = false ∧
      ∀ (steps : List Registry.Step) (t' : UInt64) (answer' : String → Answer),
        (∀ st ∈ steps, ¬ st.replaces id) → (∀ now a, .sweep now a ∉ steps) →
        .heard ∉ (s.supervise t answer).registry.history id steps → t ≤ t' →
        (((s.supervise t answer).registry.run steps).asked (.sweep t' answer')).filterMap (Call.cancelled? id) =
          [answer' id] := by
  refine ⟨rfl, ?_, Registry.nodup_failures .., s.registry.mem_failures_iff t answer, fun id hid => ?_⟩
  · rw [supervise_eq, Registry.frames_sweep]
  · obtain ⟨⟨i, reason⟩, hfail, rfl⟩ := List.mem_map.mp hid
    rw [registry_supervise]
    have hretry := Registry.retryable_sweep hfail
    obtain ⟨o, ho, hlive, -⟩ := hretry.order
    refine ⟨⟨o, ho, hlive⟩, hretry.unmarked, ?_⟩
    intro steps t' answer' hst hsweep hh ht
    exact (hretry.run hst hsweep hh).asked ht answer'

def overdueTwice : Session :=
  (start "c1" {} .alwaysOpen).setRegistry (({ deadlines := ⟨10000, 30000⟩ } : Registry).run
    [.place 1000 { code := "MXFL1", action := .buy, price := 100, quantity := 1 }
      (.reply { orderId := "a", status := .submitted }),
     .place 1000 { code := "MXFL1", action := .buy, price := 100, quantity := 1 }
      (.reply { orderId := "b", status := .submitted })])

def downForOne (id : String) : Answer := if id = "a" then .failure "down" else .reply { status := .cancelled }

def meanwhile : List Registry.Step :=
  [.merge 12000 ⟨"a", .unknown, 0, none⟩, .merge 12000 ⟨"b", .cancelled, 0, none⟩, .remove "b",
   .place 12000 { code := "MXFL1", action := .sell, price := 100, quantity := 1 }
     (.reply { orderId := "c", status := .submitted })]

theorem failed_cancel_retried_downForOne :
    overdueTwice.registry.failures 11001 downForOne = [("a", "down")] ∧
    (((overdueTwice.supervise 11001 downForOne).registry.run meanwhile).asked (.sweep 11001 downForOne)).filterMap
      (Call.cancelled? "a") = [.failure "down"] := by
  have hfail : overdueTwice.registry.failures 11001 downForOne = [("a", "down")] := by decide +kernel
  have hst : ∀ st ∈ meanwhile, ¬ st.replaces "a" := by decide +kernel
  have hsweep : ∀ now a, Registry.Step.sweep now a ∉ meanwhile := by simp [meanwhile]
  have hhistory : (overdueTwice.supervise 11001 downForOne).registry.history "a" meanwhile = [] := rfl
  obtain ⟨-, -, -, -, hretried⟩ := failed_cancel_retried overdueTwice 11001 downForOne
  refine ⟨hfail, (hretried "a" (by rw [hfail]; simp)).2.2 meanwhile 11001 downForOne hst hsweep ?_ (by decide)⟩
  rw [hhistory]
  simp

end Session

end FuturesDesk
