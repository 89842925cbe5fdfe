import FuturesDesk.Proofs.FailedCancels

/-!
# What a sweep does

Every entry of the registry is in one of three cases: its order has ended, it is
overdue, or the sweep leaves it alone. Each case says what becomes of the entry
and its mark, what is asked of the brokerage and what is reported.
-/

namespace FuturesDesk

namespace Registry

/-- An entry to be dropped: its order cannot be cancelled. -/
structure Ended (r : Registry) (id : String) (o : Order) : Prop where
  tracked : r.lookup id = some o
  ended : ¬ o.status.isCancellable

/-- An entry to be cancelled. Its age is taken in the integers and is none if
the trade time lies ahead. -/
structure Late (r : Registry) (now : UInt64) (id : String) (o : Order) : Prop where
  tracked : r.lookup id = some o
  live : o.status.isCancellable
  unmarked : r.marks.contains id = false
  age : (r.deadlines.forOrder o : Int) < max 0 ((now.toNat : Int) - o.tradeTime.toNat)

section
variable {r : Registry} {now : UInt64} {answer : String → Answer} {id : String} {o : Order}

/-! ## Ended orders -/

def endedEntries (r : Registry) : List (String × Order) :=
  r.orders.entries.filter fun e => !e.2.status.isCancellable

theorem nodup_endedEntries (r : Registry) : (r.endedEntries.map (·.1)).Nodup := Table.nodup_filter _ r.orders.nodup

theorem mem_endedEntries : (id, o) ∈ r.endedEntries ↔ r.Ended id o := by
  rw [endedEntries, List.mem_filter, Table.mem_entries_iff]
  constructor
  · rintro ⟨ho, hover⟩
    exact ⟨ho, by simpa using hover⟩
  · rintro ⟨ho, hover⟩
    exact ⟨ho, by simpa using hover⟩

theorem ended_eq (r : Registry) : r.ended = r.endedEntries.map (·.2) := by
  rw [ended, Table.values, List.filter_map]
  rfl

theorem Ended.lookup_sweep (h : r.Ended id o) : (r.sweep now answer).1.lookup id = none := by
  rw [Registry.lookup_sweep, h.tracked, Option.filter_some, if_neg h.ended]
  rfl

/-! ## Overdue orders -/

theorem mem_overdue_evict : id ∈ r.evict.overdue now ↔ ∃ o, r.Late now id o := by
  rw [mem_overdue]
  constructor
  · rintro ⟨o, ho, hmark, hlate⟩
    rw [lookup_evict, Option.filter_eq_some_iff] at ho
    rw [contains_marks_evict, ho.1] at hmark
    have hage : o.tradeTime.toNat + r.deadlines.forOrder o < now.toNat := hlate
    refine ⟨o, ho.1, ho.2, ?_, ?_⟩
    · simpa [ho.2] using hmark
    · omega
  · rintro ⟨o, ho, hlive, hmark, hage⟩
    refine ⟨o, ?_, ?_, ?_⟩
    · rw [lookup_evict, Option.filter_eq_some_iff]
      exact ⟨ho, hlive⟩
    · rw [contains_marks_evict, hmark, Bool.false_and]
    · change o.tradeTime.toNat + r.deadlines.forOrder o < now.toNat
      omega

theorem Ended.not_late (h : r.Ended id o) : id ∉ r.evict.overdue now := by
  rw [mem_overdue_evict]
  rintro ⟨o', hlate⟩
  have heq := h.tracked.symm.trans hlate.tracked
  cases heq
  exact h.ended hlate.live

theorem Ended.contains_marks_sweep (h : r.Ended id o) : (r.sweep now answer).1.marks.contains id = false := by
  rw [Registry.contains_marks_sweep, if_neg h.not_late, contains_marks_evict, h.tracked, Option.any_some]
  simp [h.ended]

theorem Late.lookup_sweep (h : r.Late now id o) :
    (r.sweep now answer).1.lookup id = some { o with tradeTime := 0 } := by
  have hid := mem_overdue_evict.mpr ⟨o, h⟩
  rw [Registry.lookup_sweep, h.tracked, Option.filter_some, if_pos h.live, Option.map_some, if_pos hid]

theorem Late.contains_marks_sweep (h : r.Late now id o) :
    (r.sweep now answer).1.marks.contains id ↔ (answer id).Cancels := by
  rw [Registry.contains_marks_sweep, if_pos (mem_overdue_evict.mpr ⟨o, h⟩), ← Answer.cancelFailure?_eq_none_iff]
  simp

/-! ## The others -/

theorem live_of_not_ended (hended : ∀ o, ¬ r.Ended id o) (ho : r.lookup id = some o) :
    o.status.isCancellable = true := by
  by_contra hover
  exact hended o ⟨ho, hover⟩

theorem lookup_sweep_of_neither (hended : ∀ o, ¬ r.Ended id o) (hlate : ∀ o, ¬ r.Late now id o) :
    (r.sweep now answer).1.lookup id = r.lookup id := by
  have hid : id ∉ r.evict.overdue now := fun h => (mem_overdue_evict.mp h).elim hlate
  rw [Registry.lookup_sweep]
  cases ho : r.lookup id with
  | none => rfl
  | some o => rw [Option.filter_some, if_pos (live_of_not_ended hended ho), Option.map_some, if_neg hid]

theorem contains_marks_sweep_of_neither (hended : ∀ o, ¬ r.Ended id o) (hlate : ∀ o, ¬ r.Late now id o) :
    (r.sweep now answer).1.marks.contains id = r.marks.contains id := by
  have hid : id ∉ r.evict.overdue now := fun h => (mem_overdue_evict.mp h).elim hlate
  rw [Registry.contains_marks_sweep, if_neg hid, contains_marks_evict]
  cases ho : r.lookup id with
  | none => simp
  | some o => simp [live_of_not_ended hended ho]

/-! ## Reports -/

theorem ofCancel_of_cancels {a : Answer} (h : a.Cancels) : SweepEvent.ofCancel id a = .cancelIssued id := by
  rw [SweepEvent.ofCancel, Answer.cancelFailure?_eq_none_iff.mpr h]

theorem ofCancel_of_not_cancels {a : Answer} (h : ¬ a.Cancels) :
    ∃ reason, SweepEvent.ofCancel id a = .cancelFailed id reason := by
  rw [← Answer.cancelFailure?_eq_none_iff] at h
  obtain ⟨reason, hreason⟩ := Option.ne_none_iff_exists'.mp h
  exact ⟨reason, by rw [SweepEvent.ofCancel, hreason]⟩

theorem events_sweep (r : Registry) (now : UInt64) (answer : String → Answer) :
    (r.sweep now answer).2 = (r.endedEntries.map fun e => SweepEvent.evicted e.2) ++
      (r.evict.overdue now).map fun id => .ofCancel id (answer id) := by
  change r.ended.map SweepEvent.evicted ++ (Registry.settleAll _ _ _).2 = _
  rw [events_settleAll, ended_eq, List.map_map]
  rfl

/-- **A sweep does exactly its job.** It drops the ended orders with their marks,
each reported once as evicted. It asks once for a cancel of each overdue order
and of no other, reports each of these cancels once by its answer, sets these
trade times to zero and leaves the mark where the order came back cancelled.
Every other entry and mark is as it was, and so are the deadlines. -/
theorem sweep_exact (r : Registry) (now : UInt64) (answer : String → Answer) :
    (∃ (gone : List (String × Order)) (late : List String) (report : String → SweepEvent),
      (gone.map (·.1)).Nodup ∧ (∀ id o, (id, o) ∈ gone ↔ r.Ended id o) ∧
      late.Nodup ∧ (∀ id, id ∈ late ↔ ∃ o, r.Late now id o) ∧
      (r.sweep now answer).1.journal = r.journal ++ late.map (fun id => .cancel id (answer id)) ∧
      (r.sweep now answer).2 = gone.map (fun e => .evicted e.2) ++ late.map report ∧
      ∀ id, ((answer id).Cancels → report id = .cancelIssued id) ∧
        (¬ (answer id).Cancels → ∃ reason, report id = .cancelFailed id reason)) ∧
    (∀ id o, r.Ended id o →
      (r.sweep now answer).1.lookup id = none ∧ (r.sweep now answer).1.marks.contains id = false) ∧
    (∀ id o, r.Late now id o →
      (r.sweep now answer).1.lookup id = some { o with tradeTime := 0 } ∧
      ((r.sweep now answer).1.marks.contains id ↔ (answer id).Cancels)) ∧
    (∀ id, (∀ o, ¬ r.Ended id o) → (∀ o, ¬ r.Late now id o) →
      (r.sweep now answer).1.lookup id = r.lookup id ∧
      (r.sweep now answer).1.marks.contains id = r.marks.contains id) ∧
    (r.sweep now answer).1.deadlines = r.deadlines := by
  refine ⟨⟨r.endedEntries, r.evict.overdue now, fun id => .ofCancel id (answer id), r.nodup_endedEntries, ?_,
    nodup_overdue _ now, ?_, r.journal_sweep now answer, r.events_sweep now answer, ?_⟩, ?_, ?_, ?_,
    r.deadlines_step (.sweep now answer)⟩
  · intro id o
    exact mem_endedEntries
  · intro id
    exact mem_overdue_evict
  · intro id
    exact ⟨ofCancel_of_cancels, ofCancel_of_not_cancels⟩
  · intro id o h
    exact ⟨h.lookup_sweep, h.contains_marks_sweep⟩
  · intro id o h
    exact ⟨h.lookup_sweep, h.contains_marks_sweep⟩
  · intro id hended hlate
    exact ⟨lookup_sweep_of_neither hended hlate, contains_marks_sweep_of_neither hended hlate⟩

end

def liveSince (id : String) (tradeTime : UInt64) : Order :=
  { id, code := "MXFL1", action := .buy, price := 100, quantity := 1, status := .submitted, tradeTime }

def fourTracked : Registry where
  deadlines := ⟨10000, 30000⟩
  orders := (((∅ : Table Order).insert "ended" { liveSince "ended" 0 with status := .filled }).insert
    "late" (liveSince "late" 1000)).insert "marked" (liveSince "marked" 1000) |>.insert "due" (liveSince "due" 1001)
  marks := ((∅ : IdSet).add "marked").add "ended"

theorem sweep_exact_fourTracked :
    (fourTracked.sweep 11001 fun _ => .reply { status := .cancelled }).1.lookup "ended" = none ∧
    (fourTracked.sweep 11001 fun _ => .reply { status := .cancelled }).1.lookup "late" = some (liveSince "late" 0) ∧
    (fourTracked.sweep 11001 fun _ => .reply { status := .cancelled }).1.lookup "due" =
      some (liveSince "due" 1001) := by
  obtain ⟨-, hended, hlate, hothers, -⟩ := sweep_exact fourTracked 11001 fun _ => .reply { status := .cancelled }
  have hover : fourTracked.Ended "ended" { liveSince "ended" 0 with status := .filled } := ⟨rfl, by decide⟩
  have hdue : fourTracked.lookup "due" = some (liveSince "due" 1001) := rfl
  refine ⟨(hended _ _ hover).1, (hlate _ (liveSince "late" 1000) ⟨rfl, rfl, rfl, by decide⟩).1, ?_⟩
  rw [← hdue]
  apply (hothers "due" _ _).1
  · rintro o ⟨ho, hover⟩
    cases hdue.symm.trans ho
    exact hover rfl
  · rintro o ⟨ho, -, -, hage⟩
    cases hdue.symm.trans ho
    exact absurd hage (by decide)

end Registry

end FuturesDesk
