import FuturesDesk.Desk.Trader
import FuturesDesk.Proofs.Mailboxes
import FuturesDesk.Proofs.RegistrySteps

/-!
# Closing orders

A trader keeps copies of its closing orders and hears of them late, from its
mailbox. Its copies, the news still in the mailbox and the registry's last
view of each order fit together: every copy is for the whole quantity of the
primary, at most one has not ended void, and the last news is the registry's.
-/

namespace FuturesDesk

namespace Status

/-- Ended without a fill. -/
def isVoid (s : Status) : Bool := s = .cancelled || s = .failed

theorem isVoid_iff {s : Status} : s.isVoid ↔ s = .cancelled ∨ s = .failed := by simp [isVoid]

theorem isVoid_of_ended {s : Status} (hu : s ≠ .unknown) (hc : ¬ s.isCancellable) (hf : s ≠ .filled) : s.isVoid := by
  cases s <;> simp_all [isVoid, isCancellable]

theorem not_isVoid_of_isCancellable {s : Status} (h : s.isCancellable) : ¬ s.isVoid := by
  cases s <;> simp_all [isVoid, isCancellable]

end Status

/-! ## News -/

def DeskEvent.news? (id : String) : DeskEvent → Option Status
  | .orderStatus o => if o.id = id then some o.status else none
  | .placed _ | .assistDone _ | .assistFailed .. => none

/-- What waiting events tell of an order, oldest first. -/
def news (id : String) (queue : List DeskEvent) : List Status := queue.filterMap (DeskEvent.news? id)

theorem news_cons (id : String) (e : DeskEvent) (queue : List DeskEvent) :
    news id (e :: queue) = (e.news? id).toList ++ news id queue := by
  simp only [news, List.filterMap_cons]
  cases e.news? id <;> rfl

theorem all_live_of_last {s : Status} {ss : List Status} (h : (s :: ss).Pairwise fun a _ => a.isCancellable)
    (hl : (ss.getLastD s).isCancellable) : ∀ a ∈ s :: ss, a.isCancellable := by
  induction ss generalizing s with
  | nil => simpa using hl
  | cons u ss ih =>
    have hs : s.isCancellable := List.rel_of_pairwise_cons h (List.mem_cons_self ..)
    intro a ha
    rcases List.mem_cons.mp ha with rfl | ha
    · exact hs
    · rw [List.getLastD_cons] at hl
      exact ih (List.pairwise_cons.mp h).2 hl a ha

namespace Trader

/-- A copy of a closing order, between the news waiting for it and what the
registry last knew of the order. -/
structure Leg (q : Int64) (leg : Order) (news : List Status) (known : Option Status) : Prop where
  quantity : leg.quantity = q
  known : known = some (news.getLastD leg.status)
  live : (leg.status :: news).Pairwise fun s _ => s.isCancellable
  named : ∀ s ∈ leg.status :: news, s ≠ .unknown

theorem Leg.settled {q : Int64} {leg : Order} {news : List Status} {known : Option Status} (h : Leg q leg news known)
    (hs : ¬ leg.status.isCancellable) : news = [] ∧ known = some leg.status := by
  cases news with
  | nil => exact ⟨rfl, h.known⟩
  | cons s ss => exact absurd (List.rel_of_pairwise_cons h.live (List.mem_cons_self ..)) hs

theorem Leg.known_ne_unknown {q : Int64} {leg : Order} {news : List Status} {s : Status}
    (h : Leg q leg news (some s)) : s ≠ .unknown := by
  have hk := h.known
  rw [Option.some.injEq] at hk
  exact hk ▸ h.named _ List.getLastD_mem_cons

/-- A trader in step with its mailbox and with what the registry last knew. -/
structure Sound (t : Trader) (queue : List DeskEvent) (known : String → Option Status) : Prop where
  leg : ∀ id leg, t.closing.find? id = some leg → Leg t.primary.quantity leg (news id queue) (known id)
  live : ∀ id leg, t.closing.find? id = some leg → leg.status.isCancellable → t.waiting = some id
  waits : ∀ id, t.waiting = some id → (t.closing.find? id).isSome
  one : ∀ i a j b, t.closing.find? i = some a → t.closing.find? j = some b →
    ¬ a.status.isVoid → ¬ b.status.isVoid → i = j
  done : t.phase = .done → ∃ id leg, t.closing.find? id = some leg ∧ leg.status = .filled
  ordered : t.phase ≠ .done → (t.phase = .ordered ↔ t.waiting.isSome)
  armed : t.phase = .armed → ∀ id, t.closing.find? id = none

section
variable {t : Trader} {queue queue' : List DeskEvent} {known known' : String → Option Status}

theorem sound_start (target : AssistTarget) (inbox : Nat) (known : String → Option Status) :
    Sound { target, inbox } [] known where
  leg id leg h := by cases h
  live id leg h := by cases h
  waits id h := by cases h
  one i a j b h := by cases h
  done h := by cases h
  ordered _ := by simp
  armed _ id := rfl

theorem Sound.frame (h : Sound t queue known)
    (hq : ∀ id, (t.closing.find? id).isSome → news id queue' = news id queue)
    (hk : ∀ id, (t.closing.find? id).isSome → known' id = known id) : Sound t queue' known' where
  leg id leg hf := by
    rw [hq id (by simp [hf]), hk id (by simp [hf])]
    exact h.leg id leg hf
  live := h.live
  waits := h.waits
  one := h.one
  done := h.done
  ordered := h.ordered
  armed := h.armed

theorem Sound.told (h : Sound t queue known) {o : Order} {s : Status} (hs : known o.id = some s)
    (hl : s.isCancellable) (hu : o.status ≠ .unknown) (hk : known' o.id = some o.status)
    (hother : ∀ id, id ≠ o.id → known' id = known id) : Sound t (queue ++ [.orderStatus o]) known' where
  leg id leg hf := by
    have hleg := h.leg id leg hf
    by_cases hid : id = o.id
    · subst hid
      have hn : news o.id (queue ++ [.orderStatus o]) = news o.id queue ++ [o.status] := by
        simp [news, DeskEvent.news?]
      rw [hn, hk]
      have hlast : ((news o.id queue).getLastD leg.status).isCancellable := by
        have he := hleg.known
        rw [hs, Option.some.injEq] at he
        exact he ▸ hl
      have hall := all_live_of_last hleg.live hlast
      refine ⟨hleg.quantity, by simp, ?_, ?_⟩
      · rw [← List.cons_append, List.pairwise_append]
        exact ⟨hleg.live, by simp, fun a ha _ _ => hall a ha⟩
      · intro a ha
        rw [← List.cons_append] at ha
        rcases List.mem_append.mp ha with ha | ha
        · exact hleg.named a ha
        · simp only [List.mem_singleton] at ha
          exact ha ▸ hu
    · have hn : news id (queue ++ [.orderStatus o]) = news id queue := by
        simp [news, DeskEvent.news?, Ne.symm hid]
      rw [hn, hother id hid]
      exact hleg
  live := h.live
  waits := h.waits
  one := h.one
  done := h.done
  ordered := h.ordered
  armed := h.armed

/-! ## Hearing -/

theorem hear_cases (t : Trader) (o : Order) :
    (t.closing.find? o.id = none ∧ t.hear o = t) ∨
    ∃ leg, t.closing.find? o.id = some leg ∧
      (t.hear o).closing = t.closing.insert o.id { leg with status := o.status, price := o.price } ∧
      ((t.waiting = some o.id ∧ ¬ o.status.isCancellable ∧ (t.hear o).waiting = none ∧
          (t.hear o).phase = if t.phase = .done then .done else .idle) ∨
        (¬ (t.waiting = some o.id ∧ ¬ o.status.isCancellable) ∧ (t.hear o).waiting = t.waiting ∧
          (t.hear o).phase = t.phase)) := by
  unfold hear
  cases hf : t.closing.find? o.id with
  | none => exact Or.inl ⟨rfl, rfl⟩
  | some leg =>
    refine Or.inr ⟨leg, rfl, ?_⟩
    by_cases hc : t.waiting = some o.id ∧ ¬ o.status.isCancellable
    · simp [hc]
    · have hc' : ¬ (t.waiting = some o.id && !o.status.isCancellable) := by simpa using hc
      simp only [if_neg hc']
      exact ⟨trivial, Or.inr ⟨hc, trivial, trivial⟩⟩

@[simp] theorem hear_target (t : Trader) (o : Order) : (t.hear o).target = t.target := by
  unfold hear
  cases t.closing.find? o.id with
  | none => rfl
  | some leg => dsimp only; split <;> rfl

@[simp] theorem hear_inbox (t : Trader) (o : Order) : (t.hear o).inbox = t.inbox := by
  unfold hear
  cases t.closing.find? o.id with
  | none => rfl
  | some leg => dsimp only; split <;> rfl

theorem hear_primary (t : Trader) (o : Order) : (t.hear o).primary = t.primary := congrArg (·.order) (hear_target t o)

theorem isSome_find?_hear (t : Trader) (o : Order) (id : String) :
    ((t.hear o).closing.find? id).isSome = (t.closing.find? id).isSome := by
  rcases hear_cases t o with ⟨-, h⟩ | ⟨leg, hf, hc, -⟩
  · rw [h]
  · rw [hc, Table.find?_insert]
    by_cases hid : id = o.id
    · simp [hid, hf]
    · simp [hid]

theorem Sound.not_isVoid_of_known (h : Sound t queue known) {id : String} {leg : Order} {s : Status}
    (hf : t.closing.find? id = some leg) (hk : known id = some s) (hs : ¬ s.isVoid) : ¬ leg.status.isVoid := by
  intro hv
  have hend := ((h.leg id leg hf).settled fun hl => Status.not_isVoid_of_isCancellable hl hv).2
  rw [hk, Option.some.injEq] at hend
  exact hs (hend ▸ hv)

/-- Beside an order that has not ended void all others have. -/
theorem Sound.void_of_ne (h : Sound t queue known) {id other : String} {leg b : Order}
    (hf : t.closing.find? id = some leg) (hv : ¬ leg.status.isVoid) (hne : other ≠ id)
    (hb : t.closing.find? other = some b) : b.status.isVoid := by
  by_cases hv' : b.status.isVoid
  · exact hv'
  · exact absurd (h.one other b id leg hb hf hv' hv) hne

theorem Sound.not_live_of_done (h : Sound t queue known) (hd : t.phase = .done) {id : String} {leg : Order}
    (hf : t.closing.find? id = some leg) : ¬ leg.status.isCancellable := by
  intro hl
  obtain ⟨k, b, hk, hb⟩ := h.done hd
  have he := h.one k b id leg hk hf (by simp [hb, Status.isVoid]) (Status.not_isVoid_of_isCancellable hl)
  subst he
  rw [hf, Option.some.injEq] at hk
  subst hk
  rw [hb] at hl; cases hl

theorem Sound.live_of_news {o : Order} (h : Sound t (.orderStatus o :: queue) known) {leg : Order}
    (hf : t.closing.find? o.id = some leg) : leg.status.isCancellable := by
  have hleg := (h.leg o.id leg hf).live
  have hn : news o.id (.orderStatus o :: queue) = o.status :: news o.id queue := by
    simp [news_cons, DeskEvent.news?]
  rw [hn] at hleg
  exact List.rel_of_pairwise_cons hleg (List.mem_cons_self ..)

/-- Beside a live order all others are void, and the trader waits for it. -/
theorem Sound.alone (h : Sound t queue known) {id : String} {leg : Order} (hf : t.closing.find? id = some leg)
    (hlive : leg.status.isCancellable) :
    t.waiting = some id ∧ t.phase = .ordered ∧
      ∀ other b, t.closing.find? other = some b → other ≠ id → b.status.isVoid := by
  have hwait := h.live id leg hf hlive
  have hphase := (h.ordered fun hd => h.not_live_of_done hd hf hlive).mpr (by simp [hwait])
  exact ⟨hwait, hphase, fun other b hb hne =>
    h.void_of_ne hf (Status.not_isVoid_of_isCancellable hlive) hne hb⟩

theorem sound_of_alone {t t' : Trader} {id : String} {leg : Order}
    (hfind : ∀ i, t'.closing.find? i = if i = id then some leg else t.closing.find? i)
    (hvoid : ∀ i b, t.closing.find? i = some b → i ≠ id → b.status.isVoid)
    (hleg : ∀ i b, t'.closing.find? i = some b → Leg t'.primary.quantity b (news i queue) (known i))
    (hwait : t'.waiting = some id ∧ t'.phase = .ordered ∨
      ¬ leg.status.isCancellable ∧ t'.waiting = none ∧ t'.phase = .idle) : Sound t' queue known := by
  have hother : ∀ i b, t'.closing.find? i = some b → ¬ b.status.isVoid → i = id ∧ b = leg := by
    intro i b hb hv
    rw [hfind] at hb
    by_cases hi : i = id
    · rw [if_pos hi, Option.some.injEq] at hb
      exact ⟨hi, hb.symm⟩
    · rw [if_neg hi] at hb
      exact absurd (hvoid i b hb hi) hv
  refine ⟨hleg, fun i b hb hl => ?_, fun i hi => ?_, fun i a j b ha hb hva hvb => ?_, fun hd => ?_, fun _ => ?_,
    fun ha => ?_⟩
  · obtain ⟨rfl, rfl⟩ := hother i b hb (Status.not_isVoid_of_isCancellable hl)
    rcases hwait with ⟨hw, -⟩ | ⟨hn, -⟩
    · exact hw
    · exact absurd hl hn
  · rcases hwait with ⟨hw, -⟩ | ⟨-, hw, -⟩
    · rw [hw, Option.some.injEq] at hi
      simp [hfind, hi]
    · rw [hw] at hi; cases hi
  · exact (hother i a ha hva).1.trans (hother j b hb hvb).1.symm
  · rcases hwait with ⟨-, hp⟩ | ⟨-, -, hp⟩ <;> rw [hp] at hd <;> cases hd
  · rcases hwait with ⟨hw, hp⟩ | ⟨-, hw, hp⟩ <;> simp [hw, hp]
  · rcases hwait with ⟨-, hp⟩ | ⟨-, -, hp⟩ <;> rw [hp] at ha <;> cases ha

theorem Sound.hear {o : Order} (h : Sound t (.orderStatus o :: queue) known) : Sound (t.hear o) queue known := by
  rcases hear_cases t o with ⟨hf, he⟩ | ⟨leg, hf, hc, hw⟩
  · rw [he]
    refine h.frame (fun id hid => ?_) fun _ _ => rfl
    have hne : o.id ≠ id := by rintro rfl; simp [hf] at hid
    simp [news_cons, DeskEvent.news?, hne]
  -- there is news of the order, so its copy was live and the trader waits for it
  obtain ⟨hwait, hphase, hvoid⟩ := h.alone hf (h.live_of_news hf)
  have hfind : ∀ id, (t.hear o).closing.find? id =
      if id = o.id then some { leg with status := o.status, price := o.price } else t.closing.find? id := by
    intro id; rw [hc, Table.find?_insert]
  refine sound_of_alone hfind hvoid (fun id b hb => ?_) ?_
  · rw [hear_primary]
    rw [hfind] at hb
    by_cases hid : id = o.id
    · subst hid
      rw [if_pos rfl, Option.some.injEq] at hb
      subst hb
      have hleg := h.leg o.id leg hf
      have hn : news o.id (.orderStatus o :: queue) = o.status :: news o.id queue := by
        simp [news_cons, DeskEvent.news?]
      rw [hn] at hleg
      have hk := hleg.known
      rw [List.getLastD_cons] at hk
      exact ⟨hleg.quantity, hk, (List.pairwise_cons.mp hleg.live).2,
        fun s hs => hleg.named s (List.mem_cons_of_mem _ hs)⟩
    · rw [if_neg hid] at hb
      simpa [news_cons, DeskEvent.news?, Ne.symm hid] using h.leg id b hb
  · rcases hw with ⟨-, hn, hw', hp⟩ | ⟨-, hw', hp⟩
    · exact Or.inr ⟨hn, hw', by rw [hp, hphase]; rfl⟩
    · exact Or.inl ⟨hw'.trans hwait, hp.trans hphase⟩

theorem Sound.hearEvent {e : DeskEvent} (h : Sound t (e :: queue) known) : Sound (t.hearEvent e) queue known := by
  cases e with
  | orderStatus o => exact h.hear
  | placed _ | assistDone _ | assistFailed _ _ =>
    exact h.frame (fun id _ => by simp [news_cons, DeskEvent.news?]) fun _ _ => rfl

theorem Sound.heard (h : Sound t queue known) : Sound (queue.foldl Trader.hearEvent t) [] known := by
  induction queue generalizing t with
  | nil => exact h
  | cons e queue ih => exact ih h.hearEvent

end

end Trader

/-! ## Quantities -/

theorem Table.filter_entries_of_unique {α : Type} (t : Table α) (p : String × α → Bool)
    (h : ∀ i a j b, t.find? i = some a → t.find? j = some b → p (i, a) → p (j, b) → i = j) :
    (t.entries.filter p = [] ∧ ∀ i a, t.find? i = some a → ¬ p (i, a)) ∨
    ∃ i a, t.find? i = some a ∧ p (i, a) ∧ t.entries.filter p = [(i, a)] := by
  cases hl : t.entries.filter p with
  | nil =>
    refine Or.inl ⟨rfl, fun i a hi hp => ?_⟩
    have hm : (i, a) ∈ t.entries.filter p := List.mem_filter.mpr ⟨Table.mem_entries_iff.mpr hi, hp⟩
    rw [hl] at hm; cases hm
  | cons e es =>
    have hfind : ∀ e' ∈ e :: es, t.find? e'.1 = some e'.2 ∧ p e' := by
      intro e' he'
      rw [← hl] at he'
      obtain ⟨hm, hp⟩ := List.mem_filter.mp he'
      exact ⟨Table.mem_entries_iff.mp hm, hp⟩
    obtain ⟨he, hp⟩ := hfind e (List.mem_cons_self ..)
    have hn : ((e :: es).map (·.1)).Nodup := hl ▸ Table.nodup_filter p t.nodup
    have hes : es = [] := by
      cases es with
      | nil => rfl
      | cons e' es =>
        obtain ⟨he', hp'⟩ := hfind e' (List.mem_cons_of_mem _ (List.mem_cons_self ..))
        have hee := h _ _ _ _ he he' hp hp'
        simp [hee] at hn
    exact Or.inr ⟨e.1, e.2, he, hp, by rw [hes]⟩

namespace Trader

section
variable {t : Trader} {queue queue' : List DeskEvent} {known known' : String → Option Status}

def legTotal (t : Trader) (p : String → Bool) : Int :=
  (t.closing.entries.filter fun e => p e.1).foldr (fun e total => e.2.quantity.toInt + total) 0

theorem Sound.legTotal_cases (h : Sound t queue known) {p : String → Bool}
    (hp : ∀ id leg, t.closing.find? id = some leg → p id → ¬ leg.status.isVoid) :
    (t.legTotal p = 0 ∧ ∀ id, (t.closing.find? id).isSome → ¬ p id) ∨
    (t.legTotal p = t.primary.quantity.toInt ∧ ∃ id leg, t.closing.find? id = some leg ∧ p id) := by
  unfold legTotal
  rcases t.closing.filter_entries_of_unique (fun e => p e.1)
    (fun i a j b hi hj ha hb => h.one i a j b hi hj (hp i a hi ha) (hp j b hj hb)) with ⟨he, hn⟩ | ⟨i, a, hi, ha, he⟩
  · refine Or.inl ⟨by rw [he]; rfl, fun id hid => ?_⟩
    obtain ⟨leg, hl⟩ := Option.isSome_iff_exists.mp hid
    exact hn id leg hl
  · refine Or.inr ⟨?_, i, a, hi, ha⟩
    rw [he]
    simp [(h.leg i a hi).quantity]

theorem Sound.filledQuantity_cases (h : Sound t queue known) :
    (t.filledQuantity = 0 ∧ ∀ id leg, t.closing.find? id = some leg → leg.status ≠ .filled) ∨
    (t.filledQuantity = t.primary.quantity ∧ ∃ id leg, t.closing.find? id = some leg ∧ leg.status = .filled) := by
  have hf : t.filledQuantity =
      (((t.closing.entries.filter fun e => e.2.status = .filled).map (·.2)).map (·.quantity)).sum := by
    unfold filledQuantity Table.values
    rw [List.filter_map]; rfl
  have hv : ∀ s : Status, s = .filled → ¬ s.isVoid := by rintro s rfl; simp [Status.isVoid]
  rw [hf]
  rcases t.closing.filter_entries_of_unique (fun e => decide (e.2.status = .filled))
    (fun i a j b hi hj ha hb => h.one i a j b hi hj (hv _ (by simpa using ha)) (hv _ (by simpa using hb)))
    with ⟨he, hn⟩ | ⟨i, a, hi, ha, he⟩
  · exact Or.inl ⟨by rw [he]; rfl, fun id leg hl => by simpa using hn id leg hl⟩
  · refine Or.inr ⟨?_, i, a, hi, by simpa using ha⟩
    rw [he]
    simp [(h.leg i a hi).quantity]

theorem Sound.isCovered_iff (h : Sound t queue known) (hq : 0 < t.primary.quantity) :
    t.isCovered ↔ ∃ id leg, t.closing.find? id = some leg ∧ leg.status = .filled := by
  unfold isCovered
  rw [decide_eq_true_eq]
  rcases h.filledQuantity_cases with ⟨hz, hn⟩ | ⟨hz, he⟩
  · rw [hz]
    refine ⟨fun hle => absurd hq (Int64.not_lt.mpr hle), ?_⟩
    rintro ⟨id, leg, hl, hf⟩
    exact absurd hf (hn id leg hl)
  · rw [hz]
    exact ⟨fun _ => he, fun _ => Int64.le_refl _⟩

theorem Sound.void_of_free (h : Sound t queue known) (hq : 0 < t.primary.quantity) (hw : t.waiting = none)
    (hc : ¬ t.isCovered) {id : String} {leg : Order} (hf : t.closing.find? id = some leg) : leg.status.isVoid := by
  have hl : ¬ leg.status.isCancellable := fun hl => by
    have := h.live id leg hf hl
    rw [hw] at this; cases this
  have hn := (h.leg id leg hf).named leg.status (List.mem_cons_self ..)
  have hfill : leg.status ≠ .filled := fun he => hc ((h.isCovered_iff hq).mpr ⟨id, leg, hf, he⟩)
  exact Status.isVoid_of_ended hn hl hfill

theorem Sound.filledQuantity_eq_zero (h : Sound t queue known) (hq : 0 < t.primary.quantity) (hc : ¬ t.isCovered) :
    t.filledQuantity = 0 := by
  rcases h.filledQuantity_cases with ⟨hz, -⟩ | ⟨-, he⟩
  · exact hz
  · exact absurd ((h.isCovered_iff hq).mpr he) hc

theorem Sound.phase_idle (h : Sound t queue known) (hd : t.phase ≠ .done) (hw : t.waiting = none) {id : String}
    (hid : (t.closing.find? id).isSome) : t.phase = .idle := by
  cases hp : t.phase with
  | idle => rfl
  | done => exact absurd hp hd
  | ordered =>
    have := (h.ordered hd).mp hp
    rw [hw] at this; cases this
  | armed =>
    rw [h.armed hp id] at hid
    cases hid

theorem Sound.closingOrder_quantity (h : Sound t queue known) (hq : 0 < t.primary.quantity) (hc : ¬ t.isCovered)
    (tick : Tick) : (t.closingOrder tick).quantity = t.primary.quantity := by
  change t.primary.quantity - t.filledQuantity = _
  rw [h.filledQuantity_eq_zero hq hc, Int64.sub_zero]

def hasFilled (t : Trader) (id : String) : Bool := (t.closing.find? id).any (·.status = .filled)

theorem hasFilled_iff {id : String} : t.hasFilled id ↔ ∃ leg, t.closing.find? id = some leg ∧ leg.status = .filled := by
  unfold hasFilled
  rw [Option.any_eq_true]
  simp

theorem Sound.filledQuantity_toInt (h : Sound t queue known) : t.filledQuantity.toInt = t.legTotal t.hasFilled := by
  have hp : ∀ id leg, t.closing.find? id = some leg → t.hasFilled id → ¬ leg.status.isVoid := by
    intro id leg hf hfill
    obtain ⟨leg', hf', hs⟩ := hasFilled_iff.mp hfill
    rw [hf, Option.some.injEq] at hf'
    subst hf'
    simp [hs, Status.isVoid]
  rcases h.filledQuantity_cases with ⟨hz, hn⟩ | ⟨hz, id, leg, hf, hs⟩ <;>
    rcases h.legTotal_cases hp with ⟨hl, hno⟩ | ⟨hl, id', leg', hf', hp'⟩ <;> rw [hz, hl]
  · rfl
  · obtain ⟨b, hb, hbs⟩ := hasFilled_iff.mp hp'
    exact absurd hbs (hn id' b hb)
  · exact absurd (hasFilled_iff.mpr ⟨leg, hf, hs⟩) (hno id (by simp [hf]))

/-- Orders of two kinds, neither of them void, do not add up to more than the
quantity of the primary. -/
theorem Sound.legTotal_add_le (h : Sound t queue known) (hq : 0 < t.primary.quantity) {a b : String → Bool}
    (ha : ∀ id leg, t.closing.find? id = some leg → a id → ¬ leg.status.isVoid)
    (hb : ∀ id leg, t.closing.find? id = some leg → b id → ¬ leg.status.isVoid) (hab : ∀ id, a id → ¬ b id) :
    t.legTotal a + t.legTotal b ≤ t.primary.quantity.toInt := by
  have hpos : 0 < t.primary.quantity.toInt := Int64.lt_iff_toInt_lt.mp hq
  rcases h.legTotal_cases ha with ⟨hla, -⟩ | ⟨hla, i, la, hia, hpa⟩ <;>
    rcases h.legTotal_cases hb with ⟨hlb, -⟩ | ⟨hlb, j, lb, hjb, hpb⟩ <;> rw [hla, hlb]
  · omega
  · omega
  · omega
  · have hij := h.one i la j lb hia hjb (ha i la hia hpa) (hb j lb hjb hpb)
    subst hij
    exact absurd hpb (hab i hpa)

/-! ## Finishing and placing -/

theorem Sound.finished (h : Sound t queue known) (hq : 0 < t.primary.quantity) (hc : t.isCovered) :
    Sound { t with phase := .done } queue known where
  leg := h.leg
  live := h.live
  waits := h.waits
  one := h.one
  done _ := (h.isCovered_iff hq).mp hc
  ordered hd := absurd rfl hd
  armed ha := by cases ha

theorem Sound.idle (h : Sound t queue known) (hw : t.waiting = none) : Sound { t with phase := .idle } queue known where
  leg := h.leg
  live := h.live
  waits := h.waits
  one := h.one
  done hd := by cases hd
  ordered _ := by simp [hw]
  armed ha := by cases ha

theorem Sound.watching (h : Sound t queue known) : Sound t.watch queue known := by
  unfold watch
  split
  · rename_i hf
    simp only [isFree, Bool.and_eq_true, decide_eq_true_eq, Option.isNone_iff_eq_none] at hf
    exact h.idle hf.1.2
  · exact h

/-- The new closing order is for the whole quantity, and all the others have
ended void. -/
theorem Sound.placed (h : Sound t queue known) (hq : 0 < t.primary.quantity) (hw : t.waiting = none)
    (hc : ¬ t.isCovered) {o : Order} (ho : o.quantity = t.primary.quantity) (hs : o.status ≠ .unknown)
    (hn : ∀ id, news id queue' = []) (hk : known' o.id = some o.status)
    (hother : ∀ id, id ≠ o.id → known' id = known id) :
    Sound { t with closing := t.closing.insert o.id o, waiting := some o.id, phase := .ordered } queue' known' := by
  have hvoid : ∀ i b, t.closing.find? i = some b → i ≠ o.id → b.status.isVoid := fun i b hb _ =>
    h.void_of_free hq hw hc hb
  refine sound_of_alone (fun i => Table.find?_insert ..) hvoid (fun id leg hl => ?_) (Or.inl ⟨rfl, rfl⟩)
  dsimp only at hl
  rw [Table.find?_insert] at hl
  rw [hn id]
  by_cases hid : id = o.id
  · subst hid
    rw [if_pos rfl, Option.some.injEq] at hl
    subst hl
    exact ⟨ho, hk, by simp, by simpa using hs⟩
  · rw [if_neg hid] at hl
    have hleg := h.leg id leg hl
    have hset := hleg.settled fun hl' => Status.not_isVoid_of_isCancellable hl' (hvoid id leg hl hid)
    rw [hother id hid]
    exact ⟨hleg.quantity, by rw [hset.2]; rfl, by simp, by simpa using hleg.named leg.status (List.mem_cons_self ..)⟩

end

end Trader

end FuturesDesk
