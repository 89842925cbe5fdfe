import Mathlib.Data.List.Induction
import FuturesDesk.Proofs.PendingTargets

/-!
# Hired traders

An assisted order gets one trader once it has filled and a promotion has come
after, and none if it ends otherwise. The trader is given the order as the
registry had it when it filled.
-/

namespace FuturesDesk

namespace Session

/-- The orders of an assisted command that the brokerage accepts, each with the
option. -/
def assistedOrders (s : Session) (now : UInt64) (c : Command) (ticket : Nat → Ticket) : List AssistTarget :=
  match c.option, (s.command now c ticket).2 with
  | some option, .ok orders => orders.map fun o => ⟨o, option⟩
  | _, _ => []

def assisted (s : Session) : Step → List AssistTarget
  | .text now t ticket =>
    if t = ping then []
    else match Command.ofText t with
      | .ok c => s.assistedOrders now c ticket
      | .error _ => []
  | _ => []

section
variable (s : Session) (id : String) (steps : List Step)

def HasFilled : Prop := ∃ early, early <+: steps ∧ (s.run early).registry.status? id = some .filled

def FilledThenPromoted : Prop := ∃ before, before ++ [.promote] <+: steps ∧ s.HasFilled id before

end

/-- What an assisted order is owed in the steps after its placement. -/
structure Served (s : Session) (primary : AssistTarget) (steps : List Step) (traders : List AssistTarget) : Prop where
  once : traders.length ≤ 1
  due : traders ≠ [] ↔ s.FilledThenPromoted primary.order.id steps
  ended : ∀ early, early <+: steps → ∀ st, (s.run early).registry.status? primary.order.id = some st → st.isTerminal →
    st ≠ .filled → traders = []
  target : ∀ t ∈ traders, t.option = primary.option ∧ t.order =
    { primary.order with status := .filled, price := t.order.price, tradeTime := t.order.tradeTime }
  price : ∀ t ∈ traders, ∀ early, early <+: steps → ∀ o, (s.run early).registry.lookup primary.order.id = some o →
    o.status = .filled → t.order.price = o.price
  time : ∀ t ∈ traders, ∀ early now u, early ++ [.status now u] <+: steps →
    (s.run early).registry.status? primary.order.id ≠ some .filled →
    (s.run (early ++ [.status now u])).registry.status? primary.order.id = some .filled → t.order.tradeTime = now

/-- What has become of a target since its order was placed. -/
structure Followed (s : Session) (primary : AssistTarget) (steps : List Step) (target : AssistTarget) : Prop where
  option : target.option = primary.option
  order : target.order = { primary.order with
    status := target.order.status, price := target.order.price, tradeTime := target.order.tradeTime }
  agrees : Agrees (s.run steps).registry primary.order.id target
  filled : target.order.status = .filled → s.HasFilled primary.order.id steps
  ended : ∀ early, early <+: steps → ∀ o, (s.run early).registry.lookup primary.order.id = some o →
    o.status.isTerminal → o.status = target.order.status ∧ o.price = target.order.price
  time : ∀ early now u, early ++ [.status now u] <+: steps →
    (s.run early).registry.status? primary.order.id ≠ some .filled →
    (s.run (early ++ [.status now u])).registry.status? primary.order.id = some .filled → target.order.tradeTime = now

/-- Whether a target still waits for its trader. -/
inductive Fate (s : Session) (primary : AssistTarget) (steps : List Step) (traders : List AssistTarget) : Prop
  | waiting {target : AssistTarget} (followed : s.Followed primary steps target)
      (pending : (s.run steps).pending.find? primary.order.id = some target) (none : traders = [])
      (unpromoted : ¬ s.FilledThenPromoted primary.order.id steps)
  | settled {target : AssistTarget} (followed : s.Followed primary steps target)
      (pending : (s.run steps).pending.find? primary.order.id = none) (ended : target.order.status.isTerminal)
      (traders : traders = if target.order.status = .filled then [target] else [])
      (promoted : target.order.status = .filled → s.FilledThenPromoted primary.order.id steps)

section
variable {s s' : Session} {known : String → Option Status} {id : String} {primary target : AssistTarget}
  {steps : List Step} {st : Step}

/-! ## Following one order -/

theorem earlier_snoc_iff {early : List Step} {st₁ : Step} :
    early ++ [st₁] <+: steps ++ [st] ↔ early = steps ∧ st₁ = st ∨ early ++ [st₁] <+: steps := by
  rw [List.prefix_concat_iff]
  refine or_congr_left ⟨fun he => ?_, fun ⟨he, hst⟩ => by rw [he, hst]⟩
  obtain ⟨he, hst⟩ := List.append_inj' he rfl
  exact ⟨he, List.singleton_inj.mp hst⟩

theorem HasFilled.snoc (h : s.HasFilled id steps) (st : Step) : s.HasFilled id (steps ++ [st]) := by
  obtain ⟨early, he, hs⟩ := h
  exact ⟨early, he.trans (List.prefix_append ..), hs⟩

theorem filledThenPromoted_snoc :
    s.FilledThenPromoted id (steps ++ [st]) ↔
      s.FilledThenPromoted id steps ∨ st = .promote ∧ s.HasFilled id steps := by
  constructor
  · rintro ⟨before, hb, hf⟩
    rcases earlier_snoc_iff.mp hb with ⟨rfl, rfl⟩ | hb
    · exact Or.inr ⟨rfl, hf⟩
    · exact Or.inl ⟨before, hb, hf⟩
  · rintro (⟨before, hb, hf⟩ | ⟨rfl, hf⟩)
    · exact ⟨before, hb.trans (List.prefix_append ..), hf⟩
    · exact ⟨steps, List.prefix_refl _, hf⟩

theorem Followed.filled_of_hasFilled (h : s.Followed primary steps target)
    (hf : s.HasFilled primary.order.id steps) : target.order.status = .filled := by
  obtain ⟨early, he, hs⟩ := hf
  obtain ⟨o, ho, hstatus⟩ := Registry.status?_eq_some.mp hs
  have hend := (h.ended early he o ho (by rw [hstatus]; rfl)).1
  rw [← hend, hstatus]

theorem followed_new (hn : primary.order.status ≠ .unknown)
    (ho : s.registry.lookup primary.order.id = some primary.order) : s.Followed primary [] primary where
  option := rfl
  order := rfl
  agrees := agrees_of_lookup hn ho rfl rfl
  filled hf := ⟨[], List.prefix_refl _, Registry.status?_eq_some.mpr ⟨_, ho, hf⟩⟩
  ended early he o ho' _ := by
    rw [List.prefix_nil.mp he] at ho'
    rw [Option.some.inj (ho'.symm.trans ho)]
    exact ⟨rfl, rfl⟩
  time early now u he _ _ := by
    have := List.prefix_nil.mp he
    simp at this

theorem Followed.kept (h : s.Followed primary steps target) (st : Step)
    (hk : (s.run steps).registry.Kept primary.order.id (s.run (steps ++ [st])).registry) :
    s.Followed primary (steps ++ [st]) target where
  option := h.option
  order := h.order
  agrees := h.agrees.kept hk
  filled hf := (h.filled hf).snoc st
  ended early he o ho ht := by
    rcases List.prefix_concat_iff.mp he with rfl | he
    · exact (h.agrees.kept hk).tracked o ho
    · exact h.ended early he o ho ht
  time early now u he hb ha := by
    rcases earlier_snoc_iff.mp he with ⟨rfl, rfl⟩ | he
    · -- the order was not filled before, and its status is what it was
      obtain ⟨o', ho', hs'⟩ := Registry.status?_eq_some.mp ha
      obtain ⟨o, ho, hs, -⟩ := hk.tracked o' ho'
      exact absurd (Registry.status?_eq_some.mpr ⟨o, ho, hs.trans hs'⟩) hb
    · exact h.time early now u he hb ha

theorem Followed.followed (h : s.Followed primary steps target) {now : UInt64} {u : StatusUpdate} {o o' : Order}
    (before : (s.run steps).registry.lookup primary.order.id = some o) (live : ¬ o.status.isTerminal)
    (after : (s.run (steps ++ [.status now u])).registry.lookup primary.order.id = some o')
    (named : o'.status ≠ .unknown) : s.Followed primary (steps ++ [.status now u]) (follow now o' target) := by
  -- an order that is still live has never ended
  have hlive : ∀ early, early <+: steps → ∀ o₁, (s.run early).registry.lookup primary.order.id = some o₁ →
      ¬ o₁.status.isTerminal := by
    intro early he o₁ ho₁ hterm
    rw [(h.ended early he o₁ ho₁ hterm).1, ← (h.agrees.tracked o before).1] at hterm
    exact live hterm
  refine ⟨h.option, ?_, agrees_follow named after now, fun hf => ?_, fun early he o₁ ho₁ hterm => ?_,
    fun early now₁ u₁ he hb ha => ?_⟩
  · unfold follow
    rw [h.order]
  · exact ⟨_, List.prefix_refl _, Registry.status?_eq_some.mpr ⟨o', after, hf⟩⟩
  · rcases List.prefix_concat_iff.mp he with rfl | he
    · rw [Option.some.inj (ho₁.symm.trans after)]
      exact ⟨rfl, rfl⟩
    · exact absurd hterm (hlive early he o₁ ho₁)
  · obtain ⟨o₁, ho₁, hs₁⟩ := Registry.status?_eq_some.mp ha
    rcases earlier_snoc_iff.mp he with ⟨rfl, hst⟩ | he
    · cases hst
      rw [Option.some.inj (ho₁.symm.trans after)] at hs₁
      exact if_pos hs₁
    · exact absurd (by rw [hs₁]; rfl) (hlive _ he o₁ ho₁)

/-! ## Its trader -/

/-- A promotion lets a live target wait on, hands a filled one to its trader and
drops any other. -/
theorem Followed.promoted (h : s.Followed primary steps target)
    (hun : ¬ s.FilledThenPromoted primary.order.id steps)
    (hreg : (s.run (steps ++ [.promote])).registry = (s.run steps).registry)
    (hpending : (s.run (steps ++ [.promote])).pending.find? primary.order.id =
      (some target).filter (·.order.status.isCancellable)) :
    s.Fate primary (steps ++ [.promote]) ((some target).filter fun t => decide (t.order.status = .filled)).toList := by
  have hk := h.kept .promote (Registry.kept_of_lookup (by rw [hreg]))
  by_cases hc : target.order.status.isCancellable
  · have hnf : target.order.status ≠ .filled := by
      intro hf
      rw [hf] at hc
      cases hc
    refine .waiting hk (hpending.trans ?_) ?_ fun hd => ?_
    · exact Option.filter_eq_some_iff.mpr ⟨rfl, hc⟩
    · simp [Option.filter, hnf]
    · rcases filledThenPromoted_snoc.mp hd with hd | ⟨-, hfilled⟩
      · exact hun hd
      · exact hnf (h.filled_of_hasFilled hfilled)
  · have hterm : target.order.status.isTerminal := by
      by_contra ht
      exact hc (Status.isCancellable_iff.mpr ⟨h.agrees.named, ht⟩)
    refine .settled hk (hpending.trans ?_) hterm ?_ fun hfilled => ?_
    · simp [Option.filter, hc]
    · by_cases hfilled : target.order.status = .filled <;> simp [Option.filter, hfilled]
    · exact filledThenPromoted_snoc.mpr (Or.inr ⟨rfl, h.filled hfilled⟩)

/-- **One step of the run**, with the traders that it puts to work. -/
theorem Fate.step {traders new : List AssistTarget} (h : s.Fate primary steps traders)
    (hid : primary.order.id ∈ (s.run steps).registry.given)
    (hs : Shift primary.order.id (s.run steps) (s.run (steps ++ [st])) st) (hnew : st ≠ .promote → new = [])
    (hready : st = .promote → new = (((s.run steps).pending.find? primary.order.id).filter
      fun t => decide (t.order.status = .filled)).toList) :
    s.Fate primary (steps ++ [st]) (traders ++ new) := by
  cases h with
  | waiting hf hp hnone hun =>
    rename_i target
    subst hnone
    cases hs with
    | taken fresh => exact absurd hid fresh
    | beside hst hpending hk =>
      rw [hnew hst]
      refine .waiting (hf.kept st (hk hid)) (hpending.trans hp) rfl fun hd => ?_
      rcases filledThenPromoted_snoc.mp hd with hd | ⟨he, -⟩
      · exact hun hd
      · exact hst he
    | followed before live after named hpending =>
      rw [hnew (by simp)]
      rw [hp] at hpending
      refine .waiting (hf.followed before live after named) hpending rfl fun hd => ?_
      rcases filledThenPromoted_snoc.mp hd with hd | ⟨he, -⟩
      · exact hun hd
      · cases he
    | promoted hreg hpending =>
      rw [hready rfl, hp, List.nil_append]
      rw [hp] at hpending
      exact hf.promoted hun hreg hpending
  | settled hf hp hend htraders hdue =>
    rename_i target
    have hdue' : target.order.status = .filled → s.FilledThenPromoted primary.order.id (steps ++ [st]) :=
      fun hfilled => filledThenPromoted_snoc.mpr (Or.inl (hdue hfilled))
    cases hs with
    | taken fresh => exact absurd hid fresh
    | beside hst hpending hk =>
      rw [hnew hst, List.append_nil]
      exact .settled (hf.kept st (hk hid)) (hpending.trans hp) hend htraders hdue'
    | followed before live =>
      -- what has ended is not changed any more
      rw [(hf.agrees.tracked _ before).1] at live
      exact absurd hend live
    | promoted hreg hpending =>
      have hk := hf.kept .promote (Registry.kept_of_lookup (by rw [hreg]))
      rw [hp] at hpending
      rw [hready rfl, hp]
      exact .settled hk hpending hend (by rw [htraders]; exact List.append_nil _) hdue'

theorem FilledThenPromoted.hasFilled (h : s.FilledThenPromoted id steps) : s.HasFilled id steps := by
  obtain ⟨before, hb, early, he, hs⟩ := h
  exact ⟨early, he.trans ((List.prefix_append ..).trans hb), hs⟩

theorem served_nil (hd : ¬ s.FilledThenPromoted primary.order.id steps) : s.Served primary steps [] where
  once := Nat.zero_le _
  due := iff_of_false (fun h => h rfl) hd
  ended _ _ _ _ _ _ := rfl
  target t ht := by cases ht
  price t ht := by cases ht
  time t ht := by cases ht

theorem Followed.served (h : s.Followed primary steps target) (hf : target.order.status = .filled)
    (hd : s.FilledThenPromoted primary.order.id steps) : s.Served primary steps [target] where
  once := Nat.le_refl _
  due := iff_of_true (List.cons_ne_nil _ _) hd
  ended early he st hs hterm hne := by
    obtain ⟨o, ho, rfl⟩ := Registry.status?_eq_some.mp hs
    exact absurd ((h.ended early he o ho hterm).1.trans hf) hne
  target t ht := by
    rw [List.mem_singleton.mp ht, ← hf]
    exact ⟨h.option, h.order⟩
  price t ht early he o ho hs := by
    rw [List.mem_singleton.mp ht]
    exact (h.ended early he o ho (by rw [hs]; rfl)).2.symm
  time t ht := by
    rw [List.mem_singleton.mp ht]
    exact h.time

theorem Fate.served {traders : List AssistTarget} (h : s.Fate primary steps traders) :
    s.Served primary steps traders := by
  cases h with
  | waiting hf hp hnone hun =>
    rw [hnone]
    exact served_nil hun
  | settled hf hp hend htraders hdue =>
    rename_i target
    by_cases hfilled : target.order.status = .filled
    · rw [htraders, if_pos hfilled]
      exact hf.served hfilled (hdue hfilled)
    · rw [htraders, if_neg hfilled]
      exact served_nil fun hd => hfilled (hf.filled_of_hasFilled hd.hasFilled)

/-! ## Runs -/

theorem hiredIn_append (s : Session) (xs ys : List Step) :
    s.hiredIn (xs ++ ys) = s.hiredIn xs ++ (s.run xs).hiredIn ys := by
  induction xs generalizing s with
  | nil => rfl
  | cons st xs ih =>
    change s.hired st ++ (s.step st).hiredIn (xs ++ ys) = _
    rw [ih, ← List.append_assoc]
    rfl

theorem Sound.given_hired (h : s.Sound known) (hr : ∀ i, st ≠ .release i) (hn : (s.step st).registry.given.Nodup) :
    ∀ t ∈ s.hired st, t.order.id ∈ s.registry.given := by
  intro t ht
  by_cases hst : st = .promote
  · subst hst
    rw [h.staffed.hired_promote] at ht
    obtain ⟨e, he, rfl⟩ := List.mem_map.mp (List.mem_filter.mp ht).1
    exact (h.staffed.pending e.1 e.2 (Table.mem_entries_iff.mp he)).2.given
  · rw [(shift_step h hr hn "").2 hst] at ht
    cases ht

theorem Sound.given_hiredIn (h : s.Sound known) (hr : ∀ i, Step.release i ∉ steps)
    (hn : (s.run steps).registry.given.Nodup) : ∀ t ∈ s.hiredIn steps, t.order.id ∈ (s.run steps).registry.given := by
  induction steps generalizing s known with
  | nil =>
    intro t ht
    cases ht
  | cons st steps ih =>
    intro t ht
    have hstep : (s.step st).registry.given.Nodup := (given_run (s.step st) steps).sublist.nodup hn
    have hrst : ∀ i, st ≠ .release i := fun i he => hr i (he ▸ List.mem_cons_self ..)
    obtain ⟨known', h'⟩ := h.step hrst hstep
    rcases List.mem_append.mp ht with ht | ht
    · exact (given_run s (st :: steps)).subset (h.given_hired hrst hstep t ht)
    · exact ih h' (fun i hm => hr i (List.mem_cons_of_mem _ hm)) hn t ht

theorem fate_run (h : s.Sound known) (hp : s.pending.find? primary.order.id = some primary)
    (hnamed : primary.order.status ≠ .unknown) (ho : s.registry.lookup primary.order.id = some primary.order)
    (hr : ∀ i, Step.release i ∉ steps) (hn : (s.run steps).registry.given.Nodup) :
    s.Fate primary steps ((s.hiredIn steps).filter (·.order.id = primary.order.id)) := by
  induction steps using List.reverseRecOn with
  | nil =>
    refine .waiting (followed_new hnamed ho) hp rfl ?_
    rintro ⟨before, hb, -⟩
    simp at hb
  | append_singleton steps st ih =>
    have hrst : ∀ i, st ≠ .release i := fun i he => hr i (by rw [he]; simp)
    have hrsteps : ∀ i, Step.release i ∉ steps := fun i hm => hr i (List.mem_append_left _ hm)
    rw [run_snoc] at hn
    have hsteps : (s.run steps).registry.given.Nodup := (given_step (s.run steps) st).sublist.nodup hn
    obtain ⟨known', h'⟩ := h.run hrsteps hsteps
    have hid : primary.order.id ∈ (s.run steps).registry.given := by
      obtain ⟨-, hstart⟩ := h.staffed.pending _ primary hp
      exact (given_run s steps).subset hstart.given
    obtain ⟨hshift, hidle⟩ := shift_step h' hrst hn primary.order.id
    rw [← run_snoc] at hshift
    have hone : (s.run steps).hiredIn [st] = (s.run steps).hired st := List.append_nil _
    rw [hiredIn_append, List.filter_append, hone]
    refine (ih hrsteps hsteps).step hid hshift (fun hst => ?_) fun hst => ?_
    · rw [hidle hst]
      rfl
    · rw [hst, h'.staffed.hired_promote]
      exact h'.staffed.filter_ready primary.order.id

theorem taken_of_assistedOrders {now : UInt64} {c : Command} {ticket : Nat → Ticket}
    (hp : primary ∈ s.assistedOrders now c ticket) (hn : (s.command now c ticket).1.registry.given.Nodup) :
    c.option = some primary.option ∧ Taken s (s.command now c ticket).1 c primary.order := by
  unfold assistedOrders at hp
  unfold command at hp hn ⊢
  cases hoption : c.option with
  | none =>
    rw [hoption] at hp
    cases hp
  | some option =>
    rw [hoption] at hp
    cases hrefuse : (s.admission now).refusal? c with
    | some r =>
      rw [hrefuse] at hp
      cases hp
    | none =>
      rw [hrefuse] at hp hn
      obtain ⟨o, ho, rfl⟩ := List.mem_map.mp hp
      exact ⟨rfl, taken_placeUnits s now c _ hn o ho⟩

theorem taken_of_assisted (hp : primary ∈ s.assisted st) (hn : (s.step st).registry.given.Nodup) :
    st ≠ .promote ∧ ∃ c, c.option = some primary.option ∧ Taken s (s.step st) c primary.order := by
  cases st with
  | text now t ticket =>
    refine ⟨by simp, ?_⟩
    change (s.text now t ticket).registry.given.Nodup at hn
    change ∃ c, _ ∧ Taken s (s.text now t ticket) c _
    simp only [assisted] at hp
    unfold text at hn ⊢
    by_cases hping : t = ping
    · rw [if_pos hping] at hp
      cases hp
    · rw [if_neg hping] at hp hn ⊢
      cases hc : Command.ofText t with
      | error flaw =>
        rw [hc] at hp
        cases hp
      | ok c =>
        rw [hc] at hp hn
        exact ⟨c, taken_of_assistedOrders hp hn⟩
  | _ => cases hp

end

/-- **Every assisted order gets exactly the trader it is owed.** With ids that
the brokerage gives but once, of all traders put to work in a run the ones for an
assisted order are as many as it is owed by what comes after its placement, and
they are given what the registry had of it. After a promotion every target still
pending is tracked, with the same live status. -/
theorem traders_owed (connId : String) (settings : Config.Trade) (hours : Hours) (zone : Zone) {steps : List Step}
    (hr : ∀ i, Step.release i ∉ steps) (hn : ((start connId settings hours zone).run steps).registry.given.Nodup) :
    (∀ before st after, steps = before ++ st :: after →
      ∀ primary ∈ ((start connId settings hours zone).run before).assisted st,
        ((start connId settings hours zone).run (before ++ [st])).Served primary after
          (((start connId settings hours zone).hiredIn steps).filter (·.order.id = primary.order.id))) ∧
    ∀ before after, steps = before ++ .promote :: after → ∀ id target,
      ((start connId settings hours zone).run (before ++ [.promote])).pending.find? id = some target →
      ∃ o, ((start connId settings hours zone).run (before ++ [.promote])).registry.lookup id = some o ∧
        o.status = target.order.status ∧ o.status.isCancellable := by
  have h := sound_start connId settings hours zone
  have hagree : (start connId settings hours zone).InAgreement := fun id target ht => by cases ht
  generalize start connId settings hours zone = s at *
  constructor
  · rintro before st after rfl primary hp
    have hrun : ∀ s : Session, s.run (before ++ st :: after) = (s.run (before ++ [st])).run after := by
      intro s
      rw [List.append_cons]
      exact run_append ..
    rw [hrun] at hn
    have hstep := (given_run (s.run (before ++ [st])) after).sublist.nodup hn
    rw [run_snoc] at hstep
    have hbefore := (given_step (s.run before) st).sublist.nodup hstep
    obtain ⟨known₁, h₁⟩ := h.run (fun i hm => hr i (List.mem_append_left _ hm)) hbefore
    have hrst : ∀ i, st ≠ .release i := fun i he => hr i (by rw [he]; simp)
    obtain ⟨known₂, h₂⟩ := h₁.step hrst hstep
    obtain ⟨hst, c, hoption, htaken⟩ := taken_of_assisted hp hstep
    -- before its placement no trader is put to work for it
    have hearlier : (s.hiredIn before).filter (·.order.id = primary.order.id) = [] := by
      refine List.filter_eq_nil_iff.mpr fun t ht => ?_
      have hgiven := h.given_hiredIn (fun i hm => hr i (List.mem_append_left _ hm)) hbefore t ht
      have hne : t.order.id ≠ primary.order.id := fun he => htaken.fresh (he ▸ hgiven)
      simpa using hne
    have hthen : (s.run before).hired st = [] := (shift_step h₁ hrst hstep primary.order.id).2 hst
    have hall : s.hiredIn (before ++ st :: after) = s.hiredIn before ++ ((s.run before).hired st ++
        ((s.run before).step st).hiredIn after) := hiredIn_append s before (st :: after)
    rw [hall, List.filter_append, hearlier, hthen, List.nil_append, List.nil_append, run_snoc]
    rw [run_snoc] at hn
    refine (fate_run h₂ (htaken.pending _ hoption) htaken.named htaken.tracked (fun i hm => hr i ?_) hn).served
    exact List.mem_append_right _ (List.mem_cons_of_mem _ hm)
  · rintro before after rfl id target ht
    rw [run_snoc] at ht ⊢
    have hbefore := (given_run s before).sublist
    have hn' : (s.run before).registry.given.Nodup := by
      have hrun : s.run (before ++ .promote :: after) = (s.run before).run (.promote :: after) := run_append ..
      rw [hrun] at hn
      exact (given_run (s.run before) _).sublist.nodup hn
    exact (hagree.run h (fun i hm => hr i (List.mem_append_left _ hm)) hn').tracked_promote ht

def threeAssisted : Step :=
  .text 1000 ("\x7b\"instrumentCode\":\"MXFL1\",\"action\":\"Buy\",\"price\":100,\"quantity\":3," ++
      "\"automationOption\":\x7b\"automationType\":\"ByTimePeriod\",\"byTimePeriodSecs\":5\x7d\x7d")
    fun k => ⟨"g" ++ toString (k + 1),
      .reply { orderId := "p" ++ toString (k + 1), status := if k = 2 then .filled else .submitted }⟩

/-- The first unit fills, the second is cancelled, and all are swept before the
promotion. -/
def sweptBeforePromotion : List Step :=
  [.status 1500 ⟨"p1", .filled, 0, some 101⟩, .status 1600 ⟨"p2", .cancelled, 0, none⟩,
   .supervise 1700 fun _ => .failure "down", .promote, .promote]

theorem traders_owed_sweptBeforePromotion :
    ((start "conn-1" {} .alwaysOpen).run (threeAssisted :: sweptBeforePromotion)).registry.given = ["p1", "p2", "p3"] ∧
      ((start "conn-1" {} .alwaysOpen).assisted threeAssisted).map (·.order.id) = ["p1", "p2", "p3"] ∧
      ((start "conn-1" {} .alwaysOpen).hiredIn (threeAssisted :: sweptBeforePromotion)).map
        (fun t => (t.order.id, t.order.tradeTime)) = [("p1", 1500), ("p3", 1000)] ∧
      ∀ primary ∈ (start "conn-1" {} .alwaysOpen).assisted threeAssisted,
        ((start "conn-1" {} .alwaysOpen).run [threeAssisted]).Served primary sweptBeforePromotion
          (((start "conn-1" {} .alwaysOpen).hiredIn (threeAssisted :: sweptBeforePromotion)).filter
            (·.order.id = primary.order.id)) := by
  obtain ⟨hgiven, hassisted, hhired⟩ :
      ((start "conn-1" {} .alwaysOpen).run (threeAssisted :: sweptBeforePromotion)).registry.given =
          ["p1", "p2", "p3"] ∧
        ((start "conn-1" {} .alwaysOpen).assisted threeAssisted).map (·.order.id) = ["p1", "p2", "p3"] ∧
        ((start "conn-1" {} .alwaysOpen).hiredIn (threeAssisted :: sweptBeforePromotion)).map
          (fun t => (t.order.id, t.order.tradeTime)) = [("p1", 1500), ("p3", 1000)] := by decide +kernel
  have hr : ∀ i, Step.release i ∉ threeAssisted :: sweptBeforePromotion := by
    simp [threeAssisted, sweptBeforePromotion]
  have h := traders_owed "conn-1" {} .alwaysOpen .utc hr (by rw [hgiven]; decide)
  exact ⟨hgiven, hassisted, hhired, h.1 [] threeAssisted sweptBeforePromotion rfl⟩

end Session

end FuturesDesk
