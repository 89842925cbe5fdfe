import FuturesDesk.Proofs.TickLanes

/-!
# Ticks fan out

A tick is pushed to the client and offered to every open queue. Of each queue
there is a history of its own: the ticks offered, whether it was listening, and
the ticks its trader took. What it gets is a matter of this history alone.
-/

namespace FuturesDesk

/-- What a queue by itself notices: a tick was offered, while it was `listening`
or not, or its trader took the next one. -/
inductive Beat where
  | offer (t : Tick) (listening : Bool)
  | take

namespace Beat

def gain (held : List Tick) : Beat → List Tick
  | .offer t listening => if listening && held.length < Session.queueCapacity then [t] else []
  | .take => []

def loss (held : List Tick) : Beat → List Tick
  | .offer .. => []
  | .take => held.head?.toList

def after (held : List Tick) : Beat → List Tick
  | .offer t listening => held ++ gain held (.offer t listening)
  | .take => held.tail

def gained (held : List Tick) : List Beat → List Tick
  | [] => []
  | b :: bs => b.gain held ++ gained (b.after held) bs

def lost (held : List Tick) : List Beat → List Tick
  | [] => []
  | b :: bs => b.loss held ++ lost (b.after held) bs

theorem loss_append_after (held : List Tick) (b : Beat) : b.loss held ++ b.after held = held ++ b.gain held := by
  cases b with
  | offer t listening => rfl
  | take => cases held <;> simp [loss, after, gain]

/-- What gets into a queue either gets out again or stays. -/
theorem append_gained (held : List Tick) (bs : List Beat) :
    held ++ gained held bs = lost held bs ++ bs.foldl after held := by
  induction bs generalizing held with
  | nil => simp [gained, lost]
  | cons b bs ih =>
    simp only [gained, lost, List.foldl_cons, List.append_assoc]
    rw [← ih, ← List.append_assoc, ← loss_append_after, List.append_assoc]

theorem gained_append (held : List Tick) (bs bs' : List Beat) :
    gained held (bs ++ bs') = gained held bs ++ gained (bs.foldl after held) bs' := by
  induction bs generalizing held with
  | nil => rfl
  | cons b bs ih => simp [gained, ih]

theorem lost_append (held : List Tick) (bs bs' : List Beat) :
    lost held (bs ++ bs') = lost held bs ++ lost (bs.foldl after held) bs' := by
  induction bs generalizing held with
  | nil => rfl
  | cons b bs ih => simp [lost, ih]

theorem length_after (held : List Tick) (b : Beat) (h : held.length ≤ Session.queueCapacity) :
    (b.after held).length ≤ Session.queueCapacity := by
  cases b with
  | offer t listening =>
    simp only [after, gain]
    by_cases hroom : listening ∧ held.length < Session.queueCapacity
    · simp only [hroom, decide_true, Bool.and_self, if_true, List.length_append, List.length_singleton]
      omega
    · simpa [hroom] using h
  | take =>
    rw [after, List.length_tail]
    omega

theorem length_foldl_after (held : List Tick) (bs : List Beat) (h : held.length ≤ Session.queueCapacity) :
    (bs.foldl after held).length ≤ Session.queueCapacity := by
  induction bs generalizing held with
  | nil => exact h
  | cons b bs ih => exact ih _ (length_after held b h)

theorem idle {bs : List Beat} (h : ∀ b ∈ bs, ∃ t, b = .offer t false) (held : List Tick) :
    gained held bs = [] ∧ lost held bs = [] ∧ bs.foldl after held = held := by
  induction bs with
  | nil => exact ⟨rfl, rfl, rfl⟩
  | cons b bs ih =>
    obtain ⟨t, rfl⟩ := h b (List.mem_cons_self ..)
    have hsame : (Beat.offer t false).after held = held := by simp [after, gain]
    obtain ⟨hgained, hlost, hafter⟩ := ih fun b hb => h b (List.mem_cons_of_mem _ hb)
    rw [gained, lost, List.foldl_cons, hsame]
    exact ⟨by simp [gain, hgained], by simp [loss, hlost], hafter⟩

end Beat

namespace Session

inductive Act where
  | step (st : Step)
  | hire (target : AssistTarget)

def act (s : Session) : Act → Session
  | .step st => s.step st
  | .hire target => s.startAssist target

def perform (s : Session) (acts : List Act) : Session := acts.foldl act s

def Act.tick? : Act → Option Tick
  | .step (.tick t) => some t
  | _ => none

def beat? (s : Session) (i : Nat) : Act → Option Beat
  | .step (.tick t) => some (.offer t (s.listens i))
  | .step (.traderTick j _ _) => if j = i ∧ (s.lane i).isSome then some .take else none
  | _ => none

def beats (s : Session) (i : Nat) : List Act → List Beat
  | [] => []
  | a :: acts => (s.beat? i a).toList ++ (s.act a).beats i acts

def entering (s : Session) (i : Nat) : Act → List Tick
  | .step (.tick t) => if s.listens i ∧ ((s.lane i).getD []).length < queueCapacity then [t] else []
  | _ => []

def leaving (s : Session) (i : Nat) : Act → List Tick
  | .step (.traderTick j _ _) => if j = i then ((s.lane i).getD []).head?.toList else []
  | _ => []

def entered (s : Session) (i : Nat) : List Act → List Tick
  | [] => []
  | a :: acts => s.entering i a ++ (s.act a).entered i acts

def left (s : Session) (i : Nat) : List Act → List Tick
  | [] => []
  | a :: acts => s.leaving i a ++ (s.act a).left i acts

/-- How the ticks of a run get to the client and to the traders. What a queue
gets is a matter of its own history: neither what waits in the others nor what
becomes of them has a part in it. -/
structure FansOut (s : Session) (acts : List Act) : Prop where
  told : (s.perform acts).told = acts.filterMap Act.tick?
  ordered : ∀ i, List.Sublist (s.entered i acts) (acts.filterMap Act.tick?)
  bounded : ∀ i held, (s.perform acts).lane i = some held → held.length ≤ queueCapacity
  taken : ∀ i, ∃ rest, s.entered i acts = s.left i acts ++ rest ∧
    ∀ held, (s.perform acts).lane i = some held → rest = held
  alone : ∀ i, s.entered i acts = Beat.gained [] (s.beats i acts) ∧ s.left i acts = Beat.lost [] (s.beats i acts)
  grows : ∀ i t, ((s.perform acts).tick t).lane i =
    ((s.perform acts).lane i).map (· ++ (s.perform acts).entering i (.step (.tick t)))
  distinct : (s.perform acts).queues.values.Nodup
  counted : ∀ t, (s.perform acts).takers =
    (s.perform acts).queues.values.countP fun i => !((s.perform acts).entering i (.step (.tick t))).isEmpty

section
variable {s s' : Session} {i : Nat}

/-! ## Steps -/

/-- What a step comes to: the client is told of the tick, and every queue is as
its history says, unless its trader leaves or starts. -/
structure Passes (s s' : Session) (a : Act) : Prop where
  told : s'.told = s.told ++ a.tick?.toList
  nextId : s.floor.bus.nextId ≤ s'.floor.bus.nextId
  manned : s.Manned → s'.Manned
  lane : s.Manned → ∀ i, s'.lane i = (s.lane i).map (fun held => (s.beat? i a).toList.foldl Beat.after held) ∨
    s'.lane i = none ∨ s.floor.bus.nextId ≤ i ∧ s'.lane i = some []

theorem Tickless.passes (h : Tickless s s') {a : Act} (ht : a.tick? = none) (hb : ∀ i, s.beat? i a = none) :
    Passes s s' a where
  told := by rw [h.told, ht]; simp
  nextId := h.nextId
  manned := h.manned
  lane hm i := by
    rw [hb]
    simpa using h.lane hm i

theorem passes_tick (s : Session) (t : Tick) : Passes s (s.tick t) (.step (.tick t)) where
  told := by
    have hout : (s.tick t).out = s.out ++ [.message (.tick t)] := rfl
    unfold told
    rw [hout, List.filterMap_append]
    rfl
  nextId := Nat.le_refl _
  manned h := by
    refine h.frame (Nat.le_refl _) ?_ (List.Sublist.refl _)
    change List.Sublist ((s.offer t).traders.map _) _
    rw [traders_offer]
  lane _ i := by
    left
    change (s.offer t).lane i = _
    rw [lane_offer]
    congr 1
    funext held
    simp only [beat?, Option.toList_some, List.foldl_cons, List.foldl_nil, Beat.after, Beat.gain]
    split <;> simp

theorem passes_traderTick (s : Session) (j : Nat) (now : UInt64) (answer : Answer) :
    Passes s (s.traderTick j now answer) (.step (.traderTick j now answer)) := by
  obtain ⟨htold, hnext, hmanned⟩ := keeps_traderTick s j now answer
  refine ⟨by simp [htold, Act.tick?], hnext, hmanned, fun _ i => ?_⟩
  rcases lane_traderTick s j now answer i with he | he
  · left
    rw [he]
    by_cases hi : i = j
    · subst hi
      cases hl : s.lane i with
      | none => simp
      | some held => simp [beat?, hl, Beat.after]
    · have hji : j ≠ i := Ne.symm hi
      simp [beat?, hi, hji]
  · exact Or.inr (Or.inl he)

theorem passes_act (s : Session) (a : Act) : Passes s (s.act a) a := by
  cases a with
  | hire target => exact (tickless_startAssist s target).passes rfl fun _ => rfl
  | step st =>
    cases st with
    | text now t ticket => exact (tickless_text s now t ticket).passes rfl fun _ => rfl
    | status now u => exact (tickless_status s now u).passes rfl fun _ => rfl
    | tick t => exact passes_tick s t
    | prune =>
      have hsame : Tickless s s.prune := .of_same rfl (Nat.le_refl _) rfl rfl
      exact hsame.passes rfl fun _ => rfl
    | promote => exact (tickless_promote s).passes rfl fun _ => rfl
    | supervise now answer => exact (tickless_supervise s now answer).passes rfl fun _ => rfl
    | release primary => exact (tickless_release s primary).passes rfl fun _ => rfl
    | openRelay =>
      have hsame : Tickless s s.openRelay := .of_same rfl (Nat.le_succ _) rfl rfl
      exact hsame.passes rfl fun _ => rfl
    | relay inbox => exact (tickless_relay s inbox).passes rfl fun _ => rfl
    | traderTick j now answer => exact passes_traderTick s j now answer
    | traderEvent j => exact (tickless_traderEvent s j).passes rfl fun _ => rfl

/-! ## Histories -/

theorem entering_eq (s : Session) (i : Nat) (a : Act) :
    s.entering i a = Beat.gained ((s.lane i).getD []) (s.beat? i a).toList := by
  cases a with
  | hire target => rfl
  | step st =>
    cases st with
    | tick t => simp [entering, beat?, Beat.gained, Beat.gain]
    | traderTick j now answer =>
      unfold entering beat?
      dsimp only
      split <;> rfl
    | text | status | prune | promote | supervise | release | openRelay | relay | traderEvent => rfl

theorem leaving_eq (s : Session) (i : Nat) (a : Act) :
    s.leaving i a = Beat.lost ((s.lane i).getD []) (s.beat? i a).toList := by
  cases a with
  | hire target => rfl
  | step st =>
    cases st with
    | tick t => rfl
    | traderTick j now answer =>
      unfold leaving beat?
      dsimp only
      by_cases hj : j = i
      · cases hl : s.lane i with
        | none => simp [hj, Beat.lost]
        | some held => simp [hj, Beat.lost, Beat.loss]
      · simp [hj, Beat.lost]
    | text | status | prune | promote | supervise | release | openRelay | relay | traderEvent => rfl

theorem beat?_of_lane_none (h : s.lane i = none) (a : Act) : ∀ b ∈ (s.beat? i a).toList, ∃ t, b = .offer t false := by
  intro b hb
  cases a with
  | hire target => simp [beat?] at hb
  | step st =>
    cases st with
    | tick t => exact ⟨t, by simpa [beat?, listens, h] using hb⟩
    | traderTick j now answer => simp [beat?, h] at hb
    | text | status | prune | promote | supervise | release | openRelay | relay | traderEvent => simp [beat?] at hb

theorem gone (hm : s.Manned) (hn : s.lane i = none) (hi : i < s.floor.bus.nextId) (acts : List Act) :
    (s.perform acts).lane i = none ∧ ∀ b ∈ s.beats i acts, ∃ t, b = .offer t false := by
  induction acts generalizing s with
  | nil => exact ⟨hn, by simp [beats]⟩
  | cons a acts ih =>
    have hpass := passes_act s a
    have hn' : (s.act a).lane i = none := by
      rcases hpass.lane hm i with he | he | ⟨hle, -⟩
      · rw [he, hn]
        rfl
      · exact he
      · omega
    obtain ⟨hlane, hbeats⟩ := ih (hpass.manned hm) hn' (Nat.lt_of_lt_of_le hi hpass.nextId)
    refine ⟨hlane, fun b hb => ?_⟩
    rcases List.mem_append.mp hb with hb | hb
    · exact beat?_of_lane_none hn a b hb
    · exact hbeats b hb

theorem entered_left_eq (hm : s.Manned) (acts : List Act) :
    s.entered i acts = Beat.gained ((s.lane i).getD []) (s.beats i acts) ∧
      s.left i acts = Beat.lost ((s.lane i).getD []) (s.beats i acts) ∧
      ∀ held, (s.perform acts).lane i = some held → held = (s.beats i acts).foldl Beat.after ((s.lane i).getD []) := by
  induction acts generalizing s with
  | nil =>
    refine ⟨rfl, rfl, fun held hl => ?_⟩
    have hlane : s.lane i = some held := hl
    rw [hlane]
    rfl
  | cons a acts ih =>
    have hpass := passes_act s a
    obtain ⟨hentered, hleft, hheld⟩ := ih (hpass.manned hm)
    have hbeats : s.beats i (a :: acts) = (s.beat? i a).toList ++ (s.act a).beats i acts := rfl
    rw [entered, left, hbeats, Beat.gained_append, Beat.lost_append, entering_eq, leaving_eq, List.foldl_append,
      hentered, hleft]
    by_cases hsame : ((s.act a).lane i).getD [] = (s.beat? i a).toList.foldl Beat.after ((s.lane i).getD [])
    · rw [← hsame]
      exact ⟨rfl, rfl, hheld⟩
    · -- otherwise the trader of the queue has left
      have hnone : (s.act a).lane i = none ∧ i < (s.act a).floor.bus.nextId := by
        have hidle := fun h : s.lane i = none => (Beat.idle (beat?_of_lane_none h a) []).2.2
        have hlt : s.lane i ≠ none → i < s.floor.bus.nextId := fun h =>
          Nat.lt_of_not_le fun hle => h (lane_of_le hm hle)
        rcases hpass.lane hm i with he | he | ⟨hle, he⟩
        · cases hl : s.lane i with
          | none =>
            rw [he, hl] at hsame
            exact absurd (hidle hl).symm (by simpa [hl] using hsame)
          | some held =>
            rw [he, hl] at hsame
            exact absurd rfl hsame
        · by_cases hl : s.lane i = none
          · rw [he, hl] at hsame
            exact absurd (hidle hl).symm hsame
          · exact ⟨he, Nat.lt_of_lt_of_le (hlt hl) hpass.nextId⟩
        · have hl := lane_of_le hm hle
          rw [he, hl] at hsame
          exact absurd (hidle hl).symm hsame
      obtain ⟨hgone, hidle⟩ := gone (hpass.manned hm) hnone.1 hnone.2 acts
      refine ⟨?_, ?_, fun held hl => ?_⟩
      · rw [(Beat.idle hidle _).1, (Beat.idle hidle _).1]
      · rw [(Beat.idle hidle _).2.1, (Beat.idle hidle _).2.1]
      · have hl' : (s.act a |>.perform acts).lane i = some held := hl
        rw [hgone] at hl'
        cases hl'

/-! ## Runs -/

theorem manned_start (connId : String) (settings : Config.Trade) (hours : Hours) (zone : Zone) :
    (start connId settings hours zone).Manned where
  inboxes := List.nodup_nil
  given w hw := by cases hw
  queues := List.nodup_nil
  opened i hi := by cases hi

theorem manned_perform (hm : s.Manned) (acts : List Act) : (s.perform acts).Manned := by
  induction acts generalizing s with
  | nil => exact hm
  | cons a acts ih => exact ih ((passes_act s a).manned hm)

theorem told_perform (s : Session) (acts : List Act) :
    (s.perform acts).told = s.told ++ acts.filterMap Act.tick? := by
  induction acts generalizing s with
  | nil => exact (List.append_nil _).symm
  | cons a acts ih =>
    change ((s.act a).perform acts).told = _
    rw [ih, (passes_act s a).told, List.append_assoc]
    cases ht : a.tick? <;> simp [ht]

theorem entered_sublist (s : Session) (i : Nat) (acts : List Act) :
    List.Sublist (s.entered i acts) (acts.filterMap Act.tick?) := by
  induction acts generalizing s with
  | nil => exact List.Sublist.refl _
  | cons a acts ih =>
    have hone : List.Sublist (s.entering i a) a.tick?.toList := by
      unfold entering Act.tick?
      split
      · split
        · exact List.Sublist.refl _
        · exact List.nil_sublist _
      · exact List.nil_sublist _
    have hsplit : (a :: acts).filterMap Act.tick? = a.tick?.toList ++ acts.filterMap Act.tick? := by
      cases ht : a.tick? <;> simp [ht]
    rw [hsplit]
    exact hone.append (ih (s.act a))

theorem lane_tick (s : Session) (t : Tick) (i : Nat) :
    (s.tick t).lane i = (s.lane i).map (· ++ s.entering i (.step (.tick t))) := by
  change (s.offer t).lane i = _
  rw [lane_offer]
  cases hl : s.lane i with
  | none => rfl
  | some held =>
    simp only [entering, hl, Option.map_some, Option.getD_some, Bool.and_eq_true, decide_eq_true_eq]
    split <;> simp

theorem takers_eq (hm : s.Manned) (t : Tick) :
    s.takers = s.queues.values.countP fun i => !(s.entering i (.step (.tick t))).isEmpty := by
  unfold takers
  rw [← List.countP_eq_length_filter]
  apply List.countP_congr
  intro i hi
  have hfound : ∀ w ∈ s.workers, w.trader.inbox = i → s.worker? i = some w := by
    intro w hw hwi
    cases hfind : s.worker? i with
    | none => exact absurd hwi (by simpa using List.find?_eq_none.mp hfind w hw)
    | some v =>
      have hinboxes : (s.workers.map (·.trader.inbox)).Nodup := by
        simpa [traders, List.map_map, Function.comp_def] using hm.inboxes
      have hv := List.inj_on_of_nodup_map hinboxes (mem_of_worker? hfind) hw ((inbox_of_worker? hfind).trans hwi.symm)
      rw [hv]
  have hany : s.workers.any (takes i) ↔ ∃ w, s.worker? i = some w ∧ w.ticks.length < queueCapacity := by
    simp only [List.any_eq_true, takes, Bool.and_eq_true, beq_iff_eq, decide_eq_true_eq]
    constructor
    · rintro ⟨w, hw, hwi, hroom⟩
      exact ⟨w, hfound w hw hwi, hroom⟩
    · rintro ⟨w, hw, hroom⟩
      exact ⟨w, mem_of_worker? hw, inbox_of_worker? hw, hroom⟩
  rw [hany]
  unfold entering listens lane
  cases hw : s.worker? i with
  | none => simp
  | some w =>
    by_cases hroom : w.ticks.length < queueCapacity <;> simp [hi, hroom]

end

/-- **Ticks fan out in order, and each queue by itself.** The client is pushed
every tick once and in order. A queue gets exactly the ticks offered while it
was open and had room and its trader was at work, in order; its trader takes
them in that order, and the rest is what waits in the queue. How many queues
took a tick is the number of those it got into. -/
theorem ticks_fan_out (connId : String) (settings : Config.Trade) (hours : Hours) (zone : Zone) (acts : List Act) :
    (start connId settings hours zone).FansOut acts := by
  have hm := manned_start connId settings hours zone
  have hm' := manned_perform hm acts
  have hown := fun i => entered_left_eq (i := i) hm acts
  refine ⟨told_perform _ acts, fun i => entered_sublist _ i acts, fun i held hl => ?_, fun i => ?_, fun i => ?_,
    fun i t => lane_tick _ t i, hm'.queues, fun t => takers_eq hm' t⟩
  · rw [(hown i).2.2 held hl]
    exact Beat.length_foldl_after _ _ (Nat.zero_le _)
  · obtain ⟨hentered, hleft, hheld⟩ := hown i
    refine ⟨_, ?_, fun held hl => (hheld held hl).symm⟩
    rw [hentered, hleft]
    exact Beat.append_gained [] _
  · exact ⟨(hown i).1, (hown i).2.1⟩

/-- A queue opens, hands on the two ticks that come until its position is closed,
and misses the one that comes after. -/
example :
    let s := start "conn-1" {} .alwaysOpen
    let acts := (closedPosition ++ [Step.tick { time := 9800, close := 102 }]).map Act.step
    (s.entered 1 acts).map (·.time) = [9000, 9600] ∧ (s.left 1 acts).map (·.time) = [9000, 9600] ∧
      (s.perform acts).told.map (·.time) = [9000, 9600, 9800] ∧ (s.perform acts).queues.size = 0 := by
  decide +kernel

end Session

end FuturesDesk
