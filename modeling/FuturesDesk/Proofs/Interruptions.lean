import FuturesDesk.Desk.Underway
import FuturesDesk.Proofs.AssistSignals
import FuturesDesk.Proofs.OrderFrames
import FuturesDesk.Proofs.WaitingOrders

/-!
# Interrupted commands and sweeps

Updates, ticks and housekeeping may come between the units of a command and
between the cancels of a sweep. What the client is shown of its orders, the
waiting list and the order in flight are as they are after whole steps. The
signals of assistance need one thing more, ids given but once. And an order that
was marked is cancelled, whatever is heard of it before its turn.
-/

namespace FuturesDesk

namespace Underway

open Session Status

section
variable {u : Underway} {known : String → Option Status} {m : Move} {r : Nat} {id : String}

/-! ## Whole steps as moves -/

theorem run_append (u : Underway) (before after : List Move) : u.run (before ++ after) = (u.run before).run after :=
  List.foldl_append ..

theorem run_snoc (u : Underway) (moves : List Move) (m : Move) : u.run (moves ++ [m]) = (u.run moves).move m :=
  run_append ..

theorem run_units (now : UInt64) (c : Command) (tickets : List Ticket) {u : Underway}
    (h : u.units = List.replicate tickets.length c) :
    u.run (tickets.map (.unit now ·)) = { u with session := (u.session.placeUnits now c tickets).1, units := [] } := by
  induction tickets generalizing u with
  | nil =>
    obtain ⟨s, units, cancels, events⟩ := u
    cases h
    rfl
  | cons ticket tickets ih =>
    rw [List.length_cons, List.replicate_succ] at h
    have hmove : u.move (.unit now ticket) =
        { u with
          session := (u.session.placeUnit now c ticket).1
          units := List.replicate tickets.length c } := by
      change u.unit now ticket = _
      rw [unit, h]
    rw [List.map_cons, run, List.foldl_cons, hmove]
    exact ih rfl

/-- A text whose units nothing interrupts is a whole step. -/
theorem run_read (h : u.units = []) (now : UInt64) (t : String) (ticket : Nat → Ticket) :
    u.run (.read now t :: (List.range (u.read now t).units.length).map fun k => .unit now (ticket k)) =
      { u with session := u.session.text now t ticket } := by
  obtain ⟨s, units, cancels, events⟩ := u
  cases h
  change (Underway.read ⟨s, [], cancels, events⟩ now t).run _ = _
  unfold read text
  simp only [List.isEmpty_nil, Bool.not_true, Bool.false_eq_true, if_false]
  by_cases hp : t = ping
  · simp only [if_pos hp]
    rfl
  · simp only [if_neg hp]
    cases hread : Command.ofText t with
    | error flaw => rfl
    | ok c =>
      dsimp only
      rw [command]
      cases hr : (s.admission now).refusal? c with
      | some reason => rfl
      | none =>
        dsimp only
        rw [List.length_replicate]
        have hunits : ((List.range (unitCount c)).map ticket).map (Move.unit now ·) =
            (List.range (unitCount c)).map fun k => .unit now (ticket k) := List.map_map ..
        rw [← hunits]
        exact run_units now c _ (by simp)

theorem run_cancels (answer : String → Answer) (u : Underway) :
    u.report.run (u.cancels.map fun id => .cancel (answer id)) =
      { u with
        session := ((u.events ++ (u.session.registry.settleAll answer u.cancels).2).filterMap SweepEvent.frame?).foldl
          push (u.session.setRegistry (u.session.registry.settleAll answer u.cancels).1)
        cancels := []
        events := [] } := by
  obtain ⟨s, units, cancels, events⟩ := u
  induction cancels generalizing s events with
  | nil =>
    dsimp only [Registry.settleAll]
    rw [List.append_nil]
    rfl
  | cons id ids ih =>
    refine (ih (s.setRegistry (s.registry.settle id (answer id)).1)
      (events ++ [(s.registry.settle id (answer id)).2])).trans ?_
    dsimp only
    rw [List.append_assoc]
    rfl

/-- A sweep whose cancels nothing interrupts is a whole step. -/
theorem run_sweep (h : u.cancels = []) (he : u.events = []) (now : UInt64) (answer : String → Answer) :
    u.run (.sweep now :: (u.session.registry.evict.overdue now).map fun id => .cancel (answer id)) =
      { u with session := u.session.supervise now answer } := by
  obtain ⟨s, units, cancels, events⟩ := u
  cases h
  cases he
  change (Underway.sweep ⟨s, units, [], []⟩ now).run _ = _
  unfold sweep
  simp only [List.isEmpty_nil, Bool.not_true, Bool.false_eq_true, if_false]
  exact run_cancels answer _

theorem exists_moves (s : Session) (steps : List Step) :
    ∃ moves, s.atRest.run moves = (s.run steps).atRest := by
  induction steps generalizing s with
  | nil => exact ⟨[], rfl⟩
  | cons st steps ih =>
    have hstep : ∃ moves, s.atRest.run moves = (s.step st).atRest := by
      cases st with
      | text now t ticket => exact ⟨_, run_read rfl now t ticket⟩
      | supervise now answer => exact ⟨_, run_sweep rfl rfl now answer⟩
      | status now u => exact ⟨[.whole (.status now u)], rfl⟩
      | tick t => exact ⟨[.whole (.tick t)], rfl⟩
      | prune => exact ⟨[.whole .prune], rfl⟩
      | promote => exact ⟨[.whole .promote], rfl⟩
      | release primary => exact ⟨[.whole (.release primary)], rfl⟩
      | openRelay => exact ⟨[.whole .openRelay], rfl⟩
      | relay inbox => exact ⟨[.whole (.relay inbox)], rfl⟩
      | traderTick inbox now answer => exact ⟨[.whole (.traderTick inbox now answer)], rfl⟩
      | traderEvent inbox => exact ⟨[.whole (.traderEvent inbox)], rfl⟩
    obtain ⟨first, hfirst⟩ := hstep
    obtain ⟨rest, hrest⟩ := ih (s.step st)
    refine ⟨first ++ rest, ?_⟩
    rw [run_append, hfirst]
    exact hrest

/-! ## Moves -/

def update? (u : Underway) (id : String) : Move → Option Status
  | .whole st => u.session.update? id st
  | _ => none

def delivery? (u : Underway) (id : String) : Move → Option Status
  | .whole st => u.session.delivery? id st
  | _ => none

def unassisted (u : Underway) : Move → List Order
  | .unit now ticket =>
    match u.units with
    | [] => []
    | c :: _ => alone c (u.session.placeUnit now c ticket).2.toList
  | _ => []

/-- A move that places no unit and makes no whole step: ended orders may be let
go, and the client may be told something. -/
structure Beside (u : Underway) (m : Move) : Prop where
  update : ∀ id, u.update? id m = none
  delivery : ∀ id, u.delivery? id m = none
  unassisted : u.unassisted m = []
  unpruned : m ≠ .whole .prune
  session : ∃ r fs, u.session.registry.Sheds r ∧ (∀ f ∈ fs, f.order? = none ∧ f.assist? = none) ∧
    (u.move m).session = { u.session.setRegistry r with out := u.session.out ++ fs }

theorem exists_told {s s' : Session} {f : Frame} (hf : f.order? = none ∧ f.assist? = none) (h : s' = s.push f) :
    ∃ r fs, s.registry.Sheds r ∧ (∀ f ∈ fs, f.order? = none ∧ f.assist? = none) ∧
      s' = { s.setRegistry r with out := s.out ++ fs } :=
  ⟨s.registry, [f], Registry.sheds_refl _, by simpa using hf, h⟩

theorem exists_same (s : Session) : ∃ r fs, s.registry.Sheds r ∧
    (∀ f ∈ fs, f.order? = none ∧ f.assist? = none) ∧ s = { s.setRegistry r with out := s.out ++ fs } := by
  refine ⟨s.registry, [], Registry.sheds_refl _, by simp, ?_⟩
  rw [List.append_nil]
  rfl

theorem session_report (u : Underway) : ∃ fs, (∀ f ∈ fs, f.order? = none ∧ f.assist? = none) ∧
    u.report.session = { u.session with out := u.session.out ++ fs } := by
  unfold report
  split
  · refine ⟨_, fun f hf => ?_, foldl_push ..⟩
    obtain ⟨text, rfl⟩ := error_of_mem_frames hf
    exact ⟨rfl, rfl⟩
  · refine ⟨[], by simp, ?_⟩
    rw [List.append_nil]

/-- What a move is to the session: a unit, a whole step, or neither. -/
theorem move_cases (u : Underway) (m : Move) :
    (∃ now ticket c units, m = .unit now ticket ∧ u.units = c :: units ∧
      (u.move m).session = (u.session.placeUnit now c ticket).1) ∨
    (∃ st, m = .whole st ∧ (∀ now t ticket, st ≠ .text now t ticket) ∧ u.session.unassisted st = [] ∧
      (u.move m).session = u.session.step st) ∨
    u.Beside m := by
  cases m with
  | read now t =>
    refine Or.inr (Or.inr ⟨fun _ => rfl, fun _ => rfl, rfl, by simp, ?_⟩)
    change ∃ r fs, _ ∧ _ ∧ (u.read now t).session = _
    unfold read
    split
    · exact exists_same _
    · split
      · exact exists_told ⟨rfl, rfl⟩ rfl
      · split
        · exact exists_told ⟨rfl, rfl⟩ rfl
        · split
          · exact exists_told ⟨rfl, rfl⟩ rfl
          · exact exists_same _
  | unit now ticket =>
    cases hu : u.units with
    | nil =>
      have hmove : u.move (.unit now ticket) = u := by
        change u.unit now ticket = u
        rw [unit, hu]
      refine Or.inr (Or.inr ⟨fun _ => rfl, fun _ => rfl, ?_, by simp, ?_⟩)
      · simp only [unassisted, hu]
      · rw [hmove]
        exact exists_same _
    | cons c units =>
      refine Or.inl ⟨now, ticket, c, units, rfl, rfl, ?_⟩
      change (u.unit now ticket).session = _
      rw [unit, hu]
  | sweep now =>
    refine Or.inr (Or.inr ⟨fun _ => rfl, fun _ => rfl, rfl, by simp, ?_⟩)
    change ∃ r fs, _ ∧ _ ∧ (u.sweep now).session = _
    unfold sweep
    split
    · exact exists_same _
    · obtain ⟨fs, hf, he⟩ := session_report
        { u with
          session := u.session.setRegistry
            ((u.session.registry.evict.overdue now).foldl Registry.mark u.session.registry.evict)
          cancels := u.session.registry.evict.overdue now
          events := u.session.registry.ended.map .evicted }
      exact ⟨_, fs, Registry.sheds_marked _ _, hf, he⟩
  | cancel answer =>
    refine Or.inr (Or.inr ⟨fun _ => rfl, fun _ => rfl, rfl, by simp, ?_⟩)
    change ∃ r fs, _ ∧ _ ∧ (u.cancel answer).session = _
    unfold cancel
    split
    · exact exists_same _
    · rename_i id cancels _
      obtain ⟨fs, hf, he⟩ := session_report
        { u with
          session := u.session.setRegistry (u.session.registry.settle id answer).1
          cancels
          events := u.events ++ [(u.session.registry.settle id answer).2] }
      exact ⟨_, fs, Registry.sheds_settle _ id answer, hf, he⟩
  | whole st =>
    cases st with
    | text _ _ _ | supervise _ _ =>
      exact Or.inr (Or.inr ⟨fun _ => rfl, fun _ => rfl, rfl, by simp, exists_same _⟩)
    | _ => exact Or.inr (Or.inl ⟨_, rfl, by simp, rfl, rfl⟩)

theorem given_move (u : Underway) (m : Move) : u.session.registry.given <+: (u.move m).session.registry.given := by
  rcases u.move_cases m with ⟨now, ticket, c, units, -, -, he⟩ | ⟨st, -, -, -, he⟩ | hb
  · rw [he, (filed_placeUnit u.session now c ticket).given]
    exact List.prefix_append ..
  · rw [he]
    exact given_step ..
  · obtain ⟨r, fs, hs, -, he⟩ := hb.session
    have hgiven : (u.move m).session.registry.given = u.session.registry.given := by
      rw [he]
      exact hs.given
    exact hgiven ▸ List.prefix_refl _

theorem given_run (u : Underway) (moves : List Move) :
    u.session.registry.given <+: (u.run moves).session.registry.given := by
  induction moves generalizing u with
  | nil => exact List.prefix_refl _
  | cons m moves ih => exact (u.given_move m).trans (ih _)

theorem sound_move (h : u.session.Sound known) (hr : ∀ i, m ≠ .whole (.release i))
    (hn : (u.move m).session.registry.given.Nodup) : ∃ known', (u.move m).session.Sound known' := by
  rcases u.move_cases m with ⟨now, ticket, c, units, -, -, he⟩ | ⟨st, rfl, -, -, he⟩ | hb
  · rw [he] at hn ⊢
    have hf := filed_placeUnit u.session now c ticket
    exact ⟨_, hf.sound h (hf.registry_eq ▸ hn)⟩
  · rw [he] at hn ⊢
    exact h.step (fun i hi => hr i (hi ▸ rfl)) hn
  · obtain ⟨r, fs, hs, -, he⟩ := hb.session
    rw [he]
    have hpushed := (h.shed hs).pushes fs
    rw [foldl_push] at hpushed
    exact ⟨known, hpushed⟩

theorem turn_move (h : u.session.Sound known) (hw : u.session.Wired r) (hr : ∀ i, m ≠ .whole (.release i))
    (ho : m ≠ .whole .openRelay) (hn : (u.move m).session.registry.given.Nodup) :
    (u.move m).session.Wired r ∧ Turn r id u.session (u.move m).session (u.update? id m) (u.delivery? id m) := by
  rcases u.move_cases m with ⟨now, ticket, c, units, rfl, -, he⟩ | ⟨st, rfl, -, -, he⟩ | hb
  · rw [he] at hn ⊢
    exact turn_commanded hw (commanded_placeUnit u.session now c ticket hn)
  · rw [he] at hn ⊢
    exact turn_step h hw (fun i hi => hr i (hi ▸ rfl)) (fun hi => ho (hi ▸ rfl)) hn
  · obtain ⟨r', fs, hs, hf, he⟩ := hb.session
    rw [hb.update, hb.delivery, he]
    exact turn_shed hw hs fun f hm => (hf f hm).1

theorem ledger_move {placed late : String → Prop} (h : u.session.Ledger placed late)
    (hn : (u.move m).session.registry.given.Nodup) :
    (u.move m).session.Ledger (fun id => placed id ∨ ∃ o ∈ u.unassisted m, o.id = id)
      (fun id => late id ∧ m ≠ .whole .prune ∨ ∃ o ∈ u.unassisted m, o.id = id ∧ ¬ o.status.isCancellable) := by
  rcases u.move_cases m with ⟨now, ticket, c, units, rfl, hu, he⟩ | ⟨st, rfl, -, hst, he⟩ | hb
  · have hunit : u.unassisted (.unit now ticket) = alone c (u.session.placeUnit now c ticket).2.toList := by
      simp only [unassisted, hu]
    rw [he] at hn ⊢
    rw [hunit]
    exact (h.placeUnit now c ticket hn).congr (fun _ => Iff.rfl) (by simp)
  · have hnone : u.unassisted (.whole st) = [] := rfl
    rw [he] at hn ⊢
    have hstep := h.step st hn
    rw [hst] at hstep
    rw [hnone]
    exact hstep.congr (fun _ => Iff.rfl) (by simp)
  · obtain ⟨r, fs, hs, -, he⟩ := hb.session
    have hledger : (u.move m).session.Ledger placed late := by
      rw [he]
      exact h.shed hs rfl
    exact hledger.congr (by simp [hb.unassisted]) (by simp [hb.unassisted, hb.unpruned])

theorem signals_move (h : u.session.Apart) (m : Move) : Signals u.session (u.move m).session := by
  rcases u.move_cases m with ⟨now, ticket, c, units, -, -, he⟩ | ⟨st, -, -, -, he⟩ | hb
  · rw [he]
    obtain ⟨hsignals, hqueues⟩ := signals_placeUnit u.session now c ticket
    exact .of_same hsignals hqueues
  · rw [he]
    exact (signals_step h st).1
  · obtain ⟨r, fs, -, hf, he⟩ := hb.session
    rw [he]
    exact .of_same (signals_append (u.session.setRegistry r) fun f hm => (hf f hm).2) rfl

/-- Queues and pending targets carry ids that were given, so that an order with
a new id finds no queue of its own. -/
structure Numbered (s : Session) : Prop where
  apart : s.Apart
  queues : ∀ id, (s.queues.find? id).isSome → id ∈ s.registry.given
  pending : ∀ id target, s.pending.find? id = some target → id ∈ s.registry.given

theorem numbered_move (h : Numbered u.session) (hn : (u.move m).session.registry.given.Nodup) :
    Numbered (u.move m).session := by
  have hgiven : ∀ id ∈ u.session.registry.given, id ∈ (u.move m).session.registry.given := fun id hid =>
    (u.given_move m).subset hid
  rcases u.move_cases m with ⟨now, ticket, c, units, -, -, he⟩ | ⟨st, rfl, htext, -, he⟩ | hb
  · rw [he] at hn hgiven ⊢
    have hf := filed_placeUnit u.session now c ticket
    refine ⟨fun id target ht => ?_, fun id hq => hgiven id (h.queues id (hf.queues ▸ hq)), fun id target ht => ?_⟩
    · rw [hf.queues]
      rcases hf.pending id target ht with hold | ⟨hid, -, o, ho, rfl⟩
      · exact h.apart id target hold
      · have hfresh := hf.grown.fresh (hf.registry_eq ▸ hn) o ho
        exact ⟨hid, Option.not_isSome_iff_eq_none.mp fun hq => hfresh (h.queues o.id hq)⟩
    · rcases hf.pending id target ht with hold | ⟨-, -, o, ho, rfl⟩
      · exact hgiven id (h.pending id target hold)
      · rw [hf.given]
        exact List.mem_append_right _ (List.mem_map_of_mem ho)
  · rw [he] at hn hgiven ⊢
    refine ⟨(signals_step h.apart st).2, fun id hq => hgiven id ?_, fun id target ht => hgiven id ?_⟩
    · rcases queues_step hq with hopen | ⟨target, ht, rfl⟩
      · exact h.queues id hopen
      · have hkey : ∀ id target, u.session.pending.find? id = some target → target.order.id = id :=
          fun id target ht => (h.apart id target ht).1
        exact h.pending target.order.id target (pending_of_ready hkey ht).1
    · rcases pending_step ht with ⟨old, hold, -⟩ | ⟨c, now, t, ticket, hst, -⟩
      · exact h.pending id old hold
      · exact absurd hst (htext now t ticket)
  · obtain ⟨r, fs, hs, -, he⟩ := hb.session
    rw [he]
    have hids : r.given = u.session.registry.given := hs.given
    exact ⟨h.apart, fun id hq => hids ▸ h.queues id hq, fun id target ht => hids ▸ h.pending id target ht⟩

/-! ## Runs -/

def Updated (u : Underway) (id : String) (moves : List Move) : Prop :=
  ∃ before m after, moves = before ++ m :: after ∧ ((u.run before).update? id m).isSome

def Overtaken (u : Underway) (id : String) (moves : List Move) : Prop :=
  ∃ before m after, moves = before ++ m :: after ∧
    Updated u id before ∧ ((u.run before).delivery? id m).isSome

def TookAlone (u : Underway) (moves : List Move) (id : String) : Prop :=
  ∃ before m after, moves = before ++ m :: after ∧ ∃ o ∈ (u.run before).unassisted m, o.id = id

def Lingers (u : Underway) (moves : List Move) (id : String) : Prop :=
  ∃ before m after, moves = before ++ m :: after ∧
    (∃ o ∈ (u.run before).unassisted m, o.id = id ∧ ¬ o.status.isCancellable) ∧ .whole .prune ∉ after

theorem tookAlone_snoc {moves : List Move} : TookAlone u (moves ++ [m]) id ↔
    TookAlone u moves id ∨ ∃ o ∈ (u.run moves).unassisted m, o.id = id := exists_split_snoc

theorem lingers_snoc {moves : List Move} : Lingers u (moves ++ [m]) id ↔ Lingers u moves id ∧ m ≠ .whole .prune ∨
    ∃ o ∈ (u.run moves).unassisted m, o.id = id ∧ ¬ o.status.isCancellable := exists_split_since_snoc

theorem nodup_init {moves : List Move} (hn : (u.run (moves ++ [m])).session.registry.given.Nodup) :
    (u.run moves).session.registry.given.Nodup := by
  rw [run_snoc] at hn
  exact ((u.run moves).given_move m).sublist.nodup hn

section
variable {moves : List Move} (h : u.session.Sound known) (hr : ∀ i, Move.whole (.release i) ∉ moves)
  (hn : (u.run moves).session.registry.given.Nodup)
include h hr hn

theorem sound_run : ∃ known', (u.run moves).session.Sound known' := by
  induction moves using List.reverseRecOn with
  | nil => exact ⟨known, h⟩
  | append_singleton moves m ih =>
    obtain ⟨known', h'⟩ := ih (fun i hm => hr i (List.mem_append_left _ hm)) (nodup_init hn)
    rw [run_snoc] at hn ⊢
    exact sound_move h' (fun i he => hr i (by simp [he])) hn

variable (hw : u.session.Wired r) (ho : Move.whole .openRelay ∉ moves)
include hw ho

theorem wired_run : (u.run moves).session.Wired r := by
  induction moves using List.reverseRecOn with
  | nil => exact hw
  | append_singleton moves m ih =>
    have hr' : ∀ i, Move.whole (.release i) ∉ moves := fun i hm => hr i (List.mem_append_left _ hm)
    have hw' := ih hr' (nodup_init hn) fun hm => ho (List.mem_append_left _ hm)
    obtain ⟨known', h'⟩ := sound_run h hr' (nodup_init hn)
    rw [run_snoc] at hn ⊢
    obtain ⟨hw'', -⟩ : _ ∧ Turn r "" (u.run moves).session _ _ _ :=
      turn_move h' hw' (fun i he => hr i (by simp [he])) (fun he => ho (by simp [he])) hn
    exact hw''

theorem turns_run (id : String) : Turns r id (fun before => (u.run before).session)
    (fun before m => (u.run before).update? id m) (fun before m => (u.run before).delivery? id m) moves := by
  rintro before m ⟨after, rfl⟩
  rw [run_append] at hn
  have hm := (given_run (u.run (before ++ [m])) after).sublist.nodup hn
  have hr' : ∀ i, Move.whole (.release i) ∉ before := fun i hi => hr i (by simp [hi])
  obtain ⟨known', h'⟩ := sound_run h hr' (nodup_init hm)
  have hw' := wired_run h hr' (nodup_init hm) hw fun hi => ho (by simp [hi])
  dsimp only
  rw [run_snoc] at hm ⊢
  exact ⟨(turn_move h' hw' (fun i he => hr i (by simp [he])) (fun he => ho (by simp [he])) hm).2, given_move ..⟩

theorem stage_run (hun : Unborn u.session r id) :
    Stage r id (u.run moves).session (Updated u id moves) (Overtaken u id moves) :=
  (turns_run h hr hn hw ho id).stage hun

end

/-! ## What holds between the units and the cancels -/

theorem exists_refusal?_of_read {now : UInt64} {t : String} (hidle : u.units = [])
    (htaken : (u.read now t).units ≠ []) :
    ∃ c, (u.session.admission now).refusal? c = none := by
  unfold read at htaken
  split at htaken
  · exact absurd hidle htaken
  · split at htaken
    · exact absurd hidle htaken
    · split at htaken
      · exact absurd hidle htaken
      · rename_i c _
        cases hr : (u.session.admission now).refusal? c with
        | none => exact ⟨c, hr⟩
        | some reason =>
          rw [hr] at htaken
          exact absurd hidle htaken

theorem commanded_unit {now : UInt64} {ticket : Ticket} (hn : (u.unit now ticket).session.registry.given.Nodup) :
    Commanded id u.session (u.unit now ticket).session := by
  unfold unit at hn ⊢
  split
  · exact ⟨rfl, rfl, Or.inl ⟨fun h => h, rfl, rfl⟩⟩
  · rename_i c units hu
    rw [hu] at hn
    exact commanded_placeUnit u.session now c ticket hn

end

section
variable (connId : String) (settings : Config.Trade) (hours : Hours) (zone : Zone) {moves : List Move}

/-- The statuses that the client is shown of an order rise just if no update of
it overtakes its placement by a trader. That one frame aside they rise in any
case, and so they do for an order that the client placed itself. -/
theorem rises_iff_of_moves (hr : ∀ i, .whole (.release i) ∉ moves) (ho : .whole .openRelay ∉ moves)
    (hn : ((start connId settings hours zone).openRelay.atRest.run moves).session.registry.given.Nodup) (id : String) :
    (Rises (((start connId settings hours zone).openRelay.atRest.run moves).session.shown id) ↔
      ¬ Overtaken (start connId settings hours zone).openRelay.atRest id moves) ∧
    (∃ us, Rises us ∧
      us.Sublist (((start connId settings hours zone).openRelay.atRest.run moves).session.shown id) ∧
      (((start connId settings hours zone).openRelay.atRest.run moves).session.shown id).length ≤ us.length + 1) ∧
    ∀ before now ticket after, moves = before ++ .unit now ticket :: after →
      id ∉ ((start connId settings hours zone).openRelay.atRest.run before).session.registry.given →
      id ∈ ((start connId settings hours zone).openRelay.atRest.run
        (before ++ [.unit now ticket])).session.registry.given →
      Rises (((start connId settings hours zone).openRelay.atRest.run moves).session.shown id) := by
  have h : (start connId settings hours zone).openRelay.atRest.session.Sound fun _ => none :=
    (sound_start connId settings hours zone).openRelay
  have hw : (start connId settings hours zone).openRelay.atRest.session.Wired 0 := ⟨rfl, rfl⟩
  have hun : Unborn (start connId settings hours zone).openRelay.atRest.session 0 id :=
    ⟨List.not_mem_nil, rfl, rfl, rfl⟩
  have hstage := stage_run h hr hn hw ho hun
  refine ⟨hstage.rises_iff, hstage.updates_rise, ?_⟩
  rintro before now ticket after rfl hfresh hgiven
  refine (turns_run h hr hn hw ho id).rises_of_commanded hun ?_ hfresh hgiven
  rw [List.append_cons, run_append] at hn
  have hn' := (given_run _ after).sublist.nodup hn
  rw [run_snoc] at hn' ⊢
  exact commanded_unit hn'

theorem ledger_run (hn : ((start connId settings hours zone).atRest.run moves).session.registry.given.Nodup) :
    ((start connId settings hours zone).atRest.run moves).session.Ledger
      (TookAlone (start connId settings hours zone).atRest moves)
      (Lingers (start connId settings hours zone).atRest moves) := by
  induction moves using List.reverseRecOn with
  | nil =>
    refine (ledger_start connId settings hours zone).congr (fun id => ?_) fun id => ?_
    · simp [TookAlone, Session.TookAlone]
    · simp [Lingers, Session.Lingers]
  | append_singleton moves m ih =>
    have hbefore := ih (nodup_init hn)
    rw [run_snoc] at hn ⊢
    exact (ledger_move hbefore hn).congr (fun _ => tookAlone_snoc) fun _ => lingers_snoc

/-- The waiting list holds the unassisted orders that are live and those that
were over when they were accepted, the latter until the next pruning. -/
theorem waiting_iff_of_moves
    (hn : ((start connId settings hours zone).atRest.run moves).session.registry.given.Nodup) (id : String) :
    (((start connId settings hours zone).atRest.run moves).session.waiting.contains id ↔
      TookAlone (start connId settings hours zone).atRest moves id ∧
        (((start connId settings hours zone).atRest.run moves).session.isLive id ∨
          Lingers (start connId settings hours zone).atRest moves id)) ∧
    (((start connId settings hours zone).atRest.run moves).session.prune.waiting.contains id ↔
      TookAlone (start connId settings hours zone).atRest moves id ∧
        ((start connId settings hours zone).atRest.run moves).session.isLive id) :=
  ⟨(ledger_run connId settings hours zone hn).waiting id, (ledger_run connId settings hours zone hn).contains_prune id⟩

section
variable (hn : ((start connId settings hours zone).atRest.run moves).session.registry.given.Nodup)
include hn

theorem numbered_run : Numbered ((start connId settings hours zone).atRest.run moves).session := by
  induction moves using List.reverseRecOn with
  | nil => exact ⟨by rintro id target ⟨⟩, by rintro id ⟨⟩, by rintro id target ⟨⟩⟩
  | append_singleton moves m ih =>
    have hbefore := ih (nodup_init hn)
    rw [run_snoc] at hn ⊢
    exact numbered_move hbefore hn

theorem inPhase_run : ((start connId settings hours zone).atRest.run moves).session.InPhase := by
  induction moves using List.reverseRecOn with
  | nil => exact Session.inPhase_run connId settings hours zone []
  | append_singleton moves m ih =>
    have h := numbered_run connId settings hours zone (nodup_init hn)
    have h' := numbered_run connId settings hours zone hn
    rw [run_snoc] at h' ⊢
    exact (ih (nodup_init hn)).signalled (signals_move h.apart m) h'.apart

/-- The client is told of the first queue that opens and of the last that is
closed, in turn, and of every such change when it comes. -/
theorem signals_of_moves :
    ((start connId settings hours zone).atRest.run moves).session.signals =
      alternating ((start connId settings hours zone).atRest.run moves).session.signals.length ∧
    ((start connId settings hours zone).atRest.run moves).session.signals.getLast?.getD false =
      ((start connId settings hours zone).atRest.run moves).session.isAssisting ∧
    ∀ m, Signals ((start connId settings hours zone).atRest.run moves).session
      (((start connId settings hours zone).atRest.run moves).move m).session := by
  have hphase := inPhase_run connId settings hours zone hn
  exact ⟨hphase.alternate, hphase.last, signals_move (numbered_run connId settings hours zone hn).apart⟩

/-- Where a command is taken, no order is live. -/
theorem not_isLive_of_read (hr : ∀ i, .whole (.release i) ∉ moves) {now : UInt64} {t : String}
    (hidle : ((start connId settings hours zone).atRest.run moves).units = [])
    (htaken : (((start connId settings hours zone).atRest.run moves).read now t).units ≠ []) (id : String) :
    ¬ ((start connId settings hours zone).atRest.run moves).session.isLive id := by
  obtain ⟨known, h⟩ := sound_run (sound_start connId settings hours zone) hr hn
  obtain ⟨c, hadmit⟩ := exists_refusal?_of_read hidle htaken
  exact h.not_isLive hadmit id

end

end

/-! ## What does not hold between them -/

/-- The second unit of a command is accepted after the trader of the first was
put to work; it is given an id. -/
def secondUnit (id : String) : List Move :=
  [.read 1000 ("\x7b\"instrumentCode\":\"MXFL1\",\"action\":\"Buy\",\"price\":100,\"quantity\":2," ++
      "\"automationOption\":\x7b\"automationType\":\"ByTimePeriod\",\"byTimePeriodSecs\":5\x7d\x7d"),
   .unit 1000 ⟨"g1", .reply { orderId := "p1", status := .submitted }⟩,
   .whole (.status 1100 ⟨"p1", .filled, 0, none⟩), .whole .promote,
   .unit 1200 ⟨"g2", .reply { orderId := id, status := .filled }⟩, .whole .promote]

/-- With an id of its own it joins the first; with the id of the first it opens
the same queue once more, and the client is told twice. -/
example : ((start "conn-1" {} .alwaysOpen).atRest.run (secondUnit "p2")).session.signals = [true] ∧
    ((start "conn-1" {} .alwaysOpen).atRest.run (secondUnit "p1")).session.signals = [true, true] := by decide +kernel

/-- Two orders are overdue, and the second moves on while the cancel of the first
is not answered. -/
def movedOn : List Move :=
  [.read 1000 "\x7b\"instrumentCode\":\"MXFL1\",\"action\":\"Buy\",\"price\":100,\"quantity\":2\x7d",
   .unit 1000 ⟨"g1", .reply { orderId := "p1", status := .submitted }⟩,
   .unit 1000 ⟨"g2", .reply { orderId := "p2", status := .submitted }⟩,
   .sweep 11001, .whole (.status 11100 ⟨"p2", .partFilled, 0, none⟩), .cancel (.reply { status := .cancelled }),
   .cancel (.reply { status := .cancelled })]

/-- The second is cancelled although its time has just begun anew. -/
example : let r := ((start "conn-1" {} .alwaysOpen).atRest.run movedOn).session.registry
    (r.lookup "p2").map (·.tradeTime) = some 11100 ∧ (r.journal.filterMap (Call.cancelled? "p2")).length = 1 := by
  decide +kernel

end Underway

end FuturesDesk
