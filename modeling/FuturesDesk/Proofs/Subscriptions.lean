import FuturesDesk.Feed.Line

/-!
# Subscriptions of a line

Once nothing waits to be written, the frames of a connection ask for what the
routes are. A frame settles what it speaks of, whatever came before, so frames
that were waiting when a connection was lost may follow a replay that they are
already part of.
-/

namespace FuturesDesk

theorem Table.filter_eq_self {α : Type} {t : Table α} {keep : String → α → Bool}
    (h : ∀ id a, t.find? id = some a → keep id a = true) : t.filter keep = t := by
  have hentries : t.entries.filter (fun e => keep e.1 e.2) = t.entries :=
    List.filter_eq_self.mpr fun e he => h e.1 e.2 (Table.mem_entries_iff.mp he)
  unfold Table.filter
  congr

namespace Feed

/-! ## Folds of frames that settle something -/

section
variable {σ α β : Type} {apply : σ → α → σ} {settles : α → Option β} (read : σ → β)

theorem read_foldl (h : ∀ u a, read (apply u a) = (settles a).getD (read u)) (as : List α) (u : σ) :
    read (as.foldl apply u) = (as.reverse.findSome? settles).getD (read u) := by
  induction as generalizing u with
  | nil => rfl
  | cons a as ih =>
    rw [List.foldl_cons, ih, h, List.reverse_cons, List.findSome?_append, List.findSome?_singleton]
    cases as.reverse.findSome? settles <;> rfl

/-- The last items of a fold say nothing new when they are said again. -/
theorem read_foldl_suffix (h : ∀ u a, read (apply u a) = (settles a).getD (read u)) {as log : List α} (hs : as <:+ log)
    {u v : σ} (hu : read u = read (log.foldl apply v)) : read (as.foldl apply u) = read u := by
  obtain ⟨front, rfl⟩ := hs
  rw [read_foldl read h, List.reverse_append, List.findSome?_append] at hu
  rw [read_foldl read h]
  cases hlast : as.reverse.findSome? settles with
  | none => rfl
  | some b =>
    rw [hlast] at hu
    exact hu.symm

end

/-! ## Frames and routes -/

namespace Control

def ticks? (id : String) : Control → Option (Option String)
  | .subscribeTicks k code => if id = k then some (some code) else none
  | .subscribeOrders _ => none
  | .unsubscribe k => if id = k then some none else none

def orders? (id : String) : Control → Option Bool
  | .subscribeTicks .. => none
  | .subscribeOrders k => if id = k then some true else none
  | .unsubscribe k => if id = k then some false else none

end Control

namespace Line.Subscribed

theorem find?_apply (id : String) (u : Subscribed) (c : Control) :
    (u.apply c).ticks.find? id = (c.ticks? id).getD (u.ticks.find? id) := by
  cases c with
  | subscribeTicks k code =>
    refine (Table.find?_insert ..).trans ?_
    by_cases h : id = k <;> simp [Control.ticks?, h]
  | subscribeOrders k => rfl
  | unsubscribe k =>
    refine (Table.find?_erase ..).trans ?_
    by_cases h : id = k <;> simp [Control.ticks?, h]

theorem contains_apply (id : String) (u : Subscribed) (c : Control) :
    (u.apply c).orders.contains id = (c.orders? id).getD (u.orders.contains id) := by
  cases c with
  | subscribeTicks k code => rfl
  | subscribeOrders k =>
    refine (IdSet.contains_add ..).trans ?_
    by_cases h : id = k <;> simp [Control.orders?, h]
  | unsubscribe k =>
    refine (IdSet.contains_remove ..).trans ?_
    by_cases h : id = k <;> simp [Control.orders?, h]

end Line.Subscribed

namespace Hub

/-- The routes after what a frame asks for has been done. -/
def follow (h : Hub) : Control → Hub
  | .subscribeTicks id code => (h.addTicks id code).1
  | .subscribeOrders id => (h.addOrders id).1
  | .unsubscribe id => h.remove id

theorem find?_follow (id : String) (h : Hub) (c : Control) :
    ((h.follow c).ticks.find? id).map (·.code) = (c.ticks? id).getD ((h.ticks.find? id).map (·.code)) := by
  cases c with
  | subscribeTicks k code =>
    refine (congrArg _ (Table.find?_insert ..)).trans ?_
    by_cases h : id = k <;> simp [Control.ticks?, h]
  | subscribeOrders k => rfl
  | unsubscribe k =>
    refine (congrArg _ (Table.find?_erase ..)).trans ?_
    by_cases h : id = k <;> simp [Control.ticks?, h]

theorem contains_follow (id : String) (h : Hub) (c : Control) :
    (h.follow c).orders.contains id = (c.orders? id).getD (h.orders.contains id) := by
  cases c with
  | subscribeTicks k code => rfl
  | subscribeOrders k =>
    refine (congrArg Option.isSome (Table.find?_insert ..)).trans ?_
    by_cases h : id = k <;> simp [Control.orders?, h, Table.contains]
  | unsubscribe k =>
    refine (congrArg Option.isSome (Table.find?_erase ..)).trans ?_
    by_cases h : id = k <;> simp [Control.orders?, h, Table.contains]

end Hub

/-! ## Receivers that are kept -/

namespace Receiver

section
variable {α : Type} {rs : List (Receiver α)} {n : Nat}

theorem isAlive_append (h : isAlive rs n = true) (r : Receiver α) : isAlive (rs ++ [r]) n = true := by
  unfold isAlive at h ⊢
  cases hr : rs[n]? with
  | none =>
    rw [hr] at h
    cases h
  | some r' =>
    have hn : n < rs.length := (List.getElem?_eq_some_iff.mp hr).1
    rw [List.getElem?_append_left hn]
    exact h

theorem isAlive_new (rs : List (Receiver α)) : isAlive (rs ++ [⟨true, []⟩]) rs.length = true := by
  unfold isAlive
  rw [List.getElem?_concat_length]
  rfl

theorem isAlive_deliver (rs : List (Receiver α)) (ns : List Nat) (a : α) (n : Nat) :
    isAlive (deliver rs ns a) n = isAlive rs n := by
  unfold isAlive deliver
  rw [List.getElem?_mapIdx]
  cases rs[n]? with
  | none => rfl
  | some r =>
    dsimp only [Option.map_some, Option.any_some]
    split <;> rfl

end

/-- The receivers that the routes of a table lead to are alive. -/
def Attend {α β : Type} (rs : List (Receiver α)) (t : Table β) (receiver : β → Nat) : Prop :=
  ∀ id b, t.find? id = some b → isAlive rs (receiver b) = true

section
variable {α β : Type} {rs : List (Receiver α)} {t : Table β} {receiver : β → Nat}

theorem Attend.insert (h : Attend rs t receiver) (k : String) {b : β} (hb : receiver b = rs.length) :
    Attend (rs ++ [⟨true, []⟩]) (t.insert k b) receiver := by
  intro id b' hfind
  rw [Table.find?_insert] at hfind
  split at hfind
  · rw [← Option.some.inj hfind, hb]
    exact isAlive_new rs
  · exact isAlive_append (h id b' hfind) _

theorem Attend.erase (h : Attend rs t receiver) (k : String) : Attend rs (t.erase k) receiver := by
  intro id b hfind
  rw [Table.find?_erase] at hfind
  split at hfind
  · cases hfind
  · exact h id b hfind

theorem Attend.deliver (h : Attend rs t receiver) (ns : List Nat) (a : α) : Attend (deliver rs ns a) t receiver :=
  fun id b hfind => (isAlive_deliver ..).trans (h id b hfind)

theorem Attend.filter_eq (h : Attend rs t receiver) (wants : String → β → Bool) :
    t.filter (fun id b => !wants id b || isAlive rs (receiver b)) = t :=
  Table.filter_eq_self fun id b hfind => by rw [h id b hfind, Bool.or_true]

end

end Receiver

namespace Hub

structure Attended (h : Hub) : Prop where
  ticks : Receiver.Attend h.tickReceivers h.ticks (·.receiver)
  orders : Receiver.Attend h.orderReceivers h.orders id

variable {h : Hub}

theorem Attended.follow (ha : h.Attended) (c : Control) : (h.follow c).Attended := by
  cases c with
  | subscribeTicks k code => exact ⟨ha.ticks.insert k rfl, ha.orders⟩
  | subscribeOrders k => exact ⟨ha.ticks, ha.orders.insert k rfl⟩
  | unsubscribe k => exact ⟨ha.ticks.erase k, ha.orders.erase k⟩

theorem Attended.routes_dispatch (ha : h.Attended) (f : Frame) :
    (h.dispatch f).ticks = h.ticks ∧ (h.dispatch f).orders = h.orders := by
  unfold dispatch
  cases f.payload with
  | tick t => exact ⟨ha.ticks.filter_eq _, rfl⟩
  | status u => exact ⟨rfl, ha.orders.filter_eq _⟩

theorem Attended.dispatch (ha : h.Attended) (f : Frame) : (h.dispatch f).Attended := by
  obtain ⟨hticks, horders⟩ := ha.routes_dispatch f
  have hreceivers : Receiver.Attend (h.dispatch f).tickReceivers h.ticks (·.receiver) ∧
      Receiver.Attend (h.dispatch f).orderReceivers h.orders id := by
    unfold Hub.dispatch
    cases f.payload with
    | tick t => exact ⟨ha.ticks.deliver _ _, ha.orders⟩
    | status u => exact ⟨ha.ticks, ha.orders.deliver _ _⟩
  exact ⟨hticks.symm ▸ hreceivers.1, horders.symm ▸ hreceivers.2⟩

end Hub

namespace Line

/-- A bus holds the subscriptions that the routes ask for, and no others. -/
structure Subscribed.Matches (u : Subscribed) (h : Hub) : Prop where
  ticks : ∀ id, u.ticks.find? id = (h.ticks.find? id).map (·.code)
  orders : ∀ id, u.orders.contains id = h.orders.contains id

namespace Subscribed

variable {u : Subscribed} {h : Hub}

theorem Matches.follow (hm : u.Matches h) (c : Control) : (u.apply c).Matches (h.follow c) where
  ticks id := by rw [find?_apply, Hub.find?_follow, hm.ticks]
  orders id := by rw [contains_apply, Hub.contains_follow, hm.orders]

/-- The last frames of all that were queued, once more. -/
theorem Matches.again {queue log : List Control} (hlog : (ofFrames log).Matches h) (hs : queue <:+ log)
    (hm : u.Matches h) : (queue.foldl apply u).Matches h where
  ticks id := by
    have hsame : u.ticks.find? id = (ofFrames log).ticks.find? id := (hm.ticks id).trans (hlog.ticks id).symm
    rw [← hm.ticks id]
    exact read_foldl_suffix (fun u : Subscribed => u.ticks.find? id) (find?_apply id) hs hsame
  orders id := by
    have hsame : u.orders.contains id = (ofFrames log).orders.contains id := (hm.orders id).trans (hlog.orders id).symm
    rw [← hm.orders id]
    exact read_foldl_suffix (fun u : Subscribed => u.orders.contains id) (contains_apply id) hs hsame

/-! ## The replay -/

theorem orders_subscribeTicks (es : List (String × TickRoute)) (u : Subscribed) :
    ((es.map fun e => Control.subscribeTicks e.1 e.2.code).foldl apply u).orders = u.orders := by
  induction es generalizing u with
  | nil => rfl
  | cons e es ih => exact ih _

theorem ticks_subscribeOrders (ids : List String) (u : Subscribed) :
    ((ids.map Control.subscribeOrders).foldl apply u).ticks = u.ticks := by
  induction ids generalizing u with
  | nil => rfl
  | cons id ids ih => exact ih _

theorem find?_subscribeTicks (id : String) {es : List (String × TickRoute)} (hn : (es.map (·.1)).Nodup)
    (u : Subscribed) : ((es.map fun e => Control.subscribeTicks e.1 e.2.code).foldl apply u).ticks.find? id =
      ((es.lookup id).map (·.code)).or (u.ticks.find? id) := by
  induction es generalizing u with
  | nil => rfl
  | cons e es ih =>
    obtain ⟨hfirst, hn⟩ := List.nodup_cons.mp hn
    have he : (u.apply (.subscribeTicks e.1 e.2.code)).ticks.find? id = _ := Table.find?_insert ..
    rw [List.map_cons, List.foldl_cons, ih hn, he, Table.lookup_cons]
    by_cases hid : id = e.1
    · rw [hid, Table.lookup_eq_none_iff.mpr hfirst]
      simp
    · simp [hid]

theorem contains_subscribeOrders (id : String) (ids : List String) (u : Subscribed) :
    ((ids.map Control.subscribeOrders).foldl apply u).orders.contains id =
      (ids.contains id || u.orders.contains id) := by
  induction ids generalizing u with
  | nil => rfl
  | cons k ids ih =>
    have hk : (u.apply (.subscribeOrders k)).orders.contains id = _ := IdSet.contains_add ..
    rw [List.map_cons, List.foldl_cons, ih, hk, List.contains_cons]
    by_cases hid : id = k
    · simp [hid]
    · rw [decide_eq_false hid, beq_false_of_ne hid]
      rfl

theorem matches_controls (h : Hub) : (ofFrames h.controls).Matches h := by
  unfold ofFrames Hub.controls
  refine ⟨fun id => ?_, fun id => ?_⟩
  · rw [List.foldl_append, ticks_subscribeOrders, find?_subscribeTicks id h.ticks.nodup]
    exact Option.or_none
  · rw [List.foldl_append, contains_subscribeOrders, orders_subscribeTicks]
    have hids : h.orders.ids.contains id = h.orders.contains id := by
      rw [Bool.eq_iff_iff, List.contains_iff_mem]
      exact Table.mem_ids_iff
    rw [hids]
    exact Bool.or_false _

end Subscribed

/-! ## Steps of a line -/

/-- The first half of a call: the routes change, and its frame is in hand. -/
def reroute (l : Line) (c : Control) : Line := { l with hub := l.hub.follow c }

namespace Step

def keepsReceivers : Step → Bool
  | .dropTicks _ | .dropOrders _ => false
  | _ => true

def isCall : Step → Bool
  | .subscribeTicks .. | .subscribeOrders _ | .unsubscribe _ => true
  | _ => false

end Step

/-- What waits was queued last, and the routes are what all frames asked for that
were ever queued or are in hand. So they are on a connection too, counting those
that wait. -/
structure Tracked (l : Line) (hand : List Control) : Prop where
  isOpen : l.isOpen = true
  attended : l.hub.Attended
  waiting : l.queue <:+ l.log
  queued : (Subscribed.ofFrames (l.log ++ hand)).Matches l.hub
  connected : ∀ written, l.written = some written →
    (Subscribed.ofFrames (written ++ (l.queue ++ hand))).Matches l.hub

section
variable {l : Line} {hand : List Control} {c : Control}

theorem post_eq (h : l.isOpen = true) (c : Control) :
    (l.post c).1 = { l with queue := l.queue ++ [c], log := l.log ++ [c] } := by
  simp [post, h]

theorem subscribeTicks_eq (h : l.isOpen = true) (id code : String) :
    (l.subscribeTicks id code).1 = ((l.reroute (.subscribeTicks id code)).post (.subscribeTicks id code)).1 := by
  simp [subscribeTicks, post, h, reroute, Hub.follow]

theorem subscribeOrders_eq (h : l.isOpen = true) (id : String) :
    (l.subscribeOrders id).1 = ((l.reroute (.subscribeOrders id)).post (.subscribeOrders id)).1 := by
  simp [subscribeOrders, post, h, reroute, Hub.follow]

theorem unsubscribe_cases (l : Line) (id : String) :
    l.unsubscribe id = ((l.reroute (.unsubscribe id)).post (.unsubscribe id)).1 ∨ l.unsubscribe id = l := by
  unfold unsubscribe
  cases l.hub.has id
  · exact Or.inr rfl
  · exact Or.inl rfl

theorem Subscribed.ofFrames_append (cs : List Control) (c : Control) :
    ofFrames (cs ++ [c]) = (ofFrames cs).apply c := by
  rw [ofFrames, List.foldl_append]
  rfl

namespace Tracked

theorem reroute (h : l.Tracked hand) (c : Control) : (l.reroute c).Tracked (hand ++ [c]) where
  isOpen := h.isOpen
  attended := h.attended.follow c
  waiting := h.waiting
  queued := by
    rw [← List.append_assoc, Subscribed.ofFrames_append]
    exact h.queued.follow c
  connected written hw := by
    rw [← List.append_assoc, ← List.append_assoc, Subscribed.ofFrames_append, List.append_assoc]
    exact (h.connected written hw).follow c

theorem post (h : l.Tracked (c :: hand)) : (l.post c).1.Tracked hand := by
  rw [post_eq h.isOpen]
  refine ⟨h.isOpen, h.attended, ?_, ?_, fun written hw => ?_⟩
  · obtain ⟨front, hfront⟩ := h.waiting
    exact ⟨front, by rw [← hfront, List.append_assoc]⟩
  · rw [← List.append_cons]
    exact h.queued
  · rw [← List.append_cons]
    exact h.connected written hw

theorem receive (h : l.Tracked hand) (text : String) : (l.receive text).Tracked hand := by
  unfold Line.receive Hub.receive
  cases Frame.ofText? text with
  | none => exact h
  | some f =>
    obtain ⟨hticks, horders⟩ := h.attended.routes_dispatch f
    have hmatches : ∀ u : Subscribed, u.Matches l.hub → u.Matches (l.hub.dispatch f) := fun u hu =>
      ⟨fun id => hticks ▸ hu.ticks id, fun id => horders ▸ hu.orders id⟩
    exact ⟨h.isOpen, h.attended.dispatch f, h.waiting, hmatches _ h.queued,
      fun written hw => hmatches _ (h.connected written hw)⟩

/-- The replay asks for the routes, and the frames that wait or are in hand say
nothing new. -/
theorem connect (h : l.Tracked hand) : l.connect.Tracked hand where
  isOpen := h.isOpen
  attended := h.attended
  waiting := h.waiting
  queued := h.queued
  connected written hw := by
    cases hw
    have hlast : l.queue ++ hand <:+ l.log ++ hand := by
      obtain ⟨front, hfront⟩ := h.waiting
      exact ⟨front, by rw [← hfront, List.append_assoc]⟩
    change (Subscribed.ofFrames (l.hub.controls ++ (l.queue ++ hand))).Matches l.hub
    rw [Subscribed.ofFrames, List.foldl_append]
    exact h.queued.again hlast (Subscribed.matches_controls l.hub)

theorem lose (h : l.Tracked hand) : l.lose.Tracked hand where
  isOpen := h.isOpen
  attended := h.attended
  waiting := h.waiting
  queued := h.queued
  connected _ hw := by cases hw

theorem write (h : l.Tracked hand) : l.write.Tracked hand := by
  unfold Line.write
  split
  · rename_i c queue written hqueue hwritten
    refine ⟨h.isOpen, h.attended, ?_, h.queued, fun written' hw => ?_⟩
    · exact (List.suffix_cons c queue).trans (hqueue ▸ h.waiting)
    · cases hw
      have hnow := h.connected written hwritten
      rw [hqueue, List.cons_append, List.append_cons] at hnow
      exact hnow
  · exact h

theorem failWrite (h : l.Tracked hand) : l.failWrite.Tracked hand := by
  unfold Line.failWrite
  split
  · rename_i c queue written hqueue hwritten
    refine ⟨h.isOpen, h.attended, ?_, h.queued, fun _ hw => by cases hw⟩
    exact (List.suffix_cons c queue).trans (hqueue ▸ h.waiting)
  · exact h

theorem step_connection (h : l.Tracked hand) {st : Step} (hcall : st.isCall = false)
    (hkept : st.keepsReceivers = true) : (l.step st).Tracked hand := by
  cases st with
  | subscribeTicks | subscribeOrders | unsubscribe => cases hcall
  | dropTicks | dropOrders => cases hkept
  | receive text => exact h.receive text
  | connect => exact h.connect
  | lose => exact h.lose
  | write => exact h.write
  | failWrite => exact h.failWrite

theorem step (h : l.Tracked []) {st : Step} (hkept : st.keepsReceivers = true) : (l.step st).Tracked [] := by
  cases hcall : st.isCall with
  | false => exact h.step_connection hcall hkept
  | true =>
    cases st with
    | subscribeTicks id code =>
      change (l.subscribeTicks id code).1.Tracked []
      rw [subscribeTicks_eq h.isOpen]
      exact (h.reroute _).post
    | subscribeOrders id =>
      change (l.subscribeOrders id).1.Tracked []
      rw [subscribeOrders_eq h.isOpen]
      exact (h.reroute _).post
    | unsubscribe id =>
      change (l.unsubscribe id).Tracked []
      rcases unsubscribe_cases l id with he | he
      · rw [he]
        exact (h.reroute _).post
      · rw [he]
        exact h
    | _ => cases hcall

theorem run (h : l.Tracked []) {steps : List Step} (hkept : ∀ st ∈ steps, st.keepsReceivers = true) :
    (l.run steps).Tracked [] := by
  induction steps generalizing l with
  | nil => exact h
  | cons st steps ih =>
    exact ih (h.step (hkept st (List.mem_cons_self ..))) fun st' h' => hkept st' (List.mem_cons_of_mem _ h')

/-- **A call may be interrupted.** Whatever the connection does between the two
halves of a call, its frame is as good when it is queued. -/
theorem interrupted (h : l.Tracked []) (c : Control) {steps : List Step}
    (hconnection : ∀ st ∈ steps, st.isCall = false ∧ st.keepsReceivers = true) :
    (((l.reroute c).run steps).post c).1.Tracked [] := by
  have hrun : ∀ {l : Line}, l.Tracked [c] → (l.run steps).Tracked [c] := by
    induction steps with
    | nil => exact id
    | cons st steps ih =>
      intro l hl
      obtain ⟨hcall, hkept⟩ := hconnection st (List.mem_cons_self ..)
      exact ih (fun st' h' => hconnection st' (List.mem_cons_of_mem _ h')) (hl.step_connection hcall hkept)
  exact (hrun (h.reroute c)).post

end Tracked

theorem tracked_start : ({} : Line).Tracked [] where
  isOpen := rfl
  attended := ⟨fun _ _ h => (by cases h), fun _ _ h => (by cases h)⟩
  waiting := List.suffix_refl _
  queued := ⟨fun _ => rfl, fun _ => rfl⟩
  connected _ hw := by cases hw

end

/-- **Subscriptions survive reconnects.** Whatever was subscribed and given up,
lost and replayed: once nothing waits, what was written on the connection asks for
the routes as they are. -/
theorem written_matches_routes {steps : List Step} (hkept : ∀ st ∈ steps, st.keepsReceivers = true)
    {written : List Control} (hup : (({} : Line).run steps).written = some written)
    (hwaiting : (({} : Line).run steps).queue = []) :
    (Subscribed.ofFrames written).Matches (({} : Line).run steps).hub := by
  have hmatches := (tracked_start.run hkept).connected written hup
  rw [hwaiting, List.append_nil, List.append_nil] at hmatches
  exact hmatches

/-- One frame is lost with its connection, and three follow a replay that is
ahead of them. -/
def interrupted : List Step :=
  [.subscribeTicks "a" "MXFL1", .subscribeTicks "b" "TXFL1", .subscribeOrders "a", .connect, .write, .unsubscribe "b",
    .failWrite, .subscribeTicks "a" "TXFL1", .connect, .write, .write, .write]

theorem written_matches_routes_interrupted :
    ∃ written, (({} : Line).run interrupted).written = some written ∧
      (Subscribed.ofFrames written).ticks.find? "a" = some "TXFL1" ∧
      (Subscribed.ofFrames written).orders.contains "a" ∧
      (Subscribed.ofFrames written).Matches (({} : Line).run interrupted).hub :=
  ⟨_, rfl, rfl, rfl, written_matches_routes (by decide) rfl rfl⟩

end Line

end Feed

end FuturesDesk
