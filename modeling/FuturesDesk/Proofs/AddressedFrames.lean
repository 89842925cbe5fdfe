import Mathlib.Data.List.Basic
import FuturesDesk.Proofs.GivenUpRoutes

/-!
# What the frames of the bus bring

A route whose receiver is there brings it what is addressed to it and nothing
else, in the order of the frames. The routes that go with a frame are routes to
nobody: with or without them, everybody is brought the same.
-/

namespace FuturesDesk.Feed

/-! ## What a frame is for -/

/-- The tick that a frame has for a connection subscribed to an instrument. -/
def Frame.tickFor? (id code : String) (f : Frame) : Option Tick :=
  match f.payload with
  | .tick t => if f.connId = some id ∨ f.connId = none ∧ t.code = code then some t else none
  | .status _ => none

def Frame.statusFor? (id : String) (f : Frame) : Option StatusUpdate :=
  match f.payload with
  | .tick _ => none
  | .status u => if f.connId = some id ∨ f.connId = none then some u else none

namespace Hub

/-- What happens to the routes: a text comes in, a call changes them, a receiver
goes. -/
inductive Event where
  | text (s : String)
  | call (c : Control)
  | dropTicks (n : Nat)
  | dropOrders (n : Nat)

namespace Event

def frame? : Event → Option Frame
  | .text s => Frame.ofText? s
  | _ => none

def tickFor? (id code : String) (e : Event) : Option Tick := e.frame?.bind (·.tickFor? id code)

def statusFor? (id : String) (e : Event) : Option StatusUpdate := e.frame?.bind (·.statusFor? id)

/-- The event is no call for a connection, and its receiver of ticks stays. -/
def sparesTicks (id : String) (n : Nat) : Event → Bool
  | .call c => c.connId ≠ id
  | .dropTicks k => k ≠ n
  | _ => true

def sparesOrders (id : String) (n : Nat) : Event → Bool
  | .call c => c.connId ≠ id
  | .dropOrders k => k ≠ n
  | _ => true

end Event

def step (h : Hub) : Event → Hub
  | .text s => h.receive s
  | .call c => h.follow c
  | .dropTicks n => h.dropTicks n
  | .dropOrders n => h.dropOrders n

def run (h : Hub) (events : List Event) : Hub := events.foldl step h

def received (h : Hub) : List (Receiver Tick) × List (Receiver StatusUpdate) := (h.tickReceivers, h.orderReceivers)

end Hub

/-! ## One table and its receivers -/

namespace Receiver

section
variable {α : Type} {rs : List (Receiver α)} {n : Nat}

theorem length_deliver (rs : List (Receiver α)) (ns : List Nat) (a : α) : (deliver rs ns a).length = rs.length :=
  List.length_mapIdx

theorem length_drop (rs : List (Receiver α)) (n : Nat) : (drop rs n).length = rs.length := List.length_mapIdx

theorem isAlive_of_drop {k : Nat} (h : isAlive (drop rs n) k = true) : isAlive rs k = true := by
  unfold isAlive drop at *
  rw [List.getElem?_mapIdx] at h
  cases hk : rs[k]? with
  | none =>
    rw [hk] at h
    cases h
  | some r =>
    rw [hk] at h
    dsimp only [Option.map_some, Option.any_some] at h ⊢
    split at h
    · cases h
    · exact h

theorem isAlive_append_of_lt (h : n < rs.length) (r : Receiver α) : isAlive (rs ++ [r]) n = isAlive rs n := by
  unfold isAlive
  rw [List.getElem?_append_left h]

theorem deliver_congr {ns ms : List Nat} (a : α) (h : ∀ n, isAlive rs n = true → (n ∈ ns ↔ n ∈ ms)) :
    deliver rs ns a = deliver rs ms a := by
  unfold deliver
  rw [List.mapIdx_eq_mapIdx_iff]
  intro n hn
  cases halive : rs[n].alive with
  | false => simp
  | true =>
    have hsame : ns.contains n = ms.contains n := by
      rw [Bool.eq_iff_iff, List.contains_iff_mem, List.contains_iff_mem]
      apply h
      simp [isAlive, List.getElem?_eq_getElem hn, halive]
    rw [hsame]

end

/-- Every route of a table leads to a receiver, and each to its own. -/
structure Own {α β : Type} (rs : List (Receiver α)) (t : Table β) (receiver : β → Nat) : Prop where
  held : ∀ id b, t.find? id = some b → receiver b < rs.length
  apart : ∀ id k b c, t.find? id = some b → t.find? k = some c → receiver b = receiver c → id = k

/-- The route of a connection leads to a receiver that is alive, and these are
the items it has received. -/
structure Serves {α β : Type} (rs : List (Receiver α)) (t : Table β) (receiver : β → Nat) (id : String) (b : β)
    (items : List α) : Prop where
  own : Own rs t receiver
  route : t.find? id = some b
  received : rs[receiver b]? = some ⟨true, items⟩

/-- Two tables are the same but for routes whose receivers have gone. -/
structure Alike {α β : Type} (rs : List (Receiver α)) (t t' : Table β) (receiver : β → Nat) : Prop where
  left : Own rs t receiver
  right : Own rs t' receiver
  live : ∀ id b, isAlive rs (receiver b) = true → (t.find? id = some b ↔ t'.find? id = some b)

section
variable {α β : Type} {rs : List (Receiver α)} {t t' : Table β} {receiver : β → Nat} {id : String} {b : β}
  {items : List α}

theorem mem_receivers_iff {wants : String → β → Bool} {n : Nat} :
    n ∈ (t.filter wants).values.map receiver ↔ ∃ k c, t.find? k = some c ∧ wants k c = true ∧ receiver c = n := by
  simp only [Table.values, Table.filter, List.map_map, List.mem_map, List.mem_filter, Prod.exists,
    Table.mem_entries_iff, Function.comp_apply, and_assoc]

namespace Own

theorem sublist (h : Own rs t receiver) (hsub : ∀ id b, t'.find? id = some b → t.find? id = some b) :
    Own rs t' receiver where
  held id b hb := h.held id b (hsub id b hb)
  apart id k b c hb hc := h.apart id k b c (hsub id b hb) (hsub k c hc)

theorem filter (h : Own rs t receiver) (keep : String → β → Bool) : Own rs (t.filter keep) receiver :=
  h.sublist fun _ _ hb => (Option.filter_eq_some_iff.mp ((Table.find?_filter ..).symm.trans hb)).1

theorem of_length (h : Own rs t receiver) {rs' : List (Receiver α)} (hlen : rs'.length = rs.length) :
    Own rs' t receiver where
  held id b hb := hlen ▸ h.held id b hb
  apart := h.apart

theorem insert (h : Own rs t receiver) (k : String) {c : β} (hc : receiver c = rs.length) (r : Receiver α) :
    Own (rs ++ [r]) (t.insert k c) receiver where
  held id b hb := by
    rw [Table.find?_insert] at hb
    rw [List.length_append, List.length_singleton]
    split at hb
    · rw [← Option.some.inj hb, hc]
      exact Nat.lt_succ_self _
    · exact Nat.lt_succ_of_lt (h.held id b hb)
  apart id id' b b' hb hb' he := by
    rw [Table.find?_insert] at hb hb'
    by_cases hid : id = k
    · by_cases hid' : id' = k
      · rw [hid, hid']
      · rw [if_pos hid] at hb
        rw [if_neg hid'] at hb'
        have hlt := h.held id' b' hb'
        rw [← he, ← Option.some.inj hb, hc] at hlt
        exact absurd hlt (Nat.lt_irrefl _)
    · rw [if_neg hid] at hb
      by_cases hid' : id' = k
      · rw [if_pos hid'] at hb'
        have hlt := h.held id b hb
        rw [he, ← Option.some.inj hb', hc] at hlt
        exact absurd hlt (Nat.lt_irrefl _)
      · rw [if_neg hid'] at hb'
        exact h.apart id id' b b' hb hb' he

theorem erase (h : Own rs t receiver) (k : String) : Own rs (t.erase k) receiver := h.filter _

theorem send (h : Own rs t receiver) (wants : String → β → Bool) (a : α) :
    Own (deliver rs ((t.filter wants).values.map receiver) a)
      (t.filter fun k c => !wants k c || isAlive rs (receiver c)) receiver :=
  (h.filter _).of_length (length_deliver ..)

theorem empty (rs : List (Receiver α)) (receiver : β → Nat) : Own rs ∅ receiver where
  held _ _ hb := by cases hb
  apart _ _ _ _ hb := by cases hb

end Own

namespace Serves

theorem isAlive (h : Serves rs t receiver id b items) : isAlive rs (receiver b) = true := by
  simp [Receiver.isAlive, h.received]

theorem send (h : Serves rs t receiver id b items) (wants : String → β → Bool) (a : α) :
    Serves (deliver rs ((t.filter wants).values.map receiver) a)
      (t.filter fun k c => !wants k c || Receiver.isAlive rs (receiver c)) receiver id b
      (items ++ if wants id b then [a] else []) where
  own := h.own.send wants a
  route := by
    rw [Table.find?_filter, h.route, Option.filter_some, h.isAlive, Bool.or_true, if_pos rfl]
  received := by
    have hmem : receiver b ∈ (t.filter wants).values.map receiver ↔ wants id b = true := by
      rw [mem_receivers_iff]
      constructor
      · rintro ⟨k, c, hc, hwants, he⟩
        obtain rfl := h.own.apart k id c b hc h.route he
        rwa [Option.some.inj (h.route.symm.trans hc)]
      · exact fun hwants => ⟨id, b, h.route, hwants, rfl⟩
    unfold deliver
    rw [List.getElem?_mapIdx, h.received, Option.map_some, Bool.and_true]
    by_cases hwants : wants id b = true
    · rw [if_pos (List.contains_iff_mem.mpr (hmem.mpr hwants)), if_pos hwants]
    · rw [if_neg (mt List.contains_iff_mem.mp (mt hmem.mp hwants)), if_neg hwants, List.append_nil]

theorem insert (h : Serves rs t receiver id b items) {k : String} (hk : k ≠ id) {c : β} (hc : receiver c = rs.length) :
    Serves (rs ++ [⟨true, []⟩]) (t.insert k c) receiver id b items where
  own := h.own.insert k hc _
  route := by rw [Table.find?_insert, if_neg hk.symm, h.route]
  received := by rw [List.getElem?_append_left (h.own.held id b h.route), h.received]

theorem erase (h : Serves rs t receiver id b items) {k : String} (hk : k ≠ id) :
    Serves rs (t.erase k) receiver id b items where
  own := h.own.erase k
  route := by rw [Table.find?_erase, if_neg hk.symm, h.route]
  received := h.received

theorem drop (h : Serves rs t receiver id b items) {n : Nat} (hn : n ≠ receiver b) :
    Serves (drop rs n) t receiver id b items where
  own := h.own.of_length (length_drop ..)
  route := h.route
  received := by
    unfold Receiver.drop
    rw [List.getElem?_mapIdx, h.received, Option.map_some, if_neg hn.symm]

end Serves

namespace Alike

theorem refl (h : Own rs t receiver) : Alike rs t t receiver := ⟨h, h, fun _ _ _ => Iff.rfl⟩

theorem erase_gone (h : Own rs t receiver) (route : t.find? id = some b) (gone : isAlive rs (receiver b) = false) :
    Alike rs (t.erase id) t receiver where
  left := h.filter _
  right := h
  live k c halive := by
    rw [Table.find?_erase]
    by_cases hk : k = id
    · subst hk
      simp only [if_pos, route, Option.some.injEq, reduceCtorEq, false_iff]
      rintro rfl
      exact Bool.false_ne_true (gone.symm.trans halive)
    · rw [if_neg hk]

theorem deliver_eq (h : Alike rs t t' receiver) (wants : String → β → Bool) (a : α) :
    deliver rs ((t.filter wants).values.map receiver) a = deliver rs ((t'.filter wants).values.map receiver) a := by
  apply deliver_congr
  intro n halive
  rw [mem_receivers_iff, mem_receivers_iff]
  constructor
  · rintro ⟨k, c, hc, hwants, rfl⟩
    exact ⟨k, c, (h.live k c halive).mp hc, hwants, rfl⟩
  · rintro ⟨k, c, hc, hwants, rfl⟩
    exact ⟨k, c, (h.live k c halive).mpr hc, hwants, rfl⟩

theorem of_isAlive (h : Alike rs t t' receiver) {rs' : List (Receiver α)} (hlen : rs'.length = rs.length)
    (halive : ∀ n, isAlive rs' n = true → isAlive rs n = true) : Alike rs' t t' receiver where
  left := h.left.of_length hlen
  right := h.right.of_length hlen
  live id b hb := h.live id b (halive _ hb)

theorem send (h : Alike rs t t' receiver) (wants : String → β → Bool) (a : α) :
    Alike (deliver rs ((t.filter wants).values.map receiver) a)
      (t.filter fun k c => !wants k c || isAlive rs (receiver c))
      (t'.filter fun k c => !wants k c || isAlive rs (receiver c)) receiver where
  left := h.left.send wants a
  right := h.deliver_eq wants a ▸ h.right.send wants a
  live id b halive := by
    rw [isAlive_deliver] at halive
    rw [Table.find?_filter, Table.find?_filter, Option.filter_eq_some_iff, Option.filter_eq_some_iff,
      h.live id b halive]

theorem insert (h : Alike rs t t' receiver) (k : String) {c : β} (hc : receiver c = rs.length) (r : Receiver α) :
    Alike (rs ++ [r]) (t.insert k c) (t'.insert k c) receiver where
  left := h.left.insert k hc r
  right := h.right.insert k hc r
  live id b halive := by
    rw [Table.find?_insert, Table.find?_insert]
    split
    · exact Iff.rfl
    · constructor
      · intro hb
        rw [isAlive_append_of_lt (h.left.held id b hb)] at halive
        exact (h.live id b halive).mp hb
      · intro hb
        rw [isAlive_append_of_lt (h.right.held id b hb)] at halive
        exact (h.live id b halive).mpr hb

theorem erase (h : Alike rs t t' receiver) (k : String) : Alike rs (t.erase k) (t'.erase k) receiver where
  left := h.left.filter _
  right := h.right.filter _
  live id b halive := by
    rw [Table.find?_erase, Table.find?_erase]
    split
    · exact Iff.rfl
    · exact h.live id b halive

end Alike

end

end Receiver

/-! ## The routes -/

namespace Hub

open Receiver (Own Serves isAlive)

structure Owned (h : Hub) : Prop where
  ticks : Own h.tickReceivers h.ticks (·.receiver)
  orders : Own h.orderReceivers h.orders fun n => n

structure Alike (h h' : Hub) : Prop where
  tickReceivers : h.tickReceivers = h'.tickReceivers
  orderReceivers : h.orderReceivers = h'.orderReceivers
  ticks : Receiver.Alike h.tickReceivers h.ticks h'.ticks (·.receiver)
  orders : Receiver.Alike h.orderReceivers h.orders h'.orders fun n => n

section
variable {h h' : Hub} {id : String} {text : String}

theorem dispatchStatus_eq (h : Hub) (connId : Option String) (u : StatusUpdate) :
    h.dispatchStatus connId u =
      { h with
        orders := h.orders.filter fun k n => !wantsStatus connId k n || isAlive h.orderReceivers n
        orderReceivers := Receiver.deliver h.orderReceivers
          ((h.orders.filter (wantsStatus connId)).values.map fun n => n) u } := by
  rw [dispatchStatus, List.map_id']

/-! ### Routes of one's own -/

theorem Owned.step (ho : h.Owned) (e : Event) : (h.step e).Owned := by
  cases e with
  | text s =>
    change (h.receive s).Owned
    rcases Line.receive_cases h s with he | ⟨f, t, -, -, he⟩ | ⟨f, u, -, -, he⟩
    · rw [he]
      exact ho
    · rw [he]
      exact ⟨ho.ticks.send _ t, ho.orders⟩
    · rw [he, dispatchStatus_eq]
      exact ⟨ho.ticks, ho.orders.send _ u⟩
  | call c =>
    cases c with
    | subscribeTicks k code => exact ⟨ho.ticks.insert k rfl _, ho.orders⟩
    | subscribeOrders k => exact ⟨ho.ticks, ho.orders.insert k rfl _⟩
    | unsubscribe k => exact ⟨ho.ticks.erase k, ho.orders.erase k⟩
  | dropTicks n => exact ⟨ho.ticks.of_length (Receiver.length_drop ..), ho.orders⟩
  | dropOrders n => exact ⟨ho.ticks, ho.orders.of_length (Receiver.length_drop ..)⟩

theorem Owned.run (ho : h.Owned) (events : List Event) : (h.run events).Owned := by
  induction events generalizing h with
  | nil => exact ho
  | cons e events ih => exact ih (ho.step e)

theorem owned_run (events : List Event) : (({} : Hub).run events).Owned :=
  Owned.run ⟨.empty _ _, .empty _ _⟩ events

/-! ### What a receiver gets -/

theorem wantsTick_iff {f : Frame} {t : Tick} {r : TickRoute} :
    wantsTick f.connId t id r = true ↔ f.connId = some id ∨ f.connId = none ∧ t.code = r.code := by
  cases f.connId with
  | none => simp [wantsTick, @eq_comm _ t.code]
  | some c => simp [wantsTick, @eq_comm _ c]

theorem wantsStatus_iff {f : Frame} {n : Nat} :
    wantsStatus f.connId id n = true ↔ f.connId = some id ∨ f.connId = none := by
  cases f.connId with
  | none => simp [wantsStatus]
  | some c => simp [wantsStatus, @eq_comm _ c]

theorem Event.tickFor?_of_unread (e : Event) (read : e.frame? = none) (id code : String) :
    e.tickFor? id code = none := by
  rw [tickFor?, read, Option.bind_none]

theorem Event.statusFor?_of_unread (e : Event) (read : e.frame? = none) (id : String) : e.statusFor? id = none := by
  rw [statusFor?, read, Option.bind_none]

theorem append_of_nothing {α : Type} {items : List α} {brought : Option α} (hn : brought = none) :
    items ++ brought.toList = items := by
  rw [hn, Option.toList_none, List.append_nil]

theorem append_filterMap_cons {α : Type} (items : List α) (brings : Event → Option α) (e : Event)
    (events : List Event) :
    items ++ (e :: events).filterMap brings = items ++ (brings e).toList ++ events.filterMap brings := by
  rw [List.append_assoc, List.filterMap_cons]
  cases brings e with
  | none => rfl
  | some a => rfl

theorem serves_ticks_step {r : TickRoute} {items : List Tick}
    (hs : Serves h.tickReceivers h.ticks (·.receiver) id r items) {e : Event} (he : e.sparesTicks id r.receiver) :
    Serves (h.step e).tickReceivers (h.step e).ticks (·.receiver) id r (items ++ (e.tickFor? id r.code).toList) := by
  cases e with
  | text s =>
    change Serves (h.receive s).tickReceivers (h.receive s).ticks _ _ _ _
    cases read : Frame.ofText? s with
    | none =>
      rw [append_of_nothing ((Event.text s).tickFor?_of_unread read id r.code), receive, read]
      exact hs
    | some f =>
      cases payload : f.payload with
      | tick t =>
        have hgets : ((Event.text s).tickFor? id r.code).toList = if wantsTick f.connId t id r then [t] else [] := by
          simp only [Event.tickFor?, Event.frame?, read, Option.bind_some, Frame.tickFor?, payload, wantsTick_iff]
          split <;> rfl
        rw [Line.receive_of_tick h read payload, hgets]
        exact hs.send _ t
      | status u =>
        rw [Line.receive_of_status h read payload,
          append_of_nothing (by simp [Event.tickFor?, Event.frame?, read, Frame.tickFor?, payload])]
        exact hs
  | call c =>
    have hc : c.connId ≠ id := of_decide_eq_true he
    rw [append_of_nothing ((Event.call c).tickFor?_of_unread rfl id r.code)]
    cases c with
    | subscribeTicks k code => exact hs.insert hc rfl
    | subscribeOrders k => exact hs
    | unsubscribe k => exact hs.erase hc
  | dropTicks n =>
    rw [append_of_nothing ((Event.dropTicks n).tickFor?_of_unread rfl id r.code)]
    exact hs.drop (of_decide_eq_true he)
  | dropOrders n =>
    rw [append_of_nothing ((Event.dropOrders n).tickFor?_of_unread rfl id r.code)]
    exact hs

theorem serves_orders_step {n : Nat} {items : List StatusUpdate}
    (hs : Serves h.orderReceivers h.orders (fun n => n) id n items) {e : Event} (he : e.sparesOrders id n) :
    Serves (h.step e).orderReceivers (h.step e).orders (fun n => n) id n (items ++ (e.statusFor? id).toList) := by
  cases e with
  | text s =>
    change Serves (h.receive s).orderReceivers (h.receive s).orders _ _ _ _
    cases read : Frame.ofText? s with
    | none =>
      rw [append_of_nothing ((Event.text s).statusFor?_of_unread read id), receive, read]
      exact hs
    | some f =>
      cases payload : f.payload with
      | tick t =>
        rw [Line.receive_of_tick h read payload,
          append_of_nothing (by simp [Event.statusFor?, Event.frame?, read, Frame.statusFor?, payload])]
        exact hs
      | status u =>
        have hgets : ((Event.text s).statusFor? id).toList = if wantsStatus f.connId id n then [u] else [] := by
          simp only [Event.statusFor?, Event.frame?, read, Option.bind_some, Frame.statusFor?, payload, wantsStatus_iff]
          split <;> rfl
        rw [Line.receive_of_status h read payload, dispatchStatus_eq, hgets]
        exact hs.send _ u
  | call c =>
    have hc : c.connId ≠ id := of_decide_eq_true he
    rw [append_of_nothing ((Event.call c).statusFor?_of_unread rfl id)]
    cases c with
    | subscribeTicks k code => exact hs
    | subscribeOrders k => exact hs.insert hc rfl
    | unsubscribe k => exact hs.erase hc
  | dropTicks n =>
    rw [append_of_nothing ((Event.dropTicks n).statusFor?_of_unread rfl id)]
    exact hs
  | dropOrders n =>
    rw [append_of_nothing ((Event.dropOrders n).statusFor?_of_unread rfl id)]
    exact hs.drop (of_decide_eq_true he)

theorem serves_ticks_run {r : TickRoute} {items : List Tick}
    (hs : Serves h.tickReceivers h.ticks (·.receiver) id r items) {events : List Event}
    (he : ∀ e ∈ events, e.sparesTicks id r.receiver) :
    Serves (h.run events).tickReceivers (h.run events).ticks (·.receiver) id r
      (items ++ events.filterMap (·.tickFor? id r.code)) := by
  induction events generalizing h items with
  | nil =>
    rw [List.filterMap_nil, List.append_nil]
    exact hs
  | cons e events ih =>
    have hstep := serves_ticks_step hs (he e (List.mem_cons_self ..))
    rw [append_filterMap_cons]
    exact ih hstep fun e' h' => he e' (List.mem_cons_of_mem _ h')

theorem serves_orders_run {n : Nat} {items : List StatusUpdate}
    (hs : Serves h.orderReceivers h.orders (fun n => n) id n items) {events : List Event}
    (he : ∀ e ∈ events, e.sparesOrders id n) :
    Serves (h.run events).orderReceivers (h.run events).orders (fun n => n) id n
      (items ++ events.filterMap (·.statusFor? id)) := by
  induction events generalizing h items with
  | nil =>
    rw [List.filterMap_nil, List.append_nil]
    exact hs
  | cons e events ih =>
    have hstep := serves_orders_step hs (he e (List.mem_cons_self ..))
    rw [append_filterMap_cons]
    exact ih hstep fun e' h' => he e' (List.mem_cons_of_mem _ h')

/-! ### Routes to nobody -/

theorem Alike.step (ha : h.Alike h') (e : Event) : (h.step e).Alike (h'.step e) := by
  obtain ⟨ticks, orders, tickReceivers, orderReceivers⟩ := h
  obtain ⟨ticks', orders', tickReceivers', orderReceivers'⟩ := h'
  obtain ⟨rfl, rfl, hticks, horders⟩ := ha
  cases e with
  | text s =>
    change (receive _ s).Alike (receive _ s)
    cases read : Frame.ofText? s with
    | none =>
      rw [receive, receive, read]
      exact ⟨rfl, rfl, hticks, horders⟩
    | some f =>
      cases payload : f.payload with
      | tick t =>
        rw [Line.receive_of_tick _ read payload, Line.receive_of_tick _ read payload]
        exact ⟨hticks.deliver_eq _ t, rfl, hticks.send _ t, horders⟩
      | status u =>
        rw [Line.receive_of_status _ read payload, Line.receive_of_status _ read payload, dispatchStatus_eq,
          dispatchStatus_eq]
        exact ⟨rfl, horders.deliver_eq _ u, hticks, horders.send _ u⟩
  | call c =>
    cases c with
    | subscribeTicks k code => exact ⟨rfl, rfl, hticks.insert k rfl _, horders⟩
    | subscribeOrders k => exact ⟨rfl, rfl, hticks, horders.insert k rfl _⟩
    | unsubscribe k => exact ⟨rfl, rfl, hticks.erase k, horders.erase k⟩
  | dropTicks n =>
    exact ⟨rfl, rfl, hticks.of_isAlive (Receiver.length_drop ..) fun _ => Receiver.isAlive_of_drop, horders⟩
  | dropOrders n =>
    exact ⟨rfl, rfl, hticks, horders.of_isAlive (Receiver.length_drop ..) fun _ => Receiver.isAlive_of_drop⟩

theorem Alike.run (ha : h.Alike h') (events : List Event) : (h.run events).Alike (h'.run events) := by
  induction events generalizing h h' with
  | nil => exact ha
  | cons e events ih => exact ih (ha.step e)

theorem Alike.received_eq (ha : h.Alike h') : h.received = h'.received :=
  Prod.ext ha.tickReceivers ha.orderReceivers

/-! ### Routes that go -/

theorem stays_of_nothing {α β : Type} {t t' : Table β} {b : β} {brought : Option α} {alive : Prop}
    (hn : brought = none) (hsame : t' = t) :
    t'.find? id = some b ↔ t.find? id = some b ∧ (alive ∨ brought = none) := by
  rw [hsame, and_iff_left (Or.inr hn)]

theorem ticks_receive_iff {r : TickRoute} : (h.receive text).ticks.find? id = some r ↔ h.ticks.find? id = some r ∧
    (isAlive h.tickReceivers r.receiver = true ∨ (Event.text text).tickFor? id r.code = none) := by
  cases read : Frame.ofText? text with
  | none => exact stays_of_nothing ((Event.text text).tickFor?_of_unread read id r.code) (by rw [receive, read])
  | some f =>
    cases payload : f.payload with
    | tick t =>
      have hnot : (Event.text text).tickFor? id r.code = none ↔ wantsTick f.connId t id r = false := by
        rw [← Bool.not_eq_true, wantsTick_iff]
        simp [Event.tickFor?, Event.frame?, read, Frame.tickFor?, payload]
      rw [Line.receive_of_tick h read payload, dispatchTick, Table.find?_filter, Option.filter_eq_some_iff, hnot]
      simp [or_comm]
    | status u =>
      refine stays_of_nothing (by simp [Event.tickFor?, Event.frame?, read, Frame.tickFor?, payload]) ?_
      rw [Line.receive_of_status h read payload]
      rfl

theorem orders_receive_iff {n : Nat} : (h.receive text).orders.find? id = some n ↔ h.orders.find? id = some n ∧
    (isAlive h.orderReceivers n = true ∨ (Event.text text).statusFor? id = none) := by
  cases read : Frame.ofText? text with
  | none => exact stays_of_nothing ((Event.text text).statusFor?_of_unread read id) (by rw [receive, read])
  | some f =>
    cases payload : f.payload with
    | tick t =>
      refine stays_of_nothing (by simp [Event.statusFor?, Event.frame?, read, Frame.statusFor?, payload]) ?_
      rw [Line.receive_of_tick h read payload]
      rfl
    | status u =>
      have hnot : (Event.text text).statusFor? id = none ↔ wantsStatus f.connId id n = false := by
        rw [← Bool.not_eq_true, wantsStatus_iff]
        simp [Event.statusFor?, Event.frame?, read, Frame.statusFor?, payload]
      rw [Line.receive_of_status h read payload, dispatchStatus, Table.find?_filter, Option.filter_eq_some_iff, hnot]
      simp [or_comm]

/-- **What is addressed is delivered.** Whatever calls are made for others and
whichever receivers of others go in between, a receiver that is there gets of the
texts that come in just what their frames have for it, in their order. A text
that is no frame changes nothing. A text takes those routes away over which it
has something to send to nobody, and none else. And a route to nobody makes no
difference to what anybody gets. -/
theorem delivers_addressed (ho : h.Owned) (events : List Event) :
    (∀ id r items, h.ticks.find? id = some r → h.tickReceivers[r.receiver]? = some ⟨true, items⟩ →
      (∀ e ∈ events, e.sparesTicks id r.receiver) →
      (h.run events).ticks.find? id = some r ∧ (h.run events).tickReceivers[r.receiver]? =
        some ⟨true, items ++ events.filterMap (·.tickFor? id r.code)⟩) ∧
    (∀ id n items, h.orders.find? id = some n → h.orderReceivers[n]? = some ⟨true, items⟩ →
      (∀ e ∈ events, e.sparesOrders id n) →
      (h.run events).orders.find? id = some n ∧ (h.run events).orderReceivers[n]? =
        some ⟨true, items ++ events.filterMap (·.statusFor? id)⟩) ∧
    (∀ text, Frame.ofText? text = none → h.receive text = h) ∧
    (∀ text id r, (h.receive text).ticks.find? id = some r ↔ h.ticks.find? id = some r ∧
      (isAlive h.tickReceivers r.receiver = true ∨ (Event.text text).tickFor? id r.code = none)) ∧
    (∀ text id n, (h.receive text).orders.find? id = some n ↔ h.orders.find? id = some n ∧
      (isAlive h.orderReceivers n = true ∨ (Event.text text).statusFor? id = none)) ∧
    (∀ k r, h.ticks.find? k = some r → isAlive h.tickReceivers r.receiver = false →
      (run { h with ticks := h.ticks.erase k } events).received = (h.run events).received) ∧
    (∀ k n, h.orders.find? k = some n → isAlive h.orderReceivers n = false →
      (run { h with orders := h.orders.erase k } events).received = (h.run events).received) := by
  refine ⟨fun id r items route received he => ?_, fun id n items route received he => ?_, fun text read => ?_,
    fun text id r => ticks_receive_iff, fun text id n => orders_receive_iff, fun k r route gone => ?_,
    fun k n route gone => ?_⟩
  · have hserves := serves_ticks_run ⟨ho.ticks, route, received⟩ he
    exact ⟨hserves.route, hserves.received⟩
  · have hserves := serves_orders_run ⟨ho.orders, route, received⟩ he
    exact ⟨hserves.route, hserves.received⟩
  · rw [receive, read]
  · have halike : Alike { h with ticks := h.ticks.erase k } h :=
      ⟨rfl, rfl, .erase_gone ho.ticks route gone, .refl ho.orders⟩
    exact (halike.run events).received_eq
  · have halike : Alike { h with orders := h.orders.erase k } h :=
      ⟨rfl, rfl, .refl ho.ticks, .erase_gone ho.orders route gone⟩
    exact (halike.run events).received_eq

def twoRoutes : List Event :=
  [.call (.subscribeTicks "a" "MXFL1"), .call (.subscribeTicks "b" "TXFL1"), .call (.subscribeOrders "a"), .dropTicks 1]

def tickText (address code time : String) : String :=
  "\x7b" ++ address ++ "\"channel\":\"tick\",\"data\":\x7b\"code\":\"" ++ code ++ "\",\"time\":" ++ time ++
    ",\"close\":1\x7d\x7d"

/-- A tick for all, what is no frame, ticks of another instrument for each
connection and for all, a status update for all. -/
def mixedTexts : List Event :=
  [.text (tickText "" "MXFL1" "1"), .text "pong", .text (tickText "\"conn_id\":\"a\"," "TXFL1" "2"),
    .text (tickText "\"conn_id\":\"b\"," "MXFL1" "3"), .text (tickText "" "TXFL1" "4"), .call (.unsubscribe "b"),
    .text "\x7b\"channel\":\"order\",\"data\":\x7b\"order_id\":\"o1\",\"status\":\"Filled\"\x7d\x7d"]

theorem delivers_addressed_mixedTexts :
    (∃ items, ((({} : Hub).run twoRoutes).run mixedTexts).tickReceivers[0]? = some ⟨true, items⟩ ∧
      items.map (·.time) = [1, 2]) ∧
    (∃ items, ((({} : Hub).run twoRoutes).run mixedTexts).orderReceivers[0]? = some ⟨true, items⟩ ∧
      items.map (·.orderId) = ["o1"]) ∧
    ((({} : Hub).run twoRoutes).receive (tickText "" "TXFL1" "4")).ticks.find? "b" ≠ some ⟨"TXFL1", 1⟩ := by
  obtain ⟨hticks, horders, -, hgone, -⟩ := delivers_addressed (owned_run twoRoutes) mixedTexts
  refine ⟨⟨_, (hticks "a" ⟨"MXFL1", 0⟩ [] rfl rfl (by decide)).2, by decide +kernel⟩,
    ⟨_, (horders "a" 0 [] rfl rfl (by decide)).2, by decide +kernel⟩, ?_⟩
  rw [Ne, hgone]
  rintro ⟨-, halive | hnothing⟩
  · cases halive
  · exact absurd (congrArg Option.isSome hnothing) (by decide +kernel)

end

end Hub

end FuturesDesk.Feed
