import FuturesDesk.Feed.Wire

/-!
# Frames of an open connection

Texts and pongs are written as they are owed, and every text that comes in is
passed on. The task that waits for the intervals never ends, so of all that is
owed only the frames that keep a connection alive are missing.
-/

namespace FuturesDesk.Feed.Wire

def Event.isInterval : Event → Bool
  | .interval => true
  | _ => false

def Event.reply : Event → List Written
  | .outbound t => [.text t]
  | .ping data => [.pong data]
  | .interval | .text _ | .pong | .binary => []

def Event.text? : Event → Option String
  | .text t => some t
  | _ => none

def Written.isKeepAlive : Written → Bool
  | .keepAlive _ => true
  | _ => false

/-- What is owed for events, in their order; an interval that is not the first
one is owed a frame. -/
def owed (s : Settings) (begun : Bool) : List Event → List Written
  | [] => []
  | .interval :: es => (if begun && s.pingInterval.isSome then [.keepAlive s.payload] else []) ++ owed s true es
  | e :: es => e.reply ++ owed s begun es

/-- All that is owed on a connection: what is replayed, then what is owed for
events. -/
def due (s : Settings) (events : List Event) : List Written := (s.replay.getD []).map .text ++ owed s false events

section
variable (s : Settings)

/-! ## Written and passed on -/

theorem advance_waits (w : Watch) : ∃ w', w.advance = .waits w' := by
  cases w with
  | off => exact ⟨.off, rfl⟩
  | first | later => exact ⟨.later, rfl⟩

theorem written_step (c : Connection) (e : Event) : (c.step s e).written = c.written ++ e.reply := by
  cases e with
  | interval =>
    obtain ⟨w, hw⟩ := advance_waits c.watch
    simp only [Connection.step, hw]
    exact (List.append_nil _).symm
  | outbound t => rfl
  | ping data => rfl
  | text _ | pong | binary => exact (List.append_nil _).symm

theorem received_step (c : Connection) (e : Event) :
    (c.step s e).received = c.received ++ e.text?.toList.map (s.id, ·) := by
  cases e with
  | interval =>
    obtain ⟨w, hw⟩ := advance_waits c.watch
    simp only [Connection.step, hw]
    exact (List.append_nil _).symm
  | text t => rfl
  | outbound _ | ping _ | pong | binary => exact (List.append_nil _).symm

theorem written_foldl (c : Connection) (events : List Event) :
    (events.foldl (Connection.step s) c).written = c.written ++ events.flatMap Event.reply := by
  induction events generalizing c with
  | nil => exact (List.append_nil _).symm
  | cons e events ih => rw [List.foldl_cons, ih, written_step, List.append_assoc, List.flatMap_cons]

theorem received_foldl (c : Connection) (events : List Event) :
    (events.foldl (Connection.step s) c).received = c.received ++ (events.filterMap Event.text?).map (s.id, ·) := by
  induction events generalizing c with
  | nil => exact (List.append_nil _).symm
  | cons e events ih =>
    rw [List.foldl_cons, ih, received_step, List.append_assoc, List.filterMap_cons]
    cases e.text? <;> rfl

/-! ## Owed -/

theorem isKeepAlive_reply {e : Event} {w : Written} (h : w ∈ e.reply) : w.isKeepAlive = false := by
  cases e with
  | outbound t => rw [List.mem_singleton.mp h]; rfl
  | ping data => rw [List.mem_singleton.mp h]; rfl
  | interval | text _ | pong | binary => cases h

theorem filter_reply (e : Event) : e.reply.filter (!·.isKeepAlive) = e.reply :=
  List.filter_eq_self.mpr fun w hw => by rw [isKeepAlive_reply hw]; rfl

theorem countP_reply (e : Event) : e.reply.countP Written.isKeepAlive = 0 :=
  List.countP_eq_zero.mpr fun w hw => by rw [isKeepAlive_reply hw]; exact Bool.false_ne_true

theorem owed_cons {e : Event} (he : e.isInterval = false) (begun : Bool) (es : List Event) :
    owed s begun (e :: es) = e.reply ++ owed s begun es := by
  cases e with
  | interval => cases he
  | text _ | ping _ | pong | binary | outbound _ => rfl

theorem filter_owed (begun : Bool) (es : List Event) :
    (owed s begun es).filter (!·.isKeepAlive) = es.flatMap Event.reply := by
  induction es generalizing begun with
  | nil => rfl
  | cons e es ih =>
    cases he : e.isInterval with
    | false => rw [owed_cons s he, List.filter_append, ih, filter_reply, List.flatMap_cons]
    | true =>
      cases e with
      | interval =>
        rw [owed, List.filter_append, ih, List.flatMap_cons]
        split <;> rfl
      | _ => cases he

theorem countP_owed (begun : Bool) (es : List Event) :
    (owed s begun es).countP Written.isKeepAlive =
      if s.pingInterval.isSome then es.countP Event.isInterval - if begun then 0 else 1 else 0 := by
  induction es generalizing begun with
  | nil => simp [owed]
  | cons e es ih =>
    cases he : e.isInterval with
    | false =>
      rw [owed_cons s he, List.countP_append, ih, countP_reply, Nat.zero_add, List.countP_cons_of_neg (by simp [he])]
    | true =>
      cases e with
      | interval =>
        rw [owed, List.countP_append, ih, List.countP_cons_of_pos rfl]
        cases s.pingInterval with
        | none => simp
        | some ms =>
          cases begun with
          | false => simp
          | true => simp [Written.isKeepAlive, Nat.add_comm]
      | _ => cases he

theorem written_eq (events : List Event) :
    written s events = (s.replay.getD []).map .text ++ events.flatMap Event.reply := written_foldl ..

theorem filter_due (events : List Event) : (due s events).filter (!·.isKeepAlive) = written s events := by
  have hreplay : ((s.replay.getD []).map Written.text).filter (!·.isKeepAlive) = (s.replay.getD []).map .text := by
    apply List.filter_eq_self.mpr
    intro w hw
    obtain ⟨t, -, rfl⟩ := List.mem_map.mp hw
    rfl
  rw [due, List.filter_append, hreplay, filter_owed, written_eq]

theorem countP_due (events : List Event) : (due s events).countP Written.isKeepAlive =
    if s.pingInterval.isSome then events.countP Event.isInterval - 1 else 0 := by
  have hreplay : ((s.replay.getD []).map Written.text).countP Written.isKeepAlive = 0 := by
    apply List.countP_eq_zero.mpr
    intro w hw
    obtain ⟨t, -, rfl⟩ := List.mem_map.mp hw
    exact Bool.false_ne_true
  rw [due, List.countP_append, hreplay, Nat.zero_add, countP_owed]
  rfl

/-- **What is written of what is due.** Everything but the frames that keep the
connection alive, and every text that comes in is passed on once. So all that is
due is written exactly where no second interval passes. -/
theorem written_eq_due_iff (events : List Event) :
    written s events = (due s events).filter (!·.isKeepAlive) ∧
      received s events = (events.filterMap Event.text?).map (s.id, ·) ∧
      (written s events = due s events ↔ s.pingInterval = none ∨ events.countP Event.isInterval ≤ 1) := by
  refine ⟨(filter_due s events).symm, received_foldl .., ?_⟩
  have hnone : written s events = due s events ↔ (due s events).countP Written.isKeepAlive = 0 := by
    rw [← filter_due, List.filter_eq_self, List.countP_eq_zero]
    simp
  rw [hnone, countP_due]
  cases s.pingInterval with
  | none => simp
  | some ms => simp [Nat.sub_eq_zero_iff_le]

end

def busSettings : Settings where
  url := "ws://127.0.0.1:6671/ws"
  replay := some []
  pingInterval := some 30000
  keepAlive := some (.text "ping")

/-- A minute goes by, and the peer hears nothing. -/
theorem written_not_due_idle :
    due busSettings [.interval, .interval, .interval] = [.keepAlive (.text "ping"), .keepAlive (.text "ping")] ∧
      written busSettings [.interval, .interval, .interval] = [] ∧
      written busSettings [.interval, .interval, .interval] ≠ due busSettings [.interval, .interval, .interval] :=
  ⟨rfl, rfl, nofun⟩

end FuturesDesk.Feed.Wire
