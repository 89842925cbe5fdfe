import FuturesDesk.Feed.Frame
import FuturesDesk.Proofs.AssistOrders

/-!
# Prices of submitted orders

An order that is submitted for a client has the price of a command, and a command
is read with a price only. One that a trader submits has the close of a tick, and
that is whatever number the frame of the tick has there.
-/

namespace FuturesDesk

namespace Feed

/-- A text of the bus has this number in the place of a close. -/
def Quotes (text : String) (x : Float) : Prop :=
  ∃ j data, Json.parse? text = some j ∧ j.get? "data" = some data ∧ floatField? data "close" = some x

theorem close_of_tick? {d : Json} {t : Tick} (h : tick? d = some t) : floatField? d "close" = some t.close := by
  obtain ⟨close, hclose, h⟩ := Option.bind_eq_some_iff.mp h
  obtain ⟨code, -, h⟩ := Option.bind_eq_some_iff.mp h
  obtain ⟨time, -, h⟩ := Option.bind_eq_some_iff.mp h
  cases h
  exact hclose

theorem tick?_of_payload? {channel : String} {d : Json} {t : Tick} (h : payload? channel d = some (.tick t)) :
    tick? d = some t := by
  unfold payload? at h
  split at h
  · obtain ⟨t', ht', h⟩ := Option.map_eq_some_iff.mp h
    rw [ht', Payload.tick.inj h]
  · split at h
    · obtain ⟨u, -, h⟩ := Option.map_eq_some_iff.mp h
      cases h
    · cases h

theorem Frame.quotes_of_ofText? {text : String} {f : Frame} {t : Tick} (h : ofText? text = some f)
    (ht : f.payload = .tick t) : Quotes text t.close := by
  obtain ⟨j, hj, h⟩ := Option.bind_eq_some_iff.mp h
  obtain ⟨channel, -, h⟩ := Option.bind_eq_some_iff.mp h
  obtain ⟨data, hdata, h⟩ := Option.bind_eq_some_iff.mp h
  obtain ⟨payload, hpayload, h⟩ := Option.bind_eq_some_iff.mp h
  cases h
  cases ht
  exact ⟨j, data, hj, hdata, close_of_tick? (tick?_of_payload? hpayload)⟩

end Feed

namespace Session

def Step.Relayed : Step → Prop
  | .tick t => ∃ text f, Feed.Frame.ofText? text = some f ∧ f.payload = .tick t
  | .status _ u => ∃ text f, Feed.Frame.ofText? text = some f ∧ f.payload = .status u
  | _ => True

def relayed (now : UInt64) (text : String) : List Step :=
  match (Feed.Frame.ofText? text).map Feed.Frame.payload with
  | some (.tick t) => [.tick t]
  | some (.status u) => [.status now u]
  | none => []

theorem relayed_of_mem {now : UInt64} {text : String} {st : Step} (h : st ∈ relayed now text) : st.Relayed := by
  unfold relayed at h
  split at h
  · rename_i t ht
    obtain ⟨f, hf, hp⟩ := Option.map_eq_some_iff.mp ht
    rw [List.mem_singleton.mp h]
    exact ⟨text, f, hf, hp⟩
  · rename_i u hu
    obtain ⟨f, hf, hp⟩ := Option.map_eq_some_iff.mp hu
    rw [List.mem_singleton.mp h]
    exact ⟨text, f, hf, hp⟩
  · cases h

section
variable {steps : List Step} {st : Step} {o : Order}

/-- **Where prices come from.** An order that is submitted has the price of a
command, which its reader checked, or else the close of a tick, which is a number
that no one has checked. -/
theorem submitted_price_source (connId : String) (settings : Config.Trade) (hours : Hours) (zone : Zone)
    (hrelayed : ∀ st ∈ steps, st.Relayed) (ho : o ∈ ((start connId settings hours zone).run steps).submitted st) :
    (∃ now text ticket c, st = .text now text ticket ∧ Command.ofText text = .ok c ∧ o.price = c.price ∧
        IsPrice o.price) ∨
      ∃ inbox now answer text tick, st = .traderTick inbox now answer ∧ .tick tick ∈ steps ∧
        Feed.Quotes text tick.close ∧ o.price = tick.close := by
  rcases submitted_cases ho with ⟨now, text, ticket, c, rfl, hread, hunit, -⟩ | ⟨inbox, now, answer, rfl, hs⟩
  · have hprice : IsPrice o.price := hunit.price ▸ Command.isPrice_of_ofText hread
    exact Or.inl ⟨now, text, ticket, c, rfl, hread, hunit.price, hprice⟩
  · obtain ⟨t, tick, c, hu⟩ := (accounted_start connId settings hours zone steps).undoes_of_sent hs
    obtain ⟨text, f, hf, hpayload⟩ := hrelayed _ hu.delivered
    exact Or.inr ⟨inbox, now, answer, text, tick, rfl, hu.delivered, Feed.Frame.quotes_of_ofText? hf hpayload, hu.price⟩

end

def frameOf (channel members : String) : String :=
  "\x7b\"channel\":\"" ++ channel ++ "\",\"data\":\x7b" ++ members ++ "\x7d\x7d"

def closedAt (close : String) : List Step :=
  .text 1000 (Command.buyWith "\"automationType\":\"ByTimePeriod\",\"byTimePeriodSecs\":5")
      (fun _ => ⟨"g1", .reply { orderId := "p1", status := .submitted }⟩) ::
    relayed 1500 (frameOf "order" "\"order_id\":\"p1\",\"status\":\"Filled\"") ++ .promote ::
    relayed 9000 (frameOf "tick" ("\"code\":\"MXFL1\",\"time\":9000,\"close\":" ++ close))

theorem relayed_closedAt (close : String) : ∀ st ∈ closedAt close, st.Relayed := by
  intro st h
  rcases List.mem_cons.mp h with rfl | h
  · trivial
  rcases List.mem_append.mp h with h | h
  · exact relayed_of_mem h
  rcases List.mem_cons.mp h with rfl | h
  · trivial
  · exact relayed_of_mem h

theorem submitted_price_source_closed :
    ∃ o ∈ ((start "conn-1" {} .alwaysOpen).run (closedAt "101")).submitted (.traderTick 0 9000 (.failure "down")),
      ∃ text tick, .tick tick ∈ closedAt "101" ∧ Feed.Quotes text tick.close ∧ o.price = tick.close := by
  have hsubmitted : (((start "conn-1" {} .alwaysOpen).run (closedAt "101")).submitted
      (.traderTick 0 9000 (.failure "down"))).map Order.price = [101] := by decide +kernel
  obtain ⟨o, ho, -⟩ := List.mem_map.mp (hsubmitted ▸ List.mem_singleton.mpr rfl)
  rcases submitted_price_source "conn-1" {} .alwaysOpen .utc (relayed_closedAt "101") ho with
    ⟨now, text, ticket, c, hst, -⟩ | ⟨inbox, now, answer, text, tick, -, htick, hquotes, hprice⟩
  · cases hst
  · exact ⟨o, ho, text, tick, htick, hquotes, hprice⟩

/-- A close that is no number is submitted as a price all the same. -/
theorem submitted_without_price :
    (∀ st ∈ closedAt "\"NaN\"", st.Relayed) ∧
      ∃ o ∈ ((start "conn-1" {} .alwaysOpen).run (closedAt "\"NaN\"")).submitted
        (.traderTick 0 9000 (.failure "down")), ¬ IsPrice o.price :=
  ⟨relayed_closedAt _, by decide +kernel⟩

end Session

end FuturesDesk
