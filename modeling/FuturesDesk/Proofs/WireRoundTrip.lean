import FuturesDesk.Market.Wire
import FuturesDesk.Order.Wire
import FuturesDesk.Proofs.FiniteNumbers
import FuturesDesk.Proofs.ReadRecords

/-!
# Values of the wire read back

What is written of a value is read as that value, and a value read from any text
is written to a text that is read as it again. Of an order the desk's own time is
not written. That doubles read back is taken for the doubles in the value only.
-/

namespace FuturesDesk

open Json Json.Record

/-! ## Integers and doubles -/

namespace Json

/-- The text written of a double is read as that double. -/
def ReadsBack (x : Float) : Prop := Decoder.run .float (Json.float x).render = .ok x

theorem ReadsBack.reads {x : Float} (h : ReadsBack x) : Decoder.Reads .float (Json.float x) x := by
  have hwritten : (Json.float x).IsWritten := by
    have hclean := (Decoder.run_eq_ok.mp h).2
    unfold Json.float at hclean ⊢
    split
    · rename_i n hn
      rw [hn, render, String.toList_ofList] at hclean
      exact ⟨Numeral.shaped_of_ofFloat? hn, leads_of_clean hclean⟩
    · trivial
  exact ⟨hwritten, (Decoder.run_render _ hwritten).symm.trans h⟩

namespace Decoder

theorem value?_ofInt {i : Int} (hlow : -(pow2 63 : Nat) ≤ i) (hhigh : i < (pow2 64 : Nat)) :
    (Numeral.ofInt i).value? = some (if i < 0 then .negative i else .unsigned i.natAbs) := by
  have hlimit : i < 0 → 0 < i.natAbs ∧ i.natAbs ≤ pow2 63 := by omega
  by_cases hi : i < 0
  · have hneg : (-(i.natAbs : Int)) = i := by omega
    simp only [Numeral.value?, Numeral.ofInt, Digit.value_ofNat, List.isEmpty_nil, Option.isNone_none, Bool.and_self,
      hi, decide_true, hlimit hi, if_true, hneg]
  · have hfits : i.natAbs < pow2 64 := by omega
    simp only [Numeral.value?, Numeral.ofInt, Digit.value_ofNat, List.isEmpty_nil, Option.isNone_none, Bool.and_self,
      hi, decide_false, hfits, if_true, if_false, Bool.false_eq_true]

theorem integer_int {lo hi i : Int} (hlow : -(pow2 63 : Nat) ≤ i) (hhigh : i < (pow2 64 : Nat)) (hlo : lo ≤ i)
    (hhi : i ≤ hi) : integer lo hi (.int i) = .ok i := by
  by_cases hi : i < 0
  · simp only [integer, Json.int, value?_ofInt hlow hhigh, hi, hlo, hhi, if_true, decide_true, Bool.and_self]
  · have habs : (i.natAbs : Int) = i := by omega
    simp only [integer, Json.int, value?_ofInt hlow hhigh, hi, habs, hlo, hhi, if_false, if_true, decide_true,
      Bool.and_self]

theorem reads_int64 (i : Int64) : Decoder.Reads .int64 (.int i.toInt) i := by
  have hlow := i.le_toInt
  have hhigh := i.toInt_lt
  have hpow : pow2 63 = 2 ^ 63 ∧ pow2 64 = 2 ^ 64 := ⟨rfl, rfl⟩
  have hread : integer (-(pow2 63 : Nat)) (pow2 63 - 1 : Nat) (.int i.toInt) = .ok i.toInt :=
    integer_int (by omega) (by omega) (by omega) (by omega)
  exact ⟨isWritten_int _, by simp only [int64, hread, Except.map, Int64.ofInt_toInt]⟩

theorem reads_uint64 (n : UInt64) : Decoder.Reads .uint64 (.nat n.toNat) n := by
  have hhigh := n.toNat_lt
  have hpow : pow2 63 = 2 ^ 63 ∧ pow2 64 = 2 ^ 64 := ⟨rfl, rfl⟩
  have hsame : Json.nat n.toNat = Json.int n.toNat := by simp [Json.nat, Json.int, Numeral.ofNat, Numeral.ofInt]
  have hread : integer 0 (pow2 64 - 1 : Nat) (.int n.toNat) = .ok (n.toNat : Int) :=
    integer_int (by omega) (by omega) (by omega) (by omega)
  exact ⟨isWritten_nat _, by simp only [uint64, hsame, hread, Except.map, Int.toNat_natCast, UInt64.ofNat_toNat]⟩

theorem gives_finite : Decoder.Gives .float fun x => isFinite x = true := fun _ _ h => isFinite_of_float h

theorem reads_optional {p : Option Float} (h : ∀ x ∈ p, ReadsBack x) :
    (Decoder.nullable .float).Reads (.optional .float p) p := by
  cases p with
  | none => exact reads_null _
  | some x =>
    have hread := (h x rfl).reads
    refine hread.nullable fun he => ?_
    have hvalue := hread.value
    rw [he] at hvalue
    cases hvalue

end Decoder

namespace Record

theorem finite_required (name : String) : (required name .float).Gives fun x => isFinite x = true :=
  gives_required name Decoder.gives_finite

theorem finite_defaulted (name : String) : (defaulted name .float 0).Gives fun x => isFinite x = true :=
  gives_defaulted name Decoder.gives_finite Binary64.isFinite_zero

end Record

end Json

/-! ## Names of variants -/

namespace Action

theorem reads (a : Action) : decoder.Reads a.toJson a := Decoder.reads_str (by cases a <;> rfl)

end Action

namespace Status

theorem reads (s : Status) : decoder.Reads s.toJson s := Decoder.reads_str (by cases s <;> rfl)

end Status

namespace AutomationKind

theorem reads (k : AutomationKind) : decoder.Reads k.toJson k := Decoder.reads_str (by cases k <;> rfl)

end AutomationKind

namespace TickSide

theorem reads (s : TickSide) : decoder.Reads s.toJson s := Decoder.reads_str (by cases s <;> rfl)

end TickSide

/-! ## Round trips -/

/-- What is written of a value is read as what is `kept` of it, and what is
written of a value that was read, from any text, is read as that value; as far as
the doubles in it read back. -/
structure RoundTrips {α : Type} (write : α → Json) (read : Decoder α) (floats : α → List Float) (kept : α → α) :
    Prop where
  written : ∀ a, (∀ x ∈ floats a, isFinite x = true) → (∀ x ∈ floats a, isFinite x = true → ReadsBack x) →
    read.run (write a).render = .ok (kept a)
  again : ∀ text a, read.run text = .ok a → (∀ x ∈ floats a, isFinite x = true → ReadsBack x) →
    read.run (write a).render = .ok a

theorem roundTrips {α : Type} {write : α → Json} {read : Decoder α} {floats : α → List Float} {kept : α → α}
    (hreads : ∀ a, (∀ x ∈ floats a, ReadsBack x) → read.Reads (write a) (kept a))
    (hfinite : read.Gives fun a => ∀ x ∈ floats a, isFinite x = true) (hkept : read.Gives fun a => kept a = a) :
    RoundTrips write read floats kept where
  written a hx hback := (hreads a fun x hmem => hback x hmem (hx x hmem)).run
  again text a ha hback := by
    have hx := hfinite.run ha
    have hread := (hreads a fun x hmem => hback x hmem (hx x hmem)).run
    rwa [hkept.run ha] at hread

/-! ## Orders -/

namespace Order

def floats (o : Order) : List Float := [o.price]

theorem reads (o : Order) (h : ∀ x ∈ o.floats, ReadsBack x) : decoder.Reads o.toJson { o with tradeTime := 0 } := by
  have hprice := (h o.price (by simp [floats])).reads
  have hreads : wire.Reads _ _ := .seq (.seq (.seq (.seq (.seq (.seq (.seq (.seq (.map
    (reads_required "orderId" (Decoder.reads_text o.id)) _)
    (reads_required "groupId" (Decoder.reads_text o.group)))
    (reads_required "code" (Decoder.reads_text o.code)))
    (reads_required "action" o.action.reads))
    (reads_required "price" hprice))
    (reads_required "quantity" (Decoder.reads_int64 o.quantity)))
    (reads_required "status" o.status.reads))
    (reads_required "orderTime" (Decoder.reads_int64 o.orderTime)))
    (reads_required "manual" (Decoder.reads_bool o.manual))
  exact hreads.decoder (by simp) "Order"

theorem gives : decoder.Gives fun o => (∀ x ∈ o.floats, isFinite x = true) ∧ o.tradeTime = 0 := by
  refine Gives.decoder ?_ "Order"
  refine .seq (.seq (.seq (.seq (.seq (.seq (.seq (.seq (.map (gives_any _) ?_) (gives_any _)) (gives_any _))
    (gives_any _)) (finite_required "price")) (gives_any _)) (gives_any _)) (gives_any _)) (gives_any _)
  intro _ _ _ _ _ _ _ _ price hprice _ _ _ _ _ _ _ _
  exact ⟨by simpa [floats] using hprice, rfl⟩

end Order

namespace Reply

theorem reads (r : Reply) : decoder.Reads r.toJson r := by
  have hreads : wire.Reads _ _ := .seq (.seq (.seq (.map
    (reads_defaulted "order_id" "" (Decoder.reads_text r.orderId)) _)
    (reads_defaulted "status" .unknown r.status.reads))
    (reads_defaulted "error" "" (Decoder.reads_text r.error)))
    (reads_defaulted "order_time" 0 (Decoder.reads_int64 r.orderTime))
  exact hreads.decoder (by simp) "GatewayReply"

end Reply

namespace StatusUpdate

def floats (u : StatusUpdate) : List Float := u.price.toList

theorem reads (u : StatusUpdate) (h : ∀ x ∈ u.floats, ReadsBack x) : decoder.Reads u.toJson u := by
  have hprice := Decoder.reads_optional fun x hx => h x (Option.mem_toList.mpr hx)
  have hreads : wire.Reads _ _ := .seq (.seq (.seq (.map
    (reads_required "order_id" (Decoder.reads_text u.orderId)) _)
    (reads_required "status" u.status.reads))
    (reads_defaulted "order_time" 0 (Decoder.reads_int64 u.orderTime)))
    (reads_defaulted "price" none hprice)
  exact hreads.decoder (by simp) "OrderStatusUpdate"

theorem gives : decoder.Gives fun u => ∀ x ∈ u.floats, isFinite x = true := by
  refine Gives.decoder ?_ "OrderStatusUpdate"
  refine .seq (.seq (.seq (.map (gives_any _) ?_) (gives_any _)) (gives_any _))
    (gives_defaulted "price" Decoder.gives_finite.nullable (by simp))
  intro orderId _ status _ orderTime _ price hprice x hx
  exact hprice x (Option.mem_toList.mp hx)

end StatusUpdate

namespace Automation

def floats (a : Automation) : List Float := [a.balanceHigh, a.balanceLow]

theorem reads (a : Automation) (h : ∀ x ∈ a.floats, ReadsBack x) : decoder.Reads a.toJson a := by
  have hhigh := (h a.balanceHigh (by simp [floats])).reads
  have hlow := (h a.balanceLow (by simp [floats])).reads
  have hreads : wire.Reads _ _ := .seq (.seq (.seq (.map
    (reads_required "automationType" a.kind.reads) _)
    (reads_defaulted "byBalanceHigh" 0 hhigh))
    (reads_defaulted "byBalanceLow" 0 hlow))
    (reads_defaulted "byTimePeriodSecs" 0 (Decoder.reads_uint64 a.periodSecs))
  exact hreads.decoder (by simp) "HalfAutomationOption"

theorem gives : decoder.Gives fun a => ∀ x ∈ a.floats, isFinite x = true := by
  refine Gives.decoder ?_ "HalfAutomationOption"
  refine .seq (.seq (.seq (.map (gives_any _) ?_) (finite_defaulted "byBalanceHigh")) (finite_defaulted "byBalanceLow"))
    (gives_any _)
  intro kind _ high hhigh low hlow periodSecs _
  simp [floats, hhigh, hlow]

end Automation

/-! ## Market data -/

namespace Tick

def floats (t : Tick) : List Float := [t.opening, t.close, t.high, t.low]

theorem reads (t : Tick) (h : ∀ x ∈ t.floats, ReadsBack x) : decoder.Reads t.toJson t := by
  have hopening := (h t.opening (by simp [floats])).reads
  have hclose := (h t.close (by simp [floats])).reads
  have hhigh := (h t.high (by simp [floats])).reads
  have hlow := (h t.low (by simp [floats])).reads
  have hreads : wire.Reads _ _ := .seq (.seq (.seq (.seq (.seq (.seq (.seq (.seq (.map
    (reads_required "code" (Decoder.reads_text t.code)) _)
    (reads_required "time" (Decoder.reads_int64 t.time)))
    (reads_defaulted "open" 0 hopening))
    (reads_required "close" hclose))
    (reads_defaulted "high" 0 hhigh))
    (reads_defaulted "low" 0 hlow))
    (reads_defaulted "volume" 0 (Decoder.reads_int64 t.volume)))
    (reads_defaulted "totalVolume" 0 (Decoder.reads_int64 t.totalVolume)))
    (reads_defaulted "tickType" .buy t.side.reads)
  exact hreads.decoder (by simp) "Tick"

theorem gives : decoder.Gives fun t => ∀ x ∈ t.floats, isFinite x = true := by
  refine Gives.decoder ?_ "Tick"
  refine .seq (.seq (.seq (.seq (.seq (.seq (.seq (.seq (.map (gives_any _) ?_) (gives_any _))
    (finite_defaulted "open")) (finite_required "close")) (finite_defaulted "high")) (finite_defaulted "low"))
    (gives_any _)) (gives_any _)) (gives_any _)
  intro code _ time _ opening hopening close hclose high hhigh low hlow volume _ totalVolume _ side _
  simp [floats, hopening, hclose, hhigh, hlow]

end Tick

namespace Bar

def floats (b : Bar) : List Float := [b.opening, b.high, b.low, b.close]

theorem reads (b : Bar) (h : ∀ x ∈ b.floats, ReadsBack x) : decoder.Reads b.toJson b := by
  have hopening := (h b.opening (by simp [floats])).reads
  have hhigh := (h b.high (by simp [floats])).reads
  have hlow := (h b.low (by simp [floats])).reads
  have hclose := (h b.close (by simp [floats])).reads
  have hreads : wire.Reads _ _ := .seq (.seq (.seq (.seq (.seq (.map
    (reads_required "time" (Decoder.reads_int64 b.time)) _)
    (reads_required "open" hopening))
    (reads_required "high" hhigh))
    (reads_required "low" hlow))
    (reads_required "close" hclose))
    (reads_required "volume" (Decoder.reads_int64 b.volume))
  exact hreads.decoder (by simp) "KBar"

theorem gives : decoder.Gives fun b => ∀ x ∈ b.floats, isFinite x = true := by
  refine Gives.decoder ?_ "KBar"
  refine .seq (.seq (.seq (.seq (.seq (.map (gives_any _) ?_) (finite_required "open")) (finite_required "high"))
    (finite_required "low")) (finite_required "close")) (gives_any _)
  intro time _ opening hopening high hhigh low hlow close hclose volume _
  simp [floats, hopening, hhigh, hlow, hclose]

end Bar

namespace IndexStatus

def floats (s : IndexStatus) : List Float := [s.price, s.change, s.changeRate]

theorem reads (s : IndexStatus) (h : ∀ x ∈ s.floats, ReadsBack x) : decoder.Reads s.toJson s := by
  have hprice := (h s.price (by simp [floats])).reads
  have hchange := (h s.change (by simp [floats])).reads
  have hrate := (h s.changeRate (by simp [floats])).reads
  have hreads : wire.Reads _ _ := .seq (.seq (.seq (.map
    (reads_required "price" hprice) _)
    (reads_required "change" hchange))
    (reads_required "changeRate" hrate))
    (reads_defaulted "breakOut" false (Decoder.reads_bool s.breakOut))
  exact hreads.decoder (by simp) "IndexStatus"

theorem gives : decoder.Gives fun s => ∀ x ∈ s.floats, isFinite x = true := by
  refine Gives.decoder ?_ "IndexStatus"
  refine .seq (.seq (.seq (.map (finite_required "price") ?_) (finite_required "change"))
    (finite_required "changeRate")) (gives_any _)
  intro price hprice change hchange rate hrate breakOut _
  simp [floats, hprice, hchange, hrate]

end IndexStatus

namespace TradeIndex

def floats (i : TradeIndex) : List Float := i.tse.floats ++ i.otc.floats ++ i.nasdaq.floats ++ i.nf.floats

theorem reads (i : TradeIndex) (h : ∀ x ∈ i.floats, ReadsBack x) : decoder.Reads i.toJson i := by
  have htse := i.tse.reads fun x hx => h x (by simp [floats, hx])
  have hotc := i.otc.reads fun x hx => h x (by simp [floats, hx])
  have hnasdaq := i.nasdaq.reads fun x hx => h x (by simp [floats, hx])
  have hnf := i.nf.reads fun x hx => h x (by simp [floats, hx])
  have hreads : wire.Reads _ _ := .seq (.seq (.seq (.map
    (reads_required "tse" htse) _)
    (reads_required "otc" hotc))
    (reads_required "nasdaq" hnasdaq))
    (reads_required "nf" hnf)
  exact hreads.decoder (by simp) "TradeIndex"

theorem gives : decoder.Gives fun i => ∀ x ∈ i.floats, isFinite x = true := by
  refine Gives.decoder ?_ "TradeIndex"
  refine .seq (.seq (.seq (.map (gives_required "tse" IndexStatus.gives) ?_) (gives_required "otc" IndexStatus.gives))
    (gives_required "nasdaq" IndexStatus.gives)) (gives_required "nf" IndexStatus.gives)
  intro tse htse otc hotc nasdaq hnasdaq nf hnf x hx
  simp only [floats, List.mem_append] at hx
  rcases hx with ((hx | hx) | hx) | hx
  · exact htse x hx
  · exact hotc x hx
  · exact hnasdaq x hx
  · exact hnf x hx

end TradeIndex

namespace Position

def floats (p : Position) : List Float := [p.price, p.lastPrice, p.pnl]

theorem reads (p : Position) (h : ∀ x ∈ p.floats, ReadsBack x) : decoder.Reads p.toJson p := by
  have hprice := (h p.price (by simp [floats])).reads
  have hlast := (h p.lastPrice (by simp [floats])).reads
  have hpnl := (h p.pnl (by simp [floats])).reads
  have hreads : wire.Reads _ _ := .seq (.seq (.seq (.seq (.seq (.map
    (reads_required "code" (Decoder.reads_text p.code)) _)
    (reads_required "direction" (Decoder.reads_text p.direction)))
    (reads_required "quantity" (Decoder.reads_int64 p.quantity)))
    (reads_required "price" hprice))
    (reads_required "lastPrice" hlast))
    (reads_required "pnl" hpnl)
  exact hreads.decoder (by simp) "Position"

theorem gives : decoder.Gives fun p => ∀ x ∈ p.floats, isFinite x = true := by
  refine Gives.decoder ?_ "Position"
  refine .seq (.seq (.seq (.seq (.seq (.map (gives_any _) ?_) (gives_any _)) (gives_any _))
    (finite_required "price")) (finite_required "lastPrice")) (finite_required "pnl")
  intro code _ direction _ quantity _ price hprice last hlast pnl hpnl
  simp [floats, hprice, hlast, hpnl]

end Position

/-! ## All of them -/

theorem wire_round_trips :
    RoundTrips Order.toJson Order.decoder Order.floats (fun o => { o with tradeTime := 0 }) ∧
    RoundTrips Reply.toJson Reply.decoder (fun _ => []) id ∧
    RoundTrips StatusUpdate.toJson StatusUpdate.decoder StatusUpdate.floats id ∧
    RoundTrips Automation.toJson Automation.decoder Automation.floats id ∧
    RoundTrips Tick.toJson Tick.decoder Tick.floats id ∧
    RoundTrips Bar.toJson Bar.decoder Bar.floats id ∧
    RoundTrips IndexStatus.toJson IndexStatus.decoder IndexStatus.floats id ∧
    RoundTrips TradeIndex.toJson TradeIndex.decoder TradeIndex.floats id ∧
    RoundTrips Position.toJson Position.decoder Position.floats id := by
  have horder : Order.decoder.Gives fun o => { o with tradeTime := 0 } = o := by
    intro j o ho
    have hzero := (Order.gives j o ho).2
    cases o
    cases hzero
    rfl
  refine ⟨roundTrips Order.reads (fun j o ho => (Order.gives j o ho).1) horder, ?_, ?_, ?_, ?_, ?_, ?_, ?_, ?_⟩
  · exact roundTrips (fun r _ => r.reads) (fun _ _ _ => by simp) fun _ _ _ => rfl
  · exact roundTrips StatusUpdate.reads StatusUpdate.gives fun _ _ _ => rfl
  · exact roundTrips Automation.reads Automation.gives fun _ _ _ => rfl
  · exact roundTrips Tick.reads Tick.gives fun _ _ _ => rfl
  · exact roundTrips Bar.reads Bar.gives fun _ _ _ => rfl
  · exact roundTrips IndexStatus.reads IndexStatus.gives fun _ _ _ => rfl
  · exact roundTrips TradeIndex.reads TradeIndex.gives fun _ _ _ => rfl
  · exact roundTrips Position.reads Position.gives fun _ _ _ => rfl

def quotedOrder : Order :=
  { id := "p\"\x01", code := "MXFL1", action := .buy, price := 17800.5, quantity := 1, tradeTime := 1000 }

/-- A tick with its members out of order, most of them missing, and one that is
no field. -/
def shortTick : String := "\x7b\"close\":17800.5,\"lot\":[1],\"time\":-3,\"code\":\"\\u00e9\"\x7d"

theorem floats_shortTick : (Tick.decoder.run shortTick).map Tick.floats = .ok [0, 17800.5, 0, 0] := by decide +kernel

theorem wire_round_trips_shortTick :
    Order.decoder.run quotedOrder.toJson.render = .ok { quotedOrder with tradeTime := 0 } ∧
    ∃ t, Tick.decoder.run shortTick = .ok t ∧ Tick.decoder.run t.toJson.render = .ok t := by
  have hprice : ReadsBack 17800.5 := by
    unfold ReadsBack
    decide +kernel
  have hzero : ReadsBack 0 := by
    unfold ReadsBack
    decide +kernel
  obtain ⟨horder, -, -, -, htick, -⟩ := wire_round_trips
  constructor
  · refine horder.written quotedOrder (fun x hx => ?_) fun x hx _ => ?_
    · rw [List.mem_singleton.mp hx]
      decide +kernel
    · rw [List.mem_singleton.mp hx]
      exact hprice
  · obtain ⟨t, ht, hfloats⟩ := exists_of_map floats_shortTick
    refine ⟨t, ht, htick.again shortTick t ht fun x hx _ => ?_⟩
    rw [hfloats] at hx
    simp only [List.mem_cons, List.not_mem_nil, or_false] at hx
    rcases hx with rfl | rfl | rfl | rfl
    · exact hzero
    · exact hprice
    · exact hzero
    · exact hzero

end FuturesDesk
