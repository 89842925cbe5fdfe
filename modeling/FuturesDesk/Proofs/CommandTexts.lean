import FuturesDesk.Proofs.ReadCommands
import FuturesDesk.Proofs.WireRoundTrip

/-!
# Texts of commands

A text reads as a command only if the command makes sense, and a command that
makes sense is read from all its texts: its members may stand in any order, among
others and between blanks, and those may be left out that have their default.
-/

namespace FuturesDesk

open Json Json.Record

/-! ## Commands that make sense -/

structure Automation.Valid (a : Automation) : Prop where
  finite : isFinite a.balanceHigh = true ∧ isFinite a.balanceLow = true
  balance : a.kind.usesBalance = true → 0 ≤ a.balanceHigh ∧ 0 ≤ a.balanceLow
  period : a.kind.usesTime = true → 0 < a.periodSecs

structure Command.Valid (c : Command) : Prop where
  code : trimBlanks c.code.toList ≠ []
  quantity : 0 < c.quantity
  price : isFinite c.price = true ∧ 0 ≤ c.price
  option : ∀ a, c.option = some a → a.Valid

theorem Automation.valid_iff {a : Automation} :
    a.Valid ↔ (∀ x ∈ a.floats, isFinite x = true) ∧ Command.optionFlaw? a = none := by
  have hfloats : (∀ x ∈ a.floats, isFinite x = true) ↔
      isFinite a.balanceHigh = true ∧ isFinite a.balanceLow = true := by simp [floats]
  have hperiod : 0 < a.periodSecs ↔ a.periodSecs ≠ 0 := UInt64.pos_iff_ne_zero
  rw [hfloats, Command.optionFlaw?_eq_none_iff, ← hperiod]
  constructor
  · rintro ⟨⟨hhigh, hlow⟩, hbalance, hsecs⟩
    rw [Binary64.zero_le_iff hhigh, Binary64.zero_le_iff hlow] at hbalance
    exact ⟨⟨hhigh, hlow⟩, hbalance, hsecs⟩
  · rintro ⟨⟨hhigh, hlow⟩, hbalance, hsecs⟩
    rw [← Binary64.zero_le_iff hhigh, ← Binary64.zero_le_iff hlow] at hbalance
    exact ⟨⟨hhigh, hlow⟩, hbalance, hsecs⟩

namespace Command

variable {c : Command}

def floats (c : Command) : List Float := c.price :: (c.option.map Automation.floats).getD []

theorem forall_floats {p : Float → Prop} :
    (∀ x ∈ c.floats, p x) ↔ p c.price ∧ ∀ a, c.option = some a → ∀ x ∈ a.floats, p x := by
  cases ho : c.option <;> simp [floats, ho]

theorem valid_iff : c.Valid ↔ (∀ x ∈ c.floats, isFinite x = true) ∧ c.flaw? = none := by
  have hcode : trimBlanks c.code.toList ≠ [] ↔ (trimBlanks c.code.toList).isEmpty = false := by
    rw [← Bool.not_eq_true, List.isEmpty_iff]
  rw [forall_floats, flaw?_eq_none_iff, ← hcode]
  constructor
  · rintro ⟨hcode, hquantity, ⟨hfinite, hprice⟩, hoption⟩
    refine ⟨⟨hfinite, fun a ha => (Automation.valid_iff.mp (hoption a ha)).1⟩, hcode, hquantity, ⟨hfinite, ?_⟩,
      fun a ha => (Automation.valid_iff.mp (hoption a ha)).2⟩
    exact (Binary64.zero_le_iff hfinite).mp hprice
  · rintro ⟨⟨hfinite, hfloats⟩, hcode, hquantity, ⟨-, hprice⟩, hoption⟩
    refine ⟨hcode, hquantity, ⟨hfinite, (Binary64.zero_le_iff hfinite).mpr hprice⟩, fun a ha => ?_⟩
    exact Automation.valid_iff.mpr ⟨hfloats a ha, hoption a ha⟩

theorem gives : decoder.Gives fun c => ∀ x ∈ c.floats, isFinite x = true := by
  refine Gives.decoder ?_ "ClientCommand"
  refine .seq (.seq (.seq (.seq (.map (gives_any _) ?_) (gives_any _)) (finite_required "price")) (gives_any _))
    (gives_defaulted "automationOption" Automation.gives.nullable (by simp))
  intro code _ action _ price hprice quantity _ option hoption
  exact forall_floats.mpr ⟨hprice, hoption⟩

end Command

/-! ## Documents of a command -/

/-- The documents of an automation option: its members by their names. -/
inductive Automation.Shown (a : Automation) : Json → Prop
  | object {high low secs : Option Json} {ms : List (Key × Json)}
      (hhigh : Optionally (.float a.balanceHigh) (a.balanceHigh = 0) high)
      (hlow : Optionally (.float a.balanceLow) (a.balanceLow = 0) low)
      (hsecs : Optionally (.nat a.periodSecs.toNat) (a.periodSecs = 0) secs)
      (members : Arranges [("automationType", some a.kind.toJson), ("byBalanceHigh", high), ("byBalanceLow", low),
        ("byTimePeriodSecs", secs)] ms) : Shown a (.object ms true)

/-- What may stand for the option of a command: nothing or `null` for none. -/
inductive Command.OptionShown : Option Automation → Option Json → Prop
  | left : OptionShown none none
  | null : OptionShown none (some .null)
  | given {a : Automation} {j : Json} (h : a.Shown j) : OptionShown (some a) (some j)

inductive Command.Shown (c : Command) : Json → Prop
  | object {option : Option Json} {ms : List (Key × Json)} (hoption : OptionShown c.option option)
      (members : Arranges [("instrumentCode", some (.str c.code)), ("action", some c.action.toJson),
        ("price", some (.float c.price)), ("quantity", some (.int c.quantity.toInt)), ("automationOption", option)]
        ms) : Shown c (.object ms true)

theorem Automation.shown_toJson (a : Automation) : a.Shown a.toJson :=
  .object .given .given .given ⟨[], .of_eq (List.append_nil _).symm, by simp⟩

theorem Command.shown_toJson (c : Command) : c.Shown c.toJson := by
  have hoption : OptionShown c.option (some (.optional Automation.toJson c.option)) := by
    cases c.option with
    | none => exact .null
    | some a => exact .given a.shown_toJson
  exact .object hoption ⟨[], .of_eq (List.append_nil _).symm, by simp⟩

theorem Automation.decoder_of_shown {a : Automation} {j : Json} (h : a.Shown j) (hcomplete : j.isComplete = true)
    (hback : ∀ x ∈ a.floats, ReadsBack x) : decoder j = .ok a := by
  obtain ⟨hhigh, hlow, hsecs, members⟩ := h
  have hreadHigh := (hback a.balanceHigh (by simp [floats])).reads.value
  have hreadLow := (hback a.balanceLow (by simp [floats])).reads.value
  have hfills : wire.Fills _ _ := .seq (.seq (.seq (.map
    (fills_required "automationType" a.kind.reads.value) _)
    (fills_defaulted "byBalanceHigh" hreadHigh hhigh))
    (fills_defaulted "byBalanceLow" hreadLow hlow))
    (fills_defaulted "byTimePeriodSecs" (Decoder.reads_uint64 a.periodSecs).value hsecs)
  exact hfills.decoder (by simp) members hcomplete "HalfAutomationOption"

namespace Command

variable {c : Command}

theorem option_of_shown {option : Option Json} (h : OptionShown c.option option)
    (hcomplete : ∀ j, option = some j → j.isComplete = true)
    (hback : ∀ a, c.option = some a → ∀ x ∈ a.floats, ReadsBack x) :
    (defaulted "automationOption" (Decoder.nullable Automation.decoder) none).Fills [("automationOption", option)]
      c.option := by
  generalize c.option = o at h hback
  cases h with
  | left => exact fills_left _ (by decide) _ rfl
  | null =>
    have hread : Decoder.nullable Automation.decoder .null = .ok none := rfl
    exact fills_given _ _ hread _
  | @given a j hshown =>
    have hread := Automation.decoder_of_shown hshown (hcomplete j rfl) (hback a rfl)
    refine fills_given _ _ ?_ _
    cases hshown
    simp only [Decoder.nullable, hread, Except.map]

theorem decoder_of_shown {j : Json} (h : c.Shown j) (hcomplete : j.isComplete = true)
    (hback : ∀ x ∈ c.floats, ReadsBack x) : decoder j = .ok c := by
  obtain @⟨option, ms, hoption, members⟩ := h
  obtain ⟨hprice, hoffsets⟩ := forall_floats.mp hback
  have hnested : ∀ j, option = some j → j.isComplete = true := by
    rintro j rfl
    have hmem := (members.mem_iff (by simp) (List.mem_append_right [_, _, _, _] (List.mem_singleton_self _)) j).mpr rfl
    exact isComplete_of_mem hcomplete _ hmem
  have hfills : wire.Fills _ _ := .seq (.seq (.seq (.seq (.map
    (fills_required "instrumentCode" (Decoder.reads_text c.code).value) _)
    (fills_required "action" c.action.reads.value))
    (fills_required "price" hprice.reads.value))
    (fills_required "quantity" (Decoder.reads_int64 c.quantity).value))
    (option_of_shown hoption hnested hoffsets)
  exact hfills.decoder (by simp) members hcomplete "ClientCommand"

/-- **Commands are read as they are meant.** What reads as a command makes sense,
and a command that makes sense is read from each of its texts, however its
members are arranged and spelled, and whatever stands between them. -/
theorem ofText_sound_complete :
    (∀ text c, ofText text = .ok c → c.Valid) ∧
    ∀ c : Command, c.Valid → (∀ x ∈ c.floats, isFinite x = true → ReadsBack x) →
      ∀ t : TextSpelling, c.Shown t.document.value → ofText t.text = .ok c := by
  constructor
  · intro text c h
    obtain ⟨hdecoded, hflaw⟩ := ofText_eq_ok_iff.mp h
    exact valid_iff.mpr ⟨gives.run hdecoded, hflaw⟩
  · intro c hvalid hback t hshown
    obtain ⟨hfinite, hflaw⟩ := valid_iff.mp hvalid
    refine ofText_eq_ok_iff.mpr ⟨?_, hflaw⟩
    rw [Decoder.run_text]
    exact decoder_of_shown hshown t.document.isComplete_value fun x hx => hback x hx (hfinite x hx)

def assistedSale : Command :=
  { code := "MXFL1", action := .sellFirst, price := 17800.5, quantity := 2,
    option := some ⟨.byTimePeriodAndBalance, 20.5, 0, 300⟩ }

def letters (s : String) : List Piece :=
  s.toList.filterMap fun c => if h : c ≠ '"' ∧ c ≠ '\\' ∧ 0x20 ≤ c.toNat then some (.plain c h) else none

def labelled (name : String) : Label := ⟨[], letters name, [], [.space]⟩

/-- The sale with its members from the last to the first, others in front of
them, and an escape in its code. -/
def backwards : TextSpelling where
  before := [.newline]
  document := .object
    (.more (labelled "lot") (.array (.more [] (.number ⟨false, 1, [], by decide, [], some ⟨true, none, 2, []⟩⟩) [.space]
      (.one [.tab] (.emptyObject [.space]) []))) [] <|
    .more (labelled "automationOption") (.object
      (.more (labelled "note") .null [.space] <|
      .more (labelled "byTimePeriodSecs") (.number ⟨false, 3, [0, 0], by decide, [], none⟩) [] <|
      .more (labelled "byBalanceHigh") (.number ⟨false, 2, [0], by decide, [5], none⟩) [] <|
      .one (labelled "automationType") (.string (letters "ByTimePeriodAndBalance")) [])) [] <|
    .more (labelled "quantity") (.number ⟨false, 2, [], by decide, [], none⟩) [.carriageReturn] <|
    .more (labelled "price") (.number ⟨false, 1, [7, 8, 0, 0], by decide, [5], none⟩) [] <|
    .more (labelled "action") (.string (letters "SellFirst")) [] <|
    .one (labelled "instrumentCode")
      (.string (.unit ⟨0, false⟩ ⟨0, false⟩ ⟨4, false⟩ ⟨13, true⟩ :: letters "XFL1")) [.space])
  after := [.space]

example : backwards.text =
    "\n\x7b\"lot\": [1E2 ,\t\x7b \x7d],\"automationOption\": \x7b\"note\": null ,\"byTimePeriodSecs\": 300," ++
    "\"byBalanceHigh\": 20.5,\"automationType\": \"ByTimePeriodAndBalance\"\x7d,\"quantity\": 2\r," ++
    "\"price\": 17800.5,\"action\": \"SellFirst\",\"instrumentCode\": \"\\u004DXFL1\" \x7d " := by
  decide +kernel

theorem shown_backwards : assistedSale.Shown backwards.document.value := by
  have hprice : Json.float 17800.5 = .number ⟨false, [1, 7, 8, 0, 0], [5], none⟩ := by
    have hn : Numeral.ofFloat? .json 17800.5 = some ⟨false, [1, 7, 8, 0, 0], [5], none⟩ := by decide +kernel
    simp only [Json.float, hn]
  have hhigh : Json.float 20.5 = .number ⟨false, [2, 0], [5], none⟩ := by
    have hn : Numeral.ofFloat? .json 20.5 = some ⟨false, [2, 0], [5], none⟩ := by decide +kernel
    simp only [Json.float, hn]
  have hreverse : ∀ ms others : List (Key × Json), (others ++ ms.reverse).Perm (ms ++ others) := fun ms others =>
    List.perm_append_comm.trans ((List.reverse_perm ms).append_right others)
  have hoption : OptionShown assistedSale.option (some (.object ([(.name "note", .null)] ++
      (given [("automationType", some (.str "ByTimePeriodAndBalance")), ("byBalanceHigh", some (Json.float 20.5)),
        ("byBalanceLow", none), ("byTimePeriodSecs", some (.nat 300))]).reverse) true)) :=
    .given (.object .given (.left rfl) .given ⟨_, hreverse _ _, by simp⟩)
  have hshown := Shown.object (c := assistedSale) hoption
    ⟨[(.name "lot", .array [.number ⟨false, [1], [], some (false, [2])⟩, .object [] true] true)], hreverse _ _,
      by simp⟩
  rw [show Json.float assistedSale.price = _ from hprice, hhigh] at hshown
  exact hshown

theorem valid_assistedSale : assistedSale.Valid where
  code := by decide +kernel
  quantity := by decide
  price := by decide +kernel
  option a ha := by
    cases ha
    exact ⟨by decide +kernel, fun _ => by decide +kernel, fun _ => by decide⟩

theorem ofText_sound_complete_backwards : ofText backwards.text = .ok assistedSale ∧ assistedSale.Valid := by
  have hback : ∀ x ∈ assistedSale.floats, isFinite x = true → ReadsBack x := by
    have hfloats : assistedSale.floats = [17800.5, 20.5, 0] := rfl
    have hread : ReadsBack 17800.5 ∧ ReadsBack 20.5 ∧ ReadsBack 0 := by
      unfold ReadsBack
      decide +kernel
    intro x hx _
    simp only [hfloats, List.mem_cons, List.not_mem_nil, or_false] at hx
    rcases hx with rfl | rfl | rfl
    · exact hread.1
    · exact hread.2.1
    · exact hread.2.2
  obtain ⟨hsound, hcomplete⟩ := ofText_sound_complete
  have hread := hcomplete assistedSale valid_assistedSale hback backwards shown_backwards
  exact ⟨hread, hsound _ _ hread⟩

end Command

end FuturesDesk
