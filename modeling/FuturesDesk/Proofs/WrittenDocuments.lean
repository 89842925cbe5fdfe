import FuturesDesk.Json.Printer
import FuturesDesk.Proofs.TextSpellings

/-!
# Documents read back

The text of a document spells it, and is read as that document, whatever its
strings hold. Only its numerals have to be written as texts allow them.
-/

namespace FuturesDesk

/-! ## Digits -/

namespace Digit

theorem value_spread (fuel n : Nat) (tail : List Digit) (h : n < fuel) :
    value (spread fuel n tail) = tail.foldl (fun n d => 10 * n + d.val) n := by
  induction fuel generalizing n tail with
  | zero => exact absurd h (Nat.not_lt_zero n)
  | succ fuel ih =>
    simp only [spread]
    split
    · simp [value, last, Nat.mod_eq_of_lt ‹n < 10›]
    · rw [ih _ _ (by omega), List.foldl_cons]
      congr 1
      exact Nat.div_add_mod n 10

@[simp] theorem value_ofNat (n : Nat) : value (ofNat n) = n := value_spread (n + 1) n [] (Nat.lt_succ_self n)

theorem spread_leading (fuel n : Nat) (tail : List Digit) (h : n < fuel) :
    ∃ d ds, spread fuel n tail = d :: ds ∧ (d = zero → n = 0 ∧ ds = tail) := by
  induction fuel generalizing n tail with
  | zero => exact absurd h (Nat.not_lt_zero n)
  | succ fuel ih =>
    simp only [spread]
    split
    · refine ⟨last n, tail, rfl, fun hd => ⟨?_, rfl⟩⟩
      have hval : n % 10 = 0 := congrArg Fin.val hd
      omega
    · obtain ⟨d, ds, he, hzero⟩ := ih (n / 10) (last n :: tail) (by omega)
      refine ⟨d, ds, he, fun hd => ?_⟩
      have hn := (hzero hd).1
      omega

theorem ofNat_leading (n : Nat) : ∃ d ds, ofNat n = d :: ds ∧ (d = zero → ds = []) := by
  obtain ⟨d, ds, he, hzero⟩ := spread_leading (n + 1) n [] (Nat.lt_succ_self n)
  exact ⟨d, ds, he, fun hd => (hzero hd).2⟩

end Digit

namespace Numeral

/-- There are digits in front of the point, and behind the mark of an exponent. -/
structure Shaped (n : Numeral) : Prop where
  whole : n.whole ≠ []
  exponent : ∀ e ∈ n.exponent, e.2 ≠ []

/-- No zero leads another digit. -/
def Leads (n : Numeral) : Prop := ∀ ds, n.whole = Digit.zero :: ds → ds = []

theorem digits_ne_nil (n : Nat) : Digit.ofNat n ≠ [] := by
  obtain ⟨d, ds, he, -⟩ := Digit.ofNat_leading n
  rw [he]
  exact List.cons_ne_nil d ds

theorem shaped_integer (negative : Bool) (n : Nat) : Shaped ⟨negative, Digit.ofNat n, [], none⟩ :=
  ⟨digits_ne_nil n, fun _ he => nomatch he⟩

theorem leads_integer (negative : Bool) (n : Nat) : Leads ⟨negative, Digit.ofNat n, [], none⟩ := by
  intro ds hwhole
  obtain ⟨d, ds', he, hzero⟩ := Digit.ofNat_leading n
  obtain ⟨rfl, rfl⟩ := List.cons.inj (he.symm.trans hwhole)
  exact hzero rfl

theorem shaped_positional (l : Layout) (negative : Bool) {ds : List Digit} (hds : ds ≠ []) (decade : Int) :
    (positional l negative ds decade).Shaped := by
  unfold positional
  split
  · exact ⟨List.cons_ne_nil _ _, fun _ he => nomatch he⟩
  · obtain ⟨d, ds, rfl⟩ := List.exists_cons_of_ne_nil hds
    exact ⟨List.cons_ne_nil _ _, fun _ he => nomatch he⟩

theorem shaped_scientific (negative : Bool) {ds : List Digit} (hds : ds ≠ []) (decade : Int) :
    (scientific negative ds decade).Shaped := by
  obtain ⟨d, ds, rfl⟩ := List.exists_cons_of_ne_nil hds
  refine ⟨List.cons_ne_nil _ _, fun e he => ?_⟩
  cases he
  exact digits_ne_nil _

theorem shaped_of_ofFloat? {l : Layout} {x : Float} {n : Numeral} (h : ofFloat? l x = some n) : n.Shaped := by
  unfold ofFloat? at h
  split at h
  · cases h
    exact shaped_positional l _ (List.cons_ne_nil _ _) 0
  · simp only [Option.some.injEq] at h
    rw [← h]
    split
    · exact shaped_positional l _ (digits_ne_nil _) _
    · exact shaped_scientific _ (digits_ne_nil _) _
  · cases h

end Numeral

namespace Json

/-! ## Parts -/

theorem exists_piece (c : Char) :
    ∃ p : Piece, p.chars = escape c ∧ ∀ us, decode (p.content :: us) = (decode us).map (c :: ·) := by
  unfold escape
  split
  case h_8 _ hquote hslash _ _ _ _ _ =>
    split
    · rename_i hcontrol
      refine ⟨.unit ⟨0, false⟩ ⟨0, false⟩ ⟨⟨c.toNat / 16, by omega⟩, false⟩ ⟨⟨c.toNat % 16, by omega⟩, false⟩, rfl,
        fun us => ?_⟩
      have hvalue : 16 * (16 * (16 * 0 + 0) + c.toNat / 16) + c.toNat % 16 = c.toNat := by omega
      change decode (.inr (16 * (16 * (16 * 0 + 0) + c.toNat / 16) + c.toNat % 16) :: us) = _
      have hhigh : ¬ isHigh c.toNat = true := by simp [isHigh]; omega
      have hlow : ¬ isLow c.toNat = true := by simp [isLow]; omega
      rw [hvalue, decode_of_not_high hhigh, if_neg hlow, Char.ofNat_toNat]
    · exact ⟨.plain c ⟨hquote, hslash, by omega⟩, rfl, fun us => by simp [Piece.content, decode]⟩
  · exact ⟨.escape .quote, rfl, fun us => by simp [Piece.content, decode, Escape.value]⟩
  · exact ⟨.escape .backslash, rfl, fun us => by simp [Piece.content, decode, Escape.value]⟩
  · exact ⟨.escape .backspace, rfl, fun us => by simp [Piece.content, decode, Escape.value]⟩
  · exact ⟨.escape .formFeed, rfl, fun us => by simp [Piece.content, decode, Escape.value]⟩
  · exact ⟨.escape .newline, rfl, fun us => by simp [Piece.content, decode, Escape.value]⟩
  · exact ⟨.escape .carriageReturn, rfl, fun us => by simp [Piece.content, decode, Escape.value]⟩
  · exact ⟨.escape .tab, rfl, fun us => by simp [Piece.content, decode, Escape.value]⟩

theorem exists_pieces (cs : List Char) :
    ∃ ps : List Piece, ps.flatMap (·.chars) = cs.flatMap escape ∧ decode (ps.map (·.content)) = some cs := by
  induction cs with
  | nil => exact ⟨[], rfl, rfl⟩
  | cons c cs ih =>
    obtain ⟨p, hp, hdecode⟩ := exists_piece c
    obtain ⟨ps, hps, hrest⟩ := ih
    refine ⟨p :: ps, by rw [List.flatMap_cons, List.flatMap_cons, hp, hps], ?_⟩
    rw [List.map_cons, hdecode, hrest]
    rfl

theorem exists_string (s : String) : ∃ ps, stringChars ps = quote s ∧ stringValue ps = some s := by
  obtain ⟨ps, hchars, hdecode⟩ := exists_pieces s.toList
  refine ⟨ps, by rw [stringChars, quote, hchars], ?_⟩
  rw [stringValue, hdecode, Option.map_some, String.ofList_toList]

theorem exists_number {n : Numeral} (hshape : n.Shaped) (hlead : n.Leads) :
    ∃ m : NumberSpelling, m.chars = n.chars ∧ m.value = n := by
  obtain ⟨negative, whole, fraction, exponent⟩ := n
  obtain ⟨d, ds, hwhole⟩ := List.exists_cons_of_ne_nil hshape.whole
  cases hwhole
  have hleads : d = Digit.zero → ds = [] := fun hd => hlead ds (by rw [hd])
  cases exponent with
  | none => exact ⟨⟨negative, d, ds, hleads, fraction, none⟩, by simp [NumberSpelling.chars, Numeral.chars], rfl⟩
  | some e =>
    obtain ⟨sign, es⟩ := e
    obtain ⟨e, es, he⟩ := List.exists_cons_of_ne_nil (hshape.exponent _ rfl)
    cases he
    refine ⟨⟨negative, d, ds, hleads, fraction, some ⟨false, some sign, e, es⟩⟩, ?_, rfl⟩
    simp [NumberSpelling.chars, Numeral.chars, ExponentSpelling.chars]

/-! ## Containers -/

mutual

/-- Whole, with texts for its strings and names, and numerals as texts allow
them. -/
def IsWritten : Json → Prop
  | .null | .bool _ => True
  | .number n => n.Shaped ∧ n.Leads
  | .string s => s.isSome = true
  | .array js closed => closed = true ∧ AreWritten js
  | .object ms closed => closed = true ∧ MembersWritten ms
  | .broken => False

def AreWritten : List Json → Prop
  | [] => True
  | j :: js => j.IsWritten ∧ AreWritten js

def MembersWritten : List (Key × Json) → Prop
  | [] => True
  | m :: ms => MemberWritten m ∧ MembersWritten ms

def MemberWritten : Key × Json → Prop
  | (.name _, j) => j.IsWritten
  | (.unreadable, _) => False

end

-- The induction is on the document.
mutual

theorem exists_spelling : ∀ j : Json, j.IsWritten → ∃ t : Spelling, t.chars = j.chars ∧ t.value = j
  | .null, _ => ⟨.null, by rw [Spelling.chars, chars], rfl⟩
  | .bool true, _ => ⟨.bool true, by rw [Spelling.chars, chars], rfl⟩
  | .bool false, _ => ⟨.bool false, by rw [Spelling.chars, chars], rfl⟩
  | .number n, h => by
    obtain ⟨m, hchars, hvalue⟩ := exists_number h.1 h.2
    exact ⟨.number m, by rw [Spelling.chars, chars, hchars], by rw [Spelling.value, hvalue]⟩
  | .string (some s), _ => by
    obtain ⟨ps, hchars, hvalue⟩ := exists_string s
    exact ⟨.string ps, by rw [Spelling.chars, chars, hchars], by rw [Spelling.value, hvalue]⟩
  | .array js closed, h => by
    obtain ⟨rfl, hjs⟩ := h
    by_cases hne : js = []
    · subst hne
      exact ⟨.emptyArray [], rfl, rfl⟩
    · obtain ⟨es, hchars, hvalues⟩ := exists_elements js hne hjs
      exact ⟨.array es, by rw [Spelling.chars, chars, hchars], by rw [Spelling.value, hvalues]⟩
  | .object ms closed, h => by
    obtain ⟨rfl, hms⟩ := h
    by_cases hne : ms = []
    · subst hne
      exact ⟨.emptyObject [], rfl, rfl⟩
    · obtain ⟨es, hchars, hvalues⟩ := exists_members ms hne hms
      exact ⟨.object es, by rw [Spelling.chars, chars, hchars], by rw [Spelling.value, hvalues]⟩

theorem exists_elements : ∀ js : List Json, js ≠ [] → AreWritten js →
    ∃ es : Elements, es.chars = elementChars js ∧ es.values = js
  | [], hne, _ => absurd rfl hne
  | [j], _, h => by
    obtain ⟨t, hchars, hvalue⟩ := exists_spelling j h.1
    exact ⟨.one [] t [], by simp [Elements.chars, Blank.chars, elementChars, hchars], by rw [Elements.values, hvalue]⟩
  | j :: j' :: js, _, h => by
    obtain ⟨t, hchars, hvalue⟩ := exists_spelling j h.1
    obtain ⟨es, hrest, hvalues⟩ := exists_elements (j' :: js) (by simp) h.2
    refine ⟨.more [] t [] es, ?_, by rw [Elements.values, hvalue, hvalues]⟩
    simp [Elements.chars, Blank.chars, elementChars, hchars, hrest]

theorem exists_members : ∀ ms : List (Key × Json), ms ≠ [] → MembersWritten ms →
    ∃ es : Members, es.chars = memberChars ms ∧ es.values = ms
  | [], hne, _ => absurd rfl hne
  | [m], _, h => by
    obtain ⟨label, t, hchars, hvalue⟩ := exists_member m h.1
    exact ⟨.one label t [], by simp [Members.chars, Blank.chars, memberChars, ← hchars], by rw [Members.values, hvalue]⟩
  | m :: m' :: ms, _, h => by
    obtain ⟨label, t, hchars, hvalue⟩ := exists_member m h.1
    obtain ⟨es, hrest, hvalues⟩ := exists_members (m' :: ms) (by simp) h.2
    refine ⟨.more label t [] es, ?_, by rw [Members.values, hvalue, hvalues]⟩
    simp [Members.chars, Blank.chars, memberChars, ← hchars, hrest]

theorem exists_member : ∀ m : Key × Json, MemberWritten m →
    ∃ (label : Label) (t : Spelling), label.chars ++ t.chars = oneMember m ∧ (label.key, t.value) = m
  | (.name k, j), h => by
    obtain ⟨t, hchars, hvalue⟩ := exists_spelling j h
    obtain ⟨ps, hname, hkey⟩ := exists_string k
    refine ⟨⟨[], ps, [], []⟩, t, ?_, by rw [Label.key, hkey, hvalue]⟩
    simp [Label.chars, Blank.chars, oneMember, Key.chars, hchars, hname]

end

theorem IsWritten.isComplete {j : Json} (h : j.IsWritten) : j.isComplete = true := by
  obtain ⟨t, -, rfl⟩ := exists_spelling j h
  exact t.isComplete_value

theorem exists_textSpelling {j : Json} (h : j.IsWritten) :
    ∃ t : TextSpelling, t.text = j.render ∧ t.document.value = j := by
  obtain ⟨t, hchars, hvalue⟩ := exists_spelling j h
  exact ⟨⟨[], t, []⟩, by simp [TextSpelling.text, TextSpelling.chars, Blank.chars, render, hchars], hvalue⟩

/-- The text of a document is read as that document. -/
theorem Decoder.run_render {α : Type} (d : Decoder α) {j : Json} (h : j.IsWritten) : d.run j.render = d j := by
  obtain ⟨t, htext, hvalue⟩ := exists_textSpelling h
  rw [← htext, run_text, hvalue]

theorem Decoder.run_eq_ok {α : Type} {d : Decoder α} {text : String} {a : α} :
    d.run text = .ok a ↔ d (scan text.toList).root = .ok a ∧ (scan text.toList).clean = true := by
  simp only [Decoder.run]
  cases d (scan text.toList).root with
  | error e => simp [bind, Except.bind]
  | ok b => cases (scan text.toList).clean <;> simp [bind, Except.bind]

theorem leads_of_clean {n : Numeral} (h : (scan (chars (.number n))).clean = true) : n.Leads := by
  intro ds hwhole
  cases ds with
  | nil => rfl
  | cons d ds =>
    exfalso
    obtain ⟨rest, hrest⟩ : ∃ rest, chars (.number n) =
        ((if n.negative then ['-'] else []) ++ Digit.chars [Digit.zero]) ++ d.toChar :: rest := by
      simp only [chars, Numeral.chars, hwhole, List.append_assoc]
      exact ⟨_, rfl⟩
    have hzero := Scan.run_whole (s := {}) rfl rfl n.negative Digit.zero [] fun _ => rfl
    have hstep : Scan.step { token := .number .zero ⟨n.negative, [Digit.zero], [], none⟩ } d.toChar =
        { token := .lost } := by
      simp only [Scan.step, numberStep, Digit.ofChar?_toChar]
      rfl
    have hlost : Scan.run {} (chars (.number n)) = { token := .lost } := by
      rw [hrest, Scan.run_append, hzero, Scan.run_cons, if_pos rfl, hstep, Scan.run_lost rfl]
    have hunclean : (scan (chars (.number n))).clean = false := by
      simp only [scan, hlost]
      rfl
    rw [hunclean] at h
    cases h

/-! ## Documents to write -/

theorem isWritten_int (i : Int) : (Json.int i).IsWritten :=
  ⟨Numeral.shaped_integer _ _, Numeral.leads_integer _ _⟩

theorem isWritten_nat (n : Nat) : (Json.nat n).IsWritten := ⟨Numeral.shaped_integer _ _, Numeral.leads_integer _ _⟩

theorem isWritten_record {ms : List (String × Json)} (h : ∀ m ∈ ms, m.2.IsWritten) : (record ms).IsWritten := by
  refine ⟨rfl, ?_⟩
  induction ms with
  | nil => trivial
  | cons m ms ih => exact ⟨h m (by simp), ih fun m' hm => h m' (by simp [hm])⟩

end Json

end FuturesDesk
