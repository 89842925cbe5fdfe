import FuturesDesk.Config.Hours
import FuturesDesk.Proofs.TimeTexts

/-!
# Hours as arcs of the day

On a dial of 24 hours a window is the arc from its start to before its end, and
the desk trades while the hand is on one of the arcs. Only the set of windows
counts. A list of windows is refused for the first text in it that denotes no
time.
-/

namespace FuturesDesk

open Json (exists_of_bind)
open TimeText (Denotes)

/-! ## The dial -/

namespace TimeOfDay

/-- Milliseconds on a dial of 24 hours. It has no place for a leap second: the
hand rests at the end of the second before. -/
def dial (t : TimeOfDay) : Nat := 1000 * t.second + min t.milli 999

def ahead (a b : TimeOfDay) : Int := ((b.dial : Int) - a.dial) % (24 * 60 * 60 * 1000)

/-- From a start to before an end, and all day if they are the same. -/
def OnArc (start finish : Minute) (t : TimeOfDay) : Prop :=
  start = finish ∨ (ofMinute start).ahead t < (ofMinute start).ahead (ofMinute finish)

theorem dial_ofMinute (m : Nat) : (ofMinute m).dial = 60000 * m := by
  show 1000 * (60 * m) + min 0 999 = 60000 * m
  omega

theorem dial_lt {t : TimeOfDay} (ht : t.second < Clock.daySeconds) : t.dial < 86400000 := by
  have hday : Clock.daySeconds = 86400 := rfl
  unfold dial
  omega

theorem ahead_eq {a b : TimeOfDay} (ha : a.dial < 86400000) (hb : b.dial < 86400000) :
    a.ahead b = if a.dial ≤ b.dial then (b.dial : Int) - a.dial else 86400000 + b.dial - a.dial := by
  have hday : (24 * 60 * 60 * 1000 : Int) = 86400000 := rfl
  unfold ahead
  rw [hday]
  split
  · apply Int.emod_eq_of_lt <;> omega
  · -- Around midnight: the difference is negative, and within one day.
    omega

theorem before_iff_dial (t : TimeOfDay) (m : Nat) : t.before (ofMinute m) = true ↔ t.dial < (ofMinute m).dial := by
  rw [before_ofMinute, dial_ofMinute]
  unfold dial
  omega

end TimeOfDay

theorem Hours.inWindow_iff {t : TimeOfDay} {s e : Nat} (ht : t.second < Clock.daySeconds) (hs : s < 1440)
    (he : e < 1440) : inWindow t (s, e) = true ↔ t.OnArc s e := by
  have hdial := TimeOfDay.dial_lt ht
  have hstart := TimeOfDay.dial_ofMinute s
  have hend := TimeOfDay.dial_ofMinute e
  have hbefore := t.before_iff_dial s
  have hbefore' := t.before_iff_dial e
  unfold inWindow TimeOfDay.OnArc
  rw [TimeOfDay.ahead_eq (by omega) hdial, TimeOfDay.ahead_eq (by omega) (by omega)]
  -- The three kinds of windows: all day, within a day, around midnight.
  by_cases hsame : s = e
  · simp [hsame]
  · by_cases hlt : s < e
    · simp only [hsame, hlt, if_true, if_false, Bool.and_eq_true, Bool.not_eq_true', false_or, hbefore',
        Bool.eq_false_iff, ne_eq, hbefore]
      split <;> split <;> omega
    · simp only [hsame, hlt, if_false, Bool.or_eq_true, Bool.not_eq_true', false_or, hbefore',
        Bool.eq_false_iff, ne_eq, hbefore]
      split <;> split <;> omega

namespace WindowText

/-! ## The texts of a list of windows -/

def texts (ws : List WindowText) : List String := ws.flatMap fun w => [w.start, w.finish]

def FirstBad (ws : List WindowText) (s : String) : Prop :=
  ∃ before after, texts ws = before ++ s :: after ∧ (∀ x ∈ before, ∃ m, Denotes x.toList m) ∧ ∀ m, ¬ Denotes s.toList m

def Holds (w : WindowText) (t : TimeOfDay) : Prop :=
  ∃ s e, Denotes w.start.toList s ∧ Denotes w.finish.toList e ∧ t.OnArc s e

def fault? (s : String) : Option Fault :=
  match time s with
  | .ok _ => none
  | .error f => some f

variable {w : WindowText} {ws : List WindowText} {s : String} {f : Fault}

theorem fault?_eq_none_iff : fault? s = none ↔ ∃ m, Denotes s.toList m := by
  simp only [← time_eq_ok_iff]
  unfold fault?
  cases time s <;> simp

theorem fault?_eq_some_iff : fault? s = some f ↔ ∃ p, TimeText.parse s.toList = .error p ∧ f = badHour s p := by
  unfold fault? time badHour
  cases TimeText.parse s.toList with
  | ok m => simp
  | error p => simp [eq_comm]

theorem parse_eq_ok_iff {p : Minute × Minute} :
    w.parse = .ok p ↔ Denotes w.start.toList p.1 ∧ Denotes w.finish.toList p.2 := by
  rw [← time_eq_ok_iff, ← time_eq_ok_iff]
  obtain ⟨s, e⟩ := p
  unfold parse
  cases time w.start with
  | error f => simp [bind, Except.bind]
  | ok s' => cases time w.finish <;> simp [bind, Except.bind, pure, Except.pure]

theorem parse_eq_error_iff : w.parse = .error f ↔ [w.start, w.finish].findSome? fault? = some f := by
  unfold parse
  cases hs : time w.start with
  | error f' => simp [fault?, hs, bind, Except.bind]
  | ok s => cases he : time w.finish <;> simp [fault?, hs, he, bind, Except.bind, pure, Except.pure]

-- A window is read before the next one, and its start before its end.
theorem mapM_parse_eq_error_iff : ws.mapM parse = .error f ↔ (texts ws).findSome? fault? = some f := by
  induction ws with
  | nil => simp [texts, pure, Except.pure]
  | cons w ws ih =>
    have htexts : texts (w :: ws) = [w.start, w.finish] ++ texts ws := rfl
    rw [htexts, List.findSome?_append, List.mapM_cons]
    cases hw : w.parse with
    | error f' => simp [parse_eq_error_iff.mp hw, bind, Except.bind]
    | ok p =>
      have hnone : [w.start, w.finish].findSome? fault? = none := by
        cases hf : [w.start, w.finish].findSome? fault? with
        | none => rfl
        | some f' => simp [parse_eq_error_iff.mpr hf] at hw
      rw [hnone, Option.none_or, ← ih]
      cases ws.mapM parse <;> simp [bind, Except.bind, pure, Except.pure]

theorem findSome?_fault?_iff : (texts ws).findSome? fault? = some f ↔
    ∃ s p, FirstBad ws s ∧ TimeText.parse s.toList = .error p ∧ f = badHour s p := by
  rw [List.findSome?_eq_some_iff]
  constructor
  · rintro ⟨before, s, after, htexts, hs, hbefore⟩
    obtain ⟨p, hp, hf⟩ := fault?_eq_some_iff.mp hs
    refine ⟨s, p, ⟨before, after, htexts, fun x hx => fault?_eq_none_iff.mp (hbefore x hx), ?_⟩, hp, hf⟩
    intro m hm
    rw [TimeText.parse_of_denotes hm] at hp
    cases hp
  · rintro ⟨s, p, ⟨before, after, htexts, hbefore, -⟩, hp, hf⟩
    have hgood : ∀ x ∈ before, fault? x = none := fun x hx => fault?_eq_none_iff.mpr (hbefore x hx)
    exact ⟨before, s, after, htexts, fault?_eq_some_iff.mpr ⟨p, hp, hf⟩, hgood⟩

end WindowText

namespace Hours

open WindowText

variable {ws : List WindowText} {h : Hours} {f : Fault}

theorem mem_of_mapM {α β ε : Type} {g : α → Except ε β} {xs : List α} {ys : List β} (hm : xs.mapM g = .ok ys) (y : β) :
    y ∈ ys ↔ ∃ x ∈ xs, g x = .ok y := by
  induction xs generalizing ys with
  | nil =>
    cases hm
    simp
  | cons x xs ih =>
    rw [List.mapM_cons] at hm
    obtain ⟨z, hz, hm⟩ := exists_of_bind hm
    obtain ⟨zs, hzs, hm⟩ := exists_of_bind hm
    cases hm
    simp [ih hzs, hz, eq_comm]

theorem ofWindows_eq_error_iff : ofWindows ws = .error f ↔ (texts ws).findSome? fault? = some f := by
  rw [← mapM_parse_eq_error_iff]
  unfold ofWindows
  cases ws.mapM WindowText.parse <;> simp [bind, Except.bind, pure, Except.pure]

theorem exists_ofWindows_iff : (∃ h, ofWindows ws = .ok h) ↔ ∀ s ∈ texts ws, ∃ m, Denotes s.toList m := by
  have hnone : (texts ws).findSome? fault? = none ↔ ∀ s ∈ texts ws, ∃ m, Denotes s.toList m := by
    simp only [List.findSome?_eq_none_iff, fault?_eq_none_iff]
  rw [← hnone]
  cases hread : ofWindows ws with
  | error f => simp [ofWindows_eq_error_iff.mp hread]
  | ok h =>
    cases hf : (texts ws).findSome? fault? with
    | none => simp
    | some f => simp [ofWindows_eq_error_iff.mpr hf] at hread

theorem exists_fault_iff : (∃ f, ofWindows ws = .error f) ↔ ∃ s ∈ texts ws, ∀ m, ¬ Denotes s.toList m := by
  have hok : (∃ f, ofWindows ws = .error f) ↔ ¬ ∃ h, ofWindows ws = .ok h := by cases ofWindows ws <;> simp
  rw [hok, exists_ofWindows_iff]
  simp only [Classical.not_forall, not_exists, exists_prop]

theorem windows_of_ofWindows (hread : ofWindows ws = .ok h) :
    h.always = false ∧ ∀ p, p ∈ h.windows ↔ ∃ w ∈ ws, w.parse = .ok p := by
  obtain ⟨ps, hps, hh⟩ := exists_of_bind hread
  cases hh
  exact ⟨rfl, mem_of_mapM hps⟩

theorem contains_iff (hread : ofWindows ws = .ok h) (t : TimeOfDay) :
    h.contains t = true ↔ ∃ w ∈ ws, ∃ p, w.parse = .ok p ∧ inWindow t p = true := by
  obtain ⟨halways, hmem⟩ := windows_of_ofWindows hread
  unfold contains
  rw [halways, Bool.false_or, List.any_eq_true]
  constructor
  · rintro ⟨p, hp, hin⟩
    obtain ⟨w, hw, hparse⟩ := (hmem p).mp hp
    exact ⟨w, hw, p, hparse, hin⟩
  · rintro ⟨w, hw, p, hparse, hin⟩
    exact ⟨p, (hmem p).mpr ⟨w, hw, hparse⟩, hin⟩

theorem parsed_iff_holds {w : WindowText} {t : TimeOfDay} (ht : t.second < Clock.daySeconds) :
    (∃ p, w.parse = .ok p ∧ inWindow t p = true) ↔ w.Holds t := by
  unfold Holds
  constructor
  · rintro ⟨⟨s, e⟩, hparse, hin⟩
    obtain ⟨hs, he⟩ := parse_eq_ok_iff.mp hparse
    exact ⟨s, e, hs, he, (inWindow_iff ht hs.lt he.lt).mp hin⟩
  · rintro ⟨s, e, hs, he, harc⟩
    exact ⟨(s, e), parse_eq_ok_iff.mpr ⟨hs, he⟩, (inWindow_iff ht hs.lt he.lt).mpr harc⟩

/-- A desk trades while the clocks of its zone are on some arc. -/
theorem isOpenAt_iff (hread : ofWindows ws = .ok h) (zone : Zone) (now : UInt64) :
    h.isOpenAt zone now = true ↔ ∃ w ∈ ws, w.Holds (zone.timeOfDay now) := by
  have ht := zone.second_timeOfDay_lt now
  unfold isOpenAt
  simp only [contains_iff hread, parsed_iff_holds ht]

/-- **Trading hours are the arcs of their windows.** The desk trades at a time of
day if and only if it is on the arc of some window, so that neither the order of
the windows counts nor how often one is listed. A list is refused if and only if
some text in it denotes no time, and for the first such text. -/
theorem open_on_arcs (ws : List WindowText) :
    (∀ h, ofWindows ws = .ok h → ∀ t : TimeOfDay, t.second < Clock.daySeconds →
      (h.contains t = true ↔ ∃ w ∈ ws, w.Holds t)) ∧
    (∀ h, ofWindows ws = .ok h → ∀ ws', (∀ w, w ∈ ws' ↔ w ∈ ws) →
      ∃ h', ofWindows ws' = .ok h' ∧ ∀ t, h'.contains t = h.contains t) ∧
    ((∃ f, ofWindows ws = .error f) ↔ ∃ s ∈ texts ws, ∀ m, ¬ Denotes s.toList m) ∧
    ∀ f, ofWindows ws = .error f ↔
      ∃ s p, FirstBad ws s ∧ TimeText.parse s.toList = .error p ∧ f = badHour s p := by
  refine ⟨?_, ?_, exists_fault_iff, ?_⟩
  · intro h hread t ht
    simp only [contains_iff hread, parsed_iff_holds ht]
  · intro h hread ws' hsame
    have htexts : ∀ s ∈ texts ws', s ∈ texts ws := by
      intro s hs
      obtain ⟨w, hw, hs⟩ := List.mem_flatMap.mp hs
      exact List.mem_flatMap.mpr ⟨w, (hsame w).mp hw, hs⟩
    have hgood := exists_ofWindows_iff.mp ⟨h, hread⟩
    obtain ⟨h', hread'⟩ := exists_ofWindows_iff.mpr fun s hs => hgood s (htexts s hs)
    refine ⟨h', hread', fun t => ?_⟩
    rw [Bool.eq_iff_iff, contains_iff hread, contains_iff hread']
    simp only [hsame]
  · intro f
    rw [ofWindows_eq_error_iff, findSome?_fault?_iff]

def sessions : List WindowText := [⟨"8:45", "13:45"⟩, ⟨"15:00", " 5:00"⟩]

/-- Open at half past four, and through a leap second up to the end of the day
session; closed from there on. -/
theorem open_on_arcs_sessions :
    (∃ w ∈ sessions, w.Holds ⟨16200, 0⟩) ∧ (∃ w ∈ sessions, w.Holds ⟨49499, 1500⟩) ∧
    (¬ ∃ w ∈ sessions, w.Holds ⟨49500, 0⟩) ∧
    (∃ h, ofWindows (sessions.reverse ++ sessions) = .ok h ∧ h.contains ⟨16200, 0⟩ = true) ∧
    ∃ s p, FirstBad (sessions ++ [⟨"08:60", "24"⟩]) s ∧ TimeText.parse s.toList = .error p := by
  have hread : ofWindows sessions = .ok ⟨[(525, 825), (900, 300)], false⟩ := by rfl
  obtain ⟨harcs, hset, -, -⟩ := open_on_arcs sessions
  have hnight := harcs _ hread ⟨16200, 0⟩ (by decide)
  have hleap := harcs _ hread ⟨49499, 1500⟩ (by decide)
  have hclosed := harcs _ hread ⟨49500, 0⟩ (by decide)
  obtain ⟨h, hread', hsame⟩ := hset _ hread (sessions.reverse ++ sessions) (by simp)
  refine ⟨hnight.mp (by decide), hleap.mp (by decide), fun hw => ?_, ⟨h, hread', ?_⟩, ?_⟩
  · have hopen := hclosed.mpr hw
    revert hopen
    decide
  · rw [hsame]
    decide
  · have hbad : ofWindows (sessions ++ [⟨"08:60", "24"⟩]) = .error (badHour "08:60" .outOfRange) := by rfl
    obtain ⟨s, p, hfirst, hp, -⟩ := ((open_on_arcs _).2.2.2 _).mp hbad
    exact ⟨s, p, hfirst, hp⟩

end Hours

end FuturesDesk
