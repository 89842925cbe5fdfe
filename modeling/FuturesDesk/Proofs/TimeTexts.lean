import FuturesDesk.Config.Window
import FuturesDesk.Proofs.ReadRecords

/-!
# Texts of times

A text denotes a time if it has an hour and a minute with a colon between them,
each written in one or two digits behind blanks. These texts are read as the
minute they denote, and no others are read.
-/

namespace FuturesDesk

open Json (exists_of_bind)

theorem Digit.eq_toChar_of_ofChar? {c : Char} {d : Digit} (h : ofChar? c = some d) : c = d.toChar := by
  unfold ofChar? at h
  split at h
  · cases h
    have hback : '0'.toNat + (c.toNat - '0'.toNat) = c.toNat := by omega
    simp only [toChar, hback, Char.ofNat_toNat]
  · cases h

theorem Digit.not_isBlankChar_toChar (d : Digit) : ¬ isBlankChar d.toChar = true := by
  revert d
  decide

namespace TimeText

inductive Writes : List Char → Nat → Prop
  | one (d : Digit) : Writes [d.toChar] d.val
  | two (d d' : Digit) : Writes [d.toChar, d'.toChar] (10 * d.val + d'.val)
  | blank {b : Char} {cs : List Char} {n : Nat} (hb : isBlankChar b = true) (h : Writes cs n) : Writes (b :: cs) n

/-- An hour and a minute with a colon between them, and the minute of the day
they denote. -/
inductive Denotes : List Char → Minute → Prop
  | intro {hs ms : List Char} {h m : Nat} (hour : Writes hs h) (hhour : h ≤ 23) (minute : Writes ms m)
      (hminute : m ≤ 59) : Denotes (hs ++ ':' :: ms) (60 * h + m : Nat)

variable {cs rest : List Char} {n : Nat} {m : Minute}

theorem Denotes.lt {m : Nat} (h : Denotes cs m) : m < 1440 := by
  cases h with
  | intro _ hhour _ hminute => omega

/-! ## Numbers -/

theorem number_blank {b : Char} (hb : isBlankChar b = true) : number (b :: cs) = number cs := by
  simp [number, trimStart, hb]

theorem number_one (d : Digit) (hrest : ∀ c ∈ rest.head?, Digit.ofChar? c = none) :
    number (d.toChar :: rest) = .ok (d.val, rest) := by
  have hd := Digit.not_isBlankChar_toChar d
  cases rest with
  | nil => simp [number, trimStart, hd, Digit.ofChar?_toChar]
  | cons c rest => simp [number, trimStart, hd, Digit.ofChar?_toChar, hrest c rfl]

theorem number_two (d d' : Digit) : number (d.toChar :: d'.toChar :: rest) = .ok (10 * d.val + d'.val, rest) := by
  simp [number, trimStart, Digit.not_isBlankChar_toChar d, Digit.ofChar?_toChar]

theorem number_of_writes (h : Writes cs n) (hrest : ∀ c ∈ rest.head?, Digit.ofChar? c = none) :
    number (cs ++ rest) = .ok (n, rest) := by
  induction h with
  | one d => exact number_one d hrest
  | two d d' => exact number_two d d'
  | blank hb _ ih => rw [List.cons_append, number_blank hb, ih]

theorem writes_of_number (h : number cs = .ok (n, rest)) : ∃ ds, Writes ds n ∧ cs = ds ++ rest := by
  induction cs with
  | nil => cases h
  | cons c cs ih =>
    by_cases hb : isBlankChar c = true
    · rw [number_blank hb] at h
      obtain ⟨ds, hw, rfl⟩ := ih h
      exact ⟨c :: ds, .blank hb hw, rfl⟩
    · cases hd : Digit.ofChar? c with
      | none => simp [number, trimStart, hb, hd] at h
      | some d =>
        rw [Digit.eq_toChar_of_ofChar? hd] at h
        rw [Digit.eq_toChar_of_ofChar? hd]
        -- A second digit belongs to the number, anything else ends it.
        cases hsecond : cs.head?.bind Digit.ofChar? with
        | none =>
          rw [number_one d (by simpa [Option.bind_eq_none_iff] using hsecond)] at h
          cases h
          exact ⟨_, .one d, rfl⟩
        | some d' =>
          obtain ⟨c', hc', hd'⟩ := Option.bind_eq_some_iff.mp hsecond
          obtain ⟨cs, rfl⟩ := List.head?_eq_some_iff.mp hc'
          rw [Digit.eq_toChar_of_ofChar? hd', number_two] at h
          rw [Digit.eq_toChar_of_ofChar? hd']
          cases h
          exact ⟨_, .two d d', rfl⟩

theorem upTo_of_le {limit : Nat} (h : number cs = .ok (n, rest)) (hn : n ≤ limit) : upTo limit cs = .ok (n, rest) := by
  rw [upTo, h]
  exact if_pos hn

theorem number_of_upTo {limit : Nat} (h : upTo limit cs = .ok (n, rest)) : number cs = .ok (n, rest) ∧ n ≤ limit := by
  unfold upTo at h
  obtain ⟨⟨k, rest'⟩, hnumber, hlimit⟩ := exists_of_bind h
  dsimp only at hlimit
  split at hlimit
  · cases hlimit
    exact ⟨hnumber, ‹n ≤ limit›⟩
  · cases hlimit

/-! ## Times -/

theorem eq_cons_of_colon (h : colon cs = .ok rest) : cs = ':' :: rest := by
  cases cs with
  | nil => cases h
  | cons c cs =>
    by_cases hc : c = ':'
    · rw [colon, if_pos hc] at h
      cases h
      rw [hc]
    · rw [colon, if_neg hc] at h
      cases h

theorem parse_of_denotes (h : Denotes cs m) : parse cs = .ok m := by
  cases h with
  | @intro hs ms h m hour hhour minute hminute =>
    have hnocolon : ∀ c ∈ (':' :: ms).head?, Digit.ofChar? c = none := by
      intro c hc
      cases hc
      rfl
    have hfirst := upTo_of_le (number_of_writes hour hnocolon) hhour
    have hnumber : number (ms ++ []) = .ok (m, []) := number_of_writes minute fun c hc => nomatch hc
    rw [List.append_nil] at hnumber
    have hsecond := upTo_of_le hnumber hminute
    simp [parse, hfirst, colon, hsecond, bind, Except.bind]

theorem denotes_of_parse (h : parse cs = .ok m) : Denotes cs m := by
  unfold parse at h
  obtain ⟨⟨hour, afterHour⟩, hfirst, hrest⟩ := exists_of_bind h
  obtain ⟨afterColon, hcolon, hrest⟩ := exists_of_bind hrest
  obtain ⟨⟨minute, afterMinute⟩, hsecond, hend⟩ := exists_of_bind hrest
  dsimp only at hcolon hend
  obtain ⟨hnumber, hhour⟩ := number_of_upTo hfirst
  obtain ⟨hnumber', hminute⟩ := number_of_upTo hsecond
  obtain ⟨hs, hwrites, rfl⟩ := writes_of_number hnumber
  obtain ⟨ms, hwrites', rfl⟩ := writes_of_number hnumber'
  cases afterMinute with
  | cons c cs => cases hend
  | nil =>
    cases hend
    rw [eq_cons_of_colon hcolon, List.append_nil]
    exact .intro hwrites hhour hwrites' hminute

/-- A text is read if and only if it denotes a time, and as this time. -/
theorem parse_eq_ok_iff : parse cs = .ok m ↔ Denotes cs m := ⟨denotes_of_parse, parse_of_denotes⟩

end TimeText

namespace WindowText

open TimeText (Denotes)

def badHour (s : String) (p : TimeProblem) : Fault :=
  .config ("bad trading hour " ++ Quoted.quote s ++ ": " ++ p.message)

theorem time_eq_ok_iff {s : String} {m : Minute} : time s = .ok m ↔ Denotes s.toList m := by
  rw [← TimeText.parse_eq_ok_iff]
  unfold time
  cases TimeText.parse s.toList <;> simp

end WindowText

end FuturesDesk
