import FuturesDesk.Json.Decoder

/-!
# Spellings of a document

A document can be written down in many ways: with blanks between its tokens,
with the characters of a string as they are or escaped, with either mark for an
exponent and with or without its sign. It is read as the same document.
-/

namespace FuturesDesk

theorem Digit.ofChar?_toChar (d : Digit) : ofChar? d.toChar = some d := by
  revert d
  decide

namespace Json

/-! ## Tokens -/

inductive Blank where
  | space | tab | newline | carriageReturn

namespace Blank

def char : Blank → Char
  | space => ' '
  | tab => '\t'
  | newline => '\n'
  | carriageReturn => '\r'

def chars (bs : List Blank) : List Char := bs.map char

end Blank

structure ExponentSpelling where
  capital : Bool
  /-- Whether it is negative, if it has a sign. -/
  sign : Option Bool
  first : Digit
  rest : List Digit

structure NumberSpelling where
  negative : Bool
  first : Digit
  rest : List Digit
  /-- No zero leads another digit. -/
  leads : first = Digit.zero → rest = []
  /-- Without digits behind it the point is not written. -/
  fraction : List Digit
  exponent : Option ExponentSpelling

namespace ExponentSpelling

def chars (e : ExponentSpelling) : List Char :=
  (if e.capital then 'E' else 'e') ::
    ((e.sign.map fun negative => if negative then '-' else '+').toList ++ Digit.chars (e.first :: e.rest))

def value (e : ExponentSpelling) : Bool × List Digit := (e.sign.getD false, e.first :: e.rest)

end ExponentSpelling

namespace NumberSpelling

def chars (n : NumberSpelling) : List Char :=
  (if n.negative then ['-'] else []) ++ Digit.chars (n.first :: n.rest) ++
    ((if n.fraction.isEmpty then [] else '.' :: Digit.chars n.fraction) ++ (n.exponent.map (·.chars)).getD [])

def value (n : NumberSpelling) : Numeral :=
  ⟨n.negative, n.first :: n.rest, n.fraction, n.exponent.map (·.value)⟩

end NumberSpelling

inductive Escape where
  | quote | backslash | slash | backspace | formFeed | newline | carriageReturn | tab

namespace Escape

def letter : Escape → Char
  | quote => '"'
  | backslash => '\\'
  | slash => '/'
  | backspace => 'b'
  | formFeed => 'f'
  | newline => 'n'
  | carriageReturn => 'r'
  | tab => 't'

def value : Escape → Char
  | quote => '"'
  | backslash => '\\'
  | slash => '/'
  | backspace => '\x08'
  | formFeed => '\x0c'
  | newline => '\n'
  | carriageReturn => '\r'
  | tab => '\t'

end Escape

structure HexDigit where
  value : Fin 16
  capital : Bool

def HexDigit.char (d : HexDigit) : Char :=
  Char.ofNat (if d.value.val < 10 then '0'.toNat + d.value.val
    else (if d.capital then 'A' else 'a').toNat + d.value.val - 10)

inductive Piece where
  | plain (c : Char) (fits : c ≠ '"' ∧ c ≠ '\\' ∧ 0x20 ≤ c.toNat)
  | escape (e : Escape)
  /-- A code unit by its number. -/
  | unit (a b c d : HexDigit)

namespace Piece

def chars : Piece → List Char
  | plain c _ => [c]
  | escape e => ['\\', e.letter]
  | unit a b c d => ['\\', 'u', a.char, b.char, c.char, d.char]

/-- What a part stands for: a character, or a code unit. -/
def content : Piece → Char ⊕ Nat
  | plain c _ => .inl c
  | escape e => .inl e.value
  | unit a b c d => .inr (16 * (16 * (16 * a.value.val + b.value.val) + c.value.val) + d.value.val)

end Piece

/-- The first half of a surrogate pair. -/
def isHigh (u : Nat) : Bool := 0xD800 ≤ u && u < 0xDC00

def isLow (u : Nat) : Bool := 0xDC00 ≤ u && u < 0xE000

/-- The characters that these stand for; none if half of a surrogate pair stands
alone. -/
def decode : List (Char ⊕ Nat) → Option (List Char)
  | [] => some []
  | .inl c :: us => (decode us).map (c :: ·)
  | .inr u :: us =>
    if isHigh u then
      match us with
      | .inr v :: us =>
        if isLow v then (decode us).map (Char.ofNat (0x10000 + (u - 0xD800) * 0x400 + (v - 0xDC00)) :: ·) else none
      | _ => none
    else if isLow u then none
    else (decode us).map (Char.ofNat u :: ·)

def stringChars (ps : List Piece) : List Char := '"' :: ps.flatMap (·.chars) ++ ['"']

def stringValue (ps : List Piece) : Option String := (decode (ps.map (·.content))).map String.ofList

/-! ## Documents -/

/-- The name of a member up to where its value begins. -/
structure Label where
  before : List Blank
  name : List Piece
  beforeColon : List Blank
  afterColon : List Blank

namespace Label

def chars (l : Label) : List Char :=
  Blank.chars l.before ++ (stringChars l.name ++ (Blank.chars l.beforeColon ++ ':' :: Blank.chars l.afterColon))

def key (l : Label) : Key :=
  match stringValue l.name with
  | some s => .name s
  | none => .unreadable

end Label

mutual

inductive Spelling where
  | null
  | bool (b : Bool)
  | number (n : NumberSpelling)
  | string (ps : List Piece)
  | emptyArray (inside : List Blank)
  | array (elements : Elements)
  | emptyObject (inside : List Blank)
  | object (members : Members)

inductive Elements where
  | one (before : List Blank) (element : Spelling) (after : List Blank)
  | more (before : List Blank) (element : Spelling) (after : List Blank) (rest : Elements)

inductive Members where
  | one (label : Label) (value : Spelling) (after : List Blank)
  | more (label : Label) (value : Spelling) (after : List Blank) (rest : Members)

end

mutual

def Spelling.chars : Spelling → List Char
  | .null => ['n', 'u', 'l', 'l']
  | .bool true => ['t', 'r', 'u', 'e']
  | .bool false => ['f', 'a', 'l', 's', 'e']
  | .number n => n.chars
  | .string ps => stringChars ps
  | .emptyArray inside => '[' :: Blank.chars inside ++ [']']
  | .array es => '[' :: es.chars ++ [']']
  | .emptyObject inside => '\x7b' :: Blank.chars inside ++ ['\x7d']
  | .object ms => '\x7b' :: ms.chars ++ ['\x7d']

def Elements.chars : Elements → List Char
  | .one before j after => Blank.chars before ++ (j.chars ++ Blank.chars after)
  | .more before j after rest => Blank.chars before ++ (j.chars ++ (Blank.chars after ++ ',' :: rest.chars))

def Members.chars : Members → List Char
  | .one label j after => label.chars ++ (j.chars ++ Blank.chars after)
  | .more label j after rest => label.chars ++ (j.chars ++ (Blank.chars after ++ ',' :: rest.chars))

end

mutual

def Spelling.value : Spelling → Json
  | .null => .null
  | .bool b => .bool b
  | .number n => .number n.value
  | .string ps => .string (stringValue ps)
  | .emptyArray _ => .array [] true
  | .array es => .array es.values true
  | .emptyObject _ => .object [] true
  | .object ms => .object ms.values true

def Elements.values : Elements → List Json
  | .one _ j _ => [j.value]
  | .more _ j _ rest => j.value :: rest.values

def Members.values : Members → List (Key × Json)
  | .one label j _ => [(label.key, j.value)]
  | .more label j _ rest => (label.key, j.value) :: rest.values

end

mutual

theorem Spelling.isComplete_value : ∀ j : Spelling, j.value.isComplete = true
  | .null | .bool _ | .number _ | .string _ | .emptyArray _ | .emptyObject _ => rfl
  | .array es => es.areComplete_values
  | .object ms => ms.membersComplete_values

theorem Elements.areComplete_values : ∀ es : Elements, areComplete es.values = true
  | .one _ j _ => by simp only [Elements.values, areComplete, j.isComplete_value, Bool.and_self]
  | .more _ j _ rest => by
    simp only [Elements.values, areComplete, j.isComplete_value, rest.areComplete_values, Bool.and_self]

theorem Members.membersComplete_values : ∀ ms : Members, membersComplete ms.values = true
  | .one _ j _ => by simp only [Members.values, membersComplete, memberComplete, j.isComplete_value, Bool.and_self]
  | .more _ j _ rest => by
    simp only [Members.values, membersComplete, memberComplete, j.isComplete_value, rest.membersComplete_values,
      Bool.and_self]

end

/-- A text: one document, and blanks around it. -/
structure TextSpelling where
  before : List Blank
  document : Spelling
  after : List Blank

namespace TextSpelling

def chars (t : TextSpelling) : List Char := Blank.chars t.before ++ (t.document.chars ++ Blank.chars t.after)

def text (t : TextSpelling) : String := String.ofList t.chars

end TextSpelling

/-! ## Reading on -/

namespace Scan

variable {s t : Scan}

theorem run_append (s : Scan) (cs ds : List Char) : s.run (cs ++ ds) = (s.run cs).run ds := List.foldl_append ..

theorem run_cons (s : Scan) (c : Char) (cs : List Char) : s.run (c :: cs) = (s.step c).run cs := rfl

theorem run_lost (hs : s.token = .lost) (cs : List Char) : s.run cs = s := by
  induction cs with
  | nil => rfl
  | cons c cs ih =>
    have hstep : s.step c = s := by simp [step, hs]
    rw [run_cons, hstep, ih]

theorem run_blanks (hs : s.token = .blank) (bs : List Blank) : s.run (Blank.chars bs) = s := by
  induction bs with
  | nil => rfl
  | cons b bs ih =>
    have hstep : s.step b.char = s := by
      simp only [step, hs]
      cases b <;> rfl
    change (s.step b.char).run (Blank.chars bs) = s
    rw [hstep, ih]

theorem put_congr (hframes : t.frames = s.frames) (hroot : t.root = s.root) (j : Json) : t.put j = s.put j := by
  obtain ⟨frames, due, token, root⟩ := s
  cases hframes
  cases hroot
  cases t.frames with
  | nil => rfl
  | cons f fs => cases f <;> rfl

theorem token_put (s : Scan) (j : Json) : (s.put j).token = .blank := by
  unfold put
  split <;> rfl

/-- A value has been read, and `t` is the state behind it: a number is complete
only at the end of the text or before what may follow a value. -/
structure Settles (s t : Scan) : Prop where
  token : t.token = .blank
  atEnd : s.atEnd = t
  step : ∀ c ∈ [',', ']', '\x7d', ' ', '\t', '\n', '\r'], s.step c = t.between c

theorem settles_self (hs : s.token = .blank) : Settles s s :=
  ⟨hs, by simp [atEnd, hs], fun c _ => by simp [Scan.step, hs]⟩

theorem settles_put {j : Json} (h : t = s.put j) : Settles t (s.put j) := by
  subst h
  exact settles_self (token_put ..)

theorem Settles.blanks (h : Settles s t) (bs : List Blank) : Settles (s.run (Blank.chars bs)) t := by
  cases bs with
  | nil => exact h
  | cons b bs =>
    have hstep : s.step b.char = t := by cases b <;> exact h.step _ (by decide)
    change Settles ((s.step b.char).run (Blank.chars bs)) t
    rw [hstep, run_blanks h.token]
    exact settles_self h.token

/-! ## Numbers -/

theorem settles_number {phase : NumberPhase} (hphase : phase.mayEnd = true) (s : Scan) (n : Numeral) :
    Settles { s with token := .number phase n } (s.put (.number n)) where
  token := token_put ..
  atEnd := by
    simp only [atEnd, hphase, if_true]
    exact put_congr rfl rfl _
  step c hc := by
    have hput : { s with token := .number phase n }.put (.number n) = s.put (.number n) := put_congr rfl rfl _
    have hcomplete : numberStep phase n c = .complete := by
      simp only [List.mem_cons, List.not_mem_nil, or_false] at hc
      rcases hc with rfl | rfl | rfl | rfl | rfl | rfl | rfl <;> cases phase <;>
        simp [NumberPhase.mayEnd] at hphase <;> rfl
    simp only [Scan.step, hcomplete, hput, token_put]

theorem run_digits {phase : NumberPhase} {f : List Digit → Numeral}
    (h : ∀ ds d, numberStep phase (f ds) d.toChar = .more phase (f (ds ++ [d]))) (s : Scan) (ds es : List Digit) :
    run { s with token := .number phase (f ds) } (Digit.chars es) =
      { s with token := .number phase (f (ds ++ es)) } := by
  induction es generalizing ds with
  | nil => rw [List.append_nil]; rfl
  | cons e es ih =>
    change run (step _ e.toChar) (Digit.chars es) = _
    simp only [step, h]
    rw [ih, List.append_assoc]
    rfl

theorem between_digit (s : Scan) : ∀ d : Digit,
    s.between d.toChar = s.start (.number (if d = Digit.zero then .zero else .whole) ⟨false, [d], [], none⟩)
  | 0 | 1 | 2 | 3 | 4 | 5 | 6 | 7 | 8 | 9 => rfl

theorem run_whole (hs : s.token = .blank) (hwants : s.wantsValue = true) (negative : Bool) (d : Digit) (ds : List Digit)
    (hlead : d = Digit.zero → ds = []) :
    s.run ((if negative then ['-'] else []) ++ Digit.chars (d :: ds)) =
      { s with token := .number (if d = Digit.zero then .zero else .whole) ⟨negative, d :: ds, [], none⟩ } := by
  have hfirst : s.run ((if negative then ['-'] else []) ++ [d.toChar]) =
      { s with token := .number (if d = Digit.zero then .zero else .whole) ⟨negative, [d], [], none⟩ } := by
    cases negative with
    | false =>
      change s.step d.toChar = _
      simp only [step, hs, between_digit, start, hwants, if_true]
    | true =>
      have hsign : s.step '-' = { s with token := .number .sign ⟨true, [], [], none⟩ } := by
        simp only [step, hs]
        change s.start _ = _
        simp only [start, hwants, if_true]
      change (s.step '-').step d.toChar = _
      rw [hsign]
      simp only [step, numberStep, Digit.ofChar?_toChar]
  have hchars : Digit.chars (d :: ds) = [d.toChar] ++ Digit.chars ds := rfl
  rw [hchars, ← List.append_assoc, run_append, hfirst]
  by_cases hd : d = Digit.zero
  · rw [hlead hd]
    rfl
  · rw [if_neg hd]
    refine run_digits (f := fun ws => ⟨negative, ws, [], none⟩) (fun ws e => ?_) s [d] ds
    simp only [numberStep, Digit.ofChar?_toChar]

def isOpen : NumberPhase → Bool
  | .zero | .whole | .fraction => true
  | _ => false

theorem run_fraction {phase : NumberPhase} (hphase : phase = .zero ∨ phase = .whole) (s : Scan) (negative : Bool)
    (whole ds : List Digit) :
    run { s with token := .number phase ⟨negative, whole, [], none⟩ }
        (if ds.isEmpty then [] else '.' :: Digit.chars ds) =
      { s with token := .number (if ds.isEmpty then phase else .fraction) ⟨negative, whole, ds, none⟩ } := by
  cases ds with
  | nil => rfl
  | cons d ds =>
    have hpoint : step { s with token := .number phase ⟨negative, whole, [], none⟩ } '.' =
        { s with token := .number .point ⟨negative, whole, [], none⟩ } := by
      rcases hphase with rfl | rfl <;> rfl
    have hfirst : step { s with token := .number .point ⟨negative, whole, [], none⟩ } d.toChar =
        { s with token := .number .fraction ⟨negative, whole, [d], none⟩ } := by
      simp only [step, numberStep, Digit.ofChar?_toChar]
    change run (step (step _ '.') d.toChar) (Digit.chars ds) = _
    rw [hpoint, hfirst]
    refine run_digits (f := fun ws => ⟨negative, whole, ws, none⟩) (fun ws e => ?_) s [d] ds
    simp only [numberStep, Digit.ofChar?_toChar]

theorem run_exponent {phase : NumberPhase} (hphase : isOpen phase = true) (s : Scan) (negative : Bool)
    (whole fraction : List Digit) (e : ExponentSpelling) :
    run { s with token := .number phase ⟨negative, whole, fraction, none⟩ } e.chars =
      { s with token := .number .exponent ⟨negative, whole, fraction, some e.value⟩ } := by
  obtain ⟨capital, sign, d, ds⟩ := e
  have hmark : step { s with token := .number phase ⟨negative, whole, fraction, none⟩ } (if capital then 'E' else 'e') =
      { s with token := .number .mark ⟨negative, whole, fraction, none⟩ } := by
    cases phase <;> first | cases hphase; done | cases capital <;> rfl
  have hfirst : run { s with token := .number .mark ⟨negative, whole, fraction, none⟩ }
        ((sign.map fun negative => if negative then '-' else '+').toList ++ [d.toChar]) =
      { s with token := .number .exponent ⟨negative, whole, fraction, some (sign.getD false, [d])⟩ } := by
    have hdigit : ∀ sign', step { s with token := .number .markSign ⟨negative, whole, fraction, some (sign', [])⟩ }
        d.toChar = { s with token := .number .exponent ⟨negative, whole, fraction, some (sign', [d])⟩ } := by
      intro sign'
      simp only [step, numberStep, Digit.ofChar?_toChar]
      rfl
    cases sign with
    | none =>
      change step { s with token := .number .mark ⟨negative, whole, fraction, none⟩ } d.toChar = _
      simp only [step, numberStep, Digit.ofChar?_toChar]
      rfl
    | some negative => cases negative <;> exact hdigit _
  have hchars : ExponentSpelling.chars ⟨capital, sign, d, ds⟩ = (if capital then 'E' else 'e') ::
      ((sign.map fun negative => if negative then '-' else '+').toList ++ [d.toChar] ++ Digit.chars ds) := by
    rw [List.append_assoc]
    rfl
  rw [hchars, run_cons, hmark, run_append, hfirst]
  refine run_digits (f := fun ws => ⟨negative, whole, fraction, some (sign.getD false, ws)⟩) (fun ws e => ?_) s [d] ds
  simp only [numberStep, Digit.ofChar?_toChar]
  rfl

theorem settles_numberSpelling (hs : s.token = .blank) (hwants : s.wantsValue = true) (n : NumberSpelling) :
    Settles (s.run n.chars) (s.put (.number n.value)) := by
  obtain ⟨negative, d, ds, leads, fraction, exponent⟩ := n
  have hfirst := run_whole hs hwants negative d ds leads
  generalize hp : (if d = Digit.zero then NumberPhase.zero else .whole) = phase at hfirst
  have hphase : phase = .zero ∨ phase = .whole := by
    rw [← hp]
    split
    · exact .inl rfl
    · exact .inr rfl
  simp only [NumberSpelling.chars, run_append _ (_ ++ Digit.chars _), hfirst]
  rw [run_append, run_fraction hphase]
  generalize hq : (if fraction.isEmpty = true then phase else .fraction) = phase'
  have hopen : isOpen phase' = true := by
    rw [← hq]
    split
    · rcases hphase with rfl | rfl <;> rfl
    · rfl
  cases exponent with
  | none =>
    refine settles_number ?_ s _
    cases phase' <;> first | rfl | cases hopen
  | some e =>
    change Settles (run _ e.chars) _
    rw [run_exponent hopen]
    exact settles_number (show NumberPhase.exponent.mayEnd = true from rfl) s _

/-! ## Strings -/

theorem hexValue?_char (d : HexDigit) : hexValue? d.char = some d.value.val := by
  obtain ⟨value, capital⟩ := d
  revert value capital
  decide

end Scan

theorem decode_of_not_high {u : Nat} (h : ¬ isHigh u = true) (us : List (Char ⊕ Nat)) :
    decode (.inr u :: us) = if isLow u then none else (decode us).map (Char.ofNat u :: ·) := by
  cases us with
  | nil => simp [decode, h]
  | cons v us => cases v <;> simp [decode, h]

namespace TextScan

def take (t : TextScan) : Char ⊕ Nat → TextScan
  | .inl c => t.push c
  | .inr u => t.unit u

theorem unreadable_settle {t : TextScan} (h : t.unreadable = true ∨ t.half.isSome = true) :
    t.settle.unreadable = true := by
  unfold settle
  by_cases hhalf : t.half.isSome = true
  · rw [if_pos hhalf]
  · rw [if_neg hhalf]
    exact h.resolve_right hhalf

theorem unreadable_take {t : TextScan} (h : t.unreadable = true) (u : Char ⊕ Nat) : (t.take u).unreadable = true := by
  have hsettle := unreadable_settle (.inl h)
  cases u with
  | inl c => exact hsettle
  | inr u =>
    simp only [take, unit, push]
    repeat' split
    all_goals first | rfl | exact h | exact hsettle

theorem finish_of_unreadable {t : TextScan} (h : t.unreadable = true) (us : List (Char ⊕ Nat)) :
    (us.foldl take t).finish = none := by
  induction us generalizing t with
  | nil => exact if_pos (unreadable_settle (.inl h))
  | cons u us ih => exact ih (unreadable_take h u)

theorem map_cons_chars (done : List Char) (c : Char) (cs : Option (List Char)) :
    (cs.map (c :: ·)).map (fun cs => String.ofList (done.reverse ++ cs)) =
      cs.map fun cs => String.ofList ((c :: done).reverse ++ cs) := by
  simp [Function.comp_def]

theorem finish_take (us : List (Char ⊕ Nat)) (done : List Char) :
    (us.foldl take ⟨done, none, false⟩).finish = (decode us).map fun cs => String.ofList (done.reverse ++ cs) := by
  induction us using decode.induct generalizing done with
  | case1 => simp [finish, settle, decode]
  | case2 c us ih =>
    rw [decode, map_cons_chars]
    exact ih (c :: done)
  | case3 u hhigh v us hlow ih =>
    have hfirst : take ⟨done, none, false⟩ (.inr u) = ⟨done, some u, false⟩ := if_pos hhigh
    have hsecond : take ⟨done, some u, false⟩ (.inr v) =
        ⟨Char.ofNat (0x10000 + (u - 0xD800) * 0x400 + (v - 0xDC00)) :: done, none, false⟩ := if_pos hlow
    rw [decode, if_pos hhigh, if_pos hlow, map_cons_chars, List.foldl_cons, List.foldl_cons, hfirst, hsecond]
    exact ih _
  | case4 u hhigh v us hlow =>
    have hfirst : take ⟨done, none, false⟩ (.inr u) = ⟨done, some u, false⟩ := if_pos hhigh
    have hsecond : take ⟨done, some u, false⟩ (.inr v) = ⟨done, none, true⟩ := if_neg hlow
    rw [decode, if_pos hhigh, if_neg hlow, List.foldl_cons, List.foldl_cons, hfirst, hsecond]
    exact finish_of_unreadable rfl us
  | case5 u us hhigh hnext =>
    have hfirst : take ⟨done, none, false⟩ (.inr u) = ⟨done, some u, false⟩ := if_pos hhigh
    rw [List.foldl_cons, hfirst]
    cases us with
    | nil => simp [decode, hhigh, finish, settle]
    | cons v us =>
      cases v with
      | inl c =>
        have halone : decode (.inr u :: .inl c :: us) = none := by simp [decode, hhigh]
        rw [halone]
        exact finish_of_unreadable rfl us
      | inr v => exact (hnext v us rfl).elim
  | case6 u us hhigh hlow =>
    have hfirst : take ⟨done, none, false⟩ (.inr u) = ⟨done, none, true⟩ := (if_neg hhigh).trans (if_pos hlow)
    rw [decode_of_not_high hhigh, if_pos hlow, List.foldl_cons, hfirst]
    exact finish_of_unreadable rfl us
  | case7 u us hhigh hlow ih =>
    have hfirst : take ⟨done, none, false⟩ (.inr u) = ⟨Char.ofNat u :: done, none, false⟩ :=
      (if_neg hhigh).trans (if_neg hlow)
    rw [decode_of_not_high hhigh, if_neg hlow, map_cons_chars, List.foldl_cons, hfirst]
    exact ih _

end TextScan

namespace Scan

variable {s t : Scan}

theorem run_piece (s : Scan) (t : TextScan) (p : Piece) :
    run { s with token := .text .plain t } p.chars = { s with token := .text .plain (t.take p.content) } := by
  cases p with
  | plain c fits =>
    obtain ⟨hquote, hslash, hlow⟩ := fits
    simp [Piece.chars, Piece.content, TextScan.take, run, step, TextScan.step, hquote, hslash, Nat.not_lt.mpr hlow]
  | escape e => cases e <;> rfl
  | unit a b c d =>
    simp [Piece.chars, Piece.content, TextScan.take, run, step, TextScan.step, hexValue?_char]

theorem run_pieces (s : Scan) (t : TextScan) (ps : List Piece) :
    run { s with token := .text .plain t } (ps.flatMap (·.chars)) =
      { s with token := .text .plain ((ps.map (·.content)).foldl TextScan.take t) } := by
  induction ps generalizing t with
  | nil => rfl
  | cons p ps ih => rw [List.flatMap_cons, run_append, run_piece, ih, List.map_cons, List.foldl_cons]

theorem run_string (hs : s.token = .blank) (hwants : (s.wantsValue || s.wantsName) = true) (ps : List Piece) :
    ∃ t, s.run (stringChars ps) = string { s with token := .text .plain t } (stringValue ps) := by
  have hopen : s.step '"' = { s with token := .text .plain {} } := by
    simp only [step, hs]
    change s.startText = _
    simp only [startText, hwants, if_true]
  refine ⟨(ps.map (·.content)).foldl TextScan.take {}, ?_⟩
  change (s.step '"').run (ps.flatMap (·.chars) ++ ['"']) = _
  rw [hopen, run_append, run_pieces]
  change string _ (TextScan.finish _) = _
  rw [TextScan.finish_take]
  rfl

section
variable (hs : s.token = .blank) (hwants : s.wantsValue = true)

theorem run_word (s : Scan) (value : Json) : ∀ rest : List Char, rest ≠ [] →
    run { s with token := .word rest value } rest = s.put value
  | [], hne => absurd rfl hne
  | [d], _ => by
    change step { s with token := .word [d] value } d = _
    simp only [step, if_true]
    exact put_congr rfl rfl _
  | d :: e :: rest, _ => by
    have hstep : step { s with token := .word (d :: e :: rest) value } d =
        { s with token := .word (e :: rest) value } := by
      simp only [step, if_true]
    rw [run_cons, hstep, run_word s value (e :: rest) (by simp)]

include hs hwants in
theorem settles_word {c : Char} {rest : List Char} {value : Json} (hc : s.between c = s.start (.word rest value))
    (hrest : rest ≠ []) : Settles (s.run (c :: rest)) (s.put value) := by
  have hstep : s.step c = { s with token := .word rest value } := by simp only [step, hs, hc, start, hwants, if_true]
  rw [run_cons, hstep]
  exact settles_put (run_word s value rest hrest)

include hs hwants in
theorem settles_string (ps : List Piece) : Settles (s.run (stringChars ps)) (s.put (.string (stringValue ps))) := by
  have hname : s.wantsName = false := by
    simp only [wantsValue, Bool.or_eq_true, decide_eq_true_eq] at hwants
    rcases hwants with he | he <;> simp [wantsName, he]
  obtain ⟨t, ht⟩ := run_string hs (by simp [hwants]) ps
  have hstring : string { s with token := .text .plain t } (stringValue ps) = s.put (.string (stringValue ps)) := by
    have hname' : wantsName { s with token := .text .plain t } = false := hname
    simp only [string, hname', Bool.false_eq_true, if_false]
    exact put_congr rfl rfl _
  exact settles_put (ht.trans hstring)

end

/-! ## Documents -/

theorem put_array {done : List Json} {fs : List Frame} (hframes : s.frames = .array done :: fs) (j : Json) :
    s.put j = { s with frames := .array (j :: done) :: fs, due := .commaOrEnd, token := .blank } := by
  simp only [put, hframes]

theorem put_member {done : List (Key × Json)} {k : Key} {fs : List Frame}
    (hframes : s.frames = .object done (some k) :: fs) (j : Json) :
    s.put j = { s with frames := .object ((k, j) :: done) none :: fs, due := .commaOrEnd, token := .blank } := by
  simp only [put, hframes]
  rfl

theorem step_open (hs : s.token = .blank) (hwants : s.wantsValue = true) :
    s.step '[' = { s with frames := .array [] :: s.frames, due := .valueOrEnd, token := .blank } ∧
    s.step '\x7b' = { s with frames := .object [] none :: s.frames, due := .nameOrEnd, token := .blank } := by
  have harray : s.step '[' = s.openArray := by
    simp only [step, hs]
    rfl
  have hobject : s.step '\x7b' = s.openObject := by
    simp only [step, hs]
    rfl
  rw [harray, hobject, openArray, openObject, if_pos hwants, if_pos hwants, hs]
  exact ⟨rfl, rfl⟩

theorem run_label (hs : s.token = .blank) (hwants : s.wantsName = true) {done : List (Key × Json)} {fs : List Frame}
    (hframes : s.frames = .object done none :: fs) (l : Label) :
    s.run l.chars = { s with frames := .object done (some l.key) :: fs, due := .value, token := .blank } := by
  obtain ⟨t, ht⟩ := run_string hs (by simp [hwants]) l.name
  have hname : string { s with token := .text .plain t } (stringValue l.name) =
      { s with frames := .object done (some l.key) :: fs, due := .colon, token := .blank } := by
    have hwants' : wantsName { s with token := .text .plain t } = true := hwants
    refine (if_pos hwants').trans ?_
    simp only [hframes]
    rfl
  have hcolon : step { s with frames := .object done (some l.key) :: fs, due := .colon, token := .blank } ':' =
      { s with frames := .object done (some l.key) :: fs, due := .value, token := .blank } := rfl
  rw [Label.chars, run_append, run_blanks hs, run_append, ht, hname, run_append, run_blanks rfl, run_cons, hcolon,
    run_blanks rfl]

-- The induction is on the document. Elements and members are read with what the
-- container around them holds already.
mutual

theorem settles_spelling (s : Scan) (hs : s.token = .blank) (hwants : s.wantsValue = true) :
    ∀ j : Spelling, Settles (s.run j.chars) (s.put j.value)
  | .null => settles_word hs hwants rfl (by simp)
  | .bool true => settles_word hs hwants rfl (by simp)
  | .bool false => settles_word hs hwants rfl (by simp)
  | .number n => settles_numberSpelling hs hwants n
  | .string ps => settles_string hs hwants ps
  | .emptyArray inside => by
    refine settles_put ?_
    change (s.step '[').run (Blank.chars inside ++ [']']) = _
    rw [(step_open hs hwants).1, run_append, run_blanks rfl]
    exact put_congr rfl rfl _
  | .array es => by
    refine settles_put ?_
    change (s.step '[').run (es.chars ++ [']']) = _
    rw [(step_open hs hwants).1, run_append]
    refine ((settles_elements _ rfl rfl [] s.frames rfl es).step ']' (by decide)).trans ?_
    change put _ (.array (es.values.reverse ++ []).reverse true) = _
    rw [List.append_nil, List.reverse_reverse]
    exact put_congr rfl rfl _
  | .emptyObject inside => by
    refine settles_put ?_
    change (s.step '\x7b').run (Blank.chars inside ++ ['\x7d']) = _
    rw [(step_open hs hwants).2, run_append, run_blanks rfl]
    exact put_congr rfl rfl _
  | .object ms => by
    refine settles_put ?_
    change (s.step '\x7b').run (ms.chars ++ ['\x7d']) = _
    rw [(step_open hs hwants).2, run_append]
    refine ((settles_members _ rfl rfl [] s.frames rfl ms).step '\x7d' (by decide)).trans ?_
    change put _ (.object (ms.values.reverse ++ []).reverse true) = _
    rw [List.append_nil, List.reverse_reverse]
    exact put_congr rfl rfl _

theorem settles_elements (s : Scan) (hs : s.token = .blank) (hwants : s.wantsValue = true) (done : List Json)
    (fs : List Frame) (hframes : s.frames = .array done :: fs) : ∀ es : Elements, Settles (s.run es.chars)
      { s with frames := .array (es.values.reverse ++ done) :: fs, due := .commaOrEnd, token := .blank }
  | .one before j after => by
    have hj := (settles_spelling s hs hwants j).blanks after
    rw [put_array hframes] at hj
    rw [Elements.chars, run_append, run_blanks hs, run_append]
    exact hj
  | .more before j after rest => by
    have hcomma := ((settles_spelling s hs hwants j).blanks after).step ',' (by decide)
    have hrest := settles_elements { s with frames := .array (j.value :: done) :: fs, due := .value, token := .blank }
      rfl rfl (j.value :: done) fs rfl rest
    rw [put_array hframes] at hcomma
    rw [Elements.chars, run_append, run_blanks hs, run_append, run_append, run_cons, hcomma, Elements.values,
      List.reverse_cons, List.append_assoc]
    exact hrest

theorem settles_members (s : Scan) (hs : s.token = .blank) (hwants : s.wantsName = true) (done : List (Key × Json))
    (fs : List Frame) (hframes : s.frames = .object done none :: fs) : ∀ ms : Members, Settles (s.run ms.chars)
      { s with frames := .object (ms.values.reverse ++ done) none :: fs, due := .commaOrEnd, token := .blank }
  | .one label j after => by
    have hj := (settles_spelling
      { s with frames := .object done (some label.key) :: fs, due := .value, token := .blank } rfl rfl j).blanks after
    rw [put_member rfl] at hj
    rw [Members.chars, run_append, run_label hs hwants hframes, run_append]
    exact hj
  | .more label j after rest => by
    have hcomma := ((settles_spelling
      { s with frames := .object done (some label.key) :: fs, due := .value, token := .blank } rfl rfl j).blanks
        after).step ',' (by decide)
    have hrest := settles_members
      { s with frames := .object ((label.key, j.value) :: done) none :: fs, due := .name, token := .blank } rfl rfl
      ((label.key, j.value) :: done) fs rfl rest
    rw [put_member rfl] at hcomma
    rw [Members.chars, run_append, run_label hs hwants hframes, run_append, run_append, run_cons, hcomma,
      Members.values, List.reverse_cons, List.append_assoc]
    exact hrest

end

end Scan

/-- However a document is spelled, it is read, and nothing is left behind it. -/
theorem scan_spelling (t : TextSpelling) : scan t.chars = ⟨t.document.value, true⟩ := by
  have hend := ((Scan.settles_spelling {} rfl rfl t.document).blanks t.after).atEnd
  rw [TextSpelling.chars, scan, Scan.run_append, Scan.run_blanks rfl, Scan.run_append, hend]
  rfl

theorem Decoder.run_text {α : Type} (d : Decoder α) (t : TextSpelling) : d.run t.text = d t.document.value := by
  simp only [Decoder.run, TextSpelling.text, String.toList_ofList, scan_spelling, if_true]
  cases d t.document.value <;> rfl

end Json

end FuturesDesk
