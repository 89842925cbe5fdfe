import FuturesDesk.Json.Basic

/-!
# Reading JSON text

An automaton over characters: a stack of open containers, what may come next,
and the token in progress. The tree is closed off where a character does not
fit, and everything behind that point is left alone.
-/

namespace FuturesDesk.Json

/-! ## Tokens in progress -/

/-- How far a number has been read. -/
inductive NumberPhase where
  | sign | zero | whole | point | fraction | mark | markSign | exponent
deriving DecidableEq

/-- A string in progress. -/
structure TextScan where
  /-- The characters so far, last one first. -/
  done : List Char := []
  /-- The first half of a surrogate pair waiting for the second. -/
  half : Option Nat := none
  /-- Half of a pair stood alone. -/
  unreadable : Bool := false

/-- Where in a string the next character stands. -/
inductive TextPhase where
  | plain
  | escape
  /-- In a four-digit escape: the digits left and the value so far. -/
  | hex (left : Nat) (value : Nat)

inductive Token where
  /-- Between tokens. -/
  | blank
  | word (rest : List Char) (value : Json)
  | number (phase : NumberPhase) (n : Numeral)
  | text (phase : TextPhase) (t : TextScan)
  /-- A character did not fit. -/
  | lost

namespace TextScan

/-- Ends a waiting half that found no partner. -/
def settle (t : TextScan) : TextScan :=
  if t.half.isSome then { t with half := none, unreadable := true } else t

def push (t : TextScan) (c : Char) : TextScan :=
  let t := t.settle
  { t with done := c :: t.done }

/-- Takes a code unit given by its number. -/
def unit (t : TextScan) (u : Nat) : TextScan :=
  match t.half with
  | some hi =>
    if 0xDC00 ≤ u && u < 0xE000 then
      { t with done := Char.ofNat (0x10000 + (hi - 0xD800) * 0x400 + (u - 0xDC00)) :: t.done, half := none }
    else { t with half := none, unreadable := true }
  | none =>
    if 0xD800 ≤ u && u < 0xDC00 then { t with half := some u }
    else if 0xDC00 ≤ u && u < 0xE000 then { t with unreadable := true }
    else t.push (Char.ofNat u)

def finish (t : TextScan) : Option String :=
  if t.settle.unreadable then none else some (String.ofList t.done.reverse)

end TextScan

def hexValue? (c : Char) : Option Nat :=
  if '0' ≤ c && c ≤ '9' then some (c.toNat - '0'.toNat)
  else if 'a' ≤ c && c ≤ 'f' then some (c.toNat - 'a'.toNat + 10)
  else if 'A' ≤ c && c ≤ 'F' then some (c.toNat - 'A'.toNat + 10)
  else none

/-- The character a one-letter escape stands for. -/
def unescape? : Char → Option Char
  | '"' => some '"'
  | '\\' => some '\\'
  | '/' => some '/'
  | 'b' => some '\x08'
  | 'f' => some '\x0c'
  | 'n' => some '\n'
  | 'r' => some '\r'
  | 't' => some '\t'
  | _ => none

/-- One character inside a string other than its closing quote. -/
def TextScan.step (phase : TextPhase) (t : TextScan) (c : Char) : Token :=
  match phase with
  | .plain =>
    if c = '\\' then .text .escape t
    else if c.toNat < 0x20 then .lost
    else .text .plain (t.push c)
  | .escape =>
    if c = 'u' then .text (.hex 4 0) t
    else match unescape? c with
      | some c => .text .plain (t.push c)
      | none => .lost
  | .hex left value =>
    match hexValue? c with
    | none => .lost
    | some d =>
      let value := 16 * value + d
      if left ≤ 1 then .text .plain (t.unit value) else .text (.hex (left - 1) value) t

/-- What a character does to a number: it goes on, is complete before that
character, or cannot go on. -/
inductive NumberStep where
  | more (phase : NumberPhase) (n : Numeral)
  | complete
  | lost

namespace Numeral

def pushExponent (n : Numeral) (d : Digit) : Numeral :=
  { n with exponent := n.exponent.map fun e => (e.1, e.2 ++ [d]) }

end Numeral

def numberStep (phase : NumberPhase) (n : Numeral) (c : Char) : NumberStep :=
  let digit := Digit.ofChar? c
  let isMark := c = 'e' || c = 'E'
  match phase, digit with
  | .sign, some d => .more (if d = Digit.zero then .zero else .whole) { n with whole := [d] }
  | .sign, none => .lost
  | .zero, some _ => .lost
  | .whole, some d => .more .whole { n with whole := n.whole ++ [d] }
  | .point, some d => .more .fraction { n with fraction := [d] }
  | .point, none => .lost
  | .fraction, some d => .more .fraction { n with fraction := n.fraction ++ [d] }
  | .mark, some d => .more .exponent { n with exponent := some (false, [d]) }
  | .mark, none =>
    if c = '-' then .more .markSign { n with exponent := some (true, []) }
    else if c = '+' then .more .markSign { n with exponent := some (false, []) }
    else .lost
  | .markSign, some d | .exponent, some d => .more .exponent (Numeral.pushExponent n d)
  | .markSign, none => .lost
  | .exponent, none => .complete
  | .zero, none | .whole, none =>
    if c = '.' then .more .point n else if isMark then .more .mark n else .complete
  | .fraction, none => if isMark then .more .mark n else .complete

/-- Whether a number may end in this phase. -/
def NumberPhase.mayEnd : NumberPhase → Bool
  | .zero | .whole | .fraction | .exponent => true
  | .sign | .point | .mark | .markSign => false

/-! ## Containers -/

/-- An open container with what it holds so far, last one first. A member in
progress may have its name already. -/
inductive Frame where
  | array (done : List Json)
  | object (done : List (Key × Json)) (key : Option Key)

/-- What may come next. -/
inductive Due where
  | value
  /-- A value, or the end of an array just opened. -/
  | valueOrEnd
  | name
  /-- A name, or the end of an object just opened. -/
  | nameOrEnd
  | colon
  | commaOrEnd
  /-- Nothing but blanks: the document is complete. -/
  | nothing
deriving DecidableEq

structure Scan where
  frames : List Frame := []
  due : Due := .value
  token : Token := .blank
  /-- The complete document. -/
  root : Option Json := none

namespace Scan

def lose (s : Scan) : Scan := { s with token := .lost }

/-- Puts a complete value where it belongs. -/
def put (s : Scan) (j : Json) : Scan :=
  match s.frames with
  | [] => { s with root := some j, due := .nothing, token := .blank }
  | .array done :: fs => { s with frames := .array (j :: done) :: fs, due := .commaOrEnd, token := .blank }
  | .object done key :: fs =>
    { s with frames := .object ((key.getD .unreadable, j) :: done) none :: fs, due := .commaOrEnd, token := .blank }

def wantsValue (s : Scan) : Bool := s.due = .value || s.due = .valueOrEnd

def wantsName (s : Scan) : Bool := s.due = .name || s.due = .nameOrEnd

/-- A complete string: a name or a value. -/
def string (s : Scan) (text : Option String) : Scan :=
  if s.wantsName then
    match s.frames with
    | .object done _ :: fs =>
      let key := match text with
        | some t => .name t
        | none => .unreadable
      { s with frames := .object done (some key) :: fs, due := .colon, token := .blank }
    | _ => s.lose
  else s.put (.string text)

def openArray (s : Scan) : Scan :=
  if s.wantsValue then { s with frames := .array [] :: s.frames, due := .valueOrEnd } else s.lose

def openObject (s : Scan) : Scan :=
  if s.wantsValue then { s with frames := .object [] none :: s.frames, due := .nameOrEnd } else s.lose

def closeArray (s : Scan) : Scan :=
  match s.frames with
  | .array done :: fs =>
    if s.due = .valueOrEnd || s.due = .commaOrEnd then
      { s with frames := fs }.put (.array done.reverse true)
    else s.lose
  | _ => s.lose

def closeObject (s : Scan) : Scan :=
  match s.frames with
  | .object done _ :: fs =>
    if s.due = .nameOrEnd || s.due = .commaOrEnd then
      { s with frames := fs }.put (.object done.reverse true)
    else s.lose
  | _ => s.lose

def comma (s : Scan) : Scan :=
  if s.due = .commaOrEnd then
    match s.frames with
    | .array _ :: _ => { s with due := .value }
    | .object .. :: _ => { s with due := .name }
    | [] => s.lose
  else s.lose

def colon (s : Scan) : Scan :=
  if s.due = .colon then { s with due := .value } else s.lose

/-- Starts a word or a number if a value may stand here. -/
def start (s : Scan) (t : Token) : Scan := if s.wantsValue then { s with token := t } else s.lose

/-- Starts a string: a value, or the name of a member. -/
def startText (s : Scan) : Scan :=
  if s.wantsValue || s.wantsName then { s with token := .text .plain {} } else s.lose

def isBlank (c : Char) : Bool := c = ' ' || c = '\t' || c = '\n' || c = '\r'

/-- A character between tokens. -/
def between (s : Scan) (c : Char) : Scan :=
  if isBlank c then s
  else match c with
    | '[' => s.openArray
    | ']' => s.closeArray
    | '\x7b' => s.openObject
    | '\x7d' => s.closeObject
    | ',' => s.comma
    | ':' => s.colon
    | '"' => s.startText
    | 't' => s.start (.word ['r', 'u', 'e'] (.bool true))
    | 'f' => s.start (.word ['a', 'l', 's', 'e'] (.bool false))
    | 'n' => s.start (.word ['u', 'l', 'l'] .null)
    | '-' => s.start (.number .sign ⟨true, [], [], none⟩)
    | c =>
      match Digit.ofChar? c with
      | some d => s.start (.number (if d = Digit.zero then .zero else .whole) ⟨false, [d], [], none⟩)
      | none => s.lose

def step (s : Scan) (c : Char) : Scan :=
  match s.token with
  | .lost => s
  | .blank => s.between c
  | .word [] _ => s.lose
  | .word [d] value => if c = d then s.put value else s.lose
  | .word (d :: rest) value => if c = d then { s with token := .word rest value } else s.lose
  | .text .plain t => if c = '"' then s.string t.finish else { s with token := t.step .plain c }
  | .text phase t => { s with token := t.step phase c }
  | .number phase n =>
    match numberStep phase n c with
    | .more phase n => { s with token := .number phase n }
    | .lost => s.lose
    | .complete =>
      let s := s.put (.number n)
      match s.token with
      | .blank => s.between c
      | _ => s

def run (s : Scan) (cs : List Char) : Scan := cs.foldl step s

/-- The end of the text: a number may be complete there. -/
def atEnd (s : Scan) : Scan :=
  match s.token with
  | .blank => s
  | .number phase n => if phase.mayEnd then s.put (.number n) else s.lose
  | _ => s.lose

/-- Closes off the containers still open, innermost first. -/
def collapse : Json → List Frame → Json
  | j, [] => j
  | j, .array done :: fs => collapse (.array (j :: done).reverse false) fs
  | j, .object done key :: fs => collapse (.object ((key.getD .unreadable, j) :: done).reverse false) fs

/-- The innermost container, closed off without a value in progress, in the
containers around it. -/
def closeOff : List Frame → Json
  | [] => .broken
  | .array done :: fs => collapse (.array done.reverse false) fs
  | .object done none :: fs => collapse (.object done.reverse false) fs
  | .object done (some key) :: fs => collapse (.object ((key, .broken) :: done).reverse false) fs

end Scan

/-- What was read from a text. -/
structure Document where
  root : Json
  /-- Nothing but blanks stands behind the value. -/
  clean : Bool

def scan (cs : List Char) : Document :=
  let s := (Scan.run {} cs).atEnd
  match s.root with
  | some j => ⟨j, match s.token with
    | .blank => true
    | _ => false⟩
  | none => ⟨Scan.closeOff s.frames, false⟩

/-- Reads a text as one value of any kind, at most 127 containers deep. -/
def parse? (text : String) : Option Json :=
  let d := scan text.toList
  if d.clean && d.root.isReadable 127 then some d.root else none

end FuturesDesk.Json
