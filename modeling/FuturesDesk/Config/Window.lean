import FuturesDesk.Clock
import FuturesDesk.Fault
import FuturesDesk.Number.Reading
import FuturesDesk.Text.Quoted

/-!
# Trading windows

A window of the day is given by two texts, hours and minutes with a colon
between them.
-/

namespace FuturesDesk

/-- What is wrong with the text of a time. -/
inductive TimeProblem where
  | tooShort | invalid | outOfRange | tooLong
deriving DecidableEq, Repr

namespace TimeProblem

def message : TimeProblem → String
  | .tooShort => "premature end of input"
  | .invalid => "input contains invalid characters"
  | .outOfRange => "input is out of range"
  | .tooLong => "trailing input"

end TimeProblem

namespace TimeText

/-- One or two digits after white space, and the rest. -/
def number (cs : List Char) : Except TimeProblem (Nat × List Char) :=
  match trimStart cs with
  | [] => .error .tooShort
  | c :: cs =>
    match Digit.ofChar? c with
    | none => .error .invalid
    | some d =>
      match cs with
      | [] => .ok (d.val, [])
      | c' :: cs' =>
        match Digit.ofChar? c' with
        | none => .ok (d.val, c' :: cs')
        | some d' => .ok (10 * d.val + d'.val, cs')

/-- A number up to `limit`. -/
def upTo (limit : Nat) (cs : List Char) : Except TimeProblem (Nat × List Char) := do
  let (n, rest) ← number cs
  if n ≤ limit then .ok (n, rest) else .error .outOfRange

def colon : List Char → Except TimeProblem (List Char)
  | [] => .error .tooShort
  | c :: cs => if c = ':' then .ok cs else .error .invalid

/-- The time a text stands for, or its first problem. -/
def parse (cs : List Char) : Except TimeProblem Minute := do
  let (h, cs) ← upTo 23 cs
  let cs ← colon cs
  let (m, cs) ← upTo 59 cs
  if cs.isEmpty then .ok (60 * h + m) else .error .tooLong

end TimeText

/-- The texts of a window as configured. -/
structure WindowText where
  start : String
  finish : String
deriving DecidableEq, Repr

namespace WindowText

/-- The time a text stands for; a bad text is quoted. -/
def time (s : String) : Except Fault Minute :=
  match TimeText.parse s.toList with
  | .ok t => .ok t
  | .error p => .error (.config ("bad trading hour " ++ Quoted.quote s ++ ": " ++ p.message))

def parse (w : WindowText) : Except Fault (Minute × Minute) := do
  let s ← time w.start
  let e ← time w.finish
  return (s, e)

end WindowText

end FuturesDesk
