import FuturesDesk.Text.Direction
import FuturesDesk.Text.Joining
import FuturesDesk.Url.Mapping
import FuturesDesk.Url.Punycode

/-!
# Labels of a domain

A label has the letters it shows and the ASCII form it is looked up by. Labels
beyond ASCII must begin with a letter, use joiners only where they show, and
keep to one writing direction.
-/

namespace FuturesDesk.Url

structure Label where
  letters : List Char
  lookup : List Char

namespace Label

/-! ## Joiners -/

/-- Whether the first character that is not transparent is of a kind. -/
def meets (kind : Char → Bool) (cs : List Char) : Bool := (cs.dropWhile isTransparent).head?.any kind

/-- Whether a joiner shows between the characters in front of it, last one
first, and those behind it: behind a virama, or, if it keeps letters apart,
between letters that would join. -/
def joinerShows (before : List Char) (c : Char) (after : List Char) : Bool :=
  before.head?.any fun p => markClass p = viramaClass ||
    (c.toNat = 0x200C && meets joinsAhead before && meets joinsBack after)

def joinersShow (before : List Char) : List Char → Bool
  | [] => true
  | c :: after => (!isJoiner c || joinerShows before c after) && joinersShow (c :: before) after

/-! ## Direction -/

/-- Whether a label keeps to one direction, that of its first letter. It ends
in a letter or a digit of that direction, marks apart; from right to left one
kind of digits is allowed, and from left to right no Arabic ones. -/
def isOrderly : List Char → Bool
  | [] => true
  | first :: rest =>
    let body := (rest.reverse.map direction).dropWhile (· = .mark)
    let all (ds : List Direction) := body.all ds.contains
    let ends (ds : List Direction) := body.head?.all ds.contains
    match direction first with
    | .left => ends [.left, .digit] && all [.left, .digit, .neutral, .mark]
    | .right => ends [.right, .digit, .arabicDigit] && all [.right, .digit, .arabicDigit, .neutral, .mark] &&
        !(body.contains .digit && body.contains .arabicDigit)
    | _ => false

def turns (c : Char) : Bool := direction c = .right || direction c = .arabicDigit

/-! ## Reading -/

def aceMark : List Char := "xn--".toList

/-- The most characters of a label beyond ASCII. -/
def maxLetters : Nat := 1000

/-- The most characters behind the mark of a label in Punycode. -/
def maxCode : Nat := 2000

/-- Whether letters beyond ASCII may stand in a label. -/
def isProper (letters : List Char) : Bool :=
  !letters.head?.any isMark && joinersShow [] letters && letters.length ≤ maxLetters

/-- The letters of a label in Punycode: they have to be in plain form. -/
def decode? (code : List Char) : Option (List Char) := do
  if code.getLast?.all (· = '-') || maxCode < code.length then none
  let letters ← Punycode.decode? code
  if mapName letters = letters && !letters.any isForbidden then letters else none

/-- The label of a part of a name in plain form. -/
def ofPlain? (cs : List Char) : Option Label :=
  if aceMark.isPrefixOf cs then do
    let letters ← decode? (cs.drop aceMark.length)
    if isProper letters then some ⟨letters, cs⟩ else none
  else if cs.all Punycode.isAscii then some ⟨cs, cs⟩
  else if isProper cs then some ⟨cs, aceMark ++ Punycode.encode cs⟩
  else none

end Label

end FuturesDesk.Url
