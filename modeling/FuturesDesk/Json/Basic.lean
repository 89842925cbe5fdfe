import FuturesDesk.Number.Numeral

/-!
# JSON documents

A text is read into a tree that stops where the text stops being JSON: there
stands `broken`, and the containers around it are not closed. The same tree,
without a break, is what texts are written from.
-/

namespace FuturesDesk

namespace Json

/-- The name of an object member. -/
inductive Key where
  | name (s : String)
  /-- A string with half of a surrogate pair. -/
  | unreadable
deriving DecidableEq

end Json

inductive Json where
  | null
  | bool (b : Bool)
  | number (n : Numeral)
  /-- Without a text if it holds half of a surrogate pair. -/
  | string (s : Option String)
  | array (elements : List Json) (closed : Bool)
  | object (members : List (Json.Key × Json)) (closed : Bool)
  /-- The text ends here or goes on with something else. -/
  | broken

namespace Json

instance : Inhabited Json := ⟨.null⟩

/-! ## Documents to write -/

def str (s : String) : Json := .string (some s)

def nat (n : Nat) : Json := .number (.ofNat n)

def int (i : Int) : Json := .number (.ofInt i)

def float (x : Float) : Json :=
  match Numeral.ofFloat? .json x with
  | some n => .number n
  | none => .null

def list (js : List Json) : Json := .array js true

/-- An object with the given members in this order. -/
def record (ms : List (String × Json)) : Json := .object (ms.map fun m => (.name m.1, m.2)) true

/-- The value or `null`. -/
def optional {α} (write : α → Json) : Option α → Json
  | some a => write a
  | none => .null

/-! ## Whole documents -/

mutual

/-- The text of this value is complete: no break in it. -/
def isComplete : Json → Bool
  | .null | .bool _ | .number _ | .string _ => true
  | .array js closed => closed && areComplete js
  | .object ms closed => closed && membersComplete ms
  | .broken => false

def areComplete : List Json → Bool
  | [] => true
  | j :: js => j.isComplete && areComplete js

def membersComplete : List (Key × Json) → Bool
  | [] => true
  | m :: ms => memberComplete m && membersComplete ms

def memberComplete : Key × Json → Bool
  | (_, j) => j.isComplete

end

mutual

/-- Every part can be read as a value: strings and names are texts, numbers
within range, and at most `depth` containers stand inside each other. -/
def isReadable (depth : Nat) : Json → Bool
  | .null | .bool _ => true
  | .number n => n.value?.isSome
  | .string s => s.isSome
  | .array js closed =>
    match depth with
    | 0 => false
    | depth + 1 => closed && areReadable depth js
  | .object ms closed =>
    match depth with
    | 0 => false
    | depth + 1 => closed && membersReadable depth ms
  | .broken => false

def areReadable (depth : Nat) : List Json → Bool
  | [] => true
  | j :: js => j.isReadable depth && areReadable depth js

def membersReadable (depth : Nat) : List (Key × Json) → Bool
  | [] => true
  | m :: ms => memberReadable depth m && membersReadable depth ms

def memberReadable (depth : Nat) : Key × Json → Bool
  | (.name _, j) => j.isReadable depth
  | _ => false

end

/-! ## Access -/

/-- The member of that name; of several the last one counts. -/
def get? (j : Json) (key : String) : Option Json :=
  match j with
  | .object ms _ => (ms.reverse.find? (·.1 == .name key)).map (·.2)
  | _ => none

def str? : Json → Option String
  | .string s => s
  | _ => none

def float? : Json → Option Float
  | .number n => n.value?.map (·.toFloat)
  | _ => none

/-- A number that is an integer of 64 bits with a sign. -/
def int? : Json → Option Int
  | .number n =>
    match n.value? with
    | some (.unsigned m) => if m < pow2 63 then some m else none
    | some (.negative i) => some i
    | _ => none
  | _ => none

end Json

end FuturesDesk
