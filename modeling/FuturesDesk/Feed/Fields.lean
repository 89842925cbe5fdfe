import FuturesDesk.Json.Basic
import FuturesDesk.Number.Reading

/-!
# Lenient fields

Numbers in feed data come as JSON numbers or as texts.
-/

namespace FuturesDesk.Feed

/-- A double given as a number or as a text that stands for one. -/
def floatField? (j : Json) (key : String) : Option Float := do
  match ← j.get? key with
  | .string (some s) => readFloat? (trimBlanks s.toList)
  | v => v.float?

/-- An integer given as a number or as a text that stands for one. -/
def intField? (j : Json) (key : String) : Option Int64 := do
  match ← j.get? key with
  | .string (some s) => readInt64? (trimBlanks s.toList)
  | v => v.int?.map Int64.ofInt

def textField? (j : Json) (key : String) : Option String := (j.get? key).bind (·.str?)

end FuturesDesk.Feed
