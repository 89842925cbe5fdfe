import FuturesDesk.Text.Percent
import FuturesDesk.Url.Label

/-!
# Domains

A domain in the letters it is looked up by: escapes taken back, in plain form,
and labels beyond ASCII in Punycode.
-/

namespace FuturesDesk.Url

def labels (cs : List Char) : List (List Char) :=
  cs.foldr (fun c ls => if c = '.' then [] :: ls else match ls with
    | l :: ls => (c :: l) :: ls
    | [] => [[c]]) [[]]

/-- A label from right to left asks all labels of its domain to be orderly. -/
def areOrderly (ls : List Label) : Bool :=
  !ls.any (·.letters.any Label.turns) || ls.all fun l => Label.isOrderly l.letters

def domain? (cs : List Char) : Option (List Char) := do
  let text ← Percent.decode? cs
  let name := mapName text.toList
  if name.isEmpty || name.any isForbidden then none
  let ls ← (labels name).mapM Label.ofPlain?
  if areOrderly ls then some (List.intercalate ['.'] (ls.map (·.lookup))) else none

end FuturesDesk.Url
