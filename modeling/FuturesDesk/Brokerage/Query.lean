import FuturesDesk.Digest.Hmac
import FuturesDesk.Text.Percent

/-!
# Signed queries

The parameters of a request in order, followed by the keyed digest of all that
stands in front of it.
-/

namespace FuturesDesk.Query

abbrev Params := List (String × String)

def param (p : String × String) : List Char := Percent.encode p.1 ++ '=' :: Percent.encode p.2

/-- Parameters joined by ampersands. -/
def join (ps : Params) : List Char := List.intercalate ['&'] (ps.map param)

def signatureMark : List Char := "&signature=".toList

def signed (ps : Params) (secret : String) : String :=
  let query := join ps
  String.ofList (query ++ signatureMark ++ Hmac.sign secret query)

/-! ## Reading back -/

/-- The text up to the first `c`, and what stands behind it. -/
def cut (c : Char) : List Char → List Char × Option (List Char)
  | [] => ([], none)
  | d :: ds =>
    if d = c then ([], some ds)
    else let (front, back) := cut c ds; (d :: front, back)

/-- Splits a text at every `c`. -/
def split (c : Char) : List Char → List (List Char)
  | [] => [[]]
  | d :: ds =>
    if d = c then [] :: split c ds
    else match split c ds with
      | [] => [[d]]
      | p :: ps => (d :: p) :: ps

/-- The parameter a part of a query stands for: name and value meet at the
first equals sign. -/
def readParam? (part : List Char) : Option (String × String) := do
  let (name, value) := cut '=' part
  return (← Percent.decode? name, ← Percent.decode? (← value))

/-- The parameters of an unsigned query. -/
def read? (query : List Char) : Option Params := (split '&' query).mapM readParam?

end FuturesDesk.Query
