/-!
# Header fields

Which texts may stand in a request as the name and the value of a field.
-/

namespace FuturesDesk.Http

/-- The characters of field names beside letters and digits. -/
def nameMarks : List Char := ['!', '#', '$', '%', '&', '\'', '*', '+', '-', '.', '^', '_', '`', '|', '~']

def isNameChar (c : Char) : Bool :=
  ('a' ≤ c && c ≤ 'z') || ('A' ≤ c && c ≤ 'Z') || ('0' ≤ c && c ≤ '9') || nameMarks.contains c

def isHeaderName (s : String) : Bool := !s.isEmpty && s.toList.all isNameChar

/-- No control characters but the tab. -/
def isHeaderValue (s : String) : Bool :=
  s.toList.all fun c => c = '\t' || (0x20 ≤ c.toNat && c.toNat ≠ 0x7F)

end FuturesDesk.Http
