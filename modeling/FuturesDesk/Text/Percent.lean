/-!
# Percent encoding

Bytes of UTF-8 that are not plain stand as a percent sign and two hexadecimal
digits. Decoding takes the bytes back.
-/

namespace FuturesDesk.Percent

/-- A digit of an escape, in upper case. -/
def digit (n : Nat) : Char := Char.ofNat (if n < 10 then '0'.toNat + n else 'A'.toNat + n - 10)

def escapeByte (b : UInt8) : List Char := ['%', digit (b.toNat / 16), digit (b.toNat % 16)]

def escapeChar (c : Char) : List Char := (String.utf8EncodeChar c).flatMap escapeByte

def isAlphanumeric (c : Char) : Bool :=
  ('a' ≤ c && c ≤ 'z') || ('A' ≤ c && c ≤ 'Z') || ('0' ≤ c && c ≤ '9')

/-- Characters that a query may hold as they are. -/
def isUnreserved (c : Char) : Bool := isAlphanumeric c || c = '-' || c = '.' || c = '_' || c = '~'

def encode (s : String) : List Char := s.toList.flatMap fun c => if isUnreserved c then [c] else escapeChar c

/-- Characters that a form may hold as they are. -/
def isFormPlain (c : Char) : Bool := isAlphanumeric c || c = '*' || c = '-' || c = '.' || c = '_'

/-- A name or a value in a form, where a space becomes a plus. -/
def encodeForm (s : String) : List Char :=
  s.toList.flatMap fun c => if c = ' ' then ['+'] else if isFormPlain c then [c] else escapeChar c

/-- Visible characters that a path may not hold as they are. -/
def pathMarks : List Char := ['"', '<', '>', '`', '\x7b', '\x7d']

/-- A path: spaces, controls, what is not ASCII and a few marks are escaped. -/
def encodePath (s : String) : String :=
  String.ofList (s.toList.flatMap fun c =>
    if 0x20 < c.toNat && c.toNat < 0x7F && !pathMarks.contains c then [c] else escapeChar c)

def value? (c : Char) : Option Nat :=
  if '0' ≤ c && c ≤ '9' then some (c.toNat - '0'.toNat)
  else if 'A' ≤ c && c ≤ 'F' then some (c.toNat - 'A'.toNat + 10)
  else if 'a' ≤ c && c ≤ 'f' then some (c.toNat - 'a'.toNat + 10)
  else none

def bytes : List Char → List UInt8
  | [] => []
  | '%' :: a :: b :: cs =>
    match value? a, value? b with
    | some hi, some lo => UInt8.ofNat (16 * hi + lo) :: bytes cs
    | _, _ => String.utf8EncodeChar '%' ++ bytes (a :: b :: cs)
  | c :: cs => String.utf8EncodeChar c ++ bytes cs

/-- The text an encoded text stands for, if its bytes are UTF-8. -/
def decode? (cs : List Char) : Option String := String.fromUTF8? ⟨(bytes cs).toArray⟩

end FuturesDesk.Percent
