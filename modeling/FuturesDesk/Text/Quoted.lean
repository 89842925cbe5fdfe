import FuturesDesk.Json.Printer
import FuturesDesk.Text.Printable

/-!
# Quoted texts in messages

A text between double quotes. Quotes, backslashes and the common controls have
short escapes; what does not print is written by its code point.
-/

namespace FuturesDesk.Quoted

def hexDigits (n : Nat) : List Char := (Nat.toDigits 16 n)

def escape (c : Char) : List Char :=
  match c with
  | '"' => ['\\', '"']
  | '\\' => ['\\', '\\']
  | '\n' => ['\\', 'n']
  | '\r' => ['\\', 'r']
  | '\t' => ['\\', 't']
  | '\x00' => ['\\', '0']
  | c => if isPrintable c then [c] else ['\\', 'u', '\x7b'] ++ hexDigits c.toNat ++ ['\x7d']

def quote (s : String) : String := String.ofList ('"' :: s.toList.flatMap escape ++ ['"'])

end FuturesDesk.Quoted
