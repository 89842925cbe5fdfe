import FuturesDesk.Json.Basic

/-!
# Writing JSON text

Compact text. Strings escape quotes, backslashes and the controls below space,
and nothing else.
-/

namespace FuturesDesk.Json

def hexChar (n : Nat) : Char := Char.ofNat (if n < 10 then '0'.toNat + n else 'a'.toNat + n - 10)

/-- A character inside a string. -/
def escape (c : Char) : List Char :=
  match c with
  | '"' => ['\\', '"']
  | '\\' => ['\\', '\\']
  | '\x08' => ['\\', 'b']
  | '\x0c' => ['\\', 'f']
  | '\n' => ['\\', 'n']
  | '\r' => ['\\', 'r']
  | '\t' => ['\\', 't']
  | c => if c.toNat < 0x20 then ['\\', 'u', '0', '0', hexChar (c.toNat / 16), hexChar (c.toNat % 16)] else [c]

def quote (s : String) : List Char := '"' :: s.toList.flatMap escape ++ ['"']

def Key.chars : Key → List Char
  | .name s => quote s
  | _ => []

mutual

def chars : Json → List Char
  | .null => ['n', 'u', 'l', 'l']
  | .bool true => ['t', 'r', 'u', 'e']
  | .bool false => ['f', 'a', 'l', 's', 'e']
  | .number n => n.chars
  | .string (some s) => quote s
  | .array js _ => '[' :: elementChars js ++ [']']
  | .object ms _ => '\x7b' :: memberChars ms ++ ['\x7d']
  | .string none | .broken => []

def elementChars : List Json → List Char
  | [] => []
  | [j] => chars j
  | j :: js => chars j ++ ',' :: elementChars js

def memberChars : List (Key × Json) → List Char
  | [] => []
  | [m] => oneMember m
  | m :: ms => oneMember m ++ ',' :: memberChars ms

def oneMember : Key × Json → List Char
  | (k, j) => k.chars ++ ':' :: chars j

end

def render (j : Json) : String := String.ofList j.chars

end FuturesDesk.Json
