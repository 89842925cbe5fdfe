import FuturesDesk.Number.Reading
import FuturesDesk.Url.Address

/-!
# Listening addresses

A host and a number of 16 bits with a colon between them. Listening works on
the addresses of this machine, and on those of everybody. Hosts other than
this machine can only be given by number, for nobody is there to ask.
-/

namespace FuturesDesk.Service

inductive BindProblem where
  /-- No colon at all. -/
  | address
  /-- No such number behind the colon. -/
  | number
  /-- No host has such a name. -/
  | unknownHost
  /-- A name that nobody can be asked for. -/
  | unresolved
  /-- An address of another machine. -/
  | foreign
  /-- An address that says nothing without an interface. -/
  | unscoped
deriving DecidableEq, Repr

namespace BindProblem

def lookup (cause : String) : String := "failed to lookup address information: " ++ cause

def message : BindProblem → String
  | address => "invalid socket address"
  | number => "invalid port value"
  | unknownHost => lookup "Name or service not known"
  | unresolved => lookup "Temporary failure in name resolution"
  | foreign => "Cannot assign requested address (os error 99)"
  | unscoped => "Invalid argument (os error 22)"

end BindProblem

/-- Cuts a text at its last colon. -/
def cutPort? (cs : List Char) : Option (List Char × List Char) :=
  match cs.reverse.dropWhile (· ≠ ':') with
  | [] => none
  | _ :: host => some (host.reverse, (cs.reverse.takeWhile (· ≠ ':')).reverse)

def isPortNumber (cs : List Char) : Bool :=
  let ds := match cs with
    | '+' :: ds => ds
    | ds => ds
  !ds.isEmpty && (Url.valueIn? 10 ds).any (· < pow2 16)

/-! ## Addresses -/

/-- Whether one can listen at an address of four bytes: none in particular, one
of this machine, of a group, or of everybody. -/
def isOwnBytes (n : Nat) : Bool := n = 0 || n / pow2 24 = 127 || n / pow2 28 = 14 || n = pow2 32 - 1

/-- Four bytes as the last two of eight groups. -/
def mappedBytes? (gs : List Nat) : Option Nat :=
  match gs with
  | [0, 0, 0, 0, 0, 0xFFFF, a, b] => some (a * pow2 16 + b)
  | _ => none

/-- Addresses of a link or of a group. -/
def needsScope (gs : List Nat) : Bool :=
  gs.head?.any fun g => g / pow2 6 = 0xFE80 / pow2 6 || g / pow2 8 = 0xFF

def checkBytes (n : Nat) : Except BindProblem Unit := if isOwnBytes n then .ok () else .error .foreign

def checkGroups (gs : List Nat) : Except BindProblem Unit :=
  if needsScope gs then .error .unscoped
  else match mappedBytes? gs with
    | some n => checkBytes n
    | none => if gs.take 7 = List.replicate 7 0 && gs.getLastD 0 ≤ 1 then .ok () else .error .foreign

/-! ## Hosts -/

/-- Four bytes in one to four parts, each with a digit. -/
def numericHost? (cs : List Char) : Option Nat :=
  let parts := Query.split '.' cs
  if parts.any fun p => p.isEmpty || p = "0x".toList || p = "0X".toList then none else Url.fourBytes? cs

/-- A name that may be asked for: labels of letters, digits, hyphens and
underscores, and perhaps a dot at the end. -/
def isHostName (cs : List Char) : Bool :=
  let name := if cs.getLast? = some '.' then cs.dropLast else cs
  let isLabel (l : List Char) := !l.isEmpty && l.length ≤ 63 && l.all fun c => c.isAlphanum || c = '-' || c = '_'
  cs = ['.'] || (name.length ≤ 253 && name.head? ≠ some '-' && (Query.split '.' name).all isLabel)

def localName : String := "localhost"

def checkHost (cs : List Char) : Except BindProblem Unit :=
  match numericHost? cs, Url.eightGroups? cs with
  | some n, _ => checkBytes n
  | none, some gs => checkGroups gs
  | none, none =>
    if String.ofList (cs.map Char.toLower) = localName then .ok ()
    else if isHostName cs then .error .unresolved
    else .error .unknownHost

/-- A host in brackets is given by eight groups. -/
def checkBracketed (cs : List Char) : Except BindProblem Unit :=
  match cs.getLast?, Url.eightGroups? cs.dropLast with
  | some ']', some gs => checkGroups gs
  | _, _ => .error .unknownHost

/-- Whether one can listen at an address. -/
def bind (address : String) : Except BindProblem Unit :=
  match cutPort? address.toList with
  | none => .error .address
  | some (host, number) =>
    if !isPortNumber number then .error .number
    else match host with
      | '[' :: rest => checkBracketed rest
      | host => checkHost host

end FuturesDesk.Service
