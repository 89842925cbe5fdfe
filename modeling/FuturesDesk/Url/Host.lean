import FuturesDesk.Url.Address
import FuturesDesk.Url.Domain

/-!
# Hosts of addresses

The host an address names, in the form it is looked up by. Addresses of the
well-known schemes always have one, files may, and others have it behind two
slashes.
-/

namespace FuturesDesk.Url

inductive Scheme where
  /-- A well-known scheme of the network. -/
  | network
  | file
  | other
deriving DecidableEq

def networkSchemes : List String := ["http", "https", "ws", "wss", "ftp"]

def Scheme.ofName (s : String) : Scheme :=
  if networkSchemes.contains s then .network else if s = "file" then .file else .other

def isSchemeChar (c : Char) : Bool := c.isAlphanum || c = '+' || c = '-' || c = '.'

/-- An address without blanks and controls at its ends, and without tabs and
line ends. -/
def clean (s : String) : List Char :=
  let trim (cs : List Char) : List Char := cs.dropWhile (·.toNat ≤ 0x20)
  (trim (trim s.toList).reverse).reverse.filter fun c => c ≠ '\t' && c ≠ '\n' && c ≠ '\r'

/-- The scheme of an address and what follows its colon. -/
def scheme? (cs : List Char) : Option (Scheme × List Char) :=
  let name := cs.takeWhile isSchemeChar
  match name, cs.dropWhile isSchemeChar with
  | c :: _, ':' :: rest => if c.isAlpha then some (.ofName (String.ofList (name.map Char.toLower)), rest) else none
  | _, _ => none

/-- Slashes; backslashes count too outside of unknown schemes. -/
def isSlash (s : Scheme) (c : Char) : Bool := c = '/' || (c = '\\' && s ≠ .other)

/-- Whether a character ends the part with the host. -/
def endsAuthority (s : Scheme) (c : Char) : Bool := isSlash s c || c = '?' || c = '#'

/-- What stands behind the last at sign, and whether there is one. -/
def afterUser (cs : List Char) : List Char × Bool :=
  ((cs.reverse.takeWhile (· ≠ '@')).reverse, cs.contains '@')

/-- The host in front of the number of a socket: up to the first colon outside
of brackets. -/
def beforePort : Bool → List Char → List Char × Option (List Char)
  | _, [] => ([], none)
  | bracketed, c :: cs =>
    if c = ':' && !bracketed then ([], some cs)
    else
      let bracketed := if c = '[' then true else if c = ']' then false else bracketed
      let (host, number) := beforePort bracketed cs
      (c :: host, number)

/-- What may stand behind the colon: a number of 16 bits or nothing, and a
backslash may end it. -/
def isPort (cs : List Char) : Bool :=
  (valueIn? 10 (cs.takeWhile Char.isDigit)).any (· < pow2 16) && (cs.dropWhile Char.isDigit).head?.all (· = '\\')

/-- The host between brackets. -/
def bracketed? (cs : List Char) : Option String :=
  match cs.reverse with
  | ']' :: rest => (eightGroups? rest.reverse).map fun gs => "[" ++ groupsText gs ++ "]"
  | _ => none

def knownHost? (cs : List Char) : Option String :=
  match cs with
  | '[' :: rest => bracketed? rest
  | cs => do
    let domain ← domain? cs
    if endsInNumber domain then (fourBytes? domain).map dotted else some (String.ofList domain)

/-- The host of an unknown scheme, with controls and what is beyond ASCII
escaped. -/
def opaqueHost? (cs : List Char) : Option String :=
  match cs with
  | '[' :: rest => bracketed? rest
  | cs =>
    if cs.any fun c => c.toNat = 0 || hostMarks.contains c then none
    else some (String.ofList (cs.flatMap fun c =>
      if 0x20 ≤ c.toNat && c.toNat < 0x7F then [c] else Percent.escapeChar c))

/-- The host in the part of an address behind the slashes. -/
def authorityHost? (s : Scheme) (cs : List Char) : Option String :=
  let (rest, user) := afterUser (cs.takeWhile (!endsAuthority s ·))
  let (host, number) := beforePort false rest
  if (host.isEmpty && (s = .network || user || number.isSome)) || !number.all isPort then none
  else if s = .network then knownHost? host else opaqueHost? host

/-- A letter and a colon or a bar. -/
def isDrive : List Char → Bool
  | [c, m] => c.isAlpha && (m = ':' || m = '|')
  | _ => false

/-- A segment that stands for the folder itself. -/
def isHere (seg : List Char) : Bool := seg = ['.'] || seg.map Char.toLower = "%2e".toList

/-- A segment that stands for the folder above. -/
def isAbove (seg : List Char) : Bool :=
  ["..", ".%2e", "%2e.", "%2e%2e"].any fun s => seg.map Char.toLower = s.toList

/-- Whether a path comes to a drive at its top; `above` holds the folders on
the way, the last one first. No way leads up from a drive. -/
def reachesDrive (above : List (List Char)) : List (List Char) → Bool
  | [] => false
  | seg :: path =>
    if isAbove seg then reachesDrive (if above.head?.any isDrive then above else above.tail) path
    else if isHere seg then reachesDrive above path
    else
      match above, seg with
      | [], [_, _] => isDrive seg || reachesDrive [seg] path
      | [], c :: ':' :: _ => !c.isAlpha && reachesDrive [seg] path
      | _, _ => reachesDrive (seg :: above) path

def segments (cs : List Char) : List (List Char) :=
  let path := cs.takeWhile fun c => c ≠ '?' && c ≠ '#'
  Query.split '/' ((path.drop 1).map fun c => if c = '\\' then '/' else c)

/-- The host of a file behind two slashes: none for this machine or a drive. -/
def fileHost? (cs : List Char) : Option String :=
  let host := cs.takeWhile (!endsAuthority .file ·)
  if host.isEmpty || isDrive host then some ""
  else (knownHost? host).map fun h =>
    if h = "localhost" || reachesDrive [] (segments (cs.drop host.length)) then "" else h

/-- The host of an address; empty without one, or if it is no address. -/
def hostOf (s : String) : String :=
  match scheme? (clean s) with
  | none => ""
  | some (.network, rest) => (authorityHost? .network (rest.dropWhile (isSlash .network))).getD ""
  | some (.file, a :: b :: rest) => if isSlash .file a && isSlash .file b then (fileHost? rest).getD "" else ""
  | some (.other, '/' :: '/' :: rest) => (authorityHost? .other rest).getD ""
  | some _ => ""

end FuturesDesk.Url
