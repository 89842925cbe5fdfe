import FuturesDesk.Number.Reading

/-!
# Log filters

Which lines are logged: levels for the parts of the program named in a list,
and for all others. The most specific entry that fits a line decides.
-/

namespace FuturesDesk.Service

inductive Level where
  | off | error | warn | info | debug | trace
deriving DecidableEq, Repr

namespace Level

def all : List Level := [.off, .error, .warn, .info, .debug, .trace]

def name : Level → String
  | .off => "off"
  | .error => "error"
  | .warn => "warn"
  | .info => "info"
  | .debug => "debug"
  | .trace => "trace"

def rank : Level → Nat
  | .off => 0
  | .error => 1
  | .warn => 2
  | .info => 3
  | .debug => 4
  | .trace => 5

theorem getElem?_rank (l : Level) : all[l.rank]? = some l := by
  cases l <;> rfl

def ofNumber? (cs : List Char) : Option Level :=
  match takeSign cs, spanDigits (takeSign cs).2 with
  | (true, _), _ | _, ([], _) | _, (_, _ :: _) => none
  | _, (ds, []) => all[Digit.value ds]?

/-- The level a text stands for: a name in any case, or a number. -/
def ofText? (cs : List Char) : Option Level :=
  (all.find? fun l => l.name = String.ofList (cs.map Char.toLower)).or (ofNumber? cs)

end Level

/-- A level for the lines of the parts whose name begins with `target`, or of
all parts, as far as they have the fields. -/
structure Directive where
  target : Option String
  fields : List String
  level : Level

namespace Directive

/-- What stands behind the equals sign; nothing means everything. -/
def levelOf? (cs : List Char) : Option Level := if cs.isEmpty then some .trace else Level.ofText? cs

/-- A field in brackets and braces, and what follows. Spans and values of
fields are of no use for lines on their own. -/
def field? : List Char → Option (String × List Char)
  | '[' :: '\x7b' :: cs =>
    let name := cs.takeWhile (· ≠ '\x7d')
    match cs.dropWhile (· ≠ '\x7d') with
    | _ :: ']' :: rest => if name.isEmpty || name.contains '=' then none else some (String.ofList name, rest)
    | _ => none
  | _ => none

/-- The characters a name may begin with. -/
def mayBegin (c : Char) : Bool := c.isAlphanum || c = '-' || c = ':' || c = '_' || 0x80 ≤ c.toNat

/-- A level, a name, or both with an equals sign between them; a field may
stand behind the name or instead of it. -/
def ofText? (s : String) : Option Directive :=
  let name := s.toList.takeWhile fun c => c ≠ '=' && c ≠ '['
  match name.head?.map mayBegin, s.toList.drop name.length with
  | some false, _ => none
  | none, cs => withField none cs
  | some true, [] =>
    match Level.ofText? name with
    | some level => some ⟨none, [], level⟩
    | none => some ⟨some s, [], .trace⟩
  | some true, '=' :: cs => (levelOf? cs).map fun level => ⟨some (String.ofList name), [], level⟩
  | some true, cs => withField (some (String.ofList name)) cs
where
  withField (target : Option String) (cs : List Char) : Option Directive :=
    match field? cs with
    | some (field, []) => some ⟨target, [field], .trace⟩
    | some (field, '=' :: cs) => (levelOf? cs).map fun level => ⟨target, [field], level⟩
    | _ => none

/-- The only field of a line with nothing but its text. -/
def lineFields : List String := ["message"]

/-- Whether a directive is about the plain lines of a part. -/
def fits (name : String) (d : Directive) : Bool :=
  d.target.all (fun t => t.toList.isPrefixOf name.toList) && d.fields.all lineFields.contains

/-- Longer names come first, and of equals those with fields. -/
def isLessSpecific (d e : Directive) : Bool :=
  let n := (d.target.map String.length).getD 0
  let m := (e.target.map String.length).getD 0
  n < m || (n = m && d.fields.length < e.fields.length)

end Directive

/-- The directives of a list with commas; errors alone are logged where it has
none. -/
def directives (s : String) : List Directive :=
  let parts := (s.splitOn ",").filter (!·.isEmpty)
  match parts.filterMap Directive.ofText? with
  | [] => [⟨none, [], .error⟩]
  | ds => ds

/-- The most specific directive that fits; of equals the last. -/
def decisive? (name : String) (ds : List Directive) : Option Directive :=
  (ds.filter (Directive.fits name)).foldl (fun best d =>
    match best with
    | none => some d
    | some b => if d.isLessSpecific b then some b else some d) none

/-- Whether a filter lets lines of a level through. -/
def lets (filter name : String) (level : Level) : Bool :=
  (decisive? name (directives filter)).any fun d => level.rank ≤ d.level.rank

end FuturesDesk.Service
