import FuturesDesk.Json.Decoder

/-!
# Typed records

A record is read from an object, its members in any order, or from an array of
its fields in order. A record is declared by its fields; reading first surveys
the text in order and then builds the value.
-/

namespace FuturesDesk.Json

/-- What happens where a field is missing. -/
inductive Presence where
  | required
  /-- Objects may leave it out, arrays may not. -/
  | nullable
  | defaulted
deriving DecidableEq

/-- A field as the survey sees it: whether a value can be read for it. -/
structure Field where
  name : String
  presence : Presence
  check : Json → Except Problem Unit

/-- The declared fields of a record, and the record built from their values. -/
structure Record (α : Type) where
  fields : List Field
  build : (String → Option Json) → Except Problem α

namespace Record

variable {α β : Type}

instance : Functor Record where
  map f r := ⟨r.fields, fun get => (r.build get).map f⟩

instance : Seq Record where
  seq f x := ⟨f.fields ++ (x ()).fields, fun get => do
    let g ← f.build get
    let a ← (x ()).build get
    return g a⟩

/-- A field given by what stands for it when missing. -/
def field (name : String) (presence : Presence) (d : Decoder α) (absent : Except Problem α) : Record α :=
  ⟨[⟨name, presence, fun j => (d j).map fun _ => ()⟩], fun get =>
    match get name with
    | some j => d j
    | none => absent⟩

def required (name : String) (d : Decoder α) : Record α :=
  field name .required d (.error (.missingField name))

def defaulted (name : String) (d : Decoder α) (a : α) : Record α := field name .defaulted d (.ok a)

def nullable (name : String) (d : Decoder α) : Record (Option α) :=
  field name .nullable d.nullable (.ok none)

/-! ## Objects -/

/-- Members in text order: each known name once and with a readable value,
each unknown one with any value. Yields the names seen. -/
def survey (fields : List Field) : List (Key × Json) → List String → Except Problem (List String)
  | [], seen => .ok seen
  | (.name name, j) :: ms, seen =>
    match fields.find? (·.name == name) with
    | some f =>
      if seen.contains name then .error (.duplicateField name)
      else do
        f.check j
        survey fields ms (name :: seen)
    | none => if j.isComplete then survey fields ms seen else .error .malformed
  | _ :: _, _ => .error .malformed

/-- The first field in declaration order that may not be missing and is. -/
def missing (fields : List Field) (seen : List String) : Except Problem Unit :=
  match fields.find? fun f => f.presence == .required && !seen.contains f.name with
  | some f => .error (.missingField f.name)
  | none => .ok ()

/-- The value of the first member of that name. -/
def lookup (ms : List (Key × Json)) (name : String) : Option Json := ms.lookup (.name name)

/-! ## Arrays -/

/-- Elements beside fields in order; `i` counts the fields passed. -/
def align (type : String) (total : Nat) : List Field → List Json → Bool → Nat → Except Problem Unit
  | [], [], closed, _ => if closed then .ok () else .error .malformed
  | [], _ :: _, _, _ => .error .malformed
  | f :: fs, [], closed, i =>
    if !closed then .error .malformed
    else if f.presence == .defaulted then align type total fs [] closed (i + 1)
    else .error (.invalidLength i type total)
  | f :: fs, j :: js, closed, i => do
    f.check j
    align type total fs js closed (i + 1)

/-- Reads a record; `type` is its name in messages. -/
def decoder (r : Record α) (type : String) : Decoder α
  | .object ms closed => do
    let seen ← survey r.fields ms []
    if !closed then .error .malformed
    else
      missing r.fields seen
      r.build (lookup ms)
  | .array js closed => do
    align type r.fields.length r.fields js closed 0
    r.build fun name => ((r.fields.map (·.name)).zip js).lookup name
  | j => .error j.mismatch

end Record

end FuturesDesk.Json
