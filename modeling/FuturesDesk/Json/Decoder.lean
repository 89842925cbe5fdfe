import FuturesDesk.Json.Scan

/-!
# Typed reading

A decoder takes a value of the tree to a typed value or to the first problem
in text order.
-/

namespace FuturesDesk.Json

inductive Problem where
  | missingField (name : String)
  | duplicateField (name : String)
  | unknownVariant (name : String) (variants : List String)
  | invalidLength (found : Nat) (type : String) (fields : Nat)
  | invalidType
  | invalidValue
  /-- The text is no JSON, or no value of the type can stand there. -/
  | malformed
deriving DecidableEq

namespace Problem

def quoted (s : String) : String := "`" ++ s ++ "`"

/-- The variants to choose from: two are joined by `or`, more are listed. -/
def choices : List String → String
  | [a, b] => "expected " ++ quoted a ++ " or " ++ quoted b
  | vs => "expected one of " ++ String.intercalate ", " (vs.map quoted)

def message : Problem → String
  | missingField f => "missing field " ++ quoted f
  | duplicateField f => "duplicate field " ++ quoted f
  | unknownVariant v vs => "unknown variant " ++ quoted v ++ ", " ++ choices vs
  | invalidLength n type m =>
    "invalid length " ++ toString n ++ ", expected struct " ++ type ++ " with " ++ toString m ++
      (if m = 1 then " element" else " elements")
  | invalidType => "invalid type"
  | invalidValue => "invalid value"
  | malformed => "syntax"

end Problem

/-- A typed reader of one value. -/
abbrev Decoder (α : Type) := Json → Except Problem α

/-- The problem with a value of an unwanted kind. The value itself comes
first: a scalar that cannot be read is malformed. -/
def mismatch : Json → Problem
  | .broken | .string none => .malformed
  | .number n => if n.value?.isSome then .invalidType else .malformed
  | _ => .invalidType

namespace Decoder

def text : Decoder String
  | .string (some s) => .ok s
  | j => .error j.mismatch

def bool : Decoder Bool
  | .bool b => .ok b
  | j => .error j.mismatch

def float : Decoder Float
  | .number n =>
    match n.value? with
    | some v => .ok v.toFloat
    | none => .error .malformed
  | j => .error j.mismatch

/-- An integer literal between `lo` and `hi`. -/
def integer (lo hi : Int) : Decoder Int
  | .number n =>
    match n.value? with
    | some (.unsigned m) => if lo ≤ (m : Int) && (m : Int) ≤ hi then .ok m else .error .invalidValue
    | some (.negative i) => if lo ≤ i && i ≤ hi then .ok i else .error .invalidValue
    | some (.real _) => .error .invalidType
    | none => .error .malformed
  | j => .error j.mismatch

def int64 : Decoder Int64 := fun j => (integer (-(pow2 63 : Nat)) (pow2 63 - 1 : Nat) j).map Int64.ofInt

def uint64 : Decoder UInt64 := fun j => (integer 0 (pow2 64 - 1 : Nat) j).map fun i => UInt64.ofNat i.toNat

def uint32 : Decoder UInt32 := fun j => (integer 0 (pow2 32 - 1 : Nat) j).map fun i => UInt32.ofNat i.toNat

/-- `null` or a value. -/
def nullable {α} (d : Decoder α) : Decoder (Option α)
  | .null => .ok none
  | j => (d j).map some

/-- The elements of an array in order. -/
def elements {α} (d : Decoder α) : List Json → Except Problem (List α)
  | [] => .ok []
  | j :: js => do
    let a ← d j
    let as ← elements d js
    return a :: as

def list {α} (d : Decoder α) : Decoder (List α)
  | .array js closed => do
    let as ← elements d js
    if closed then .ok as else .error .malformed
  | j => .error j.mismatch

/-- Looks up the name of a variant. -/
def variantOf {α} (variants : List (String × α)) (name : String) : Except Problem α :=
  match variants.lookup name with
  | some a => .ok a
  | none => .error (.unknownVariant name (variants.map (·.1)))

/-- A variant: its name, or an object with its name and `null`. -/
def variant {α} (variants : List (String × α)) : Decoder α
  | .string (some name) => variantOf variants name
  | .object ((.name name, value) :: rest) closed => do
    let a ← variantOf variants name
    match value with
    | .null => if rest.isEmpty && closed then .ok a else .error .malformed
    | j => .error j.mismatch
  | _ => .error .malformed

/-- Reads a whole text: the value, and behind it nothing but blanks. -/
def run {α} (d : Decoder α) (text : String) : Except Problem α := do
  let doc := scan text.toList
  let a ← d doc.root
  if doc.clean then .ok a else .error .malformed

end Decoder

end FuturesDesk.Json
