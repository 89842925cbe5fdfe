import FuturesDesk.Digest.Hmac

/-!
# Random ids

A random id is sixteen bytes in lower-case hexadecimal digits, of which six bits
say how it was made.
-/

namespace FuturesDesk.Uuid

/-- The bytes of an id, marked as random ones: version four, and the variant. -/
def marked (bs : List UInt8) : List UInt8 :=
  (bs.modify 6 fun b => b &&& 0x0f ||| 0x40).modify 8 fun b => b &&& 0x3f ||| 0x80

/-- How many bytes stand between the hyphens. -/
def groupSizes : List Nat := [4, 2, 2, 2, 6]

/-- Lists of the sizes given, cut off one after the other. -/
def cut {α : Type} : List Nat → List α → List (List α)
  | [], _ => []
  | n :: ns, as => as.take n :: cut ns (as.drop n)

/-- The id made of random bytes. -/
def ofBytes (bs : List UInt8) : String :=
  String.intercalate "-" ((cut groupSizes (marked bs)).map fun g => String.ofList (Hmac.hex g))

end FuturesDesk.Uuid
