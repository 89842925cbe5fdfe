import FuturesDesk.Digest.Sha256

/-!
# HMAC-SHA-256

A keyed digest, written in hexadecimal digits.
-/

namespace FuturesDesk.Hmac

def blockSize : Nat := 64

/-- A key of one block: a longer one is digested first, a shorter one filled
with zeros. -/
def blockKey (key : List UInt8) : List UInt8 :=
  let key := if blockSize < key.length then Sha256.digest key else key
  key ++ List.replicate (blockSize - key.length) 0

def digest (key message : List UInt8) : List UInt8 :=
  let k := blockKey key
  Sha256.digest (k.map (· ^^^ 0x5c) ++ Sha256.digest (k.map (· ^^^ 0x36) ++ message))

def hexDigit (n : Nat) : Char := Char.ofNat (if n < 10 then '0'.toNat + n else 'a'.toNat + n - 10)

def hex (bs : List UInt8) : List Char := bs.flatMap fun b => [hexDigit (b.toNat / 16), hexDigit (b.toNat % 16)]

def utf8 (cs : List Char) : List UInt8 := cs.flatMap String.utf8EncodeChar

/-- The keyed digest of a text, in lower-case hexadecimal digits. -/
def sign (secret : String) (message : List Char) : List Char := hex (digest (utf8 secret.toList) (utf8 message))

end FuturesDesk.Hmac
