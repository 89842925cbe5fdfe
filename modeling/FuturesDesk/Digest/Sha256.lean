import FuturesDesk.Number.Power

/-!
# SHA-256
-/

namespace FuturesDesk.Sha256

abbrev Word := UInt32

def constants : List Word :=
  [0x428a2f98, 0x71374491, 0xb5c0fbcf, 0xe9b5dba5, 0x3956c25b, 0x59f111f1, 0x923f82a4, 0xab1c5ed5,
   0xd807aa98, 0x12835b01, 0x243185be, 0x550c7dc3, 0x72be5d74, 0x80deb1fe, 0x9bdc06a7, 0xc19bf174,
   0xe49b69c1, 0xefbe4786, 0x0fc19dc6, 0x240ca1cc, 0x2de92c6f, 0x4a7484aa, 0x5cb0a9dc, 0x76f988da,
   0x983e5152, 0xa831c66d, 0xb00327c8, 0xbf597fc7, 0xc6e00bf3, 0xd5a79147, 0x06ca6351, 0x14292967,
   0x27b70a85, 0x2e1b2138, 0x4d2c6dfc, 0x53380d13, 0x650a7354, 0x766a0abb, 0x81c2c92e, 0x92722c85,
   0xa2bfe8a1, 0xa81a664b, 0xc24b8b70, 0xc76c51a3, 0xd192e819, 0xd6990624, 0xf40e3585, 0x106aa070,
   0x19a4c116, 0x1e376c08, 0x2748774c, 0x34b0bcb5, 0x391c0cb3, 0x4ed8aa4a, 0x5b9cca4f, 0x682e6ff3,
   0x748f82ee, 0x78a5636f, 0x84c87814, 0x8cc70208, 0x90befffa, 0xa4506ceb, 0xbef9a3f7, 0xc67178f2]

/-- The eight words of a hash value. -/
structure State where
  a : Word
  b : Word
  c : Word
  d : Word
  e : Word
  f : Word
  g : Word
  h : Word

def State.initial : State :=
  ⟨0x6a09e667, 0xbb67ae85, 0x3c6ef372, 0xa54ff53a, 0x510e527f, 0x9b05688c, 0x1f83d9ab, 0x5be0cd19⟩

def State.add (x y : State) : State :=
  ⟨x.a + y.a, x.b + y.b, x.c + y.c, x.d + y.d, x.e + y.e, x.f + y.f, x.g + y.g, x.h + y.h⟩

def State.words (s : State) : List Word := [s.a, s.b, s.c, s.d, s.e, s.f, s.g, s.h]

def rotr (x : Word) (n : Word) : Word := (x >>> n) ||| (x <<< (32 - n))

/-- The next word of the schedule from the sixteen before it, oldest first. -/
def nextWord (w : List Word) : Word :=
  let w0 := w.getD 0 0
  let w1 := w.getD 1 0
  let w9 := w.getD 9 0
  let w14 := w.getD 14 0
  let s0 := rotr w1 7 ^^^ rotr w1 18 ^^^ (w1 >>> 3)
  let s1 := rotr w14 17 ^^^ rotr w14 19 ^^^ (w14 >>> 10)
  w0 + s0 + w9 + s1

def round (s : State) (k w : Word) : State :=
  let s1 := rotr s.e 6 ^^^ rotr s.e 11 ^^^ rotr s.e 25
  let ch := (s.e &&& s.f) ^^^ (~~~s.e &&& s.g)
  let t1 := s.h + s1 + ch + k + w
  let s0 := rotr s.a 2 ^^^ rotr s.a 13 ^^^ rotr s.a 22
  let maj := (s.a &&& s.b) ^^^ (s.a &&& s.c) ^^^ (s.b &&& s.c)
  ⟨t1 + (s0 + maj), s.a, s.b, s.c, s.d + t1, s.e, s.f, s.g⟩

/-- Rounds over the constants left, the schedule growing a word in each. -/
def rounds (s : State) (w : List Word) : List Word → State
  | [] => s
  | k :: ks => rounds (round s k (w.headD 0)) (w.tail ++ [nextWord w]) ks

def word (b0 b1 b2 b3 : UInt8) : Word :=
  (b0.toUInt32 <<< 24) ||| (b1.toUInt32 <<< 16) ||| (b2.toUInt32 <<< 8) ||| b3.toUInt32

/-- Bytes read as words, the most significant byte first. -/
def wordsOf : List UInt8 → List Word
  | b0 :: b1 :: b2 :: b3 :: bs => word b0 b1 b2 b3 :: wordsOf bs
  | _ => []

def compress (s : State) (block : List Word) : State := s.add (rounds s block constants)

def blocks : Nat → State → List Word → State
  | 0, s, _ => s
  | n + 1, s, ws => blocks n (compress s (ws.take 16)) (ws.drop 16)

/-- The `n` low bytes of a number, the most significant first. -/
def bytesOf (n : Nat) (x : Nat) : List UInt8 :=
  (List.range n).map fun i => UInt8.ofNat (x / pow2 (8 * (n - 1 - i)))

/-- The message, a one bit, zeros, and the length in bits. -/
def pad (m : List UInt8) : List UInt8 :=
  let zeros := (55 + 64 - m.length % 64) % 64
  m ++ [0x80] ++ List.replicate zeros 0 ++ bytesOf 8 (8 * m.length)

def digest (m : List UInt8) : List UInt8 :=
  let ws := wordsOf (pad m)
  (blocks (ws.length / 16) State.initial ws).words.flatMap fun w => bytesOf 4 w.toNat

end FuturesDesk.Sha256
